import SyntaxTree.Text.Count
import SyntaxTree.Text.Separated
import SyntaxTree.Viewer.Key

/-!
# Keyboards

A terminal sends some keys as one character and others as a sequence of
characters that starts with an escape.  Characters are collected until they
amount to a key or to nothing.  Held modifiers change nothing, except that Shift
may bring a character of its own.
-/

namespace SyntaxTree

open Text

/-- The characters that a terminal sends for a key.  Function keys do nothing, so
the sequence of the first one stands for all. -/
def Key.sent : Key → List Char
  | .character value => [value]
  | .up => ['\x1b', '[', 'A']
  | .down => ['\x1b', '[', 'B']
  | .right => ['\x1b', '[', 'C']
  | .left => ['\x1b', '[', 'D']
  | .home => ['\x1b', '[', 'H']
  | .ending => ['\x1b', '[', 'F']
  | .pageUp => ['\x1b', '[', '5', '~']
  | .pageDown => ['\x1b', '[', '6', '~']
  | .enter => ['\r']
  | .escape => ['\x1b']
  | .tab => ['\t']
  | .backspace => ['\x7f']
  | .function _ => ['\x1b', 'O', 'P']

namespace Keyboard

/-- What collected characters amount to. -/
inductive Reading where
  /-- More characters have to follow. -/
  | unfinished
  /-- They are no key that is known. -/
  | nothing
  | pressed (key : Key)
deriving DecidableEq, Repr

/-- A finished sequence for a key, if that is known. -/
def Reading.ofKey? : Option Key → Reading
  | some key => .pressed key
  | none => .nothing

/-- The key that sends a character outside of sequences.  A control character
is typed by holding a key down together with Ctrl. -/
def single (sent : Char) : Key :=
  let code := sent.toNat
  if sent = '\r' then .enter
  else if sent = '\t' then .tab
  else if sent = '\x7f' then .backspace
  else if code = 0 then .character ' '
  else if code < 0x1b then .character (Char.ofNat ('a'.toNat + (code - 1)))
  else if code < 0x20 then .character (Char.ofNat ('4'.toNat + (code - 0x1c)))
  else .character sent

/-- The key of the letter that ends a sequence. -/
def lettered? : Char → Option Key
  | 'A' => some .up
  | 'B' => some .down
  | 'C' => some .right
  | 'D' => some .left
  | 'H' => some .home
  | 'F' => some .ending
  | _ => none

/-- The key of the number in a sequence that ends with a tilde. -/
def numbered? : Nat → Option Key
  | 1 | 7 => some .home
  | 4 | 8 => some .ending
  | 5 => some .pageUp
  | 6 => some .pageDown
  | _ => none

/-- The key of a code in a sequence that ends with the letter u: a key of the
number pad or else the character with this code. -/
def coded? : Nat → Option Key
  | 0x09 => some .tab
  | 0x0d => some .enter
  | 0x1b => some .escape
  | 0x7f => some .backspace
  | 57414 => some .enter
  | 57417 => some .left
  | 57418 => some .right
  | 57419 => some .up
  | 57420 => some .down
  | 57421 => some .pageUp
  | 57422 => some .pageDown
  | 57423 => some .home
  | 57424 => some .ending
  | code => if code.isValidChar then some (.character (Char.ofNat code)) else none

/-- Codes of the two Shift keys themselves. -/
def shiftCodes : List Nat := [57441, 57447]

/-- How a key was touched. -/
structure Touch where
  /-- Whether Shift was held. -/
  shift : Bool := false
  /-- Whether the key went down, rather than being held or released. -/
  isPress : Bool := true
deriving DecidableEq, Repr

/-- Reads a touch: a number with a bit for each modifier plus one, and behind a
colon the kind of touch. -/
def Touch.read? (parameter : List Char) : Option Touch :=
  let fields := cutAt ':' parameter
  match fields.head?.bind (count? 255) with
  | some mask =>
    let kind := fields[1]?.bind (count? 255)
    some ⟨(mask - 1) % 2 = 1, kind ≠ some 2 && kind ≠ some 3⟩
  | none => none

/-- Greatest code that is read. -/
def greatestCode : Nat := 0xffffffff

/-- The key of a parameter that lists its code and, behind a colon, the code of
the character that it has with Shift. -/
def codes? (shift : Bool) (parameter : List Char) : Option Key :=
  let codes := (cutAt ':' parameter).map (count? greatestCode)
  match codes.head?.join with
  | some code =>
    let shifted := codes[1]?.join.filter Nat.isValidChar
    match shifted, shift || shiftCodes.contains code with
    | some shifted, true => some (.character (Char.ofNat shifted))
    | _, _ => coded? code
  | none => none

/-- Reads a sequence with parameters, which semicolons separate, and the
character that ends it.  The second parameter is a touch. -/
def parameterized (parameters : List Char) (last : Char) : Reading :=
  let fields := cutAt ';' parameters
  let first := fields.headD []
  let touch := fields[1]?.bind Touch.read?
  let key := match last with
    | 'M' | 'R' => none
    | '~' => (count? 255 first).bind numbered?
    | 'u' => codes? (touch.any Touch.shift) first
    | letter =>
      if touch.isSome || parameters.getLast?.any Char.isDigit then lettered? letter else none
  if touch.all Touch.isPress then .ofKey? key else .nothing

/-- Whether a character ends a sequence with parameters. -/
def isFinal (sent : Char) : Bool :=
  0x40 ≤ sent.toNat && sent.toNat ≤ 0x7e

/-- What stands in front of pasted text, behind an escape and a bracket. -/
def pasteStart : List Char := ['2', '0', '0', '~']

/-- What stands behind pasted text. -/
def pasteEnd : List Char := ['\x1b', '[', '2', '0', '1', '~']

/-- Reads a sequence that starts with a number, or pasted text. -/
def numeric (body : List Char) : Reading :=
  match body.getLast? with
  | none => .unfinished
  | some last =>
    if !isFinal last then
      .unfinished
    else if pasteStart.isPrefixOf body then
      if pasteEnd.isSuffixOf body then .nothing else .unfinished
    else
      parameterized body.dropLast last

/-- Reads what follows an escape and a bracket.  Reports of the mouse and of the
terminal itself are no keys. -/
def control (body : List Char) : Reading :=
  let last := body.getLast?
  match body with
  | [] => .unfinished
  | '[' :: rest => if rest.isEmpty then .unfinished else .nothing
  | 'M' :: rest => if octetCount rest < 3 then .unfinished else .nothing
  | '<' :: _ => if last = some 'm' ∨ last = some 'M' then .nothing else .unfinished
  | '?' :: rest =>
    if last = some 'c' ∨ last = some 'u' ∧ 2 ≤ rest.length then .nothing else .unfinished
  | first :: _ => if first.isDigit then numeric body else .ofKey? (lettered? first)

/-- Reads what follows an escape, if something does.  In front of other
characters an escape is Alt held down. -/
def afterEscape : List Char → Reading
  | [] => .unfinished
  | ['O'] => .unfinished
  | 'O' :: letter :: _ => .ofKey? (lettered? letter)
  | '[' :: body => control body
  | '\x1b' :: _ => .pressed .escape
  | sent :: _ => .pressed (single sent)

/-- Reads collected characters.  An escape that nothing follows is a key. -/
def read (isLast : Bool) : List Char → Reading
  | [] => .unfinished
  | ['\x1b'] => if isLast then .pressed .escape else .unfinished
  | '\x1b' :: rest => afterEscape rest
  | sent :: _ => .pressed (single sent)

/-- The keys that are read from characters sent without a pause, behind those
collected already. -/
def keysBehind (collected : List Char) : List Char → List Key
  | [] => []
  | sent :: rest =>
    let collected := collected ++ [sent]
    match read rest.isEmpty collected with
    | .unfinished => keysBehind collected rest
    | .nothing => keysBehind [] rest
    | .pressed key => key :: keysBehind [] rest

/-- The keys that are read when keys have been typed without a pause. -/
def keys (typed : List Key) : List Key :=
  keysBehind [] (typed.flatMap Key.sent)

end Keyboard
end SyntaxTree
