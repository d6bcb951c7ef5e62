import SyntaxTree.Number.Numeral
import SyntaxTree.Pattern.Mode

/-!
# Elements of patterns

The smallest parts of a pattern are characters, classes of characters and
positions.  Classes that need a table of characters cannot be compiled, as
there are no such tables.
-/

namespace SyntaxTree
namespace Pattern

open Text

/-- A smallest part of a pattern. -/
inductive Element where
  /-- A character, and whether it was written as an octet. -/
  | character (value : Char) (isOctet : Bool)
  /-- Any character of a class. -/
  | someOf
  /-- The start or the end of a line or of the text. -/
  | position
  /-- The start or the end of a word, or neither. -/
  | wordBoundary
deriving DecidableEq, Repr

namespace Element

/-- Reads a number of hexadecimal digits, each after blanks. -/
def readHex (modes : Modes) (value : Nat) : Nat → List Char → Option (Nat × List Char)
  | 0, characters => some (value, characters)
  | missing + 1, characters =>
    match modes.skipBlanks characters with
    | [] => none
    | digit :: rest =>
      match Number.hexadecimalValue? digit with
      | some digitValue => readHex modes (value * 16 + digitValue) missing rest
      | none => none

/-- Reads a character given by a number of hexadecimal digits. -/
def readCode (modes : Modes) (digits : Nat) (characters : List Char) :
    Option (Element × List Char) :=
  match readHex modes 0 digits characters with
  | some (code, rest) =>
    if code.isValidChar then
      some (.character (Char.ofNat code) (digits = 2), rest)
    else
      none
  | none => none

/-- Characters that stand for themselves behind a backslash: those of ASCII that
are no letters, no digits and no angles. -/
def isPlain (mark : Char) : Bool :=
  mark.toNat < 0x80 && !mark.isAlphanum && mark != '<' && mark != '>'

/-- The element that a letter or an angle behind a backslash stands for. -/
def named? (modes : Modes) : Char → Option Element
  | 'a' => some (.character '\x07' false)
  | 'f' => some (.character '\x0c' false)
  | 't' => some (.character '\t' false)
  | 'n' => some (.character '\n' false)
  | 'r' => some (.character '\r' false)
  | 'v' => some (.character '\x0b' false)
  | 'A' => some .position
  | 'z' => some .position
  | 'b' => some .wordBoundary
  | 'B' => some .wordBoundary
  | '<' => some .wordBoundary
  | '>' => some .wordBoundary
  | 'd' => if modes.unicode then none else some .someOf
  | 's' => if modes.unicode then none else some .someOf
  | 'w' => if modes.unicode then none else some .someOf
  | _ => none

/-- Reads what follows a backslash.  The complements of classes hold octets that
belong to no character, so they cannot be compiled either. -/
def readEscape (modes : Modes) : List Char → Option (Element × List Char)
  | [] => none
  | 'x' :: rest => readCode modes 2 rest
  | 'u' :: rest => readCode modes 4 rest
  | 'U' :: rest => readCode modes 8 rest
  | mark :: rest =>
    if isPlain mark then
      some (.character mark false, rest)
    else
      (named? modes mark).map (·, rest)

/-- Whether an element outside of brackets can be compiled.  Letters of both
cases need a table of characters, and an octet beyond ASCII is no character. -/
def isCompilable (modes : Modes) : Element → Bool
  | .character value isOctet =>
    if modes.unicode then !modes.ignoreCase else !isOctet || value.toNat < 0x80
  | _ => true

/-- Whether an element can be a member of a class in brackets. -/
def isMember (modes : Modes) : Element → Bool
  | .character value _ => if modes.unicode then !modes.ignoreCase else value.toNat < 0x80
  | .someOf => true
  | _ => false

end Element
end Pattern
end SyntaxTree
