/-!
# Plain text

Control sequences tell a terminal how to show text.  Plain text has none of them,
and of the control characters only those that are white space.
-/

namespace SyntaxTree
namespace Text

/-- What kind of control sequence is being read, if any. -/
inductive Sequence where
  | none
  /-- An escape has been read. -/
  | escape
  /-- Marks of a short sequence have been read. -/
  | short
  /-- A sequence with parameters. -/
  | parameters
  /-- A text for the terminal that a bell ends. -/
  | title
  /-- The start of a text for a device. -/
  | device
  /-- The parameters in front of a text for a device. -/
  | deviceParameters
  /-- The marks in front of a text for a device. -/
  | deviceMarks
  /-- A text that a string terminator ends. -/
  | message
deriving DecidableEq, Repr

namespace Sequence

/-- Whether a control character is kept in plain text. -/
def isKeptControl (character : Char) : Bool :=
  ['\t', '\n', '\x0c', '\r'].contains character

/-- Whether white space is a part of the sequence, rather than its end. -/
def holdsBlanks : Sequence → Bool
  | .none | .escape | .short | .parameters => false
  | .title | .device | .deviceParameters | .deviceMarks | .message => true

/-- What is being read after a printable character of ASCII.  The marks are below
the digit zero, and the letters start at the at sign. -/
def continued (sequence : Sequence) (character : Char) : Sequence :=
  let isMark := character < '0'
  let isLetter := '@' ≤ character
  match sequence with
  | .none => .none
  | .escape =>
    match character with
    | '[' => .parameters
    | ']' => .title
    | 'P' => .device
    | 'X' | '^' | '_' => .message
    | _ => if isMark then .short else .none
  | .short => if isMark then .short else .none
  | .parameters => if isLetter then .none else .parameters
  | .title => .title
  | .device =>
    if isMark then .deviceMarks else if isLetter then .message else .deviceParameters
  | .deviceParameters =>
    if isMark then .deviceMarks else if '<' ≤ character then .message else .deviceParameters
  | .deviceMarks => if isMark then .deviceMarks else .message
  | .message => .message

/-- The octet that ends a message. -/
def stringTerminator : UInt8 := 0x9c

/-- What is being read after a character beyond ASCII.  Sequences skip such
characters, but one of their octets can end a message. -/
def skipped (sequence : Sequence) (character : Char) : Sequence :=
  if sequence = .message && (String.utf8EncodeChar character).contains stringTerminator then
    .none
  else
    sequence

/-- Reads a character and returns whether it is kept. -/
def step (sequence : Sequence) (character : Char) : Sequence × Bool :=
  if character = '\x1b' then
    (.escape, false)
  else if character = '\x18' || character = '\x1a' then
    (.none, false)
  else if isKeptControl character then
    if sequence.holdsBlanks then (sequence, false) else (.none, true)
  else if character = '\x07' && sequence = .title then
    (.none, false)
  else if character < ' ' || character = '\x7f' then
    (sequence, false)
  else if character < '\x7f' then
    (sequence.continued character, sequence = .none)
  else
    (sequence.skipped character, sequence = .none)

/-- The characters that are kept when a sequence of some kind is being read. -/
def strip (sequence : Sequence) : List Char → List Char
  | [] => []
  | character :: rest =>
    let (next, isKept) := sequence.step character
    if isKept then character :: next.strip rest else next.strip rest

end Sequence

/-- The text without control sequences. -/
def plain (text : String) : String :=
  String.ofList (Sequence.none.strip text.toList)

end Text
end SyntaxTree
