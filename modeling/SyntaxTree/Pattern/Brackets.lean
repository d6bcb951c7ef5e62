import SyntaxTree.Pattern.Escape

/-!
# Classes in brackets

A class in brackets lists characters, ranges, named classes and classes in
brackets, and combines such lists by operators.
-/

namespace SyntaxTree
namespace Pattern

/-- A class whose closing bracket has not been read, with the nesting depth of
what has been. -/
structure OpenClass where
  /-- How many members the current list has. -/
  members : Nat := 0
  /-- Nesting depth of the deepest of these members. -/
  depth : Nat := 0
  /-- Nesting depth of what stands in front of the last operator. -/
  operand : Option Nat := none
deriving DecidableEq, Repr

namespace OpenClass

/-- Adds a member of some nesting depth. -/
def add (list : OpenClass) (depth : Nat) : OpenClass :=
  { list with members := list.members + 1, depth := max list.depth depth }

/-- Nesting depth of the list and the operand in front of it.  A list of one
member is that member. -/
def total (list : OpenClass) : Nat :=
  let depth := if list.members ≤ 1 then list.depth else list.depth + 1
  match list.operand with
  | none => depth
  | some operand => max operand depth + 1

/-- Starts the list behind an operator. -/
def operate (list : OpenClass) : OpenClass :=
  { operand := some list.total }

end OpenClass

namespace Brackets

/-- Names of the classes that can be named between colons. -/
def classNames : List String :=
  ["alnum", "alpha", "ascii", "blank", "cntrl", "digit", "graph", "lower", "print", "punct",
    "space", "upper", "word", "xdigit"]

/-- Reads a named class behind its opening bracket, and tells whether it is a
complement. -/
def readNamed? : List Char → Option (Bool × List Char)
  | ':' :: rest =>
    let isComplement := rest.head? = some '^'
    let rest := if isComplement then rest.drop 1 else rest
    let name := rest.takeWhile (· != ':')
    match rest.drop name.length with
    | ':' :: ']' :: rest =>
      if classNames.contains (String.ofList name) then some (isComplement, rest) else none
    | _ => none
  | _ => none

/-- Whether a named class can be a member of a class in brackets. -/
def namedIsMember (modes : Modes) (isComplement : Bool) : Bool :=
  if modes.unicode then !modes.ignoreCase else !isComplement

/-- Reads the dashes at the start of a class, which are members of it, and the
blanks between them.  The flag tells whether a comment has begun. -/
def readDashes (modes : Modes) (inComment : Bool) (list : OpenClass) :
    List Char → OpenClass × List Char
  | [] => (list, [])
  | character :: rest =>
    if inComment then
      readDashes modes (character != '\n') list rest
    else if character = '-' then
      readDashes modes false (list.add 0) rest
    else if modes.ignoreBlanks ∧ (Text.isWhiteSpace character ∨ character = '#') then
      readDashes modes (character = '#') list rest
    else
      (list, character :: rest)

/-- Reads the start of a class behind its opening bracket: a sign of complement,
and dashes or a closing bracket that are members.  A complement among octets
holds those beyond ASCII, so it cannot be compiled. -/
def readStart (modes : Modes) (characters : List Char) :
    Option (OpenClass × List Char) :=
  let characters := modes.skipBlanks characters
  let isComplement := characters.head? = some '^'
  let characters := if isComplement then modes.skipBlanks (characters.drop 1) else characters
  let (list, characters) := readDashes modes false {} characters
  let (list, characters) := match list.members, characters with
    | 0, ']' :: rest => (list.add 0, modes.skipBlanks rest)
    | _, _ => (list, characters)
  let membersCompile := list.members = 0 || Element.isMember modes (.character '-' false)
  if characters.isEmpty || !membersCompile || isComplement && !modes.unicode then
    none
  else
    some (list, characters)

/-- Reads an element of a class. -/
def readElement (modes : Modes) : List Char → Option (Element × List Char)
  | [] => none
  | '\\' :: rest => Element.readEscape modes rest
  | character :: rest => some (.character character false, rest)

/-- Reads a member that is an element or a range of characters.  A dash in
front of a closing bracket or of another dash makes no range. -/
def readMember (modes : Modes) (characters : List Char) : Option (List Char) := do
  let (first, rest) ← readElement modes characters
  match modes.skipBlanks rest with
  | [] => none
  | '-' :: rest =>
    if [some ']', some '-'].contains (modes.peek rest) then
      if first.isMember modes then some ('-' :: rest) else none
    else
      let (last, rest) ← readElement modes (modes.skipBlanks rest)
      match first, last with
      | .character low _, .character high _ =>
        if low ≤ high ∧ first.isMember modes ∧ last.isMember modes then some rest else none
      | _, _ => none
  | rest => if first.isMember modes then some rest else none

/-- Reads a class from one of its brackets, members or operators on, and returns
its nesting depth and what stands behind it.  Every step reads a character, so
the number of characters is enough fuel. -/
def read (modes : Modes) : Nat → List OpenClass → List Char → Option (Nat × List Char)
  | 0, _, _ => none
  | fuel + 1, classes, characters =>
    match classes, modes.skipBlanks characters with
    | [], '[' :: rest => do
      let (start, rest) ← readStart modes rest
      read modes fuel [start] rest
    | list :: outer, '[' :: rest =>
      match readNamed? rest with
      | some (isComplement, rest) =>
        if namedIsMember modes isComplement then
          read modes fuel (list.add 0 :: outer) rest
        else
          none
      | none => do
        let (start, rest) ← readStart modes rest
        read modes fuel (start :: list :: outer) rest
    | [list], ']' :: rest => some (list.total + 1, rest)
    | list :: next :: outer, ']' :: rest =>
      read modes fuel (next.add (list.total + 1) :: outer) rest
    | list :: outer, '&' :: '&' :: rest => read modes fuel (list.operate :: outer) rest
    | list :: outer, '-' :: '-' :: rest => read modes fuel (list.operate :: outer) rest
    | list :: outer, '~' :: '~' :: rest => read modes fuel (list.operate :: outer) rest
    | list :: outer, rest => do
      let rest ← readMember modes rest
      read modes fuel (list.add 0 :: outer) rest
    | [], _ => none

end Brackets
end Pattern
end SyntaxTree
