import SyntaxTree.Pattern.Brackets
import SyntaxTree.Text.Alphanumeric

/-!
# Patterns that can be compiled

A pattern is compiled into a finite automaton.  It is refused if it is
ill-formed, if it needs a table of characters, if it could match octets that
belong to no character, if it is nested too deeply, or if it asks for the
boundaries of words.
-/

namespace SyntaxTree
namespace Pattern

open Text

/-- Why a pattern is refused. -/
inductive Refusal where
  | illFormed
  | wordBoundary
deriving DecidableEq, Repr

/-- Wording of a refusal. -/
def Refusal.message : Refusal → String
  | .illFormed => "error building NFA"
  | .wordBoundary =>
    "unsupported regex feature for DFAs: cannot build DFAs for regexes with Unicode word " ++
      "boundaries; switch to ASCII word boundaries, or heuristically enable Unicode word " ++
      "boundaries or use a different regex engine"

/-- Greatest nesting depth of a pattern. -/
def deepest : Nat := 250

/-- A part of a pattern. -/
structure Part where
  depth : Nat
  /-- Whether the part can be repeated, which a switch of modes cannot. -/
  isRepeatable : Bool
deriving DecidableEq, Repr

/-- Nesting depth of parts that follow each other.  A single part is itself. -/
def sequenceDepth : List Part → Nat
  | [] => 0
  | [part] => part.depth
  | parts => (parts.map Part.depth).foldl max 0 + 1

/-- A group whose closing parenthesis has not been read, or the whole pattern. -/
structure OpenGroup where
  /-- Nesting depth of the alternatives that are complete. -/
  alternatives : List Nat := []
  /-- Parts of the current alternative, the last one first. -/
  parts : List Part := []
  /-- The modes that hold again behind the group. -/
  outerModes : Modes := {}
deriving DecidableEq, Repr

namespace OpenGroup

/-- Adds a part to the current alternative. -/
def add (group : OpenGroup) (part : Part) : OpenGroup :=
  { group with parts := part :: group.parts }

/-- Starts a new alternative. -/
def alternate (group : OpenGroup) : OpenGroup :=
  { group with alternatives := sequenceDepth group.parts :: group.alternatives, parts := [] }

/-- Nesting depth of the alternatives.  A single alternative is itself. -/
def depth (group : OpenGroup) : Nat :=
  let last := sequenceDepth group.parts
  match group.alternatives with
  | [] => last
  | alternatives => alternatives.foldl max last + 1

/-- Repeats the last part. -/
def repeat? (group : OpenGroup) : Option OpenGroup :=
  match group.parts with
  | ⟨depth, true⟩ :: parts => some { group with parts := ⟨depth + 1, true⟩ :: parts }
  | _ => none

end OpenGroup

/-- What is known about a pattern of which a part has been read. -/
structure Progress where
  modes : Modes := {}
  /-- The innermost group. -/
  group : OpenGroup := {}
  /-- The groups around it, from the inside to the outside. -/
  outer : List OpenGroup := []
  /-- Names of groups read so far. -/
  names : List String := []
  /-- Whether the boundaries of words were asked for. -/
  wordBoundary : Bool := false
deriving DecidableEq, Repr

namespace Progress

/-- Adds a part to the innermost group. -/
def add (progress : Progress) (part : Part) : Progress :=
  { progress with group := progress.group.add part }

/-- Opens a group in which the given modes hold. -/
def openGroup (progress : Progress) (modes : Modes) : Progress :=
  { progress with
    modes := modes
    group := { outerModes := progress.modes }
    outer := progress.group :: progress.outer }

/-- Closes the innermost group. -/
def closeGroup? (progress : Progress) : Option Progress :=
  match progress.outer with
  | [] => none
  | group :: outer =>
    some { progress with
      modes := progress.group.outerModes
      group := group.add ⟨progress.group.depth + 1, true⟩
      outer := outer }

/-- Whether a group can have the name. -/
def isGroupName : List Char → Bool
  | [] => false
  | first :: others =>
    (first = '_' || isAlphabetic first) && others.all fun character =>
      ['_', '.', '[', ']'].contains character || isAlphanumeric character

/-- Opens a group whose name is read up to its closing angle. -/
def openNamed? (progress : Progress) (characters : List Char) :
    Option (Progress × List Char) :=
  let name := characters.takeWhile (· != '>')
  match characters.drop name.length with
  | [] => none
  | _ :: rest =>
    if isGroupName name ∧ ¬progress.names.contains (String.ofList name) then
      let opened := progress.openGroup progress.modes
      some ({ opened with names := String.ofList name :: progress.names }, rest)
    else
      none

/-- Switches modes up to a closing parenthesis, or opens a group with switched
modes up to a colon. -/
def switch? (progress : Progress) (characters : List Char) : Option (Progress × List Char) := do
  let switches := characters.takeWhile fun character => character != ':' && character != ')'
  let modes ← progress.modes.switch? switches
  match characters.drop switches.length with
  | ':' :: rest => some (progress.openGroup modes, rest)
  | ')' :: rest =>
    if switches.isEmpty then none else some ({ progress with modes := modes }.add ⟨0, false⟩, rest)
  | _ => none

/-- Reads what follows an opening parenthesis. -/
def readGroup (progress : Progress) (characters : List Char) : Option (Progress × List Char) :=
  match progress.modes.skipBlanks characters with
  | '?' :: 'P' :: '<' :: rest => progress.openNamed? rest
  | '?' :: '<' :: rest => progress.openNamed? rest
  | '?' :: rest => progress.switch? rest
  | rest => some (progress.openGroup progress.modes, rest)

/-- Adds an element that can be compiled. -/
def addElement? (progress : Progress) (element : Element) : Option Progress :=
  if element.isCompilable progress.modes then
    let asked := element = .wordBoundary && progress.modes.unicode
    some { progress.add ⟨0, true⟩ with wordBoundary := progress.wordBoundary || asked }
  else
    none

/-- Reads the next part of a pattern.  Values of fields have no closing brace, so
a count of repetitions is never complete. -/
def step (progress : Progress) : List Char → Option (Progress × List Char)
  | [] => some (progress, [])
  | '(' :: rest => progress.readGroup rest
  | ')' :: rest => progress.closeGroup?.map (·, rest)
  | '|' :: rest => some ({ progress with group := progress.group.alternate }, rest)
  | '[' :: rest => do
    let (depth, rest) ← Brackets.read progress.modes (rest.length + 1) [] ('[' :: rest)
    some (progress.add ⟨depth, true⟩, rest)
  | '\x7b' :: _ => none
  | '\\' :: rest => do
    let (element, rest) ← Element.readEscape progress.modes rest
    (progress.addElement? element).map (·, rest)
  | '.' :: rest => if progress.modes.unicode then some (progress.add ⟨0, true⟩, rest) else none
  | '^' :: rest => (progress.addElement? .position).map (·, rest)
  | '$' :: rest => (progress.addElement? .position).map (·, rest)
  | character :: rest =>
    if ['?', '*', '+'].contains character then do
      let group ← progress.group.repeat?
      let rest := if rest.head? = some '?' then rest.drop 1 else rest
      some ({ progress with group := group }, rest)
    else
      (progress.addElement? (.character character false)).map (·, rest)

/-- Reads a pattern to its end.  Every step reads a character, so the number of
characters is enough fuel. -/
def run : Nat → Progress → List Char → Option Progress
  | 0, progress, _ => some progress
  | fuel + 1, progress, characters =>
    match progress.step (progress.modes.skipBlanks characters) with
    | some (progress, rest) => run fuel progress rest
    | none => none

end Progress

/-- Why a pattern cannot be compiled, if it cannot. -/
def refusal? (pattern : String) : Option Refusal :=
  match Progress.run pattern.length {} pattern.toList with
  | none => some .illFormed
  | some progress =>
    if !progress.outer.isEmpty || deepest < progress.group.depth then
      some .illFormed
    else if progress.wordBoundary then
      some .wordBoundary
    else
      none

end Pattern
end SyntaxTree
