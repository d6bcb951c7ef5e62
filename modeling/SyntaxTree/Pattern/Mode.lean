import SyntaxTree.Text.Separated

/-!
# Modes of patterns

Modes are switched inside a pattern, up to the end of the group that encloses
the switch.
-/

namespace SyntaxTree
namespace Pattern

open Text

/-- The modes that decide how a pattern is read. -/
structure Modes where
  /-- Letters stand for both of their cases. -/
  ignoreCase : Bool := false
  /-- Characters are matched rather than octets. -/
  unicode : Bool := true
  /-- White space and comments are skipped. -/
  ignoreBlanks : Bool := false
deriving DecidableEq, Repr

namespace Modes

/-- Letters of the modes that a pattern can switch.  Those without a field
change nothing about whether a pattern can be compiled. -/
def letters : List Char :=
  ['i', 'm', 's', 'U', 'u', 'R', 'x']

/-- The setting of a mode after the letters in front of the dash are switched on
and those behind it off. -/
def switched (on off : List Char) (letter : Char) (setting : Bool) : Bool :=
  (setting || on.contains letter) && !off.contains letter

/-- Switches modes.  Every letter stands at most once, and a dash has some
letter behind it. -/
def switch? (modes : Modes) (switches : List Char) : Option Modes :=
  let on := switches.takeWhile (· != '-')
  let off := (switches.drop on.length).drop 1
  if switches.all ('-' :: letters).contains ∧ switches.Nodup ∧ switches.getLast? ≠ some '-' then
    some {
      ignoreCase := switched on off 'i' modes.ignoreCase
      unicode := switched on off 'u' modes.unicode
      ignoreBlanks := switched on off 'x' modes.ignoreBlanks }
  else
    none

/-- Skips white space and comments, which run to the end of their line.  The
flag tells whether a comment has begun. -/
def skip (inComment : Bool) : List Char → List Char
  | [] => []
  | character :: rest =>
    if inComment then
      skip (character != '\n') rest
    else if isWhiteSpace character then
      skip false rest
    else if character = '#' then
      skip true rest
    else
      character :: rest

/-- What is left to read after blanks, where the modes skip them. -/
def skipBlanks (modes : Modes) (characters : List Char) : List Char :=
  if modes.ignoreBlanks then skip false characters else characters

/-- The next character that is no blank, where the modes skip blanks.  Only the
sign of a comment is skipped, not its text. -/
def peek (modes : Modes) (characters : List Char) : Option Char :=
  if modes.ignoreBlanks then
    let visible := match characters.dropWhile isWhiteSpace with
      | '#' :: rest => rest.dropWhile isWhiteSpace
      | rest => rest
    visible.head?.or characters.head?
  else
    characters.head?

end Modes
end Pattern
end SyntaxTree
