/-!
# Ranges of code points

A class of characters is a table of closed ranges of code points.
-/

namespace SyntaxTree
namespace Text

/-- A closed range of code points. -/
structure CodeRange where
  first : Nat
  last : Nat
deriving DecidableEq, Repr

/-- Whether the code point lies in the range. -/
def CodeRange.contains (range : CodeRange) (code : Nat) : Bool :=
  range.first ≤ code && code ≤ range.last

/-- A class of characters beyond ASCII, divided by code point so that a look-up
reads one part of it. -/
structure CharacterClass where
  /-- Members below `U+2000`: alphabets. -/
  alphabets : List CodeRange
  /-- Members from `U+2000` to `U+FFFF`: symbols and ideographs. -/
  symbols : List CodeRange
  /-- Members from `U+10000` on. -/
  supplementary : List CodeRange
deriving DecidableEq, Repr

/-- Whether the code point belongs to the class. -/
def CharacterClass.contains (members : CharacterClass) (code : Nat) : Bool :=
  if code < 0x2000 then
    members.alphabets.any (·.contains code)
  else if code < 0x10000 then
    members.symbols.any (·.contains code)
  else
    members.supplementary.any (·.contains code)

end Text
end SyntaxTree
