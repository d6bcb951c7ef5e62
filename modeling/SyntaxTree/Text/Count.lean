import SyntaxTree.Number.Numeral

/-!
# Counts

A count is written with decimal digits, in front of which a plus sign may
stand.
-/

namespace SyntaxTree
namespace Text

open Number

/-- Value of a count that is at most the limit. -/
def count? (limit : Nat) (text : List Char) : Option Nat :=
  let digits := match text with
    | '+' :: digits => digits
    | digits => digits
  if digits ≠ [] ∧ digits.all isDecimalDigit ∧ decimalValue digits ≤ limit then
    some (decimalValue digits)
  else
    none

end Text
end SyntaxTree
