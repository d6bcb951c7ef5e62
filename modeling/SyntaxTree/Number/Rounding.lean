/-!
# Rounding a quotient

A quotient of natural numbers is rounded to the nearest natural number.  A
quotient that lies exactly between two naturals goes to the even one.
-/

namespace SyntaxTree
namespace Number

/-- Nearest natural number to `numerator / denominator`; a half goes to the
even neighbour. -/
def roundDiv (numerator denominator : Nat) : Nat :=
  let floor := numerator / denominator
  let doubledRemainder := 2 * (numerator % denominator)
  if doubledRemainder < denominator then
    floor
  else if denominator < doubledRemainder then
    floor + 1
  else
    floor + floor % 2

end Number
end SyntaxTree
