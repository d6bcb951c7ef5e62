import SyntaxTree.Number.Binary32

/-!
# Fixed-point text

A number is written with a fixed count of decimal places and never with an
exponent.  The exact binary value is rounded, a half going to the even digit.
-/

namespace SyntaxTree
namespace Number

/-- Sign mark of a number, which a zero may have as well. -/
def Binary32.signMark (number : Binary32) : String :=
  if number.isNegative then "-" else ""

/-- Pads the text on the left with zeros up to the width. -/
def padZeros (width : Nat) (digits : List Char) : List Char :=
  List.replicate (width - digits.length) '0' ++ digits

/-- Writes a count of `10 ^ -places` as a decimal with that many places. -/
def placesText (places : Nat) (count : Nat) : String :=
  let digits := padZeros (places + 1) (Nat.toDigits 10 count)
  let whole := digits.take (digits.length - places)
  let fraction := digits.drop (digits.length - places)
  String.ofList (whole ++ '.' :: fraction)

/-- Fixed-point text of a number with the given count of places. -/
def Binary32.fixed (places : Nat) (number : Binary32) : String :=
  if number.isNaN then
    "NaN"
  else if number.isInfinite then
    number.signMark ++ "inf"
  else
    number.signMark ++
      placesText places (roundDiv (number.units * Nat.pow 10 places) unitsPerOne)

end Number
end SyntaxTree
