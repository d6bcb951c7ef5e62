import SyntaxTree.Number.Fixed

/-!
# Shortest decimal text

A number is written with the fewest significant digits that read back as the
same number, and among those with the digits nearest to it.  The decimals
`count * 10 ^ exponent` with one exponent form a grid; the grids are searched
from coarse to fine, and on each only the two neighbours of the number can be
the nearest point that reads back.
-/

namespace SyntaxTree
namespace Number

/-- The decimal `count * 10 ^ exponent`. -/
structure Decimal where
  count : Nat
  exponent : Int
deriving DecidableEq, Repr, Inhabited

namespace Decimal

/-- Decimal digits of the count. -/
def digits (decimal : Decimal) : List Char :=
  Nat.toDigits 10 decimal.count

/-- Power of ten of the first digit. -/
def leadingExponent (decimal : Decimal) : Int :=
  decimal.exponent + decimal.digits.length - 1

/-- Positional text with at least one digit on either side of the point. -/
def plain (decimal : Decimal) : String :=
  if 0 ≤ decimal.exponent then
    String.ofList (decimal.digits ++ List.replicate decimal.exponent.toNat '0') ++ ".0"
  else
    placesText (-decimal.exponent).toNat decimal.count

/-- Text with one digit before the point and an exponent; the point is left out
if no digit follows it. -/
def scientific (decimal : Decimal) : String :=
  let exponentText := "e" ++ toString decimal.leadingExponent
  match decimal.digits with
  | [] => exponentText
  | [digit] => String.singleton digit ++ exponentText
  | digit :: fraction => String.ofList (digit :: '.' :: fraction) ++ exponentText

end Decimal

namespace Binary32

/-- Whether the decimal lies among the reals that round to the given finite,
non-zero magnitude.  The reals reach half way to either neighbouring magnitude,
and the ends belong to the even magnitude. -/
def roundsTo (magnitude : Nat) (decimal : Decimal) : Bool :=
  let below := unitsOfMagnitude (magnitude - 1) + unitsOfMagnitude magnitude
  let above := unitsOfMagnitude magnitude + unitsOfMagnitude (magnitude + 1)
  let scale := Nat.pow 10 (-decimal.exponent).toNat
  let value := decimal.count * Nat.pow 10 decimal.exponent.toNat * (2 * unitsPerOne)
  if magnitude % 2 = 0 then
    below * scale ≤ value && value ≤ above * scale
  else
    below * scale < value && value < above * scale

/-- Nearest point of the grid with the given exponent that reads back as the
magnitude, if there is one; of two equally near points the larger. -/
def gridPoint? (magnitude : Nat) (exponent : Int) : Option Decimal :=
  let numerator := unitsOfMagnitude magnitude * Nat.pow 10 (-exponent).toNat
  let denominator := unitsPerOne * Nat.pow 10 exponent.toNat
  let lower : Decimal := ⟨numerator / denominator, exponent⟩
  let upper : Decimal := ⟨numerator / denominator + 1, exponent⟩
  let nearer := if 2 * (numerator % denominator) < denominator then lower else upper
  let farther := if 2 * (numerator % denominator) < denominator then upper else lower
  [nearer, farther].find? (roundsTo magnitude)

/-- Shortest decimal that reads back as the given finite, non-zero magnitude.
Every finite magnitude is a point of the grid with exponent `-149`. -/
def shortestOfMagnitude (magnitude : Nat) : Decimal :=
  let exponents := (List.range 188).map fun (step : Nat) => (38 : Int) - step
  (exponents.findSome? (gridPoint? magnitude)).getD
    ⟨unitsOfMagnitude magnitude * Nat.pow 5 149, -149⟩

/-- Shortest text that reads back as the number.  It is positional if the first
digit stands between `10 ^ -4` and `10 ^ 15`, and scientific otherwise. -/
def shortest (number : Binary32) : String :=
  if number.isNaN then
    "NaN"
  else if number.isInfinite then
    number.signMark ++ "inf"
  else if number.magnitude = 0 then
    number.signMark ++ "0.0"
  else
    let decimal := shortestOfMagnitude number.magnitude
    let leading := decimal.leadingExponent
    number.signMark ++
      (if -4 ≤ leading ∧ leading < 16 then decimal.plain else decimal.scientific)

end Binary32
end Number
end SyntaxTree
