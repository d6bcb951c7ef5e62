import SyntaxTree.Number.Rounding

/-!
# Binary32 numbers

A number of the 32-bit binary interchange format is kept as its bits.  Every
finite magnitude is a whole number of units of `2 ^ -149`, so comparison,
rounding and printing are exact arithmetic on natural numbers.
-/

namespace SyntaxTree
namespace Number

/-- A number of the 32-bit binary interchange format. -/
structure Binary32 where
  /-- Sign, exponent field and fraction, from the highest bit down. -/
  bits : UInt32
deriving DecidableEq, Repr, Inhabited

namespace Binary32

/-- Magnitude bits of infinity; larger magnitudes are not numbers. -/
def infinityMagnitude : Nat := 0x7f800000

/-- Value of the sign bit, `2 ^ 31`. -/
def signBit : Nat := 0x80000000

/-- Number of fractions that share an exponent field, `2 ^ 23`. -/
def fractionCount : Nat := 0x800000

/-- Number of units in one, `2 ^ 149`. -/
def unitsPerOne : Nat := Nat.pow 2 149

/-- The bits without the sign. -/
def magnitude (number : Binary32) : Nat :=
  number.bits.toNat % signBit

/-- Whether the sign bit is set. -/
def isNegative (number : Binary32) : Bool :=
  signBit ≤ number.bits.toNat

/-- Whether the bits stand for no number at all. -/
def isNaN (number : Binary32) : Bool :=
  infinityMagnitude < number.magnitude

/-- Whether the bits stand for one of the two infinities. -/
def isInfinite (number : Binary32) : Bool :=
  number.magnitude == infinityMagnitude

/-- Numeric equality: a not-a-number differs from everything, itself included,
and the two zeros are equal. -/
def equals (left right : Binary32) : Bool :=
  !left.isNaN && !right.isNaN &&
    (left.bits == right.bits || (left.magnitude == 0 && right.magnitude == 0))

/-- Value of a finite magnitude in units of `2 ^ -149`. -/
def unitsOfMagnitude (magnitude : Nat) : Nat :=
  let exponentField := magnitude / fractionCount
  let fraction := magnitude % fractionCount
  if exponentField = 0 then
    fraction
  else
    (fractionCount + fraction) * Nat.pow 2 (exponentField - 1)

/-- Absolute value of a finite number in units of `2 ^ -149`. -/
def units (number : Binary32) : Nat :=
  unitsOfMagnitude number.magnitude

/-- The non-negative number with the given magnitude, infinity if the magnitude
is too large. -/
def ofMagnitude (magnitude : Nat) : Binary32 :=
  ⟨(min magnitude infinityMagnitude).toUInt32⟩

/-- Number nearest to `numerator / denominator`, a tie going to the even
magnitude, and infinity beyond the finite range.

The quotient, in units of `2 ^ -149`, is rounded at the position that leaves a
significand of at most twenty-four bits.  Adding the significand to the scaled
exponent field lets a carry out of the significand raise the exponent. -/
def ofRatio (numerator denominator : Nat) : Binary32 :=
  let scaled := numerator * unitsPerOne
  let shift := Nat.log2 (scaled / denominator) - 23
  ofMagnitude (shift * fractionCount + roundDiv scaled (denominator * Nat.pow 2 shift))

/-- Number nearest to `digits * 10 ^ exponent`.

A value of at least `10 ^ 40` is beyond the finite range and one below
`10 ^ -46` is less than half a unit, so neither needs its power of ten. -/
def ofDecimal (digits : Nat) (exponent : Int) : Binary32 :=
  let top := exponent + (Nat.toDigits 10 digits).length
  if digits = 0 ∨ top < -45 then
    ofMagnitude 0
  else if 40 < top then
    ofMagnitude infinityMagnitude
  else
    ofRatio (digits * Nat.pow 10 exponent.toNat) (Nat.pow 10 (-exponent).toNat)

/-- A number made from a magnitude is never a not-a-number. -/
@[simp] theorem isNaN_ofMagnitude (magnitude : Nat) :
    (ofMagnitude magnitude).isNaN = false := by
  have bounded : min magnitude infinityMagnitude ≤ infinityMagnitude := Nat.min_le_right _ _
  have small : min magnitude infinityMagnitude < UInt32.size :=
    Nat.lt_of_le_of_lt bounded (by decide)
  have bits : (min magnitude infinityMagnitude).toUInt32.toNat =
      min magnitude infinityMagnitude := by
    exact Nat.mod_eq_of_lt small
  simp only [isNaN, Binary32.magnitude, ofMagnitude, bits, decide_eq_false_iff_not, Nat.not_lt]
  exact Nat.le_trans (Nat.mod_le _ _) bounded

/-- Reading a decimal never gives a not-a-number. -/
@[simp] theorem isNaN_ofDecimal (digits : Nat) (exponent : Int) :
    (ofDecimal digits exponent).isNaN = false := by
  unfold ofDecimal ofRatio
  dsimp only
  split
  · exact isNaN_ofMagnitude _
  · split <;> exact isNaN_ofMagnitude _

end Binary32
end Number
end SyntaxTree
