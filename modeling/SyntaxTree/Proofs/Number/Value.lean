import Mathlib.Algebra.Order.Field.Rat
import Mathlib.Data.Rat.Cast.Order
import Mathlib.Order.WithBot
import SyntaxTree.Number.Binary32

/-!
# Values of binary32 numbers

The bits of a binary32 number stand for a rational number, for one of the two
infinities or for no number at all.  Two binary32 numbers are equal if and only if
their bits stand for one number; apart from the two zeros, no two different bit
patterns do.
-/

namespace SyntaxTree
namespace Number
namespace Binary32

/-! ## Magnitudes -/

/-- Between two powers of two the value of a magnitude grows by equal steps, and at a
power of two it is continued. -/
theorem strictMono_unitsOfMagnitude : StrictMono unitsOfMagnitude := by
  apply strictMono_nat_of_lt_succ
  intro magnitude
  unfold unitsOfMagnitude
  dsimp only [fractionCount]
  by_cases carries : magnitude % 0x800000 + 1 < 0x800000
  · have sameField : (magnitude + 1) / 0x800000 = magnitude / 0x800000 := by omega
    have nextFraction : (magnitude + 1) % 0x800000 = magnitude % 0x800000 + 1 := by omega
    rw [sameField, nextFraction]
    split
    · exact Nat.lt_succ_self _
    · exact Nat.mul_lt_mul_of_pos_right (by omega) (Nat.two_pow_pos _)
  · -- The fraction starts again at zero, and the exponent field is one greater.
    have nextField : (magnitude + 1) / 0x800000 = magnitude / 0x800000 + 1 := by omega
    have noFraction : (magnitude + 1) % 0x800000 = 0 := by omega
    have fraction : magnitude % 0x800000 = 0x7fffff := by omega
    rw [nextField, noFraction, fraction, if_neg (Nat.succ_ne_zero _), Nat.add_sub_cancel]
    split
    · rename_i isZero
      rw [isZero]
      decide
    · rename_i notZero
      obtain ⟨field, isField⟩ := Nat.exists_eq_succ_of_ne_zero notZero
      rw [isField, Nat.succ_sub_one]
      change _ * 2 ^ field < _ * 2 ^ (field + 1)
      rw [Nat.pow_succ, Nat.mul_comm (2 ^ field) 2, ← Nat.mul_assoc]
      exact Nat.mul_lt_mul_of_pos_right (by decide) (Nat.two_pow_pos field)

@[simp] theorem unitsOfMagnitude_zero : unitsOfMagnitude 0 = 0 := by
  decide

/-- The sign and the magnitude determine the bits. -/
theorem ext_magnitude
    {left right : Binary32}
    (magnitudes : left.magnitude = right.magnitude)
    (signs : left.isNegative = right.isNegative) :
    left = right := by
  obtain ⟨left⟩ := left
  obtain ⟨right⟩ := right
  have leftBound := left.toNat_lt
  have rightBound := right.toNat_lt
  have sameSign : signBit ≤ left.toNat ↔ signBit ≤ right.toNat := decide_eq_decide.mp signs
  simp only [magnitude, signBit] at magnitudes sameSign
  congr
  apply UInt32.toNat_inj.mp
  omega

/-! ## Values -/

/-- The value of a finite number in units of `2 ^ -149`. -/
def signedUnits (number : Binary32) : Int :=
  if number.isNegative then -(number.units : Int) else number.units

/-- The number that the bits of a finite number stand for. -/
def finiteValue (number : Binary32) : ℚ :=
  number.signedUnits / unitsPerOne

/-- The number that the bits stand for, which may be infinite, if they stand for one. -/
def value? (number : Binary32) : Option (WithBot (WithTop ℚ)) :=
  if number.isNaN then
    none
  else if number.isInfinite then
    some (if number.isNegative then ⊥ else ⊤)
  else
    some ((number.finiteValue : WithTop ℚ) : WithBot (WithTop ℚ))

theorem isNaN_eq_false_iff {number : Binary32} :
    number.isNaN = false ↔ ∃ value, number.value? = some value := by
  rw [value?]
  cases number.isNaN with
  | true => simp
  | false =>
      rw [if_neg Bool.false_ne_true]
      split <;> simp

theorem value?_of_infinite
    {number : Binary32}
    (isInfinite : number.isInfinite = true) :
    number.value? = some (if number.isNegative then ⊥ else ⊤) := by
  have isMagnitude : number.magnitude = infinityMagnitude := beq_iff_eq.mp isInfinite
  have notNaN : ¬ number.isNaN = true := by
    simp [isNaN, isMagnitude]
  rw [value?, if_neg notNaN, if_pos isInfinite]

theorem value?_of_finite
    {number : Binary32}
    (notNaN : number.isNaN = false)
    (isFinite : number.isInfinite = false) :
    number.value? = some ((number.finiteValue : WithTop ℚ) : WithBot (WithTop ℚ)) := by
  rw [value?, notNaN, isFinite, if_neg Bool.false_ne_true, if_neg Bool.false_ne_true]

/-- The bits of a zero stand for the same number whatever their sign. -/
theorem value?_of_zero
    {number : Binary32}
    (isZero : number.magnitude = 0) :
    number.value? = some (((0 : ℚ) : WithTop ℚ) : WithBot (WithTop ℚ)) := by
  have notNaN : number.isNaN = false := by
    simp [isNaN, isZero]
  have isFinite : number.isInfinite = false := by
    simp [isInfinite, isZero, infinityMagnitude]
  have noUnits : number.signedUnits = 0 := by
    simp [signedUnits, units, isZero]
  rw [value?_of_finite notNaN isFinite, finiteValue, noUnits, Int.cast_zero, zero_div]

/-! ## Equality -/

/-- Finite numbers of one value have the same bits, or they are zeros. -/
theorem eq_or_zero_of_finiteValue
    {left right : Binary32}
    (same : left.finiteValue = right.finiteValue) :
    left = right ∨ left.magnitude = 0 ∧ right.magnitude = 0 := by
  have scale : (unitsPerOne : ℚ) ≠ 0 := by
    rw [Nat.cast_ne_zero]
    exact Nat.ne_of_gt (Nat.two_pow_pos 149)
  have sameUnits : left.signedUnits = right.signedUnits :=
    Int.cast_injective ((div_left_inj' scale).mp same)
  have unitsEq : left.units = right.units := by
    unfold signedUnits at sameUnits
    split at sameUnits <;> split at sameUnits <;> omega
  have magnitudes : left.magnitude = right.magnitude :=
    strictMono_unitsOfMagnitude.injective unitsEq
  by_cases isZero : left.magnitude = 0
  · exact Or.inr ⟨isZero, magnitudes ▸ isZero⟩
  · have positive : 0 < left.units := by
      have larger := strictMono_unitsOfMagnitude (Nat.pos_of_ne_zero isZero)
      rwa [unitsOfMagnitude_zero] at larger
    -- A positive number of units is negated by its sign.
    refine Or.inl (ext_magnitude magnitudes ?_)
    rw [signedUnits, signedUnits] at sameUnits
    cases leftSign : left.isNegative <;> cases rightSign : right.isNegative <;>
      simp only [leftSign, rightSign, Bool.false_eq_true, if_false, if_true] at sameUnits ⊢ <;>
      omega

/-- Bits that stand for one number are the same or those of the two zeros. -/
theorem eq_or_zero_of_value?
    {left right : Binary32}
    {value : WithBot (WithTop ℚ)}
    (leftValue : left.value? = some value)
    (rightValue : right.value? = some value) :
    left = right ∨ left.magnitude = 0 ∧ right.magnitude = 0 := by
  have leftNumeric := isNaN_eq_false_iff.mpr ⟨value, leftValue⟩
  have rightNumeric := isNaN_eq_false_iff.mpr ⟨value, rightValue⟩
  have same : left.value? = right.value? := leftValue.trans rightValue.symm
  cases leftInfinite : left.isInfinite <;> cases rightInfinite : right.isInfinite
  case false.false =>
    rw [value?_of_finite leftNumeric leftInfinite, value?_of_finite rightNumeric rightInfinite]
      at same
    exact eq_or_zero_of_finiteValue (by simpa using same)
  case false.true =>
    rw [value?_of_finite leftNumeric leftInfinite, value?_of_infinite rightInfinite] at same
    cases rightSign : right.isNegative <;> simp [rightSign] at same
  case true.false =>
    rw [value?_of_infinite leftInfinite, value?_of_finite rightNumeric rightInfinite] at same
    cases leftSign : left.isNegative <;> simp [leftSign] at same
  case true.true =>
    rw [value?_of_infinite leftInfinite, value?_of_infinite rightInfinite] at same
    have magnitudes : left.magnitude = right.magnitude :=
      (beq_iff_eq.mp leftInfinite).trans (beq_iff_eq.mp rightInfinite).symm
    refine Or.inl (ext_magnitude magnitudes ?_)
    cases leftSign : left.isNegative <;> cases rightSign : right.isNegative <;>
      simp [leftSign, rightSign] at same ⊢

/-- Equality of binary32 numbers is equality of the numbers that they stand for. -/
theorem equals_iff_value? {left right : Binary32} :
    left.equals right = true ↔
      ∃ value, left.value? = some value ∧ right.value? = some value := by
  simp only [equals, Bool.and_eq_true, Bool.not_eq_true', Bool.or_eq_true, beq_iff_eq]
  constructor
  · rintro ⟨⟨leftNumeric, -⟩, sameBits | ⟨leftZero, rightZero⟩⟩
    · obtain ⟨value, isValue⟩ := isNaN_eq_false_iff.mp leftNumeric
      obtain rfl : left = right := congrArg mk sameBits
      exact ⟨value, isValue, isValue⟩
    · exact ⟨_, value?_of_zero leftZero, value?_of_zero rightZero⟩
  · rintro ⟨value, leftValue, rightValue⟩
    refine ⟨⟨isNaN_eq_false_iff.mpr ⟨value, leftValue⟩,
      isNaN_eq_false_iff.mpr ⟨value, rightValue⟩⟩, ?_⟩
    rcases eq_or_zero_of_value? leftValue rightValue with rfl | zeros
    · exact Or.inl rfl
    · exact Or.inr zeros

/-- The two zeros are equal, and a not-a-number differs from itself. -/
example :
    (⟨0⟩ : Binary32).equals ⟨0x80000000⟩ = true ∧
      (⟨0x7fc00000⟩ : Binary32).equals ⟨0x7fc00000⟩ = false := by
  decide

end Binary32
end Number
end SyntaxTree
