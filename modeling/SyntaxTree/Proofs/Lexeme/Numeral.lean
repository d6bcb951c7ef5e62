import Mathlib.Data.Int.ModEq
import Mathlib.Data.Nat.Digits.Defs
import SyntaxTree.Proofs.Lexeme.Number

/-!
# Values of number literals

A numeral is read as an integer token if it has digits of its radix only and
fits into thirty-two bits.  A floating-point token is read off a decimal text: digits
around a point and an exponent behind them, with a digit wherever one is needed.
-/

namespace SyntaxTree
namespace Number

/-! ## Numerals -/

/-- Digits of radix sixteen by their value. -/
def digitCharacters : List Char :=
  ['0', '1', '2', '3', '4', '5', '6', '7', '8', '9', 'a', 'b', 'c', 'd', 'e', 'f']

/-- Place of a character among the digits, in either case.  It is sixteen for other
characters. -/
def digitIndex (character : Char) : Nat :=
  digitCharacters.idxOf character.toLower

/-- At least one digit, and only digits of a radix. -/
structure IsNumeral (radix : Nat) (digits : List Char) : Prop where
  nonempty : digits ≠ []
  inRadix : ∀ digit ∈ digits, digitIndex digit < radix

/-- Value of digits in a radix, the most significant one in front. -/
def numeralValue (radix : Nat) (digits : List Char) : Nat :=
  Nat.ofDigits radix (digits.reverse.map digitIndex)

theorem numeralValue_cons (radix : Nat) (digit : Char) (digits : List Char) :
    numeralValue radix (digit :: digits) =
      digitIndex digit * radix ^ digits.length + numeralValue radix digits := by
  rw [numeralValue, List.reverse_cons, List.map_append, Nat.ofDigits_append, List.length_map,
    List.length_reverse, List.map_singleton, Nat.ofDigits_singleton, numeralValue]
  ring

/-- Characters beyond ASCII are no digits. -/
theorem digitIndex_of_high
    {character : Char}
    (high : 128 ≤ character.toNat) :
    digitIndex character = 16 ∧ hexadecimalValue? character = none := by
  have above : ∀ bound : Char, bound.toNat < 128 → ¬ character ≤ bound := by
    intro bound ascii atMost
    have codes : character.toNat ≤ bound.toNat := atMost
    omega
  constructor
  · have sameCase : character.toLower = character :=
      dif_neg fun upper => above 'Z' (by decide) upper.2
    have ascii : ∀ digit ∈ digitCharacters, digit.toNat < 128 := by simp [digitCharacters]
    rw [digitIndex, sameCase]
    refine List.idxOf_eq_length fun member => ?_
    have below := ascii character member
    omega
  · simp [hexadecimalValue?, above '9' (by decide), above 'f' (by decide), above 'F' (by decide)]

theorem hexadecimalValue?_eq_some_iff (character : Char) (value : Nat) :
    hexadecimalValue? character = some value ↔ digitIndex character = value ∧ value < 16 := by
  by_cases ascii : character.toNat < 128
  · have checked : ∀ code : Fin 128, hexadecimalValue? (Char.ofNat code) =
        if digitIndex (Char.ofNat code) < 16 then some (digitIndex (Char.ofNat code))
        else none := by
      decide +kernel
    have found := checked ⟨character.toNat, ascii⟩
    rw [Char.ofNat_toNat] at found
    rw [found]
    split_ifs with isDigit
    · rw [Option.some_inj]
      omega
    · simp only [false_iff]
      omega
  · obtain ⟨index, noDigit⟩ := digitIndex_of_high (Nat.not_lt.mp ascii)
    rw [noDigit]
    simp only [reduceCtorEq, false_iff]
    omega

theorem digitValue?_eq_some_iff
    {radix : Nat}
    (small : radix ≤ 16)
    (character : Char)
    (value : Nat) :
    digitValue? radix character = some value ↔
      digitIndex character = value ∧ value < radix := by
  rw [digitValue?, Option.filter_eq_some_iff, hexadecimalValue?_eq_some_iff, decide_eq_true_eq]
  omega

/-- Appending digits succeeds on the digits of the radix and adds their value. -/
theorem appendDigits?_eq_some_iff
    {radix : Nat}
    (small : radix ≤ 16)
    (value : Nat)
    (digits : List Char)
    (result : Nat) :
    appendDigits? radix value digits = some result ↔
      (∀ digit ∈ digits, digitIndex digit < radix) ∧
        value * radix ^ digits.length + numeralValue radix digits = result := by
  induction digits generalizing value with
  | nil => simp [appendDigits?, numeralValue]
  | cons digit digits inductionHypothesis =>
      rw [appendDigits?, List.forall_mem_cons, numeralValue_cons, List.length_cons]
      cases found : digitValue? radix digit with
      | none =>
          have outside : ¬ digitIndex digit < radix := fun inside => by
            rw [(digitValue?_eq_some_iff small digit _).mpr ⟨rfl, inside⟩] at found
            cases found
          simp [outside]
      | some index =>
          obtain ⟨rfl, inside⟩ := (digitValue?_eq_some_iff small digit index).mp found
          have sums : (value * radix + digitIndex digit) * radix ^ digits.length +
              numeralValue radix digits =
                value * radix ^ (digits.length + 1) +
                  (digitIndex digit * radix ^ digits.length + numeralValue radix digits) := by
            ring
          simp only [inductionHypothesis, sums, inside, true_and]

theorem numeral?_eq_some_iff
    {radix : Nat}
    (small : radix ≤ 16)
    (digits : List Char)
    (value : Nat) :
    numeral? radix digits = some value ↔
      IsNumeral radix digits ∧ numeralValue radix digits = value := by
  cases digits with
  | nil =>
      have empty : ¬ IsNumeral radix [] := fun numeral => numeral.nonempty rfl
      simp [numeral?, empty]
  | cons digit digits =>
      have parts : IsNumeral radix (digit :: digits) ↔
          ∀ other ∈ digit :: digits, digitIndex other < radix :=
        ⟨IsNumeral.inRadix, fun inRadix => ⟨List.cons_ne_nil _ _, inRadix⟩⟩
      rw [numeral?, appendDigits?_eq_some_iff small, parts, Nat.zero_mul, Nat.zero_add]
      exact List.cons_ne_nil _ _

/-- A leading zero changes neither whether digits are a numeral nor their value. -/
theorem numeral_zero_cons
    {radix : Nat}
    (positive : 0 < radix)
    {digits : List Char}
    (nonempty : digits ≠ []) :
    (IsNumeral radix ('0' :: digits) ↔ IsNumeral radix digits) ∧
      numeralValue radix ('0' :: digits) = numeralValue radix digits := by
  have zero : digitIndex '0' = 0 := by decide
  refine ⟨⟨fun numeral => ⟨nonempty, ?_⟩, fun numeral => ⟨List.cons_ne_nil _ _, ?_⟩⟩, ?_⟩
  · exact (List.forall_mem_cons.mp numeral.inRadix).2
  · exact List.forall_mem_cons.mpr ⟨by rwa [zero], numeral.inRadix⟩
  · rw [numeralValue_cons, zero, Nat.zero_mul, Nat.zero_add]

/-- Decimal digits are the digits of radix ten. -/
theorem digitIndex_of_isDecimalDigit
    {digit : Char}
    (isDigit : isDecimalDigit digit = true) :
    digitIndex digit = digit.toNat - '0'.toNat := by
  have hexadecimal : hexadecimalValue? digit = some (digit.toNat - '0'.toNat) := if_pos isDigit
  exact ((hexadecimalValue?_eq_some_iff digit _).mp hexadecimal).1

theorem decimalValue_eq_numeralValue
    {digits : List Char}
    (isDigits : IsRun isDecimalDigit digits) :
    decimalValue digits = numeralValue 10 digits := by
  have appended : ∀ value,
      digits.foldl (fun value digit => value * 10 + (digit.toNat - '0'.toNat)) value =
        value * 10 ^ digits.length + numeralValue 10 digits := by
    induction digits with
    | nil => simp [numeralValue]
    | cons digit digits inductionHypothesis =>
        intro value
        rw [isRun_cons] at isDigits
        rw [List.foldl_cons, inductionHypothesis isDigits.2, numeralValue_cons, List.length_cons,
          digitIndex_of_isDecimalDigit isDigits.1]
        ring
  rw [decimalValue, appended, Nat.zero_mul, Nat.zero_add]

end Number

namespace Literal

open Number

/-! ## Integer tokens -/

/-- What digits in a radix are read as: an integer token if and only if they are a
numeral below `2 ^ 32`. -/
structure ReadsInteger
    (form : NumberForm)
    (radix : Nat)
    (text digits : List Char)
    (reading : Reading) : Prop where
  integer : (∃ value, reading = .token (.integer value)) ↔
    IsNumeral radix digits ∧ numeralValue radix digits < 2 ^ 32
  /-- The token is congruent to the value, so values from `2 ^ 31` on are negative. -/
  payload : ∀ value, reading = .token (.integer value) →
    value.toInt ≡ numeralValue radix digits [ZMOD 2 ^ 32]
  illegal : ¬ (IsNumeral radix digits ∧ numeralValue radix digits < 2 ^ 32) →
    reading = .error (.illegalNumber form text)

theorem toInt_toInt32_modEq (value : Nat) : value.toUInt32.toInt32.toInt ≡ value [ZMOD 2 ^ 32] := by
  have bits : value.toUInt32.toInt32.toInt = Int.bmod (value % 2 ^ 32 : Nat) (2 ^ 32) :=
    BitVec.toInt_eq_toNat_bmod _
  rw [bits]
  exact (Int.bmod_emod).trans (by simp)

theorem readsInteger_integerReading
    (form : NumberForm)
    {radix : Nat}
    (small : radix ≤ 16)
    (text digits : List Char) :
    ReadsInteger form radix text digits (integerReading form radix text digits) := by
  by_cases fits : IsNumeral radix digits ∧ numeralValue radix digits < 2 ^ 32
  · have found := (numeral?_eq_some_iff small digits _).mpr ⟨fits.1, rfl⟩
    have reading : integerReading form radix text digits =
        .token (.integer (numeralValue radix digits).toUInt32.toInt32) := by
      rw [integerReading, found]
      exact if_pos fits.2
    refine ⟨⟨fun _ => fits, fun _ => ⟨_, reading⟩⟩, fun value isValue => ?_, fun notFits => ?_⟩
    · rw [reading, Reading.token.injEq, Token.integer.injEq] at isValue
      rw [← isValue]
      exact toInt_toInt32_modEq _
    · exact absurd fits notFits
  · have reading : integerReading form radix text digits =
        .error (.illegalNumber form text) := by
      rw [integerReading]
      split
      · rename_i value found
        obtain ⟨numeral, rfl⟩ := (numeral?_eq_some_iff small digits value).mp found
        exact if_neg fun below => fits ⟨numeral, below⟩
      · rfl
    have noToken : ∀ value, integerReading form radix text digits ≠ .token (.integer value) := by
      simp [reading]
    refine ⟨⟨?_, fun doesFit => absurd doesFit fits⟩, fun value isValue => ?_, fun _ => reading⟩
    · rintro ⟨value, isValue⟩
      exact absurd isValue (noToken value)
    · exact absurd isValue (noToken value)

/-! ## Floating-point tokens -/

/-- A decimal text without exponent, with the value of its digits and the number of
those behind the point. -/
inductive IsSignificand : (text : List Char) → (value places : Nat) → Prop
  | whole
      {digits : List Char}
      (isDigits : IsRun isDecimalDigit digits)
      (nonempty : digits ≠ []) :
      IsSignificand digits (numeralValue 10 digits) 0
  | point
      {digits places : List Char}
      (isDigits : IsRun isDecimalDigit (digits ++ places))
      (nonempty : digits ++ places ≠ []) :
      IsSignificand (digits ++ '.' :: places) (numeralValue 10 (digits ++ places)) places.length

/-- A decimal text in lower case, with the value of its digits and the power of ten
that multiplies them.  Neither its significand nor its exponent, if there is one, lacks
digits. -/
inductive DecimalText : (text : List Char) → (value : Nat) → (power : Int) → Prop
  | plain
      {text : List Char}
      {value places : Nat}
      (isSignificand : IsSignificand text value places) :
      DecimalText text value (-places)
  | scientific
      {text sign digits : List Char}
      {value places : Nat}
      (isSignificand : IsSignificand text value places)
      (isSign : sign = [] ∨ sign = ['+'] ∨ sign = ['-'])
      (isDigits : IsRun isDecimalDigit digits)
      (nonempty : digits ≠ []) :
      DecimalText (text ++ 'e' :: (sign ++ digits)) value
        ((if sign = ['-'] then -(numeralValue 10 digits : Int) else numeralValue 10 digits) -
          places)

/-- What a decimal text in either case is read as. -/
def ReadsFloat (text : List Char) (reading : Reading) : Prop :=
  ∃ value power, DecimalText (text.map Char.toLower) value power ∧
    reading = .token (.real (Binary32.ofDecimal value power))

theorem map_toLower_of_isRun
    {digits : List Char}
    (isDigits : IsRun isDecimalDigit digits) :
    digits.map Char.toLower = digits := by
  have sameCase : ∀ digit ∈ digits, digit.toLower = digit := by
    intro digit member
    have isDigit := isDigits digit member
    simp only [isDecimalDigit, Bool.and_eq_true, decide_eq_true_eq] at isDigit
    refine dif_neg fun upper => ?_
    have atLeast : 'A'.toNat ≤ digit.toNat := upper.1
    have atMost : digit.toNat ≤ '9'.toNat := isDigit.2
    exact absurd (atLeast.trans atMost) (by decide)
  rw [List.map_congr_left sameCase, List.map_id'']
  exact fun _ => rfl

/-- Digits and a fraction behind them are a decimal text. -/
theorem IsFraction.isSignificand
    {whole fractionText : List Char}
    (isFraction : IsFraction fractionText)
    (isWhole : IsRun isDecimalDigit whole)
    (nonempty : whole ≠ []) :
    IsSignificand ((whole ++ fractionText).map Char.toLower)
      (decimalValue (whole ++ fractionText.drop 1)) (fractionText.drop 1).length := by
  cases isFraction with
  | missing =>
      rw [List.append_nil, List.drop_nil, List.append_nil, map_toLower_of_isRun isWhole,
        decimalValue_eq_numeralValue isWhole]
      exact .whole isWhole nonempty
  | @point places isPlaces =>
      have isDigits : IsRun isDecimalDigit (whole ++ places) := fun digit member =>
        (List.mem_append.mp member).elim (isWhole digit) (isPlaces digit)
      rw [List.drop_one, List.tail_cons, decimalValue_eq_numeralValue isDigits, List.map_append,
        List.map_cons, map_toLower_of_isRun isWhole, map_toLower_of_isRun isPlaces]
      exact .point isDigits (List.append_ne_nil_of_left_ne_nil nonempty _)

/-- A literal without exponent is a decimal text. -/
theorem IsFraction.readsFloat
    {whole fractionText : List Char}
    (isFraction : IsFraction fractionText)
    (isWhole : IsRun isDecimalDigit whole)
    (nonempty : whole ≠ []) :
    ReadsFloat (whole ++ fractionText) (.token (.real (floatValue whole fractionText 0))) := by
  refine ⟨_, _, .plain (isFraction.isSignificand isWhole nonempty), ?_⟩
  rw [floatValue, Int.zero_sub]

/-- A literal with a complete exponent is a decimal text. -/
theorem Exponent.WellFormed.readsFloat
    {exponent : Exponent}
    (isExponent : exponent.WellFormed)
    (complete : exponent.digits ≠ [])
    {whole fractionText : List Char}
    (isFraction : IsFraction fractionText)
    (isWhole : IsRun isDecimalDigit whole)
    (nonempty : whole ≠ []) :
    ReadsFloat (whole ++ fractionText ++ exponent.text)
      (.token (.real (floatValue whole fractionText exponent.value))) := by
  have isSignificand := isFraction.isSignificand isWhole nonempty
  have lowered : exponent.text.map Char.toLower = 'e' :: (exponent.sign ++ exponent.digits) := by
    have isLetter := isExponent.letter
    simp only [isExponentLetter, Bool.or_eq_true, beq_iff_eq] at isLetter
    have letter : exponent.letter.toLower = 'e' := by
      rcases isLetter with isLetter | isLetter <;> rw [isLetter] <;> rfl
    have sign : exponent.sign.map Char.toLower = exponent.sign := by
      rcases isExponent.sign with isSign | isSign | isSign <;> rw [isSign] <;> rfl
    rw [Exponent.text, List.map_cons, List.map_append, letter, sign,
      map_toLower_of_isRun isExponent.digits]
  have decimal := DecimalText.scientific isSignificand isExponent.sign isExponent.digits complete
  rw [← lowered, ← List.map_append, ← decimalValue_eq_numeralValue isExponent.digits] at decimal
  exact ⟨_, _, decimal, rfl⟩

end Literal
end SyntaxTree
