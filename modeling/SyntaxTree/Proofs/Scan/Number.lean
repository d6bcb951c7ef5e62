import SyntaxTree.Proofs.Lexeme.Numeral
import SyntaxTree.Proofs.Scan.Partition

/-!
# Number literals in a source text

Where a scan meets a digit, the text that follows decides which kind of literal
stands there and how far it reaches.  Integers in every radix take all word
characters behind them, so letters glued to them make them illegal.  Floating-point
literals do not: they end behind their last digit.
-/

namespace SyntaxTree
namespace Literal

open Number

/-! ## The grammar of number literals -/

/-- The longest run of a class at the front of a text, and what follows it. -/
structure LongestRun (belongs : Char → Bool) (text run following : List Char) : Prop where
  text_eq : text = run ++ following
  isRun : IsRun belongs run
  ends : RunEnds belongs following

/-- A text that makes digits before it a floating-point literal: an exponent letter, or
a point with a digit or an exponent letter behind it. -/
def OpensFloat (text : List Char) : Prop :=
  (∃ letter following, text = letter :: following ∧ isExponentLetter letter = true) ∨
    ∃ next following, text = '.' :: next :: following ∧
      (isDecimalDigit next = true ∨ isExponentLetter next = true)

/-- Digits and perhaps a fraction, each as long as possible, at the front of a
floating-point literal. -/
structure FloatStart (text digits fractionText following : List Char) : Prop where
  run : LongestRun isDecimalDigit text digits (fractionText ++ following)
  opens : OpensFloat (fractionText ++ following)
  isFraction : IsFraction fractionText
  fractionEnds : FractionEnds fractionText following

/-- What the grammar of number literals says about a lexeme at the front of a text that
starts with a digit. -/
structure NumberRules (text lexeme : List Char) (reading : Reading) : Prop where
  /-- Behind `0x` the whole word is a numeral of radix sixteen. -/
  hexadecimal : ∀ letter rest word following,
    text = '0' :: letter :: rest → (letter = 'x' ∨ letter = 'X') →
    LongestRun isWordCharacter rest word following →
      lexeme = '0' :: letter :: word ∧ ReadsInteger .hexadecimal 16 lexeme word reading
  /-- A fraction without an exponent makes a floating-point number. -/
  fractional : ∀ digits fractionText following,
    FloatStart text digits fractionText following → RunEnds isExponentLetter following →
      lexeme = digits ++ fractionText ∧ ReadsFloat lexeme reading
  /-- So does an exponent that has digits. -/
  scientific : ∀ digits fractionText exponent following,
    FloatStart text digits fractionText (Exponent.text exponent ++ following) →
    exponent.WellFormed → exponent.Ends following → exponent.digits ≠ [] →
      lexeme = digits ++ fractionText ++ exponent.text ∧ ReadsFloat lexeme reading
  /-- An exponent without digits makes an error of all word characters behind it. -/
  brokenExponent : ∀ digits fractionText exponent rest word following,
    FloatStart text digits fractionText (Exponent.text exponent ++ rest) →
    exponent.WellFormed → exponent.Ends rest → exponent.digits = [] →
    LongestRun isWordCharacter rest word following →
      lexeme = digits ++ fractionText ++ exponent.text ++ word ∧
        reading = .error (.illegalNumber .floatingPoint
          (digits ++ fractionText ++ 'e' :: exponent.sign ++ word))
  /-- A letter or an underscore glued to other digits makes an error of the word. -/
  glued : ∀ digits rest word following,
    (∀ letter behind, text = '0' :: letter :: behind → ¬ (letter = 'x' ∨ letter = 'X')) →
    LongestRun isDecimalDigit text digits rest → ¬ OpensFloat rest →
    LongestRun isWordCharacter rest word following → word ≠ [] →
      lexeme = digits ++ word ∧ reading = .error (.illegalNumber .plain lexeme)
  /-- Other digits are a numeral of radix eight behind a leading zero, and of radix ten
  elsewhere. -/
  integer : ∀ digits following,
    LongestRun isDecimalDigit text digits following → ¬ OpensFloat following →
    RunEnds isWordCharacter following →
      lexeme = digits ∧
        if 1 < digits.length ∧ digits.head? = some '0' then
          ReadsInteger .octal 8 lexeme digits reading
        else
          ReadsInteger .decimal 10 lexeme digits reading

/-! ## Literals follow the grammar -/

theorem startsFloat_iff (text : List Char) : startsFloat text = true ↔ OpensFloat text := by
  have noLetter : isExponentLetter '.' = false := rfl
  cases text with
  | nil => simp [startsFloat, OpensFloat]
  | cons next following =>
      by_cases point : next = '.'
      · subst point
        cases following with
        | nil => simp [startsFloat, OpensFloat]
        | cons second following => simp [startsFloat, OpensFloat, noLetter]
      · simp [startsFloat_of_ne_point following point, OpensFloat, point]

/-- The longest run of digits in front of a digit starts with it. -/
theorem LongestRun.digits_cons
    {first : Char}
    {rest digits following : List Char}
    (isDigit : isDecimalDigit first = true)
    (run : LongestRun isDecimalDigit (first :: rest) digits following) :
    ∃ tail, digits = first :: tail ∧ IsRun isDecimalDigit tail ∧ rest = tail ++ following := by
  obtain ⟨text_eq, isRun, ends⟩ := run
  cases digits with
  | nil =>
      rw [List.nil_append] at text_eq
      rw [← text_eq, runEnds_cons, isDigit] at ends
      contradiction
  | cons digit tail =>
      obtain ⟨rfl, rest_eq⟩ := List.cons.inj text_eq
      exact ⟨tail, rfl, (isRun_cons _ _ _ |>.mp isRun).2, rest_eq⟩

/-- A text has one number literal at its front. -/
theorem NumberLexeme.unique
    {first : Char}
    {tail following otherTail behind : List Char}
    {reading otherReading : Reading}
    (number : NumberLexeme first tail reading following)
    (other : NumberLexeme first otherTail otherReading behind)
    (same : tail ++ following = otherTail ++ behind) :
    tail = otherTail ∧ reading = otherReading := by
  have readBack := number.read_eq
  rw [same, other.read_eq, Prod.mk.injEq] at readBack
  exact ⟨readBack.1.symm, readBack.2.symm⟩

/-- Digits are read in the radix that the grammar gives. -/
theorem readsInteger_digitsReading (first : Char) (digits : List Char) :
    if 1 < (first :: digits).length ∧ (first :: digits).head? = some '0' then
      ReadsInteger .octal 8 (first :: digits) (first :: digits) (digitsReading first digits)
    else
      ReadsInteger .decimal 10 (first :: digits) (first :: digits)
        (digitsReading first digits) := by
  by_cases octal : first = '0' ∧ digits ≠ []
  · obtain ⟨rfl, some⟩ := octal
    have behindZero := readsInteger_integerReading .octal (show 8 ≤ 16 by decide)
      ('0' :: digits) digits
    obtain ⟨numeral, value⟩ := numeral_zero_cons (show 0 < 8 by decide) some
    have positive := List.length_pos_iff.mpr some
    rw [if_pos ⟨by simpa using positive, rfl⟩, digitsReading, if_pos ⟨rfl, some⟩]
    exact ⟨by rw [numeral, value, behindZero.integer], by rw [value]; exact behindZero.payload,
      by rw [numeral, value]; exact behindZero.illegal⟩
  · rw [if_neg, digitsReading, if_neg octal]
    · exact readsInteger_integerReading .decimal (by decide) _ _
    · rintro ⟨longer, zero⟩
      refine octal ⟨Option.some_inj.mp zero, ?_⟩
      rintro rfl
      simp at longer

/-- Every number literal follows the grammar. -/
theorem NumberLexeme.rules
    {first : Char}
    {tail following : List Char}
    {reading : Reading}
    (isDigit : isDecimalDigit first = true)
    (number : NumberLexeme first tail reading following) :
    NumberRules (first :: (tail ++ following)) (first :: tail) reading := by
  -- The parts that a rule names describe a literal, and a text has only one.
  constructor
  case hexadecimal =>
    rintro letter rest word behind text_eq marker ⟨rfl, isWord, ends⟩
    obtain ⟨rfl, same⟩ := List.cons.inj text_eq
    obtain ⟨rfl, rfl⟩ := number.unique (.hexadecimal rfl marker isWord ends) same
    exact ⟨rfl, readsInteger_integerReading _ (by decide) _ _⟩
  case fractional =>
    rintro digits fractionText behind ⟨run, opens, isFraction, fractionEnds⟩ noExponent
    obtain ⟨digits, rfl, isDigits, same⟩ := run.digits_cons isDigit
    obtain ⟨places, rfl, isPlaces, somePlaces⟩ :=
      isFraction.exists_places fractionEnds ((startsFloat_iff _).mpr opens) noExponent
    simp only [FractionEnds, reduceCtorEq, if_false] at fractionEnds
    rw [← List.append_assoc] at same
    obtain ⟨rfl, rfl⟩ := number.unique
      (.fractional isDigits isPlaces somePlaces fractionEnds noExponent) same
    exact ⟨rfl, isFraction.readsFloat run.isRun (List.cons_ne_nil _ _)⟩
  case scientific =>
    rintro digits fractionText exponent behind ⟨run, -, isFraction, -⟩ isExponent ends complete
    obtain ⟨digits, rfl, isDigits, same⟩ := run.digits_cons isDigit
    rw [← List.append_assoc, ← List.append_assoc] at same
    obtain ⟨rfl, rfl⟩ := number.unique
      (.scientific isDigits isFraction isExponent complete ends.digits) same
    exact ⟨by simp, isExponent.readsFloat complete isFraction run.isRun (List.cons_ne_nil _ _)⟩
  case brokenExponent =>
    rintro digits fractionText exponent rest word behind ⟨run, -, isFraction, -⟩ isExponent
      exponentEnds incomplete ⟨rfl, isWord, ends⟩
    obtain ⟨digits, rfl, isDigits, same⟩ := run.digits_cons isDigit
    rw [← List.append_assoc, ← List.append_assoc, ← List.append_assoc] at same
    obtain ⟨rfl, rfl⟩ := number.unique
      (.brokenExponent isDigits isFraction isExponent incomplete isWord exponentEnds ends) same
    exact ⟨by simp, rfl⟩
  case glued =>
    rintro digits rest word behind noMarker run noFloat ⟨rfl, isWord, ends⟩ someWord
    obtain ⟨digits, rfl, isDigits, same⟩ := run.digits_cons isDigit
    obtain ⟨letter, word, rfl⟩ := List.exists_cons_of_ne_nil someWord
    have noDigit := run.ends
    rw [List.cons_append, runEnds_cons] at noDigit
    have noExponent : isExponentLetter letter = false := by
      rw [← Bool.not_eq_true]
      exact fun isLetter => noFloat (.inl ⟨letter, _, rfl, isLetter⟩)
    have unmarked : ¬ (first = '0' ∧ digits = [] ∧ (letter = 'x' ∨ letter = 'X')) := by
      rintro ⟨rfl, rfl, marker⟩
      exact noMarker letter _ (congrArg _ same) marker
    rw [← List.append_assoc] at same
    obtain ⟨rfl, rfl⟩ := number.unique
      (.glued isDigits noDigit noExponent unmarked isWord ends) same
    exact ⟨rfl, rfl⟩
  case integer =>
    rintro digits behind run noFloat ends
    obtain ⟨digits, rfl, isDigits, same⟩ := run.digits_cons isDigit
    rw [← startsFloat_iff, Bool.not_eq_true] at noFloat
    obtain ⟨rfl, rfl⟩ := number.unique (.integer isDigits ends noFloat) same
    exact ⟨rfl, readsInteger_digitsReading first _⟩

/-- Only floating-point numbers stand directly before a word character, and no number
stands directly before a digit. -/
theorem NumberLexeme.ends
    {first : Char}
    {tail following : List Char}
    {reading : Reading}
    (number : NumberLexeme first tail reading following) :
    RunEnds isDecimalDigit following ∧
      ((∀ value, reading ≠ .token (.real value)) → RunEnds isWordCharacter following) := by
  have weaker : RunEnds isWordCharacter following → RunEnds isDecimalDigit following :=
    fun ends => ends.mono isWordCharacter_of_isDecimalDigit
  cases number with
  | hexadecimal zero marker isWord ends => exact ⟨weaker ends, fun _ => ends⟩
  | integer isDigits ends noFloat => exact ⟨weaker ends, fun _ => ends⟩
  | glued isDigits noDigit noExponent noMarker isWord ends => exact ⟨weaker ends, fun _ => ends⟩
  | fractional isDigits isPlaces somePlaces ends noExponent =>
      exact ⟨ends, fun notReal => absurd rfl (notReal _)⟩
  | scientific isDigits isFraction isExponent complete ends =>
      exact ⟨ends, fun notReal => absurd rfl (notReal _)⟩
  | brokenExponent isDigits isFraction isExponent incomplete isWord exponentEnds ends =>
      exact ⟨weaker ends, fun _ => ends⟩

end Literal

namespace Segment

open Literal Number Source

/-! ## Literals in a scan -/

/-- A lexeme that starts with a digit is a number literal. -/
theorem Lexeme.number_of_isDecimalDigit
    {first : Char}
    {tail following : List Char}
    {reading : Reading}
    (described : Lexeme (first :: tail) reading following)
    (isDigit : isDecimalDigit first = true) :
    NumberLexeme first tail reading following := by
  obtain ⟨otherTail, otherReading, behind, split, number⟩ :=
    exists_numberLexeme first (tail ++ following)
  obtain ⟨same, rfl, rfl⟩ := described.unique (.number isDigit number) (congrArg (first :: ·) split)
  rwa [(List.cons.inj same).2]

/-- A lexeme that is read as a number is a number literal. -/
theorem Lexeme.number_of_isNumberReading
    {lexeme following : List Char}
    {reading : Reading}
    (described : Lexeme lexeme reading following)
    (isNumber : IsNumberReading reading) :
    ∃ first tail, NumberLexeme first tail reading following := by
  cases described with
  | number isDigit number => exact ⟨_, _, number⟩
  | @word first tail following isStart isWord ends =>
      have noNumber : ∀ word, ¬ IsNumberReading (.token (Token.ofWord word)) := by
        intro word isNumber
        unfold Token.ofWord at isNumber
        split at isNumber <;> cases isNumber
      exact absurd isNumber (noNumber _)
  | _ => cases isNumber

/-- Wherever a segment starts with a digit, it is the literal that the grammar gives for
the rest of the source. -/
theorem numberRules_of_scan
    {source : String}
    {before after : List (Located Segment)}
    {segment : Located Segment}
    (split : scan source.toList = before ++ segment :: after)
    (startsWithDigit : ∃ first ∈ segment.value.lexeme.head?, isDecimalDigit first = true) :
    ∃ text, source.toList = covered before ++ text ∧
      NumberRules text segment.value.lexeme segment.value.reading := by
  obtain ⟨first, isFirst, isDigit⟩ := startsWithDigit
  obtain ⟨tail, starts⟩ := List.head?_eq_some_iff.mp isFirst
  have described := (standsBetween_of_scan split).lexeme
  rw [starts] at described
  refine ⟨segment.value.lexeme ++ covered after, ?_, ?_⟩
  · rw [← covered_cons, ← covered_append, ← split, scan, covered_scanFrom]
  · rw [starts]
    exact (described.number_of_isDecimalDigit isDigit).rules isDigit

/-- The greatest word is read as a negative number. -/
theorem numberRules_of_scan_greatestWord :
    let segment : Located Segment :=
      ⟨⟨"0xFFFFFFFF".toList, .token (.integer (-1))⟩, ⟨1, 2⟩⟩
    scan "-0xFFFFFFFF".toList = [⟨⟨['-'], .token (.mark .minus)⟩, ⟨1, 1⟩⟩] ++ [segment] ∧
      ReadsInteger .hexadecimal 16 segment.value.lexeme "FFFFFFFF".toList
        segment.value.reading := by
  intro segment
  have scanned : scan "-0xFFFFFFFF".toList =
      [⟨⟨['-'], .token (.mark .minus)⟩, ⟨1, 1⟩⟩] ++ [segment] := by
    decide +kernel
  obtain ⟨text, source, rules⟩ := numberRules_of_scan scanned ⟨'0', rfl, rfl⟩
  have starts : text = '0' :: 'x' :: "FFFFFFFF".toList := (List.cons.inj source).2.symm
  have word : LongestRun isWordCharacter "FFFFFFFF".toList "FFFFFFFF".toList [] :=
    ⟨rfl, List.all_eq_true.mp rfl, runEnds_nil _⟩
  exact ⟨scanned, (rules.hexadecimal 'x' _ _ [] starts (.inl rfl) word).2⟩

/-! ## Letters behind a literal -/

theorem isWordStart_of_isWordCharacter
    {character : Char}
    (inWord : isWordCharacter character = true)
    (noDigit : isDecimalDigit character = false) :
    isWordStart character = true := by
  have notDigit : character.isDigit = false := noDigit
  simpa [isWordCharacter, isWordStart, Char.isAlphanum, notDigit] using inWord

/-- No integer and no illegal number stands directly before a letter, a digit or an
underscore.  A floating-point number stands directly before no digit, but a letter or
an underscore may follow it, and then opens a word of its own. -/
theorem boundary_of_number
    {source : String}
    {before after : List (Located Segment)}
    {segment : Located Segment}
    (split : scan source.toList = before ++ segment :: after) :
    (∀ value, segment.value.reading = .token (.integer value) →
      RunEnds isWordCharacter (covered after)) ∧
    (∀ form text, segment.value.reading = .error (.illegalNumber form text) →
      RunEnds isWordCharacter (covered after)) ∧
    ∀ value, segment.value.reading = .token (.real value) →
      RunEnds isDecimalDigit (covered after) ∧
        ∀ letter ∈ (covered after).head?, isWordCharacter letter = true →
          ∃ word rest,
            IsRun isWordCharacter word ∧ RunEnds isWordCharacter (covered rest) ∧
              after = ⟨⟨letter :: word, .token (Token.ofWord (String.ofList (letter :: word)))⟩,
                segment.position.after segment.value.lexeme⟩ :: rest := by
  obtain ⟨following, described, -, rfl⟩ := scanFrom_split split
  rw [covered_scanFrom]
  have ends : IsNumberReading segment.value.reading → RunEnds isDecimalDigit following ∧
      ((∀ value, segment.value.reading ≠ .token (.real value)) →
        RunEnds isWordCharacter following) := by
    intro isNumber
    obtain ⟨first, tail, number⟩ := described.number_of_isNumberReading isNumber
    exact number.ends
  refine ⟨fun value isInteger => ?integer, fun form text isIllegal => ?illegal,
    fun value isReal => ?real⟩
  case integer => exact (ends (isInteger ▸ .integer value)).2 (by simp [isInteger])
  case illegal => exact (ends (isIllegal ▸ .illegal form text)).2 (by simp [isIllegal])
  case real =>
    have noDigit := (ends (isReal ▸ .real value)).1
    refine ⟨noDigit, fun letter isNext inWord => ?_⟩
    have isStart := isWordStart_of_isWordCharacter inWord (noDigit letter isNext)
    obtain ⟨behind, rfl⟩ := List.head?_eq_some_iff.mp isNext
    obtain ⟨word, rest, rfl, isWord, wordEnds⟩ := exists_run isWordCharacter behind
    have scanned := (Lexeme.word isStart isWord wordEnds).scanFrom_append
      (segment.position.after segment.value.lexeme)
    refine ⟨word, _, isWord, ?_, scanned⟩
    rwa [covered_scanFrom]

/-- Behind an exponent an underscore opens a word. -/
theorem boundary_of_number_exponent :
    let number : Located Segment :=
      ⟨⟨['2', 'e', '5'], .token (.real (.ofDecimal 2 5))⟩, ⟨1, 1⟩⟩
    let word : Located Segment := ⟨⟨['_', 'a'], .token (.identifier "_a")⟩, ⟨1, 4⟩⟩
    scan "2e5_a".toList = [] ++ number :: [word] ∧ RunEnds isDecimalDigit (covered [word]) := by
  intro number word
  have scanned : scan "2e5_a".toList = [] ++ number :: [word] := by decide +kernel
  exact ⟨scanned, ((boundary_of_number scanned).2.2 _ rfl).1⟩

/-- A letter directly behind a fraction is split off. -/
theorem boundary_of_number_letterSplitOff :
    ¬ ∀ (source : String) (before after : List (Located Segment)) (segment : Located Segment),
      scan source.toList = before ++ segment :: after →
      (∃ value, segment.value.reading = .token (.integer value)) ∨
        (∃ value, segment.value.reading = .token (.real value)) →
      RunEnds isWordCharacter (covered after) := by
  intro keptTogether
  have scanned : scan "1.5x".toList =
      [] ++ ⟨⟨['1', '.', '5'], .token (.real (.ofDecimal 15 (-1)))⟩, ⟨1, 1⟩⟩ ::
        [⟨⟨['x'], .token (.identifier "x")⟩, ⟨1, 4⟩⟩] := by
    decide +kernel
  have ends := keptTogether _ _ _ _ scanned (.inr ⟨_, rfl⟩)
  exact absurd (ends 'x' rfl) (by decide)

end Segment
end SyntaxTree
