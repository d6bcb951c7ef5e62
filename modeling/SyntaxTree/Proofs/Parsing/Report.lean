import SyntaxTree.Proofs.Parsing.Seam
import SyntaxTree.Proofs.Text.Separated

/-!
# Reports of one line

The report of a diagnostic quotes the source, but never a newline: a stray
character is no blank, an illegal number has none in it, and octets that are not
well formed are written in digits.  So every report is one line.
-/

namespace SyntaxTree

open Number Source Text

/-! ## Illegal numbers -/

namespace Literal

namespace OutsideNumbers

variable
  {character : Char}
  (outside : OutsideNumbers character)

include outside

theorem not_mem_word
    {word : List Char}
    (isWord : IsRun isWordCharacter word) :
    character ∉ word := by
  intro member
  have inWord := isWord character member
  rw [outside.notWord] at inWord
  contradiction

theorem not_mem_digits
    {digits : List Char}
    (isDigits : IsRun isDecimalDigit digits) :
    character ∉ digits :=
  outside.not_mem_word fun digit member =>
    isWordCharacter_of_isDecimalDigit digit (isDigits digit member)

theorem not_mem_fraction
    {fractionText : List Char}
    (isFraction : IsFraction fractionText) :
    character ∉ fractionText := by
  cases isFraction with
  | missing => exact List.not_mem_nil
  | point isPlaces =>
      rw [List.mem_cons, not_or]
      exact ⟨outside.notPoint, outside.not_mem_digits isPlaces⟩

theorem not_mem_sign
    {exponent : Exponent}
    (isExponent : exponent.WellFormed) :
    character ∉ exponent.sign := by
  have notSign := outside.notSign
  intro member
  rcases isExponent.sign with none | plus | minus
  · rw [none] at member
    exact List.not_mem_nil member
  · rw [plus, List.mem_singleton] at member
    subst member
    contradiction
  · rw [minus, List.mem_singleton] at member
    subst member
    contradiction

end OutsideNumbers

/-- An illegal number is reported without the characters that stand outside
numbers. -/
theorem NumberLexeme.not_mem_report
    {first : Char}
    {tail following report : List Char}
    {form : NumberForm}
    (number : NumberLexeme first tail (.error (.illegalNumber form report)) following)
    (isDigit : isDecimalDigit first = true)
    {character : Char}
    (outside : OutsideNumbers character) :
    character ∉ report := by
  have notFirst : character ≠ first := by
    rintro rfl
    rw [outside.notDigit] at isDigit
    contradiction
  generalize isReading : Reading.error (.illegalNumber form report) = reading at number
  cases number with
  | @hexadecimal letter word _ zero marker isWord ends =>
      have inWord : isWordCharacter letter = true := by
        rcases marker with rfl | rfl <;> decide
      have isMarkedWord : IsRun isWordCharacter (letter :: word) :=
        (isRun_cons _ _ _).mpr ⟨inWord, isWord⟩
      rw [text_of_integerReading isReading.symm, ← zero, List.mem_cons, not_or]
      exact ⟨notFirst, outside.not_mem_word isMarkedWord⟩
  | integer isDigits ends noFloat =>
      rw [text_of_digitsReading isReading.symm, List.mem_cons, not_or]
      exact ⟨notFirst, outside.not_mem_digits isDigits⟩
  | glued isDigits noDigit noExponent noMarker isWord ends =>
      cases isReading
      rw [List.mem_cons, List.mem_append, not_or, not_or]
      exact ⟨notFirst, outside.not_mem_digits isDigits, outside.not_mem_word isWord⟩
  | brokenExponent isDigits isFraction isExponent incomplete isWord exponentEnds ends =>
      cases isReading
      have notLetter : character ≠ 'e' := by
        rintro rfl
        exact absurd outside.notWord (by decide)
      simp only [List.cons_append, List.mem_cons, List.mem_append, not_or]
      exact ⟨notFirst, ⟨⟨outside.not_mem_digits isDigits, outside.not_mem_fraction isFraction⟩,
        notLetter, outside.not_mem_sign isExponent⟩, outside.not_mem_word isWord⟩
  | _ => contradiction

end Literal

/-! ## Messages -/

/-- The message about a lexeme that is no token is one line. -/
theorem Segment.Lexeme.oneLine_message
    {lexeme following : List Char}
    {cause : LexicalError}
    (described : Lexeme lexeme (.error cause) following) :
    OneLine cause.message := by
  generalize isReading : Reading.error cause = reading at described
  cases described with
  | unterminated unclosed =>
      cases isReading
      decide +kernel
  | number isDigit number =>
      subst isReading
      cases number.isNumberReading with
      | illegal form report =>
          have newline := Literal.NumberLexeme.not_mem_report number isDigit
            (outsideNumbers_of_isBlank (rfl : isBlank '\n' = true))
          have adjective : OneLine form.adjective := by
            cases form <;> decide +kernel
          unfold LexicalError.message
          rw [oneLine_append, oneLine_append, oneLine_append, oneLine_append]
          exact ⟨⟨⟨⟨by decide, adjective⟩, by decide⟩, oneLine_ofList.mpr newline⟩, by decide⟩
  | stray stray ends =>
      cases isReading
      unfold LexicalError.message
      rw [oneLine_append, oneLine_append]
      refine ⟨⟨by decide +kernel, ?_⟩, by decide⟩
      intro member
      rw [String.toList_singleton, List.mem_singleton] at member
      subst member
      exact absurd stray.notBlank (by decide)
  | _ => contradiction

namespace TokenLines

theorem oneLine_octetText (octet : UInt8) : OneLine (IllFormed.octetText octet) := by
  have digits : ∀ number < 256, '\n' ∉ (Nat.toDigits 16 number).map Char.toUpper := by
    decide +kernel
  unfold IllFormed.octetText
  rw [oneLine_append]
  refine ⟨by decide, ?_⟩
  rw [oneLine_ofList, List.mem_append, not_or]
  refine ⟨?_, digits _ octet.toNat_lt⟩
  intro member
  exact absurd (List.eq_of_mem_replicate member) (by decide)

/-- The message about octets that are not well formed is one line. -/
theorem oneLine_illFormed (illFormed : IllFormed) : OneLine illFormed.message := by
  unfold IllFormed.message
  rw [oneLine_append]
  refine ⟨by decide +kernel, oneLine_intercalate (by decide) ?_⟩
  intro text member
  obtain ⟨octet, -, rfl⟩ := List.mem_map.mp member
  exact oneLine_octetText octet

/-- Messages about parsed octets are one line each. -/
theorem oneLine_message_of_mem
    {octets : List UInt8}
    {found : Diagnostic}
    (member : found ∈ (parseOctets octets).value.diagnostics) :
    OneLine found.message := by
  rw [parseOctets_value, (Diagnostic.perm_sortByLine _).mem_iff] at member
  rcases List.mem_append.mp member with decoding | scanning
  · obtain ⟨illFormed, -, rfl⟩ := List.mem_map.mp decoding
    exact oneLine_illFormed illFormed
  · obtain ⟨error, errorMember, rfl⟩ := List.mem_map.mp scanning
    obtain ⟨lexeme, following, described⟩ :=
      Segment.lexeme_of_mem_found Segment.eq_error_of_error? errorMember
    exact described.oneLine_message

/-- The report of a diagnostic about parsed octets is its only line. -/
theorem lines_text_of_mem
    {octets : List UInt8}
    {found : Diagnostic}
    (member : found ∈ (parseOctets octets).value.diagnostics) :
    OneLine found.text ∧ lines found.text = [found.text] := by
  have oneLine : OneLine found.text := by
    have phase : OneLine (String.singleton found.phase.code) := by
      cases found.phase <;> decide
    unfold Diagnostic.text
    rw [oneLine_append, oneLine_append, oneLine_append, oneLine_append, oneLine_append,
      oneLine_append]
    exact ⟨⟨⟨⟨⟨⟨by decide, phase⟩, by decide⟩, oneLine_toString_nat _⟩, by decide⟩,
      oneLine_message_of_mem member⟩, by decide⟩
  refine ⟨oneLine, lines_of_oneLine oneLine ?_⟩
  unfold Diagnostic.text
  rw [String.toList_append]
  change (_ ++ ['.']).getLast? ≠ _
  rw [List.getLast?_concat]
  decide

end TokenLines
end SyntaxTree
