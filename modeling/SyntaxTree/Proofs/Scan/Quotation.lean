import SyntaxTree.Proofs.Scan.Partition

/-!
# What errors quote

The message about a stray character or an illegal number quotes it.  The quoted
text is the lexeme that was read, character for character, with one exception:
the letter of an exponent without digits is quoted in lower case.
-/

namespace SyntaxTree

open Number

/-! ## Quoted text -/

namespace LexicalError

/-- The mark in front of a quoted text and behind it. -/
def quotationMark : Char := '\x27'

/-- Text between the first and the last quotation mark of a message. -/
def quoted (message : String) : List Char :=
  let opened := (message.toList.dropWhile (· != quotationMark)).tail
  (opened.reverse.dropWhile (· != quotationMark)).tail.reverse

/-- What stands between two marks is quoted, also if it is a mark itself. -/
theorem quoted_eq
    {message : String}
    {opening text : List Char}
    (written : message.toList = opening ++ quotationMark :: (text ++ [quotationMark]))
    (unquoted : quotationMark ∉ opening) :
    quoted message = text := by
  have isRun : IsRun (· != quotationMark) opening := by
    intro character member
    simpa using ne_of_mem_of_not_mem member unquoted
  have opened : (message.toList.dropWhile (· != quotationMark)) =
      quotationMark :: (text ++ [quotationMark]) := by
    rw [written, dropWhile_run isRun (by simp)]
  simp [quoted, opened]

theorem quoted_strayCharacter (character : Char) :
    quoted (message (.strayCharacter character)) = [character] := by
  have unquoted : quotationMark ∉ "Mysterious character ".toList := by decide
  have mark : "Mysterious character '".toList =
      "Mysterious character ".toList ++ [quotationMark] := by decide
  refine quoted_eq ?_ unquoted
  unfold message
  rw [String.toList_append, String.toList_append, String.toList_singleton, mark]
  simp only [List.append_assoc, List.singleton_append]
  rfl

theorem quoted_illegalNumber (form : NumberForm) (text : List Char) :
    quoted (message (.illegalNumber form text)) = text := by
  have unquoted : quotationMark ∉ ("Illegal " ++ form.adjective ++ "number ").toList := by
    cases form <;> decide
  have mark : "number '".toList = "number ".toList ++ [quotationMark] := by decide
  refine quoted_eq ?_ unquoted
  unfold message
  simp only [String.toList_append, String.toList_ofList, mark, List.append_assoc]
  rfl

end LexicalError

/-! ## Quoted numbers -/

namespace Literal

/-- Whether a character can stand before the exponent of a number. -/
def isMantissaCharacter (character : Char) : Bool :=
  isDecimalDigit character || character == '.'

/-- The text with the capital letter of an exponent behind digits and points in
lower case. -/
def withLowerExponent (text : List Char) : List Char :=
  match text.dropWhile isMantissaCharacter with
  | 'E' :: behind => text.takeWhile isMantissaCharacter ++ 'e' :: behind
  | _ => text

/-- Whether a capital exponent letter stands behind digits and points. -/
def HasCapitalExponent (text : List Char) : Prop :=
  (text.dropWhile isMantissaCharacter).head? = some 'E'

instance (text : List Char) : Decidable (HasCapitalExponent text) :=
  inferInstanceAs (Decidable (_ = _))

/-- Digits and points alone stay as they are. -/
theorem withLowerExponent_mantissa
    {mantissa : List Char}
    (isMantissa : IsRun isMantissaCharacter mantissa) :
    withLowerExponent mantissa = mantissa ∧ ¬ HasCapitalExponent mantissa := by
  have nothingBehind : mantissa.dropWhile isMantissaCharacter = [] :=
    List.dropWhile_eq_nil_iff.mpr isMantissa
  simp [withLowerExponent, HasCapitalExponent, nothingBehind]

/-- The first character that is neither a digit nor a point is written in lower
case if it is the capital exponent letter. -/
theorem withLowerExponent_append
    {mantissa : List Char}
    (isMantissa : IsRun isMantissaCharacter mantissa)
    {letter : Char}
    (ends : isMantissaCharacter letter = false)
    (behind : List Char) :
    withLowerExponent (mantissa ++ letter :: behind) =
        mantissa ++ (if letter = 'E' then 'e' else letter) :: behind ∧
      (HasCapitalExponent (mantissa ++ letter :: behind) ↔ letter = 'E') := by
  have runEnds : RunEnds isMantissaCharacter (letter :: behind) := by simpa using ends
  unfold withLowerExponent HasCapitalExponent
  rw [dropWhile_run isMantissa runEnds, takeWhile_run isMantissa runEnds]
  refine ⟨?_, by simp⟩
  split
  · rename_i rest starts
    obtain ⟨rfl, rfl⟩ := List.cons.inj starts
    rfl
  · rename_i noCapital
    rw [if_neg]
    rintro rfl
    exact noCapital behind rfl

/-- A text is changed exactly if it has a capital exponent letter. -/
theorem withLowerExponent_eq_self_iff (text : List Char) :
    withLowerExponent text = text ↔ ¬ HasCapitalExponent text := by
  obtain ⟨mantissa, following, rfl, isMantissa, ends⟩ := exists_run isMantissaCharacter text
  cases following with
  | nil =>
      rw [List.append_nil]
      obtain ⟨same, notCapital⟩ := withLowerExponent_mantissa isMantissa
      exact iff_of_true same notCapital
  | cons letter behind =>
      obtain ⟨lowered, capital⟩ :=
        withLowerExponent_append isMantissa ((runEnds_cons _ _ _).mp ends) behind
      rw [lowered, capital]
      by_cases isCapital : letter = 'E'
      · subst isCapital
        simp
      · simp [isCapital]

theorem isMantissaCharacter_of_isDecimalDigit
    (character : Char)
    (digit : isDecimalDigit character = true) :
    isMantissaCharacter character = true := by
  rw [isMantissaCharacter, digit, Bool.true_or]

theorem isMantissaCharacter_of_letter
    {letter : Char}
    (inWord : isWordCharacter letter = true)
    (noDigit : isDecimalDigit letter = false) :
    isMantissaCharacter letter = false := by
  rw [isMantissaCharacter, noDigit, Bool.false_or]
  exact beq_false_of_ne (ne_point_of_isWordCharacter inWord)

theorem IsFraction.isMantissa
    {fractionText : List Char}
    (isFraction : IsFraction fractionText) :
    IsRun isMantissaCharacter fractionText := by
  cases isFraction with
  | missing => exact isRun_nil _
  | point isPlaces =>
      rw [isRun_cons]
      exact ⟨rfl, fun character member =>
        isMantissaCharacter_of_isDecimalDigit character (isPlaces character member)⟩

/-- An illegal number is reported as it stands in the text, only with the letter
of its exponent in lower case. -/
theorem NumberLexeme.report_eq
    {first : Char}
    {tail following report : List Char}
    {form : NumberForm}
    (isDigit : isDecimalDigit first = true)
    (number : NumberLexeme first tail (.error (.illegalNumber form report)) following) :
    report = withLowerExponent (first :: tail) := by
  have isMantissa : ∀ {digits}, IsRun isDecimalDigit digits →
      IsRun isMantissaCharacter (first :: digits) := by
    intro digits isDigits character member
    rcases List.mem_cons.mp member with rfl | inDigits
    · exact isMantissaCharacter_of_isDecimalDigit _ isDigit
    · exact isMantissaCharacter_of_isDecimalDigit _ (isDigits character inDigits)
  generalize isReading : Reading.error (.illegalNumber form report) = reading at number
  cases number with
  | @hexadecimal letter word _ zero marker isWord ends =>
      have noCapital : ¬ letter = 'E' := by
        rcases marker with rfl | rfl <;> decide
      have ends : isMantissaCharacter letter = false := by
        rcases marker with rfl | rfl <;> decide
      have kept := (withLowerExponent_append (isMantissa (isRun_nil _)) ends word).1
      rw [if_neg noCapital] at kept
      rw [text_of_integerReading isReading.symm, ← zero]
      exact kept.symm
  | integer isDigits ends noFloat =>
      rw [text_of_digitsReading isReading.symm]
      exact (withLowerExponent_mantissa (isMantissa isDigits)).1.symm
  | @glued letter digits word _ isDigits noDigit noExponent noMarker isWord ends =>
      cases isReading
      have noCapital : ¬ letter = 'E' := by
        rintro rfl
        exact absurd noExponent (by decide)
      have ends := isMantissaCharacter_of_letter (isWord letter List.mem_cons_self) noDigit
      have kept := (withLowerExponent_append (isMantissa isDigits) ends word).1
      rw [if_neg noCapital] at kept
      exact kept.symm
  | @brokenExponent digits fractionText word _ exponent isDigits isFraction isExponent incomplete
      isWord exponentEnds ends =>
      cases isReading
      have letters : exponent.letter = 'e' ∨ exponent.letter = 'E' := by
        simpa [isExponentLetter] using isExponent.letter
      have ends : isMantissaCharacter exponent.letter = false := by
        rcases letters with lower | upper
        · rw [lower]
          rfl
        · rw [upper]
          rfl
      have lower : (if exponent.letter = 'E' then 'e' else exponent.letter) = 'e' := by
        rcases letters with lower | upper
        · rw [lower]
          rfl
        · rw [upper, if_pos rfl]
      have isFront : IsRun isMantissaCharacter (first :: digits ++ fractionText) := by
        intro character member
        rcases List.mem_append.mp member with inDigits | inFraction
        · exact isMantissa isDigits character inDigits
        · exact isFraction.isMantissa character inFraction
      have lowered := (withLowerExponent_append isFront ends (exponent.sign ++ word)).1
      rw [lower] at lowered
      simpa [Exponent.text, incomplete] using lowered.symm
  | _ => contradiction

end Literal

namespace Segment

open LexicalError Literal Source

/-! ## Errors of a scan -/

/-- The message about a lexeme quotes it, only with a capital exponent letter in
lower case. -/
theorem Lexeme.quoted_message
    {lexeme following : List Char}
    {cause : LexicalError}
    (described : Lexeme lexeme (.error cause) following)
    (notOpen : cause ≠ .unterminatedComment) :
    quoted cause.message = withLowerExponent lexeme := by
  generalize isReading : Reading.error cause = reading at described
  cases described with
  | unterminated unclosed =>
      cases isReading
      contradiction
  | number isDigit number =>
      subst isReading
      cases number.isNumberReading with
      | illegal form report => rw [quoted_illegalNumber, number.report_eq isDigit]
  | @stray character following stray ends =>
      cases isReading
      have notCapital : ¬ HasCapitalExponent [character] := by
        intro capital
        have member := (List.dropWhile_sublist _).subset (List.mem_of_head? capital)
        rw [List.mem_singleton] at member
        subst member
        exact absurd stray.notWord (by decide)
      rw [quoted_strayCharacter, (withLowerExponent_eq_self_iff _).mpr notCapital]
  | _ => contradiction

/-- Every error but that of an open comment quotes the text that was read where
the error is reported.  The quotation is exact unless a capital letter opens an
exponent without digits, which is quoted in lower case. -/
theorem quoted_of_error
    {source : String}
    {error : Located LexicalError}
    (member : error ∈ TokenLines.errors (scan source.toList))
    (notOpen : error.value ≠ .unterminatedComment) :
    ∃ before lexeme after,
      scan source.toList = before ++ ⟨⟨lexeme, .error error.value⟩, error.position⟩ :: after ∧
        source.toList = covered before ++ lexeme ++ covered after ∧
        error.position = Position.behind (covered before) ∧
        quoted error.value.message = withLowerExponent lexeme ∧
        (quoted error.value.message = lexeme ↔ ¬ HasCapitalExponent lexeme) := by
  obtain ⟨before, lexeme, after, split⟩ := exists_split_of_mem_errors member
  have stands := standsBetween_of_scan split
  have quotes := stands.lexeme.quoted_message notOpen
  refine ⟨before, lexeme, after, split, ?_, stands.position, quotes, ?_⟩
  · have whole := congrArg covered split
    rwa [scan, covered_scanFrom, covered_append, covered_cons, ← List.append_assoc] at whole
  · rw [quotes]
    exact withLowerExponent_eq_self_iff lexeme

/-- A stray quotation mark is quoted between two others. -/
theorem quoted_of_error_mark :
    let error : Located LexicalError := ⟨.strayCharacter quotationMark, ⟨2, 3⟩⟩
    error ∈ TokenLines.errors (scan "1e\n+ '".toList) ∧
      error.value ≠ .unterminatedComment ∧
      error.value.message = "Mysterious character '''" ∧
      ∃ before lexeme after,
        scan "1e\n+ '".toList =
            before ++ ⟨⟨lexeme, .error error.value⟩, error.position⟩ :: after ∧
          error.position = Position.behind (covered before) ∧
          quoted error.value.message = withLowerExponent lexeme := by
  intro error
  have member : error ∈ TokenLines.errors (scan "1e\n+ '".toList) := by decide +kernel
  obtain ⟨before, lexeme, after, split, -, positioned, quotes, -⟩ :=
    quoted_of_error member (by decide)
  exact ⟨member, by decide, by decide +kernel, before, lexeme, after, split, positioned, quotes⟩

/-- The exponent letter of this number is not quoted as it stands. -/
theorem quoted_of_error_capitalExponent :
    ¬ ∀ (source : String) (error : Located LexicalError),
      error ∈ TokenLines.errors (scan source.toList) → error.value ≠ .unterminatedComment →
      ∃ before lexeme after,
        scan source.toList = before ++ ⟨⟨lexeme, .error error.value⟩, error.position⟩ :: after ∧
          quoted error.value.message = lexeme := by
  intro quotesExactly
  have scanned : scan "1E".toList =
      [⟨⟨['1', 'E'], .error (.illegalNumber .floatingPoint ['1', 'e'])⟩, ⟨1, 1⟩⟩] := by
    decide +kernel
  have member : ⟨.illegalNumber .floatingPoint ['1', 'e'], ⟨1, 1⟩⟩ ∈
      TokenLines.errors (scan "1E".toList) := by
    rw [scanned]
    decide
  obtain ⟨before, lexeme, after, split, quotes⟩ := quotesExactly "1E" _ member (by decide)
  rw [scanned] at split
  cases before with
  | nil =>
      have read : ['1', 'E'] = lexeme := congrArg (·.value.lexeme) (List.cons.inj split).1
      rw [quoted_illegalNumber, ← read] at quotes
      exact absurd quotes (by decide)
  | cons first before => simp at split

end Segment
end SyntaxTree
