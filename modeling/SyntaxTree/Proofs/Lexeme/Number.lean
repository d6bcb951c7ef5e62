import Mathlib.Data.List.TakeWhile
import SyntaxTree.Token.Literal

/-!
# Lexemes of number literals

This module describes number literals by their parts instead of by a scan.  A
literal stands in front of a following text, and every run of digits and every
word inside it is maximal there.  The reader of number literals finds such a
description on every text, and a description determines what is read.
-/

namespace SyntaxTree

open Number

/-! ## Runs of characters -/

/-- No character of a class stands at the front of a text. -/
def RunEnds
    (belongs : Char → Bool)
    (following : List Char) : Prop :=
  ∀ next ∈ following.head?, belongs next = false

/-- Every character of a text is of a class. -/
def IsRun
    (belongs : Char → Bool)
    (run : List Char) : Prop :=
  ∀ character ∈ run, belongs character = true

@[simp] theorem runEnds_nil (belongs : Char → Bool) : RunEnds belongs [] := by
  simp [RunEnds]

@[simp] theorem runEnds_cons
    (belongs : Char → Bool)
    (next : Char)
    (following : List Char) :
    RunEnds belongs (next :: following) ↔ belongs next = false := by
  simp [RunEnds]

@[simp] theorem isRun_nil (belongs : Char → Bool) : IsRun belongs [] := by
  simp [IsRun]

@[simp] theorem isRun_cons
    (belongs : Char → Bool)
    (character : Char)
    (run : List Char) :
    IsRun belongs (character :: run) ↔ belongs character = true ∧ IsRun belongs run := by
  simp [IsRun]

/-- A run that ends in a text is all that is taken from it. -/
theorem takeWhile_run
    {belongs : Char → Bool}
    {run following : List Char}
    (isRun : IsRun belongs run)
    (ends : RunEnds belongs following) :
    (run ++ following).takeWhile belongs = run := by
  rw [List.takeWhile_append_of_pos isRun]
  cases following with
  | nil => simp
  | cons next following =>
      rw [runEnds_cons] at ends
      simp [ends]

/-- Dropping a run that ends in a text leaves the text behind the run. -/
theorem dropWhile_run
    {belongs : Char → Bool}
    {run following : List Char}
    (isRun : IsRun belongs run)
    (ends : RunEnds belongs following) :
    (run ++ following).dropWhile belongs = following := by
  rw [List.dropWhile_append_of_pos isRun]
  cases following with
  | nil => simp
  | cons next following =>
      rw [runEnds_cons] at ends
      simp [ends]

/-- Every text is a run followed by a text in which the run has ended. -/
theorem exists_run (belongs : Char → Bool) (text : List Char) :
    ∃ run following,
      text = run ++ following ∧ IsRun belongs run ∧ RunEnds belongs following := by
  refine ⟨text.takeWhile belongs, text.dropWhile belongs,
    List.takeWhile_append_dropWhile.symm, ?_, ?_⟩
  · intro character member
    exact List.mem_takeWhile_imp member
  · intro next member
    have head := List.head?_dropWhile_not belongs text
    rw [Option.mem_def.mp member] at head
    simpa using head

/-- A run of a larger class ends no earlier than one of a smaller class. -/
theorem RunEnds.mono
    {larger smaller : Char → Bool}
    {following : List Char}
    (ends : RunEnds larger following)
    (included : ∀ character, smaller character = true → larger character = true) :
    RunEnds smaller following := by
  intro next member
  by_contra belongs
  have outside := ends next member
  rw [included next (by simpa using belongs)] at outside
  contradiction

/-- A run that has ended stays so when a character outside its class and more
text are put behind what follows it. -/
theorem RunEnds.append
    {belongs : Char → Bool}
    {following : List Char}
    (ends : RunEnds belongs following)
    {separator : Char}
    (outside : belongs separator = false)
    (behind : List Char) :
    RunEnds belongs (following ++ separator :: behind) := by
  cases following with
  | nil => simpa using outside
  | cons next following => simpa using ends

namespace Literal

/-- Decimal digits can stand inside a word. -/
theorem isWordCharacter_of_isDecimalDigit
    (character : Char)
    (digit : isDecimalDigit character = true) :
    isWordCharacter character = true := by
  simp only [isDecimalDigit, Bool.and_eq_true, decide_eq_true_eq] at digit
  simp only [isWordCharacter, Char.isAlphanum, Char.isDigit]
  have lower : '0'.val ≤ character.val := digit.1
  have upper : character.val ≤ '9'.val := digit.2
  simp_all

/-- Exponent letters can stand inside a word. -/
theorem isWordCharacter_of_isExponentLetter
    (character : Char)
    (letter : isExponentLetter character = true) :
    isWordCharacter character = true := by
  simp only [isExponentLetter, Bool.or_eq_true, beq_iff_eq] at letter
  rcases letter with rfl | rfl <;> decide

/-- A point does not stand inside a word. -/
theorem ne_point_of_isWordCharacter
    {character : Char}
    (inWord : isWordCharacter character = true) :
    character ≠ '.' := by
  rintro rfl
  exact absurd inWord (by decide)

/-! ## Parts of a floating-point literal -/

/-- Whether a character is the sign of an exponent. -/
def isSign (character : Char) : Bool :=
  character == '+' || character == '-'

/-- A missing fraction, or a point with the digits behind it. -/
inductive IsFraction : List Char → Prop
  | missing : IsFraction []
  | point {places : List Char} : IsRun isDecimalDigit places → IsFraction ('.' :: places)

/-- A fraction in front of a text that does not lengthen it. -/
def FractionEnds (fractionText following : List Char) : Prop :=
  if fractionText = [] then following.head? ≠ some '.' else RunEnds isDecimalDigit following

/-- The fraction in front of a text is read back. -/
theorem fraction_append
    {fractionText following : List Char}
    (isFraction : IsFraction fractionText)
    (ends : FractionEnds fractionText following) :
    fraction (fractionText ++ following) = fractionText := by
  cases isFraction with
  | missing =>
      simp only [FractionEnds, if_true] at ends
      simp only [List.nil_append, fraction]
      split
      · simp at ends
      · rfl
  | point isRun =>
      simp only [FractionEnds, reduceCtorEq, if_false] at ends
      simp only [List.cons_append, fraction]
      rw [takeWhile_run isRun ends]

/-- Every text starts with a fraction, which may be missing. -/
theorem exists_fraction (text : List Char) :
    ∃ fractionText following,
      text = fractionText ++ following ∧
        IsFraction fractionText ∧ FractionEnds fractionText following := by
  by_cases point : text.head? = some '.'
  · obtain ⟨afterPoint, rfl⟩ := List.head?_eq_some_iff.mp point
    obtain ⟨places, following, rfl, isRun, ends⟩ := exists_run isDecimalDigit afterPoint
    exact ⟨'.' :: places, following, rfl, .point isRun, by simpa [FractionEnds] using ends⟩
  · exact ⟨[], text, rfl, .missing, by simpa [FractionEnds] using point⟩

namespace Exponent

/-- An exponent as it can stand in a literal, possibly without digits. -/
structure WellFormed (exponent : Exponent) : Prop where
  letter : isExponentLetter exponent.letter = true
  sign : exponent.sign = [] ∨ exponent.sign = ['+'] ∨ exponent.sign = ['-']
  digits : IsRun isDecimalDigit exponent.digits

/-- An exponent in front of a text that does not lengthen it. -/
structure Ends (exponent : Exponent) (following : List Char) : Prop where
  digits : RunEnds isDecimalDigit following
  sign : exponent.sign = [] → RunEnds isSign (exponent.digits ++ following)

theorem leadingSign_of_runEnds
    {text : List Char}
    (ends : RunEnds isSign text) :
    leadingSign text = [] := by
  unfold leadingSign
  split
  · simp [isSign] at ends
  · simp [isSign] at ends
  · rfl

/-- The exponent in front of a text is read back. -/
theorem read?_text
    {exponent : Exponent}
    {following : List Char}
    (wellFormed : exponent.WellFormed)
    (ends : exponent.Ends following) :
    read? (exponent.text ++ following) = some exponent := by
  obtain ⟨letter, sign, digits⟩ := exponent
  obtain ⟨isLetter, isSign, isDigits⟩ := wellFormed
  dsimp only at isLetter isSign isDigits
  have signRead : leadingSign (sign ++ (digits ++ following)) = sign := by
    rcases isSign with rfl | rfl | rfl
    · exact leadingSign_of_runEnds (ends.sign rfl)
    · rfl
    · rfl
  simp only [text, List.cons_append, List.append_assoc, read?, isLetter, if_true, signRead,
    List.drop_left, takeWhile_run isDigits ends.digits]

/-- No exponent is read where no exponent letter stands. -/
theorem read?_eq_none
    {text : List Char}
    (absent : RunEnds isExponentLetter text) :
    read? text = none := by
  cases text with
  | nil => rfl
  | cons letter following =>
      rw [runEnds_cons] at absent
      simp [read?, absent]

/-- A text that starts with an exponent letter starts with an exponent. -/
theorem exists_text
    (letter : Char)
    (rest : List Char)
    (isLetter : isExponentLetter letter = true) :
    ∃ (exponent : Exponent) (following : List Char),
      letter :: rest = exponent.text ++ following ∧
        exponent.WellFormed ∧ exponent.Ends following := by
  by_cases unsigned : RunEnds isSign rest
  · obtain ⟨digits, following, rfl, isDigits, ends⟩ := exists_run isDecimalDigit rest
    exact ⟨⟨letter, [], digits⟩, following, by simp [text],
      ⟨isLetter, Or.inl rfl, isDigits⟩, ⟨ends, fun _ => unsigned⟩⟩
  · cases rest with
    | nil => simp at unsigned
    | cons sign rest =>
        obtain ⟨digits, following, rfl, isDigits, ends⟩ := exists_run isDecimalDigit rest
        have signed : sign = '+' ∨ sign = '-' := by
          simpa only [runEnds_cons, Bool.not_eq_false, isSign, Bool.or_eq_true,
            beq_iff_eq] using unsigned
        refine ⟨⟨letter, [sign], digits⟩, following, by simp [text],
          ⟨isLetter, ?_, isDigits⟩, ⟨ends, by simp⟩⟩
        rcases signed with rfl | rfl <;> simp

end Exponent

/-! ## Number lexemes -/

/-- What the digits `first :: digits` are read as when nothing is glued to
them. -/
def digitsReading (first : Char) (digits : List Char) : Reading :=
  if first = '0' ∧ digits ≠ [] then
    integerReading .octal 8 (first :: digits) digits
  else
    integerReading .decimal 10 (first :: digits) (first :: digits)

/-- The literal `first :: tail` is read as the given reading in front of a
text. -/
inductive NumberLexeme (first : Char) :
    (tail : List Char) → Reading → (following : List Char) → Prop
  /-- A word behind the marker `0x`. -/
  | hexadecimal
      {letter : Char}
      {word following : List Char}
      (zero : first = '0')
      (marker : letter = 'x' ∨ letter = 'X')
      (isWord : IsRun isWordCharacter word)
      (ends : RunEnds isWordCharacter following) :
      NumberLexeme first (letter :: word)
        (integerReading .hexadecimal 16 ('0' :: letter :: word) word) following
  /-- Digits with no fraction, exponent or letter behind them. -/
  | integer
      {digits following : List Char}
      (isDigits : IsRun isDecimalDigit digits)
      (ends : RunEnds isWordCharacter following)
      (noFloat : startsFloat following = false) :
      NumberLexeme first digits (digitsReading first digits) following
  /-- Digits with a word glued to them that opens no exponent. -/
  | glued
      {letter : Char}
      {digits word following : List Char}
      (isDigits : IsRun isDecimalDigit digits)
      (noDigit : isDecimalDigit letter = false)
      (noExponent : isExponentLetter letter = false)
      (noMarker : ¬ (first = '0' ∧ digits = [] ∧ (letter = 'x' ∨ letter = 'X')))
      (isWord : IsRun isWordCharacter (letter :: word))
      (ends : RunEnds isWordCharacter following) :
      NumberLexeme first (digits ++ letter :: word)
        (.error (.illegalNumber .plain (first :: (digits ++ letter :: word)))) following
  /-- Digits with a fraction and no exponent. -/
  | fractional
      {digits places following : List Char}
      (isDigits : IsRun isDecimalDigit digits)
      (isPlaces : IsRun isDecimalDigit places)
      (somePlaces : places ≠ [])
      (ends : RunEnds isDecimalDigit following)
      (noExponent : RunEnds isExponentLetter following) :
      NumberLexeme first (digits ++ '.' :: places)
        (.token (.real (floatValue (first :: digits) ('.' :: places) 0))) following
  /-- Digits with a complete exponent and perhaps a fraction before it. -/
  | scientific
      {digits fractionText following : List Char}
      {exponent : Exponent}
      (isDigits : IsRun isDecimalDigit digits)
      (isFraction : IsFraction fractionText)
      (isExponent : exponent.WellFormed)
      (complete : exponent.digits ≠ [])
      (ends : RunEnds isDecimalDigit following) :
      NumberLexeme first (digits ++ fractionText ++ exponent.text)
        (.token (.real (floatValue (first :: digits) fractionText exponent.value))) following
  /-- Digits with an exponent that lacks its own digits. -/
  | brokenExponent
      {digits fractionText word following : List Char}
      {exponent : Exponent}
      (isDigits : IsRun isDecimalDigit digits)
      (isFraction : IsFraction fractionText)
      (isExponent : exponent.WellFormed)
      (incomplete : exponent.digits = [])
      (isWord : IsRun isWordCharacter word)
      (exponentEnds : exponent.Ends (word ++ following))
      (ends : RunEnds isWordCharacter following) :
      NumberLexeme first (digits ++ fractionText ++ exponent.text ++ word)
        (.error (.illegalNumber .floatingPoint
          (first :: digits ++ fractionText ++ 'e' :: exponent.sign ++ word))) following

/-- What number literals can be read as. -/
inductive IsNumberReading : Reading → Prop
  | integer (value : Int32) : IsNumberReading (.token (.integer value))
  | real (value : Binary32) : IsNumberReading (.token (.real value))
  | illegal (form : NumberForm) (text : List Char) :
      IsNumberReading (.error (.illegalNumber form text))

theorem isNumberReading_integerReading
    (form : NumberForm)
    (radix : Nat)
    (text digits : List Char) :
    IsNumberReading (integerReading form radix text digits) := by
  unfold integerReading
  split
  · split
    · exact .integer _
    · exact .illegal form text
  · exact .illegal form text

/-- A number literal is read as an integer, as a floating-point number or as an
illegal number. -/
theorem NumberLexeme.isNumberReading
    {first : Char}
    {tail following : List Char}
    {reading : Reading}
    (number : NumberLexeme first tail reading following) :
    IsNumberReading reading := by
  cases number with
  | hexadecimal => exact isNumberReading_integerReading _ _ _ _
  | integer =>
      unfold digitsReading
      split
      · exact isNumberReading_integerReading _ _ _ _
      · exact isNumberReading_integerReading _ _ _ _
  | glued => exact .illegal _ _
  | fractional => exact .real _
  | scientific => exact .real _
  | brokenExponent => exact .illegal _ _

/-! ## Reports of illegal integers -/

/-- An integer that cannot be read is reported with its text. -/
theorem text_of_integerReading
    {form reported : NumberForm}
    {radix : Nat}
    {text digits report : List Char}
    (illegal : integerReading form radix text digits = .error (.illegalNumber reported report)) :
    report = text := by
  unfold integerReading at illegal
  split at illegal
  · split at illegal
    · contradiction
    · cases illegal
      rfl
  · cases illegal
    rfl

/-- Digits that cannot be read are reported as they are. -/
theorem text_of_digitsReading
    {first : Char}
    {digits report : List Char}
    {form : NumberForm}
    (illegal : digitsReading first digits = .error (.illegalNumber form report)) :
    report = first :: digits := by
  unfold digitsReading at illegal
  split at illegal
  · exact text_of_integerReading illegal
  · exact text_of_integerReading illegal

/-! ## Reading back a described literal -/

/-- Leading digits that are not followed by a hexadecimal marker are split off
before the form of the literal is decided. -/
theorem read_append
    {first : Char}
    {digits following : List Char}
    (isDigits : IsRun isDecimalDigit digits)
    (ends : RunEnds isDecimalDigit following)
    (noMarker : ¬ (first = '0' ∧ digits = [] ∧
      (following.head? = some 'x' ∨ following.head? = some 'X'))) :
    read first (digits ++ following) =
      if startsFloat following then
        readFloat first digits following
      else
        readInteger first digits following := by
  have decimal : read first (digits ++ following) = readDecimal first (digits ++ following) := by
    cases digits with
    | nil =>
        cases following with
        | nil => rfl
        | cons letter following =>
            simp only [List.nil_append, read]
            rw [if_neg (by simpa using noMarker)]
    | cons digit digits =>
        have isDigit : isDecimalDigit digit = true := (isRun_cons _ _ _ |>.mp isDigits).1
        simp only [List.cons_append, read]
        rw [if_neg]
        rintro ⟨-, rfl | rfl⟩ <;> revert isDigit <;> decide
  rw [decimal, readDecimal, takeWhile_run isDigits ends, dropWhile_run isDigits ends]

/-- A point with a digit behind it starts a floating-point literal. -/
theorem startsFloat_places
    {places : List Char}
    (following : List Char)
    (isPlaces : IsRun isDecimalDigit places)
    (somePlaces : places ≠ []) :
    startsFloat ('.' :: places ++ following) = true := by
  cases places with
  | nil => contradiction
  | cons place places =>
      have isPlace : isDecimalDigit place = true := (isRun_cons _ _ _ |>.mp isPlaces).1
      simp [startsFloat, isPlace]

/-- An exponent starts a floating-point literal, and so does any fraction in
front of it. -/
theorem startsFloat_exponent
    {fractionText : List Char}
    {exponent : Exponent}
    (following : List Char)
    (isFraction : IsFraction fractionText)
    (isExponent : exponent.WellFormed) :
    startsFloat (fractionText ++ (exponent.text ++ following)) = true := by
  have isLetter := isExponent.letter
  cases isFraction with
  | missing =>
      simp only [isExponentLetter, Bool.or_eq_true, beq_iff_eq] at isLetter
      rcases isLetter with letter | letter <;> simp [Exponent.text, letter, startsFloat] <;> rfl
  | @point places isPlaces =>
      cases places with
      | nil => simp [Exponent.text, startsFloat, isLetter]
      | cons place places => exact startsFloat_places _ isPlaces (by simp)

/-- An exponent lengthens no fraction in front of it. -/
theorem fractionEnds_exponent
    {exponent : Exponent}
    (fractionText following : List Char)
    (isExponent : exponent.WellFormed) :
    FractionEnds fractionText (exponent.text ++ following) := by
  have isLetter := isExponent.letter
  simp only [isExponentLetter, Bool.or_eq_true, beq_iff_eq] at isLetter
  unfold FractionEnds
  split
  · rcases isLetter with letter | letter <;> simp [Exponent.text, letter]
  · rcases isLetter with letter | letter <;>
      simp only [Exponent.text, letter, List.cons_append, runEnds_cons] <;> decide

/-- What starts a floating-point literal is a point or an exponent letter. -/
theorem head?_of_startsFloat
    {following : List Char}
    (starts : startsFloat following = true) :
    following.head? = some '.' ∨ following.head? = some 'e' ∨ following.head? = some 'E' := by
  unfold startsFloat at starts
  split at starts
  · simp
  · simpa [isExponentLetter] using Or.inr starts
  · contradiction

/-- Digits in front of what starts a floating-point literal belong to one. -/
theorem read_eq_readFloat
    {digits following : List Char}
    (first : Char)
    (isDigits : IsRun isDecimalDigit digits)
    (starts : startsFloat following = true) :
    read first (digits ++ following) = readFloat first digits following := by
  have head := head?_of_startsFloat starts
  rw [read_append isDigits, if_pos starts]
  · intro next member
    rw [Option.mem_def.mp member, Option.some_inj, Option.some_inj, Option.some_inj] at head
    rcases head with rfl | rfl | rfl <;> decide
  · rintro ⟨-, -, marker⟩
    rcases head with head | head | head <;> simp [head] at marker

/-- A literal with a fraction and no exponent is read up to its last place. -/
theorem readFloat_fractional
    {places following : List Char}
    (first : Char)
    (digits : List Char)
    (isPlaces : IsRun isDecimalDigit places)
    (ends : RunEnds isDecimalDigit following)
    (noExponent : RunEnds isExponentLetter following) :
    readFloat first digits ('.' :: places ++ following) =
      (digits ++ '.' :: places,
        .token (.real (floatValue (first :: digits) ('.' :: places) 0))) := by
  have fractionRead : fraction ('.' :: places ++ following) = '.' :: places :=
    fraction_append (.point isPlaces) (by simpa [FractionEnds] using ends)
  rw [readFloat, fractionRead, List.drop_left, Exponent.read?_eq_none noExponent]

/-- A literal with an exponent is read up to its end, together with the word
behind an exponent that lacks digits. -/
theorem readFloat_exponent
    {fractionText following : List Char}
    {exponent : Exponent}
    (first : Char)
    (digits : List Char)
    (isFraction : IsFraction fractionText)
    (isExponent : exponent.WellFormed)
    (ends : exponent.Ends following) :
    readFloat first digits (fractionText ++ (exponent.text ++ following)) =
      if exponent.digits.isEmpty then
        (digits ++ fractionText ++ exponent.text ++ following.takeWhile isWordCharacter,
          .error (.illegalNumber .floatingPoint (first :: digits ++ fractionText ++
            'e' :: exponent.sign ++ following.takeWhile isWordCharacter)))
      else
        (digits ++ fractionText ++ exponent.text,
          .token (.real (floatValue (first :: digits) fractionText exponent.value))) := by
  have fractionRead :
      fraction (fractionText ++ (exponent.text ++ following)) = fractionText :=
    fraction_append isFraction (fractionEnds_exponent fractionText following isExponent)
  rw [readFloat, fractionRead, List.drop_left, Exponent.read?_text isExponent ends]
  dsimp only
  rw [List.drop_left]

/-- A complete exponent has a digit where a sign would lengthen it. -/
theorem Exponent.ends_of_complete
    {exponent : Exponent}
    {following : List Char}
    (isExponent : exponent.WellFormed)
    (complete : exponent.digits ≠ [])
    (ends : RunEnds isDecimalDigit following) :
    exponent.Ends following := by
  refine ⟨ends, fun _ => ?_⟩
  obtain ⟨digit, digits, digitsEq⟩ := List.exists_cons_of_ne_nil complete
  have isDigit := isExponent.digits
  rw [digitsEq, isRun_cons] at isDigit
  rw [digitsEq, List.cons_append, runEnds_cons, isSign, Bool.or_eq_false_iff]
  constructor <;> rw [beq_eq_false_iff_ne] <;> rintro rfl <;> exact absurd isDigit.1 (by decide)

/-- Digits with nothing glued to them are all of an integer literal. -/
theorem readInteger_of_runEnds
    {following : List Char}
    (first : Char)
    (digits : List Char)
    (ends : RunEnds isWordCharacter following) :
    readInteger first digits following = (digits, digitsReading first digits) := by
  have gluedEmpty : following.takeWhile isWordCharacter = [] :=
    takeWhile_run (isRun_nil isWordCharacter) ends
  rw [readInteger, gluedEmpty, digitsReading]
  simp only [List.isEmpty_nil, if_true]
  split <;> rfl

/-- A character other than the point starts a floating-point literal only as an
exponent letter. -/
theorem startsFloat_of_ne_point
    {next : Char}
    (following : List Char)
    (notPoint : next ≠ '.') :
    startsFloat (next :: following) = isExponentLetter next := by
  unfold startsFloat
  split
  · rename_i equal
    injection equal with equal
    contradiction
  · rename_i equal
    injection equal with equal
    rw [equal]
  · contradiction

/-- A described literal is read back, whatever follows it. -/
theorem NumberLexeme.read_eq
    {first : Char}
    {tail following : List Char}
    {reading : Reading}
    (number : NumberLexeme first tail reading following) :
    read first (tail ++ following) = (tail, reading) := by
  cases number with
  | hexadecimal zero marker isWord ends =>
      rw [List.cons_append, read, if_pos ⟨zero, marker⟩, readHexadecimal,
        takeWhile_run isWord ends]
  | integer isDigits ends noFloat =>
      have noMarker : ∀ letter ∈ following.head?, letter ≠ 'x' ∧ letter ≠ 'X' := by
        intro letter member
        have outside := ends letter member
        constructor <;> rintro rfl <;> exact absurd outside (by decide)
      rw [read_append isDigits (ends.mono isWordCharacter_of_isDecimalDigit),
        if_neg (by simp [noFloat]), readInteger_of_runEnds first _ ends]
      rintro ⟨-, -, marker | marker⟩
      · exact (noMarker _ marker).1 rfl
      · exact (noMarker _ marker).2 rfl
  | glued isDigits noDigit noExponent noMarker isWord ends =>
      have inWord := (isRun_cons _ _ _ |>.mp isWord).1
      rw [List.append_assoc, List.cons_append, read_append isDigits (by simpa using noDigit)
        (by simpa using noMarker), startsFloat_of_ne_point _ (ne_point_of_isWordCharacter inWord),
        if_neg (by simp [noExponent]), readInteger, ← List.cons_append, takeWhile_run isWord ends]
      simp
  | fractional isDigits isPlaces somePlaces ends noExponent =>
      rw [List.append_assoc,
        read_eq_readFloat first isDigits (startsFloat_places _ isPlaces somePlaces),
        readFloat_fractional _ _ isPlaces ends noExponent]
  | scientific isDigits isFraction isExponent complete ends =>
      rw [List.append_assoc, List.append_assoc, read_eq_readFloat first isDigits
        (startsFloat_exponent _ isFraction isExponent),
        readFloat_exponent _ _ isFraction isExponent
          (Exponent.ends_of_complete isExponent complete ends),
        if_neg (by simpa using complete)]
  | brokenExponent isDigits isFraction isExponent incomplete isWord exponentEnds ends =>
      rw [List.append_assoc, List.append_assoc, List.append_assoc,
        read_eq_readFloat first isDigits (startsFloat_exponent _ isFraction isExponent),
        readFloat_exponent _ _ isFraction isExponent exponentEnds,
        if_pos (by simpa using incomplete), takeWhile_run isWord ends]

/-! ## Every text has a described literal -/

/-- Where a floating-point literal has no exponent, its fraction has places. -/
theorem IsFraction.exists_places
    {fractionText following : List Char}
    (isFraction : IsFraction fractionText)
    (ends : FractionEnds fractionText following)
    (starts : startsFloat (fractionText ++ following) = true)
    (noExponent : RunEnds isExponentLetter following) :
    ∃ places, fractionText = '.' :: places ∧ IsRun isDecimalDigit places ∧ places ≠ [] := by
  cases isFraction with
  | missing =>
      have head := head?_of_startsFloat starts
      simp only [FractionEnds, if_true] at ends
      rcases head with head | head | head
      · exact absurd head ends
      · exact absurd (noExponent 'e' head) (by decide)
      · exact absurd (noExponent 'E' head) (by decide)
  | @point places isPlaces =>
      refine ⟨places, rfl, isPlaces, ?_⟩
      rintro rfl
      simp only [FractionEnds, reduceCtorEq, if_false] at ends
      cases following with
      | nil => exact absurd starts (by decide)
      | cons next following =>
          rw [runEnds_cons] at ends noExponent
          simp [startsFloat, ends, noExponent] at starts

/-- Digits in front of what starts a floating-point literal open a described
literal. -/
theorem exists_floatLexeme
    {digits following : List Char}
    (first : Char)
    (isDigits : IsRun isDecimalDigit digits)
    (starts : startsFloat following = true) :
    ∃ tail reading behind,
      digits ++ following = tail ++ behind ∧ NumberLexeme first tail reading behind := by
  obtain ⟨fractionText, afterFraction, rfl, isFraction, fractionEnds⟩ := exists_fraction following
  by_cases noExponent : RunEnds isExponentLetter afterFraction
  · obtain ⟨places, rfl, isPlaces, somePlaces⟩ :=
      isFraction.exists_places fractionEnds starts noExponent
    simp only [FractionEnds, reduceCtorEq, if_false] at fractionEnds
    exact ⟨_, _, afterFraction, by simp,
      .fractional isDigits isPlaces somePlaces fractionEnds noExponent⟩
  · cases afterFraction with
    | nil => simp at noExponent
    | cons letter rest =>
        rw [runEnds_cons, Bool.not_eq_false] at noExponent
        obtain ⟨exponent, behind, text, isExponent, ends⟩ :=
          Exponent.exists_text letter rest noExponent
        rw [text]
        by_cases incomplete : exponent.digits = []
        · obtain ⟨word, behind, rfl, isWord, wordEnds⟩ := exists_run isWordCharacter behind
          exact ⟨_, _, behind, by simp,
            .brokenExponent isDigits isFraction isExponent incomplete isWord ends wordEnds⟩
        · exact ⟨_, _, behind, by simp,
            .scientific isDigits isFraction isExponent incomplete ends.digits⟩

/-- Behind a first digit every text opens a described literal. -/
theorem exists_numberLexeme (first : Char) (rest : List Char) :
    ∃ tail reading following,
      rest = tail ++ following ∧ NumberLexeme first tail reading following := by
  by_cases marker : first = '0' ∧ (rest.head? = some 'x' ∨ rest.head? = some 'X')
  · obtain ⟨zero, head⟩ := marker
    obtain ⟨letter, afterMarker, rfl, isMarker⟩ :
        ∃ letter afterMarker, rest = letter :: afterMarker ∧ (letter = 'x' ∨ letter = 'X') := by
      rcases head with head | head
      · exact ⟨'x', _, (List.head?_eq_some_iff.mp head).choose_spec, Or.inl rfl⟩
      · exact ⟨'X', _, (List.head?_eq_some_iff.mp head).choose_spec, Or.inr rfl⟩
    obtain ⟨word, following, rfl, isWord, ends⟩ := exists_run isWordCharacter afterMarker
    exact ⟨_, _, following, by simp, .hexadecimal zero isMarker isWord ends⟩
  · obtain ⟨digits, following, rfl, isDigits, digitsEnd⟩ := exists_run isDecimalDigit rest
    by_cases starts : startsFloat following = true
    · exact exists_floatLexeme first isDigits starts
    · rw [Bool.not_eq_true] at starts
      cases following with
      | nil => exact ⟨_, _, [], by simp, .integer isDigits (by simp) starts⟩
      | cons letter rest =>
          by_cases inWord : isWordCharacter letter = true
          · obtain ⟨word, following, rfl, isWord, ends⟩ := exists_run isWordCharacter rest
            rw [startsFloat_of_ne_point _ (ne_point_of_isWordCharacter inWord)] at starts
            refine ⟨_, _, following, by simp, .glued isDigits (by simpa using digitsEnd) starts ?_
              (isRun_cons _ _ _ |>.mpr ⟨inWord, isWord⟩) ends⟩
            rintro ⟨zero, rfl, isMarker⟩
            exact marker ⟨zero, by simpa using isMarker⟩
          · exact ⟨_, _, letter :: rest, rfl, .integer isDigits (by simpa using inWord) starts⟩

/-! ## Literals in front of other characters -/

/-- A character that no number literal contains. -/
structure OutsideNumbers (character : Char) : Prop where
  notWord : isWordCharacter character = false
  notSign : isSign character = false
  notPoint : character ≠ '.'

namespace OutsideNumbers

theorem notDigit
    {character : Char}
    (outside : OutsideNumbers character) :
    isDecimalDigit character = false := by
  rw [← Bool.not_eq_true]
  intro digit
  have inWord := isWordCharacter_of_isDecimalDigit character digit
  rw [outside.notWord] at inWord
  contradiction

theorem notExponent
    {character : Char}
    (outside : OutsideNumbers character) :
    isExponentLetter character = false := by
  rw [← Bool.not_eq_true]
  intro letter
  have inWord := isWordCharacter_of_isExponentLetter character letter
  rw [outside.notWord] at inWord
  contradiction

end OutsideNumbers

/-- A character outside numbers starts no floating-point literal, also not
behind a point. -/
theorem startsFloat_append
    {following : List Char}
    (noFloat : startsFloat following = false)
    {separator : Char}
    (outside : OutsideNumbers separator)
    (behind : List Char) :
    startsFloat (following ++ separator :: behind) = false := by
  cases following with
  | nil => rw [List.nil_append, startsFloat_of_ne_point _ outside.notPoint, outside.notExponent]
  | cons next following =>
      by_cases point : next = '.'
      · subst point
        cases following with
        | nil => simp [startsFloat, outside.notDigit, outside.notExponent]
        | cons second following => exact noFloat
      · rw [startsFloat_of_ne_point _ point] at noFloat
        rw [List.cons_append, startsFloat_of_ne_point _ point, noFloat]

/-- A literal is read the same with a character outside numbers somewhere behind
it. -/
theorem NumberLexeme.append
    {first : Char}
    {tail following : List Char}
    {reading : Reading}
    (number : NumberLexeme first tail reading following)
    {separator : Char}
    (outside : OutsideNumbers separator)
    (behind : List Char) :
    NumberLexeme first tail reading (following ++ separator :: behind) := by
  cases number with
  | hexadecimal zero marker isWord ends =>
      exact .hexadecimal zero marker isWord (ends.append outside.notWord behind)
  | integer isDigits ends noFloat =>
      exact .integer isDigits (ends.append outside.notWord behind)
        (startsFloat_append noFloat outside behind)
  | glued isDigits noDigit noExponent noMarker isWord ends =>
      exact .glued isDigits noDigit noExponent noMarker isWord
        (ends.append outside.notWord behind)
  | fractional isDigits isPlaces somePlaces ends noExponent =>
      exact .fractional isDigits isPlaces somePlaces (ends.append outside.notDigit behind)
        (noExponent.append outside.notExponent behind)
  | scientific isDigits isFraction isExponent complete ends =>
      exact .scientific isDigits isFraction isExponent complete
        (ends.append outside.notDigit behind)
  | brokenExponent isDigits isFraction isExponent incomplete isWord exponentEnds ends =>
      refine .brokenExponent isDigits isFraction isExponent incomplete isWord ⟨?_, ?_⟩
        (ends.append outside.notWord behind)
      · rw [← List.append_assoc]
        exact exponentEnds.digits.append outside.notDigit behind
      · intro unsigned
        have signEnds := (exponentEnds.sign unsigned).append outside.notSign behind
        simpa only [List.append_assoc] using signEnds

end Literal
end SyntaxTree
