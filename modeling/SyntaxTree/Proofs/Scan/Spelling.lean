import SyntaxTree.Proofs.Scan.Partition

/-!
# Spelling and scanning

Tokens other than floating-point literals have a canonical spelling.  Spellings
that are kept apart by separators are scanned back to the same tokens, and what
a scan finds in any text are tokens that have a spelling.
-/

namespace SyntaxTree

open Number

/-! ## Spellings -/

namespace Token

/-- Words that are no identifiers. -/
def reserved : List String :=
  ["int", "float", "struct", "return", "if", "else", "while"]

/-- A name that starts like a word, goes on like one and is not reserved. -/
structure IsIdentifier (name : String) : Prop where
  word : ∃ first tail, name.toList = first :: tail ∧
    Segment.isWordStart first = true ∧ IsRun Literal.isWordCharacter tail
  notReserved : name ∉ reserved

/-- Tokens that have a spelling: all but floating-point literals and identifiers
with an unsuitable name. -/
def WellFormed : Token → Prop
  | .real _ => False
  | .identifier name => IsIdentifier name
  | _ => True

/-- Canonical source text of a token.  Integers are spelled by their value as an
unsigned word; floating-point literals have no canonical text. -/
def spelling : Token → List Char
  | .integer value => Nat.toDigits 10 value.toUInt32.toNat
  | .real _ => []
  | .identifier name => name.toList
  | .typeName type => type.spelling.toList
  | .keyword word => word.spelling.toList
  | .relation operator => operator.spelling.toList
  | .mark symbol => symbol.spelling.toList

end Token

/-! ## Decimal spellings -/

namespace Literal

theorem isDecimalDigit_eq_isDigit (character : Char) :
    isDecimalDigit character = character.isDigit := by
  rfl

theorem digitValue?_of_isDecimalDigit
    {digit : Char}
    (isDigit : isDecimalDigit digit = true) :
    digitValue? 10 digit = some (digit.toNat - '0'.toNat) := by
  have hexadecimal : hexadecimalValue? digit = some (digit.toNat - '0'.toNat) := if_pos isDigit
  have small : digit.toNat - '0'.toNat < 10 := by
    simp only [isDecimalDigit, Bool.and_eq_true, decide_eq_true_eq] at isDigit
    have upper : digit.toNat ≤ 57 := isDigit.2
    change digit.toNat - 48 < 10
    omega
  rw [digitValue?, hexadecimal, Option.filter_some, if_pos (by simpa using small)]

/-- Decimal digits denote the number that they are the digits of. -/
theorem appendDigits?_of_isRun
    {digits : List Char}
    (isDigits : IsRun isDecimalDigit digits)
    (value : Nat) :
    appendDigits? 10 value digits = some (Nat.ofDigitChars 10 digits value) := by
  induction digits generalizing value with
  | nil => simp [appendDigits?]
  | cons digit digits inductionHypothesis =>
      rw [isRun_cons] at isDigits
      simp only [appendDigits?, digitValue?_of_isDecimalDigit isDigits.1,
        inductionHypothesis isDigits.2, Nat.ofDigitChars_cons, Nat.mul_comm]

theorem isRun_toDigits (number : Nat) : IsRun isDecimalDigit (Nat.toDigits 10 number) := by
  intro character member
  rw [isDecimalDigit_eq_isDigit]
  exact Nat.isDigit_of_mem_toDigits (by decide) (by decide) member

/-- The digits of a number are read as the number. -/
theorem numeral?_toDigits (number : Nat) :
    numeral? 10 (Nat.toDigits 10 number) = some number := by
  have nonempty : Nat.toDigits 10 number ≠ [] := Nat.toDigits_ne_nil
  rw [numeral?.eq_2 _ _ nonempty, appendDigits?_of_isRun (isRun_toDigits number),
    Nat.ofDigitChars_ten_toDigits]

/-- Only zero is spelled with a leading zero. -/
theorem toDigits_head?
    {number : Nat}
    (positive : 0 < number) :
    (Nat.toDigits 10 number).head? ≠ some '0' := by
  induction number using Nat.base_induction 10 (by decide) with
  | single number small =>
      rw [Nat.toDigits_of_lt_base small, List.head?_cons, ne_eq, Option.some_inj]
      intro equal
      have code := Nat.toNat_digitChar_of_lt_ten small
      rw [equal] at code
      change 48 = 48 + number at code
      omega
  | digit number digit small leading inductionHypothesis =>
      rw [← Nat.toDigits_append_toDigits (by decide) leading small,
        List.head?_append_of_ne_nil _ Nat.toDigits_ne_nil]
      exact inductionHypothesis leading

/-- The digits of a word are read as the word. -/
theorem digitsReading_toDigits
    {first : Char}
    {digits : List Char}
    (value : Int32)
    (spelled : Nat.toDigits 10 value.toUInt32.toNat = first :: digits) :
    digitsReading first digits = .token (.integer value) := by
  have noOctal : ¬ (first = '0' ∧ digits ≠ []) := by
    rintro ⟨rfl, some⟩
    by_cases zero : value.toUInt32.toNat = 0
    · rw [zero, Nat.toDigits_zero] at spelled
      exact some (List.cons.inj spelled).2.symm
    · apply toDigits_head? (Nat.pos_of_ne_zero zero)
      rw [spelled, List.head?_cons]
  rw [digitsReading, if_neg noOctal, integerReading, ← spelled, numeral?_toDigits]
  simp only [value.toUInt32.toNat_lt_size, if_true]
  simp

end Literal

/-! ## Spellings are lexemes -/

namespace Token

open Segment Source

/-- A name that is not reserved stands for an identifier. -/
theorem ofWord_of_notReserved
    {name : String}
    (notReserved : name ∉ reserved) :
    ofWord name = .identifier name := by
  unfold ofWord
  split
  all_goals first | rfl | exact absurd (by decide) notReserved

/-- Every word stands for a token that has a spelling. -/
theorem wellFormed_ofWord
    {first : Char}
    {tail : List Char}
    (isStart : isWordStart first = true)
    (isWord : IsRun Literal.isWordCharacter tail) :
    (ofWord (String.ofList (first :: tail))).WellFormed := by
  by_cases isReserved : String.ofList (first :: tail) ∈ reserved
  · simp only [reserved, List.mem_cons, List.not_mem_nil, or_false] at isReserved
    rcases isReserved with word | word | word | word | word | word | word <;> rw [word] <;> trivial
  · rw [ofWord_of_notReserved isReserved]
    exact ⟨⟨first, tail, by simp, isStart, isWord⟩, isReserved⟩

/-- A word is a lexeme that is read as the token it stands for. -/
theorem lexeme_of_word
    {word : String}
    {first : Char}
    {tail : List Char}
    (spelled : word.toList = first :: tail)
    (isStart : isWordStart first = true)
    (isWord : IsRun Literal.isWordCharacter tail) :
    Lexeme word.toList (.token (ofWord word)) [] := by
  have described := Lexeme.word isStart isWord (runEnds_nil _)
  rwa [← spelled, String.ofList_toList] at described

/-- The spelling of a token is a lexeme that is read as the token. -/
theorem WellFormed.lexeme
    {token : Token}
    (wellFormed : token.WellFormed) :
    Lexeme token.spelling (.token token) [] := by
  cases token with
  | integer value =>
      obtain ⟨first, digits, spelled⟩ :=
        List.exists_cons_of_ne_nil (Nat.toDigits_ne_nil : Nat.toDigits 10 value.toUInt32.toNat ≠ [])
      have isDigits := Literal.isRun_toDigits value.toUInt32.toNat
      rw [spelled, isRun_cons] at isDigits
      rw [spelling, spelled, ← Literal.digitsReading_toDigits value spelled]
      exact .number isDigits.1 (.integer isDigits.2 (runEnds_nil _) rfl)
  | real value => exact absurd wellFormed id
  | identifier name =>
      obtain ⟨⟨first, tail, spelled, isStart, isWord⟩, notReserved⟩ := wellFormed
      have described := lexeme_of_word spelled isStart isWord
      rwa [ofWord_of_notReserved notReserved] at described
  | typeName type =>
      cases type <;> exact lexeme_of_word rfl rfl (List.all_eq_true.mp rfl)
  | keyword word =>
      cases word <;> exact lexeme_of_word rfl rfl (List.all_eq_true.mp rfl)
  | relation operator => exact .relation operator (by simp [MarkEnds])
  | mark symbol => exact .mark symbol (by simp [MarkEnds])

/-- A lexeme that is read as a token has a spelled token or a floating-point
literal as its reading. -/
theorem wellFormed_of_lexeme
    {lexeme following : List Char}
    {token : Token}
    (described : Lexeme lexeme (.token token) following)
    (notReal : ∀ value, token ≠ .real value) :
    token.WellFormed := by
  generalize isToken : Reading.token token = reading at described
  cases described with
  | number isDigit number =>
      subst isToken
      cases number.isNumberReading with
      | integer value => trivial
      | real value => exact absurd rfl (notReal value)
  | word isStart isWord ends =>
      rw [Reading.token.inj isToken]
      exact wellFormed_ofWord isStart isWord
  | mark symbol ends =>
      rw [Reading.token.inj isToken]
      trivial
  | relation operator ends =>
      rw [Reading.token.inj isToken]
      trivial
  | _ => contradiction

end Token

/-! ## Separators -/

namespace Segment

open Source

/-- A blank and any trivia behind it. -/
structure Separator where
  blank : Char
  separates : isBlank blank = true
  trivia : List Trivia

/-- Source text of a separator. -/
def Separator.text (separator : Separator) : List Char :=
  separator.blank :: separator.trivia.flatMap Trivia.text

/-- Source text of tokens, each with the separator behind it.  Behind the last
token nothing is written. -/
def written : List (Token × Separator) → List Char
  | [] => []
  | [(token, _)] => token.spelling
  | (token, separator) :: item :: items =>
    token.spelling ++ (separator.text ++ written (item :: items))

/-- Where trivia holds nothing, a scan finds nothing in it. -/
theorem found_trivia_append
    {choose : Reading → Option β}
    (ignored : choose .trivia = none)
    (position : Position)
    (trivia : List Trivia)
    (following : List Char) :
    found choose (scanFrom position (trivia.flatMap Trivia.text ++ following)) =
      found choose (scanFrom (position.after (trivia.flatMap Trivia.text)) following) := by
  induction trivia generalizing position with
  | nil => rfl
  | cons piece trivia inductionHypothesis =>
      rw [List.flatMap_cons, List.append_assoc, (Lexeme.trivia piece).scanFrom_append,
        found_cons_of_none ignored, inductionHypothesis, Position.after_append]

theorem found_separator_append
    {choose : Reading → Option β}
    (ignored : choose .trivia = none)
    (position : Position)
    (separator : Separator)
    (following : List Char) :
    found choose (scanFrom position (separator.text ++ following)) =
      found choose (scanFrom (position.after separator.text) following) := by
  obtain ⟨blank, separates, trivia⟩ := separator
  exact found_trivia_append ignored position (.blank blank separates :: trivia) following

/-- Written tokens are found again, and nothing else is. -/
theorem found_written
    (position : Position)
    {items : List (Token × Separator)}
    (wellFormed : ∀ item ∈ items, item.1.WellFormed) :
    (TokenLines.tokens (scanFrom position (written items))).map (·.value) = items.map (·.1) ∧
      TokenLines.errors (scanFrom position (written items)) = [] := by
  induction items generalizing position with
  | nil => simp [written, TokenLines.tokens, TokenLines.errors]
  | cons item items inductionHypothesis =>
      obtain ⟨token, separator⟩ := item
      have described := (wellFormed _ List.mem_cons_self).lexeme
      cases items with
      | nil =>
          have scanned := described.scanFrom_append position
          rw [List.append_nil] at scanned
          rw [written, scanned, scanFrom_nil]
          exact ⟨rfl, rfl⟩
      | cons next items =>
          have described := described.append_blank (by simp) (by simp) separator.separates
            (separator.trivia.flatMap Trivia.text ++ written (next :: items))
          obtain ⟨tokens, errors⟩ := inductionHypothesis
            ((position.after token.spelling).after separator.text)
            fun item member => wellFormed item (List.mem_cons_of_mem _ member)
          have sameTokens : TokenLines.tokens _ = TokenLines.tokens _ :=
            found_separator_append rfl (position.after token.spelling) separator
              (written (next :: items))
          have sameErrors : TokenLines.errors _ = TokenLines.errors _ :=
            found_separator_append rfl (position.after token.spelling) separator
              (written (next :: items))
          have scanned := described.scanFrom_append position
          change scanFrom position (token.spelling ++ (separator.text ++ written (next :: items))) =
            _ :: scanFrom _ (separator.text ++ written (next :: items)) at scanned
          rw [written, scanned]
          rw [← sameTokens] at tokens
          rw [← sameErrors] at errors
          exact ⟨congrArg (token :: ·) tokens, errors⟩

/-- Scanning undoes spelling: tokens that are written with separators between
them are found in their order and without errors, and every token that is found
in any text can be written, unless it is a floating-point literal. -/
theorem scan_written :
    (∀ items : List (Token × Separator),
      (∀ item ∈ items, item.1.WellFormed) →
        TokenLines.errors (scan (written items)) = [] ∧
          (TokenLines.tokens (scan (written items))).map (·.value) = items.map (·.1)) ∧
      ∀ (text : List Char),
        ∀ token ∈ TokenLines.tokens (scan text),
          (∀ value, token.value ≠ .real value) → token.value.WellFormed := by
  refine ⟨fun items wellFormed => (found_written .start wellFormed).symm, ?_⟩
  intro text token member notReal
  obtain ⟨lexeme, following, described⟩ := lexeme_of_mem_tokens member
  exact Token.wellFormed_of_lexeme described notReal

/-- A negative integer is spelled as an unsigned one, and comment bodies may look
like comments or end in stars. -/
theorem scan_written_comments :
    let items : List (Token × Separator) :=
      [(.integer (-1), ⟨'\n', rfl, [.blockComment ['/', '*', '*'] (by decide),
          .lineComment ['/', '*'] (by decide)]⟩),
        (.identifier "ints", ⟨' ', rfl, []⟩),
        (.relation .equal, ⟨' ', rfl, []⟩)]
    written items = "4294967295\n/*/***////*\nints ==".toList ∧
      TokenLines.errors (scan (written items)) = [] ∧
      (TokenLines.tokens (scan (written items))).map (·.value) =
        [.integer (-1), .identifier "ints", .relation .equal] ∧
      Token.WellFormed (.identifier "ints") := by
  intro items
  have found : ⟨.identifier "ints", ⟨1, 1⟩⟩ ∈ TokenLines.tokens (scan "ints".toList) := by
    decide +kernel
  have identifier : Token.WellFormed (.identifier "ints") :=
    scan_written.2 "ints".toList _ found (by simp)
  have wellFormed : ∀ item ∈ items, item.1.WellFormed := by
    simp only [items, List.forall_mem_cons]
    exact ⟨trivial, identifier, trivial, by simp⟩
  obtain ⟨errors, tokens⟩ := scan_written.1 items wellFormed
  exact ⟨by decide +kernel, errors, tokens, identifier⟩

end Segment
end SyntaxTree
