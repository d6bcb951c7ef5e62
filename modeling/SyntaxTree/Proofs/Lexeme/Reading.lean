import SyntaxTree.Proofs.Lexeme.Number
import SyntaxTree.Token.Segment

/-!
# Lexemes and their readings

This module describes the segments of a source text without a scan: which
texts are trivia, tokens and lexical errors, and what may not follow them.  A
mark is never followed by a character that would make it a longer mark, and
only a comment that is left open needs the end of the text.

Every non-empty text starts with such a lexeme, and the scan reads exactly that
lexeme.  Properties of a scan are therefore proved along its lexemes.
-/

namespace SyntaxTree
namespace Segment

open Literal Number

/-! ## Trivia -/

/-- Text without the end of a block comment. -/
def Unclosed (body : List Char) : Prop :=
  ¬ ['*', '/'] <:+: body

instance (body : List Char) : Decidable (Unclosed body) :=
  inferInstanceAs (Decidable (¬ _))

/-- Text between lexemes: a blank, or a comment that is brought to its end. -/
inductive Trivia where
  | blank (character : Char) (separates : isBlank character = true)
  | lineComment (body : List Char) (oneLine : '\n' ∉ body)
  | blockComment (body : List Char) (unclosed : Unclosed body)

/-- Source text of trivia. -/
def Trivia.text : Trivia → List Char
  | .blank character _ => [character]
  | .lineComment body _ => '/' :: '/' :: (body ++ ['\n'])
  | .blockComment body _ => '/' :: '*' :: (body ++ ['*', '/'])

@[simp] theorem unclosed_nil : Unclosed [] := by
  simp [Unclosed]

theorem unclosed_cons (character : Char) (body : List Char) :
    Unclosed (character :: body) ↔
      ¬ (character = '*' ∧ body.head? = some '/') ∧ Unclosed body := by
  have closing : ['*', '/'] <+: character :: body ↔ character = '*' ∧ body.head? = some '/' := by
    rw [List.cons_prefix_cons, List.singleton_prefix_iff_head?_eq_some, eq_comm (a := character)]
  rw [Unclosed, List.infix_cons_iff, closing, not_or, Unclosed]

/-- A character that does not close the comment is passed. -/
theorem untilCommentEnd_cons
    (passed : List Char)
    {character : Char}
    {rest : List Char}
    (notClosing : ¬ (character = '*' ∧ rest.head? = some '/')) :
    untilCommentEnd passed (character :: rest) = untilCommentEnd (character :: passed) rest := by
  rw [untilCommentEnd]
  rintro following rfl rfl
  exact notClosing ⟨rfl, rfl⟩

/-- A block comment ends at the first place where it is closed. -/
theorem untilCommentEnd_append
    (passed following : List Char)
    {body : List Char}
    (unclosed : Unclosed body) :
    untilCommentEnd passed (body ++ '*' :: '/' :: following) =
      some (passed.reverse ++ body ++ ['*', '/']) := by
  induction body generalizing passed with
  | nil => simp [untilCommentEnd]
  | cons character body inductionHypothesis =>
      obtain ⟨notClosing, unclosed⟩ := (unclosed_cons _ _).mp unclosed
      rw [List.cons_append, untilCommentEnd_cons, inductionHypothesis _ unclosed]
      · simp
      · rintro ⟨isStar, head⟩
        apply notClosing
        cases body with
        | nil => simp at head
        | cons next body => exact ⟨isStar, head⟩

/-- An unclosed block comment has no end. -/
theorem untilCommentEnd_of_unclosed
    (passed : List Char)
    {body : List Char}
    (unclosed : Unclosed body) :
    untilCommentEnd passed body = none := by
  induction body generalizing passed with
  | nil => rfl
  | cons character body inductionHypothesis =>
      obtain ⟨notClosing, unclosed⟩ := (unclosed_cons _ _).mp unclosed
      rw [untilCommentEnd_cons _ notClosing, inductionHypothesis _ unclosed]

/-- A text is unclosed, or it can be cut at its first comment end. -/
theorem unclosed_or_exists_end (text : List Char) :
    Unclosed text ∨
      ∃ body following, text = body ++ '*' :: '/' :: following ∧ Unclosed body := by
  induction text with
  | nil => exact Or.inl unclosed_nil
  | cons character text inductionHypothesis =>
      by_cases closing : character = '*' ∧ text.head? = some '/'
      · obtain ⟨rfl, head⟩ := closing
        obtain ⟨following, rfl⟩ := List.head?_eq_some_iff.mp head
        exact Or.inr ⟨[], following, rfl, unclosed_nil⟩
      · rcases inductionHypothesis with unclosed | ⟨body, following, rfl, unclosed⟩
        · exact Or.inl ((unclosed_cons _ _).mpr ⟨closing, unclosed⟩)
        · refine Or.inr ⟨character :: body, following, rfl, (unclosed_cons _ _).mpr ⟨?_, unclosed⟩⟩
          rintro ⟨isStar, head⟩
          refine closing ⟨isStar, ?_⟩
          rw [List.head?_append, head, Option.some_or]

theorem restOfLine_append
    (following : List Char)
    {body : List Char}
    (oneLine : '\n' ∉ body) :
    restOfLine (body ++ '\n' :: following) = body ++ ['\n'] := by
  have isRun : IsRun (· != '\n') body := by
    intro character member
    simpa using ne_of_mem_of_not_mem member oneLine
  have ends : RunEnds (· != '\n') ('\n' :: following) := by simp
  rw [restOfLine, takeWhile_run isRun ends, dropWhile_run isRun ends]
  rfl

theorem restOfLine_of_oneLine
    {body : List Char}
    (oneLine : '\n' ∉ body) :
    restOfLine body = body := by
  have isRun : IsRun (· != '\n') body := by
    intro character member
    simpa using ne_of_mem_of_not_mem member oneLine
  have taken := takeWhile_run isRun (runEnds_nil _)
  have dropped := dropWhile_run isRun (runEnds_nil _)
  rw [List.append_nil] at taken dropped
  rw [restOfLine, taken, dropped]
  simp

/-! ## Lexemes -/

/-- The two-character texts that start a lexeme of their own. -/
def digraphs : List (List Char) :=
  [['>', '='], ['<', '='], ['=', '='], ['!', '='], ['&', '&'], ['|', '|'], ['/', '/'], ['/', '*']]

/-- The next character does not lengthen a mark. -/
def MarkEnds (mark following : List Char) : Prop :=
  ∀ next ∈ following.head?, mark ++ [next] ∉ digraphs

/-- A character with which no trivia and no token starts, unless a digraph
does. -/
structure Stray (character : Char) : Prop where
  notBlank : isBlank character = false
  notDigit : isDecimalDigit character = false
  notWord : isWordStart character = false
  notMark : ∀ symbol : Mark, symbol.spelling.toList ≠ [character]
  notRelation : ∀ operator : Relation, operator.spelling.toList ≠ [character]

/-- A lexeme is read as the given reading in front of a text. -/
inductive Lexeme : (lexeme : List Char) → Reading → (following : List Char) → Prop
  | trivia
      {following : List Char}
      (piece : Trivia) :
      Lexeme piece.text .trivia following
  /-- A line comment that the end of the text ends. -/
  | lastLine
      {body : List Char}
      (oneLine : '\n' ∉ body) :
      Lexeme ('/' :: '/' :: body) .trivia []
  /-- A block comment that the end of the text cuts off. -/
  | unterminated
      {body : List Char}
      (unclosed : Unclosed body) :
      Lexeme ('/' :: '*' :: body) (.error .unterminatedComment) []
  | number
      {first : Char}
      {tail following : List Char}
      {reading : Reading}
      (isDigit : isDecimalDigit first = true)
      (number : NumberLexeme first tail reading following) :
      Lexeme (first :: tail) reading following
  | word
      {first : Char}
      {tail following : List Char}
      (isStart : isWordStart first = true)
      (isWord : IsRun isWordCharacter tail)
      (ends : RunEnds isWordCharacter following) :
      Lexeme (first :: tail) (.token (Token.ofWord (String.ofList (first :: tail)))) following
  | mark
      {following : List Char}
      (symbol : Mark)
      (ends : MarkEnds symbol.spelling.toList following) :
      Lexeme symbol.spelling.toList (.token (.mark symbol)) following
  | relation
      {following : List Char}
      (operator : Relation)
      (ends : MarkEnds operator.spelling.toList following) :
      Lexeme operator.spelling.toList (.token (.relation operator)) following
  | stray
      {character : Char}
      {following : List Char}
      (stray : Stray character)
      (ends : MarkEnds [character] following) :
      Lexeme [character] (.error (.strayCharacter character)) following

/-! ## Every text starts with a lexeme -/

/-- A mark of two characters is not lengthened any further. -/
theorem markEnds_pair (first second : Char) (following : List Char) :
    MarkEnds [first, second] following := by
  intro next _ member
  have lengths : ∀ digraph ∈ digraphs, digraph.length = 2 := by decide
  have impossible := lengths _ member
  simp at impossible

/-- A digraph starts a mark of two characters or a comment. -/
theorem exists_lexeme_of_digraph
    {first second : Char}
    (rest : List Char)
    (digraph : [first, second] ∈ digraphs) :
    ∃ lexeme reading following,
      first :: second :: rest = lexeme ++ following ∧ Lexeme lexeme reading following := by
  simp only [digraphs, List.mem_cons, List.cons.injEq, and_true, List.not_mem_nil, or_false]
    at digraph
  rcases digraph with ⟨rfl, rfl⟩ | ⟨rfl, rfl⟩ | ⟨rfl, rfl⟩ | ⟨rfl, rfl⟩ | ⟨rfl, rfl⟩ | ⟨rfl, rfl⟩ |
    ⟨rfl, rfl⟩ | ⟨rfl, rfl⟩
  · exact ⟨_, _, rest, rfl, .relation .greaterEqual (markEnds_pair _ _ _)⟩
  · exact ⟨_, _, rest, rfl, .relation .lessEqual (markEnds_pair _ _ _)⟩
  · exact ⟨_, _, rest, rfl, .relation .equal (markEnds_pair _ _ _)⟩
  · exact ⟨_, _, rest, rfl, .relation .notEqual (markEnds_pair _ _ _)⟩
  · exact ⟨_, _, rest, rfl, .mark .conjunction (markEnds_pair _ _ _)⟩
  · exact ⟨_, _, rest, rfl, .mark .disjunction (markEnds_pair _ _ _)⟩
  · obtain ⟨body, following, rfl, isBody, ends⟩ := exists_run (· != '\n') rest
    have oneLine : '\n' ∉ body := fun member => by simpa using isBody _ member
    cases following with
    | nil => exact ⟨_, _, [], by simp, .lastLine oneLine⟩
    | cons next following =>
        have newline : next = '\n' := by simpa using ends
        subst newline
        exact ⟨_, _, following, by simp [Trivia.text], .trivia (.lineComment body oneLine)⟩
  · rcases unclosed_or_exists_end rest with unclosed | ⟨body, following, rfl, unclosed⟩
    · exact ⟨_, _, [], by simp, .unterminated unclosed⟩
    · exact ⟨_, _, following, by simp [Trivia.text], .trivia (.blockComment body unclosed)⟩

/-- Every non-empty text starts with a lexeme. -/
theorem exists_lexeme (first : Char) (rest : List Char) :
    ∃ lexeme reading following,
      first :: rest = lexeme ++ following ∧ Lexeme lexeme reading following := by
  by_cases blank : isBlank first = true
  · exact ⟨_, _, rest, rfl, .trivia (.blank first blank)⟩
  by_cases digit : isDecimalDigit first = true
  · obtain ⟨tail, reading, following, rfl, number⟩ := exists_numberLexeme first rest
    exact ⟨_, _, following, by simp, .number digit number⟩
  by_cases wordStart : isWordStart first = true
  · obtain ⟨tail, following, rfl, isWord, ends⟩ := exists_run isWordCharacter rest
    exact ⟨_, _, following, by simp, .word wordStart isWord ends⟩
  by_cases ends : MarkEnds [first] rest
  · by_cases isMark : ∃ symbol : Mark, symbol.spelling.toList = [first]
    · obtain ⟨symbol, spelled⟩ := isMark
      exact ⟨_, _, rest, by simp [spelled], .mark symbol (by rwa [spelled])⟩
    by_cases isRelation : ∃ operator : Relation, operator.spelling.toList = [first]
    · obtain ⟨operator, spelled⟩ := isRelation
      exact ⟨_, _, rest, by simp [spelled], .relation operator (by rwa [spelled])⟩
    · exact ⟨[first], _, rest, rfl, .stray ⟨by simpa using blank, by simpa using digit,
        by simpa using wordStart, not_exists.mp isMark, not_exists.mp isRelation⟩ ends⟩
  · simp only [MarkEnds, not_forall, not_not] at ends
    obtain ⟨second, head, digraph⟩ := ends
    obtain ⟨rest, rfl⟩ := List.head?_eq_some_iff.mp head
    exact exists_lexeme_of_digraph rest digraph

/-! ## Lexemes are read back -/

theorem isBlank_iff (character : Char) :
    isBlank character = true ↔
      character = ' ' ∨ character = '\t' ∨ character = '\r' ∨ character = '\n' := by
  simp [isBlank, or_assoc]

/-- A decimal digit is no blank. -/
theorem isBlank_of_isDecimalDigit
    {character : Char}
    (digit : isDecimalDigit character = true) :
    isBlank character = false := by
  rw [← Bool.not_eq_true, isBlank_iff]
  rintro (rfl | rfl | rfl | rfl) <;> exact absurd digit (by decide)

/-- A letter comes behind the digits. -/
theorem code_of_isAlpha
    {character : Char}
    (letter : character.isAlpha = true) :
    65 ≤ character.val.toNat := by
  have cases : (character.isUpper || character.isLower) = true := letter
  rw [Bool.or_eq_true] at cases
  rcases cases with upper | lower
  · have range : 'A'.val ≤ character.val ∧ character.val ≤ 'Z'.val := of_decide_eq_true upper
    exact UInt32.le_iff_toNat_le.mp range.1
  · have range : (decide ('a'.val ≤ character.val) && decide (character.val ≤ 'z'.val)) = true :=
      lower
    rw [Bool.and_eq_true, decide_eq_true_eq, UInt32.le_iff_toNat_le] at range
    exact Nat.le_trans (by decide) range.1

/-- The start of a word is neither a blank nor a digit. -/
theorem isBlank_isDecimalDigit_of_isWordStart
    {character : Char}
    (start : isWordStart character = true) :
    isBlank character = false ∧ isDecimalDigit character = false := by
  constructor
  · rw [← Bool.not_eq_true, isBlank_iff]
    rintro (rfl | rfl | rfl | rfl) <;> exact absurd start (by decide)
  · rw [← Bool.not_eq_true]
    intro digit
    simp only [isDecimalDigit, Bool.and_eq_true, decide_eq_true_eq, Char.le_def,
      UInt32.le_iff_toNat_le] at digit
    change 48 ≤ character.val.toNat ∧ character.val.toNat ≤ 57 at digit
    rw [isWordStart, Bool.or_eq_true, beq_iff_eq] at start
    rcases start with letter | rfl
    · have := code_of_isAlpha letter
      omega
    · exact absurd digit (by decide)

theorem readBeforeEqual_alone
    {following : List Char}
    (joined alone : Token)
    (ends : following.head? ≠ some '=') :
    readBeforeEqual joined alone following = ([], .token alone) := by
  unfold readBeforeEqual
  split
  · simp at ends
  · rfl

theorem readTwice_alone
    {first : Char}
    {following : List Char}
    (symbol : Mark)
    (ends : following.head? ≠ some first) :
    readTwice first symbol following = ([], .error (.strayCharacter first)) := by
  cases following with
  | nil => rfl
  | cons next following => simpa [readTwice] using ends

theorem readSlash_alone
    {following : List Char}
    (notLine : following.head? ≠ some '/')
    (notBlock : following.head? ≠ some '*') :
    readSlash following = ([], .token (.mark .slash)) := by
  unfold readSlash
  split
  · simp at notLine
  · simp at notBlock
  · rfl

/-- The characters that lengthen a mark do not stand behind one that ends. -/
theorem MarkEnds.head?_ne
    {mark following : List Char}
    {next : Char}
    (ends : MarkEnds mark following)
    (digraph : mark ++ [next] ∈ digraphs) :
    following.head? ≠ some next :=
  fun head => ends next head digraph

theorem read_mark
    {following : List Char}
    (symbol : Mark)
    (ends : MarkEnds symbol.spelling.toList following) :
    ∃ first tail, symbol.spelling.toList = first :: tail ∧
      read first (tail ++ following) = (tail, .token (.mark symbol)) := by
  cases symbol with
  | assign => exact ⟨'=', [], rfl, readBeforeEqual_alone _ _ (ends.head?_ne (by decide))⟩
  | negation => exact ⟨'!', [], rfl, readBeforeEqual_alone _ _ (ends.head?_ne (by decide))⟩
  | slash =>
      exact ⟨'/', [], rfl, readSlash_alone (ends.head?_ne (by decide)) (ends.head?_ne (by decide))⟩
  | _ => exact ⟨_, _, rfl, rfl⟩

theorem read_relation
    {following : List Char}
    (operator : Relation)
    (ends : MarkEnds operator.spelling.toList following) :
    ∃ first tail, operator.spelling.toList = first :: tail ∧
      read first (tail ++ following) = (tail, .token (.relation operator)) := by
  cases operator with
  | greater => exact ⟨'>', [], rfl, readBeforeEqual_alone _ _ (ends.head?_ne (by decide))⟩
  | less => exact ⟨'<', [], rfl, readBeforeEqual_alone _ _ (ends.head?_ne (by decide))⟩
  | _ => exact ⟨_, _, rfl, rfl⟩

theorem read_stray
    {character : Char}
    {following : List Char}
    (stray : Stray character)
    (ends : MarkEnds [character] following) :
    read character following = ([], .error (.strayCharacter character)) := by
  rw [read, if_neg (by simp [stray.notBlank]), if_neg (by simp [stray.notDigit]),
    if_neg (by simp [stray.notWord])]
  unfold readMark
  split
  · exact absurd rfl (stray.notMark .slash)
  · exact absurd rfl (stray.notRelation .greater)
  · exact absurd rfl (stray.notRelation .less)
  · exact absurd rfl (stray.notMark .assign)
  · exact absurd rfl (stray.notMark .negation)
  · exact readTwice_alone _ (ends.head?_ne (by decide))
  · exact readTwice_alone _ (ends.head?_ne (by decide))
  · exact absurd rfl (stray.notMark .plus)
  · exact absurd rfl (stray.notMark .minus)
  · exact absurd rfl (stray.notMark .star)
  · exact absurd rfl (stray.notMark .dot)
  · exact absurd rfl (stray.notMark .semicolon)
  · exact absurd rfl (stray.notMark .comma)
  · exact absurd rfl (stray.notMark .leftParenthesis)
  · exact absurd rfl (stray.notMark .rightParenthesis)
  · exact absurd rfl (stray.notMark .leftBracket)
  · exact absurd rfl (stray.notMark .rightBracket)
  · exact absurd rfl (stray.notMark .leftBrace)
  · exact absurd rfl (stray.notMark .rightBrace)
  · rfl

theorem read_trivia
    (piece : Trivia)
    (following : List Char) :
    ∃ first tail, piece.text = first :: tail ∧
      read first (tail ++ following) = (tail, .trivia) := by
  cases piece with
  | blank character separates => exact ⟨character, [], rfl, by simp [read, separates]⟩
  | lineComment body oneLine =>
      refine ⟨'/', _, rfl, ?_⟩
      change readSlash ('/' :: (body ++ ['\n'] ++ following)) = _
      rw [readSlash, List.append_assoc, List.singleton_append, restOfLine_append _ oneLine]
  | blockComment body unclosed =>
      refine ⟨'/', _, rfl, ?_⟩
      change readSlash ('*' :: (body ++ ['*', '/'] ++ following)) = _
      rw [readSlash, List.append_assoc, List.cons_append, List.singleton_append,
        untilCommentEnd_append _ _ unclosed]
      simp

/-- A lexeme is read back, whatever follows it. -/
theorem Lexeme.read_eq
    {lexeme following : List Char}
    {reading : Reading}
    (described : Lexeme lexeme reading following) :
    ∃ first tail, lexeme = first :: tail ∧
      read first (tail ++ following) = (tail, reading) := by
  cases described with
  | trivia piece => exact read_trivia piece following
  | @lastLine body oneLine =>
      refine ⟨'/', _, rfl, ?_⟩
      change readSlash ('/' :: (body ++ [])) = _
      rw [List.append_nil, readSlash, restOfLine_of_oneLine oneLine]
  | @unterminated body unclosed =>
      refine ⟨'/', _, rfl, ?_⟩
      change readSlash ('*' :: (body ++ [])) = _
      rw [List.append_nil, readSlash, untilCommentEnd_of_unclosed _ unclosed]
  | number isDigit number =>
      refine ⟨_, _, rfl, ?_⟩
      rw [read, if_neg (by simp [isBlank_of_isDecimalDigit isDigit]), if_pos isDigit,
        number.read_eq]
  | word isStart isWord ends =>
      obtain ⟨notBlank, notDigit⟩ := isBlank_isDecimalDigit_of_isWordStart isStart
      refine ⟨_, _, rfl, ?_⟩
      rw [read, if_neg (by simp [notBlank]), if_neg (by simp [notDigit]), if_pos isStart,
        takeWhile_run isWord ends]
  | mark symbol ends => exact read_mark symbol ends
  | relation operator ends => exact read_relation operator ends
  | stray stray ends => exact ⟨_, [], rfl, read_stray stray ends⟩

/-! ## Lexemes in front of blanks -/

/-- A blank is part of no number. -/
theorem outsideNumbers_of_isBlank
    {character : Char}
    (separates : isBlank character = true) :
    OutsideNumbers character := by
  rw [isBlank_iff] at separates
  rcases separates with rfl | rfl | rfl | rfl <;> constructor <;> decide

/-- A mark that has ended stays so with a blank somewhere behind it. -/
theorem MarkEnds.append_blank
    {mark following : List Char}
    (ends : MarkEnds mark following)
    {separator : Char}
    (separates : isBlank separator = true)
    (behind : List Char) :
    MarkEnds mark (following ++ separator :: behind) := by
  cases following with
  | nil =>
      intro next member digraph
      have nextEq : next = separator := by simpa using member.symm
      subst nextEq
      have noBlanks : digraphs.flatten.all (!isBlank ·) = true := by decide
      have inDigraphs : next ∈ digraphs.flatten := List.mem_flatten.mpr ⟨_, digraph, by simp⟩
      have outside := List.all_eq_true.mp noBlanks next inDigraphs
      rw [separates] at outside
      cases outside
  | cons next following => exact ends

/-- A token or an error is read the same with a blank somewhere behind it,
unless it is a comment that runs to the end of the text. -/
theorem Lexeme.append_blank
    {lexeme following : List Char}
    {reading : Reading}
    (described : Lexeme lexeme reading following)
    (notTrivia : reading ≠ .trivia)
    (notOpen : reading ≠ .error .unterminatedComment)
    {separator : Char}
    (separates : isBlank separator = true)
    (behind : List Char) :
    Lexeme lexeme reading (following ++ separator :: behind) := by
  cases described with
  | trivia piece => contradiction
  | lastLine oneLine => contradiction
  | unterminated unclosed => contradiction
  | number isDigit number =>
      exact .number isDigit (number.append (outsideNumbers_of_isBlank separates) behind)
  | word isStart isWord ends =>
      exact .word isStart isWord (ends.append (outsideNumbers_of_isBlank separates).notWord behind)
  | mark symbol ends => exact .mark symbol (ends.append_blank separates behind)
  | relation operator ends => exact .relation operator (ends.append_blank separates behind)
  | stray stray ends => exact .stray stray (ends.append_blank separates behind)

/-! ## Scans follow lexemes -/

theorem Lexeme.ne_nil
    {lexeme following : List Char}
    {reading : Reading}
    (described : Lexeme lexeme reading following) :
    lexeme ≠ [] := by
  obtain ⟨first, tail, rfl, -⟩ := described.read_eq
  simp

/-- The first segment of a text is the lexeme in front. -/
theorem Lexeme.cut_append
    {lexeme following : List Char}
    {reading : Reading}
    (described : Lexeme lexeme reading following) :
    cut (lexeme ++ following) = ⟨lexeme, reading⟩ :: cut following := by
  obtain ⟨first, tail, rfl, readBack⟩ := described.read_eq
  rw [List.cons_append, cut_cons, readBack]
  simp

/-- A text starts with one lexeme only. -/
theorem Lexeme.unique
    {lexeme following other otherFollowing : List Char}
    {reading otherReading : Reading}
    (described : Lexeme lexeme reading following)
    (otherDescribed : Lexeme other otherReading otherFollowing)
    (sameText : lexeme ++ following = other ++ otherFollowing) :
    lexeme = other ∧ reading = otherReading ∧ following = otherFollowing := by
  have cuts := congrArg cut sameText
  rw [described.cut_append, otherDescribed.cut_append, List.cons.injEq, Segment.mk.injEq] at cuts
  obtain ⟨⟨rfl, rfl⟩, -⟩ := cuts
  exact ⟨rfl, rfl, List.append_cancel_left sameText⟩

/-- A property of texts holds of all of them if it holds of the empty text and
passes from what follows a lexeme to the lexeme with what follows it. -/
theorem lexeme_induction
    {motive : List Char → Prop}
    (empty : motive [])
    (step : ∀ lexeme reading following,
      Lexeme lexeme reading following → motive following → motive (lexeme ++ following))
    (text : List Char) :
    motive text := by
  match text with
  | [] => exact empty
  | first :: rest =>
      obtain ⟨lexeme, reading, following, split, described⟩ := exists_lexeme first rest
      have shorter : following.length < (first :: rest).length := by
        rw [split, List.length_append]
        have := List.length_pos_iff.mpr described.ne_nil
        omega
      rw [split]
      exact step lexeme reading following described (lexeme_induction empty step following)
termination_by text.length
decreasing_by exact shorter

end Segment
end SyntaxTree
