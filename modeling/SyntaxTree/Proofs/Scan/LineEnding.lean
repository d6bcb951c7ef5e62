import SyntaxTree.Proofs.Scan.Spelling
import SyntaxTree.Proofs.Source.LineEnding

/-!
# Scanning texts with carriage returns

A carriage return before every newline of a text changes its trivia and the
bodies of its comments, and nothing else.  Tokens and errors end before the
newline that follows them, and a newline brings the scan back to the first
column whatever stands before it.
-/

namespace SyntaxTree
namespace Segment

open Source Text

/-! ## Positions and comments -/

/-- Carriage returns before newlines do not move what follows the text. -/
theorem after_insertBefore (position : Position) (text : List Char) :
    position.after (insertBefore '\r' '\n' text) = position.after text := by
  induction text generalizing position with
  | nil => rfl
  | cons character text inductionHypothesis =>
      by_cases newline : character = '\n'
      · subst newline
        rw [insertBefore_cons_self, Position.after_cons, Position.after_cons, Position.after_cons,
          inductionHypothesis]
        rfl
      · rw [insertBefore_cons_of_ne newline, Position.after_cons, Position.after_cons,
          inductionHypothesis]

/-- Carriage returns before newlines do not bring a slash to the front. -/
theorem head?_insertBefore_ne
    {text : List Char}
    (notSlash : text.head? ≠ some '/') :
    (insertBefore '\r' '\n' text).head? ≠ some '/' := by
  cases text with
  | nil => simp
  | cons character text =>
      by_cases newline : character = '\n'
      · subst newline
        simp
      · rw [insertBefore_cons_of_ne newline]
        exact notSlash

/-- Carriage returns before newlines do not close a comment. -/
theorem unclosed_insertBefore
    {body : List Char}
    (unclosed : Unclosed body) :
    Unclosed (insertBefore '\r' '\n' body) := by
  induction body with
  | nil => exact unclosed_nil
  | cons character body inductionHypothesis =>
      obtain ⟨notClosing, unclosedBehind⟩ := (unclosed_cons _ _).mp unclosed
      by_cases newline : character = '\n'
      · subst newline
        rw [insertBefore_cons_self, unclosed_cons, unclosed_cons]
        exact ⟨by simp, by simp, inductionHypothesis unclosedBehind⟩
      · rw [insertBefore_cons_of_ne newline, unclosed_cons]
        refine ⟨?_, inductionHypothesis unclosedBehind⟩
        rintro ⟨isStar, head⟩
        exact head?_insertBefore_ne (fun slash => notClosing ⟨isStar, slash⟩) head

/-- Trivia with carriage returns before its newlines is trivia. -/
theorem Trivia.exists_insertBefore (piece : Trivia) :
    ∃ pieces : List Trivia, insertBefore '\r' '\n' piece.text = pieces.flatMap Trivia.text := by
  cases piece with
  | blank character separates =>
      by_cases newline : character = '\n'
      · subst newline
        exact ⟨[.blank '\r' rfl, .blank '\n' rfl], rfl⟩
      · refine ⟨[.blank character separates], ?_⟩
        simp [Trivia.text, insertBefore_cons_of_ne newline]
  | lineComment body oneLine =>
      have withReturn : '\n' ∉ body ++ ['\r'] := by simp [oneLine]
      refine ⟨[.lineComment (body ++ ['\r']) withReturn], ?_⟩
      simp [Trivia.text, insertBefore_cons_of_ne, insertBefore_of_notMem oneLine]
  | blockComment body unclosed =>
      refine ⟨[.blockComment _ (unclosed_insertBefore unclosed)], ?_⟩
      simp [Trivia.text, insertBefore_cons_of_ne]

/-! ## Tokens and errors -/

/-- What starts with an open comment is a comment, closed or not. -/
theorem Lexeme.of_comment
    {lexeme following body : List Char}
    {reading : Reading}
    (described : Lexeme lexeme reading following)
    (opens : lexeme ++ following = '/' :: '*' :: body) :
    reading = .trivia ∨ reading = .error .unterminatedComment := by
  rcases unclosed_or_exists_end body with unclosed | ⟨front, back, rfl, unclosed⟩
  · have isOpen : Lexeme ('/' :: '*' :: body) (.error .unterminatedComment) [] :=
      .unterminated unclosed
    exact Or.inr (described.unique isOpen (by simpa using opens)).2.1
  · have isClosed : Lexeme _ .trivia back := .trivia (.blockComment front unclosed)
    exact Or.inl (described.unique isClosed (by simpa [Trivia.text] using opens)).2.1

/-- A token or an error that starts before a newline ends before it, and the
newline does not matter to it. -/
theorem Lexeme.of_newline
    {lexeme following line behind : List Char}
    {reading : Reading}
    (described : Lexeme lexeme reading following)
    (notTrivia : reading ≠ .trivia)
    (notOpen : reading ≠ .error .unterminatedComment)
    (split : lexeme ++ following = line ++ '\n' :: behind) :
    ∃ rest, line = lexeme ++ rest ∧ following = rest ++ '\n' :: behind ∧
      Lexeme lexeme reading rest := by
  cases line with
  | nil =>
      have newline : Lexeme ['\n'] .trivia behind := .trivia (.blank '\n' rfl)
      exact absurd (described.unique newline split).2.1 notTrivia
  | cons first tail =>
      -- The line alone starts with a lexeme too, and it must be the same one.
      obtain ⟨other, otherReading, rest, lineSplit, inLine⟩ := exists_lexeme first tail
      rw [lineSplit, List.append_assoc] at split
      by_cases otherTrivia : otherReading = .trivia
      · subst otherTrivia
        obtain ⟨piece, rfl⟩ | ⟨rfl, body, oneLine, rfl⟩ := inLine.of_trivia
        · exact absurd (described.unique (.trivia piece) split).2.1 notTrivia
        · have comment : Lexeme _ .trivia behind := .trivia (.lineComment body oneLine)
          exact absurd (described.unique comment (by simpa [Trivia.text] using split)).2.1 notTrivia
      by_cases otherOpen : otherReading = .error .unterminatedComment
      · subst otherOpen
        obtain ⟨rfl, body, -, rfl⟩ := inLine.of_unterminated
        exact absurd (described.of_comment split) (not_or.mpr ⟨notTrivia, notOpen⟩)
      · obtain ⟨rfl, rfl, rfl⟩ :=
          described.unique (inLine.append_blank otherTrivia otherOpen rfl behind) split
        exact ⟨rest, lineSplit, rfl, inLine⟩

/-- A token or an error holds no newline and is read the same with carriage
returns behind it. -/
theorem Lexeme.insertBefore_following
    {lexeme following : List Char}
    {reading : Reading}
    (described : Lexeme lexeme reading following)
    (notTrivia : reading ≠ .trivia)
    (notOpen : reading ≠ .error .unterminatedComment) :
    '\n' ∉ lexeme ∧ Lexeme lexeme reading (insertBefore '\r' '\n' following) := by
  by_cases newline : '\n' ∈ lexeme ++ following
  · obtain ⟨line, behind, split, oneLine⟩ := List.eq_append_cons_of_mem newline
    obtain ⟨rest, rfl, rfl, inLine⟩ := described.of_newline notTrivia notOpen split
    rw [List.mem_append, not_or] at oneLine
    rw [insertBefore_append_cons oneLine.2]
    exact ⟨oneLine.1, inLine.append_blank notTrivia notOpen rfl _⟩
  · rw [List.mem_append, not_or] at newline
    rw [insertBefore_of_notMem newline.2]
    exact ⟨newline.1, described⟩

/-! ## Scans -/

/-- What is found in a segment depends on its reading and its position only. -/
theorem found_cons_congr
    {choose : Reading → Option β}
    {segments others : List (Located Segment)}
    (same : found choose segments = found choose others)
    (lexeme other : List Char)
    (reading : Reading)
    (position : Position) :
    found choose (⟨⟨lexeme, reading⟩, position⟩ :: segments) =
      found choose (⟨⟨other, reading⟩, position⟩ :: others) := by
  unfold found at *
  rw [List.filterMap_cons, List.filterMap_cons, same]
  rfl

/-- Tokens and errors are found at the same positions with a carriage return
before every newline. -/
theorem found_scanFrom_insertBefore
    {choose : Reading → Option β}
    (ignored : choose .trivia = none)
    (position : Position)
    (text : List Char) :
    found choose (scanFrom position (insertBefore '\r' '\n' text)) =
      found choose (scanFrom position text) := by
  induction text using lexeme_induction generalizing position with
  | empty => rfl
  | step lexeme reading following described inductionHypothesis =>
      have goesOn := inductionHypothesis (position.after lexeme)
      by_cases isTrivia : reading = .trivia
      · subst isTrivia
        rw [described.scanFrom_append, found_cons_of_none ignored, ← goesOn]
        obtain ⟨piece, rfl⟩ | ⟨rfl, body, oneLine, rfl⟩ := described.of_trivia
        · obtain ⟨pieces, same⟩ := piece.exists_insertBefore
          rw [insertBefore_append, same, found_trivia_append ignored, ← same, after_insertBefore]
        · have noNewline : '\n' ∉ '/' :: '/' :: body := by simpa using oneLine
          rw [insertBefore_append, insertBefore_of_notMem noNewline, insertBefore_nil,
            described.scanFrom_append, found_cons_of_none ignored]
      by_cases isOpen : reading = .error .unterminatedComment
      · subst isOpen
        obtain ⟨rfl, body, unclosed, rfl⟩ := described.of_unterminated
        have stillOpen : Lexeme (insertBefore '\r' '\n' ('/' :: '*' :: body))
            (.error .unterminatedComment) [] := by
          rw [insertBefore_cons_of_ne (by decide), insertBefore_cons_of_ne (by decide)]
          exact .unterminated (unclosed_insertBefore unclosed)
        rw [insertBefore_append, insertBefore_nil, stillOpen.scanFrom_append,
          described.scanFrom_append, scanFrom_nil, scanFrom_nil]
        exact found_cons_congr rfl _ _ _ _
      · obtain ⟨oneLine, sameReading⟩ := described.insertBefore_following isTrivia isOpen
        rw [insertBefore_append, insertBefore_of_notMem oneLine, sameReading.scanFrom_append,
          described.scanFrom_append]
        exact found_cons_congr goesOn _ _ _ _

end Segment
end SyntaxTree
