import SyntaxTree.Proofs.Scan.Partition

/-!
# Scanning across a newline

A newline ends every lexeme but an open block comment.  So a text with a
newline in it is scanned like the part before it and then the part behind it,
the latter further down; only the trivia at the seam differs.
-/

namespace SyntaxTree
namespace Segment

open Source

/-! ## Segments that are not trivia -/

/-- Segments of tokens and errors. -/
def significant (segments : List (Located Segment)) : List (Located Segment) :=
  segments.filter (·.value.reading ≠ .trivia)

theorem significant_cons_trivia
    (lexeme : List Char)
    (position : Position)
    (segments : List (Located Segment)) :
    significant (⟨⟨lexeme, .trivia⟩, position⟩ :: segments) = significant segments :=
  List.filter_cons_of_neg (by simp)

theorem significant_cons
    {lexeme : List Char}
    {reading : Reading}
    (notTrivia : reading ≠ .trivia)
    (position : Position)
    (segments : List (Located Segment)) :
    significant (⟨⟨lexeme, reading⟩, position⟩ :: segments) =
      ⟨⟨lexeme, reading⟩, position⟩ :: significant segments :=
  List.filter_cons_of_pos (by simpa using notTrivia)

theorem found_append
    (choose : Reading → Option β)
    (left right : List (Located Segment)) :
    found choose (left ++ right) = found choose left ++ found choose right :=
  List.filterMap_append

/-- Where trivia holds nothing it can be left out. -/
theorem found_significant
    {choose : Reading → Option β}
    (ignored : choose .trivia = none)
    (segments : List (Located Segment)) :
    found choose (significant segments) = found choose segments := by
  unfold found significant
  rw [List.filterMap_filter]
  congr 1
  funext segment
  by_cases isTrivia : segment.value.reading = .trivia
  · simp [isTrivia, Located.filterMap, ignored]
  · simp [isTrivia]

/-! ## Across a newline -/

/-- A text whose block comments all end. -/
def Closed (text : List Char) : Prop :=
  ∀ segment ∈ cut text, segment.reading ≠ .error .unterminatedComment

theorem map_value_scanFrom (position : Position) (text : List Char) :
    (scanFrom position text).map (·.value) = cut text := by
  induction text using lexeme_induction generalizing position with
  | empty => simp
  | step lexeme reading following described inductionHypothesis =>
      rw [described.scanFrom_append, described.cut_append, List.map_cons, inductionHypothesis]

/-- A text is closed if its scan reports no open block comment. -/
theorem closed_of_errors
    {text : List Char}
    (noneOpen : ∀ error ∈ TokenLines.errors (scan text), error.value ≠ .unterminatedComment) :
    Closed text := by
  intro segment member isOpen
  rw [← map_value_scanFrom .start text] at member
  obtain ⟨located, locatedMember, rfl⟩ := List.mem_map.mp member
  have chosen : located.filterMap (·.reading.error?) =
      some ⟨.unterminatedComment, located.position⟩ := by
    rw [Located.filterMap, isOpen]
    rfl
  exact noneOpen _ (List.mem_filterMap.mpr ⟨located, locatedMember, chosen⟩) rfl

/-- Behind a newline the scan goes on as if nothing stood before it. -/
theorem significant_scanFrom_append_newline
    (position : Position)
    {left : List Char}
    (closed : Closed left)
    (right : List Char) :
    significant (scanFrom position (left ++ '\n' :: right)) =
      significant (scanFrom position left) ++
        significant (scanFrom (position.after (left ++ ['\n'])) right) := by
  induction left using lexeme_induction generalizing position with
  | empty =>
      have newline : Lexeme ['\n'] .trivia right := .trivia (.blank '\n' rfl)
      rw [List.nil_append, List.nil_append, ← List.singleton_append, newline.scanFrom_append,
        significant_cons_trivia, scanFrom_nil]
      rfl
  | step lexeme reading following described inductionHypothesis =>
      unfold Closed at closed
      rw [described.cut_append, List.forall_mem_cons] at closed
      obtain ⟨notOpen, closedBehind⟩ := closed
      have goesOn := inductionHypothesis (position.after lexeme) closedBehind
      rw [← Position.after_append, ← List.append_assoc] at goesOn
      rw [List.append_assoc, described.scanFrom_append]
      by_cases isTrivia : reading = .trivia
      · subst isTrivia
        rw [significant_cons_trivia]
        obtain ⟨piece, rfl⟩ | ⟨rfl, body, oneLine, rfl⟩ := described.of_trivia
        · rw [(Lexeme.trivia piece).scanFrom_append, significant_cons_trivia, goesOn]
        · -- The newline ends a line comment that ran to the end of the left text.
          have ended : Lexeme ('/' :: '/' :: body ++ ['\n']) .trivia right :=
            .trivia (.lineComment body oneLine)
          rw [List.nil_append, List.append_cons, ended.scanFrom_append, significant_cons_trivia,
            scanFrom_nil, List.append_nil]
          rfl
      · rw [(described.append_blank isTrivia notOpen rfl right).scanFrom_append,
          significant_cons isTrivia, significant_cons isTrivia, goesOn, List.cons_append]

/-! ## Further down -/

/-- A text that stands further down has the same segments further down. -/
theorem scanFrom_down (lines : Nat) (position : Position) (text : List Char) :
    scanFrom (position.down lines) text = (scanFrom position text).map (Located.down lines) := by
  induction text using lexeme_induction generalizing position with
  | empty => simp
  | step lexeme reading following described inductionHypothesis =>
      rw [described.scanFrom_append, described.scanFrom_append, Position.after_down,
        inductionHypothesis, List.map_cons]
      rfl

theorem found_map_down
    (choose : Reading → Option β)
    (lines : Nat)
    (segments : List (Located Segment)) :
    found choose (segments.map (Located.down lines)) =
      (found choose segments).map (Located.down lines) := by
  unfold found
  rw [List.filterMap_map, List.map_filterMap]
  congr 1
  funext segment
  exact Located.filterMap_down (choose ·.reading) lines segment

/-- What a scan finds on both sides of a newline is what it finds in both
texts, the latter further down. -/
theorem found_scan_append_newline
    {choose : Reading → Option β}
    (ignored : choose .trivia = none)
    {left : List Char}
    (closed : Closed left)
    (right : List Char) :
    found choose (scan (left ++ '\n' :: right)) =
      found choose (scan left) ++
        (found choose (scan right)).map (Located.down (1 + left.count '\n')) := by
  calc
    found choose (scan (left ++ '\n' :: right))
        = found choose (significant (scanFrom .start (left ++ '\n' :: right))) :=
      (found_significant ignored _).symm
    _ = found choose (scan left) ++
          found choose (scanFrom (.after .start (left ++ ['\n'])) right) := by
      rw [significant_scanFrom_append_newline _ closed, found_append, found_significant ignored,
        found_significant ignored, scan]
    _ = _ := by
      rw [Position.after_newline, scanFrom_down, found_map_down]
      rfl

/-! ## Lines of a text -/

/-- Segments stand on the lines that the text has. -/
theorem line_of_mem_scan
    {text : List Char}
    {segment : Located Segment}
    (member : segment ∈ scan text) :
    1 ≤ segment.position.line ∧ segment.position.line ≤ 1 + text.count '\n' := by
  obtain ⟨before, after, split⟩ := List.append_of_mem member
  have stands := standsBetween_of_scan split
  have cover : covered (scan text) = text := covered_scanFrom _ _
  rw [split, covered_append] at cover
  rw [stands.position, ← cover, List.count_append]
  dsimp only [Position.behind]
  omega

theorem line_of_mem_found
    {choose : Reading → Option β}
    {text : List Char}
    {located : Located β}
    (member : located ∈ found choose (scan text)) :
    1 ≤ located.position.line ∧ located.position.line ≤ 1 + text.count '\n' := by
  obtain ⟨segment, segmentMember, chosen⟩ := List.mem_filterMap.mp member
  rw [Located.position_eq_of_filterMap chosen]
  exact line_of_mem_scan segmentMember

end Segment
end SyntaxTree
