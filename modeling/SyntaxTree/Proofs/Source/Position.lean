import Mathlib.Data.List.Induction
import SyntaxTree.Source.Position

/-!
# Counting lines and columns

A position reached by advancing over a text is the one that counting gives: the
newlines of the text and the characters behind the last of them.  Advancing
never leads back, and it commutes with moving the start some lines down.
-/

namespace SyntaxTree
namespace Source
namespace Position

/-- Position behind a text that stands at the start of a source, found by
counting. -/
def behind (passed : List Char) : Position :=
  ⟨1 + passed.count '\n', 1 + (passed.reverse.takeWhile (· != '\n')).length⟩

/-- Advancing over a text counts its newlines and the characters behind the
last one. -/
theorem after_start (passed : List Char) : start.after passed = behind passed := by
  induction passed using List.reverseRecOn with
  | nil => rfl
  | append_singleton passed character inductionHypothesis =>
      rw [after_append, inductionHypothesis, after_cons, after_nil]
      by_cases newline : character = '\n'
      · subst newline
        simp [behind, advance, Nat.add_assoc]
      · simp [behind, advance, newline, Nat.add_comm]

/-! ## Order of positions -/

/-- A position that is met before another one. -/
def Before (left right : Position) : Prop :=
  left.line < right.line ∨ left.line = right.line ∧ left.column < right.column

theorem Before.trans
    {first second third : Position}
    (left : first.Before second)
    (right : second.Before third) :
    first.Before third := by
  unfold Before at *
  omega

theorem Before.ne
    {left right : Position}
    (before : left.Before right) :
    left ≠ right := by
  rintro rfl
  unfold Before at before
  omega

theorem Before.line_le
    {left right : Position}
    (before : left.Before right) :
    left.line ≤ right.line := by
  unfold Before at before
  omega

theorem before_advance (position : Position) (character : Char) :
    position.Before (position.advance character) := by
  unfold advance Before
  split <;> simp

/-- Advancing over some characters leads to a later position. -/
theorem before_after
    (position : Position)
    {text : List Char}
    (nonempty : text ≠ []) :
    position.Before (position.after text) := by
  induction text generalizing position with
  | nil => contradiction
  | cons character text inductionHypothesis =>
      rw [after_cons]
      by_cases last : text = []
      · subst last
        exact before_advance position character
      · exact (before_advance position character).trans (inductionHypothesis _ last)

/-! ## Moving down -/

/-- The position some lines further down in the same column. -/
def down (lines : Nat) (position : Position) : Position :=
  ⟨position.line + lines, position.column⟩

@[simp] theorem line_down (lines : Nat) (position : Position) :
    (position.down lines).line = position.line + lines :=
  rfl

/-- Advancing from further down leads as far down. -/
theorem after_down (lines : Nat) (position : Position) (text : List Char) :
    (position.down lines).after text = (position.after text).down lines := by
  induction text generalizing position with
  | nil => rfl
  | cons character text inductionHypothesis =>
      have advanced :
          (position.down lines).advance character = (position.advance character).down lines := by
        unfold advance down
        split <;> simp [Nat.add_right_comm]
      rw [after_cons, after_cons, advanced, inductionHypothesis]

/-- Behind a newline a text continues as at the start of a source, only further
down. -/
theorem after_newline (passed : List Char) :
    start.after (passed ++ ['\n']) = start.down (1 + passed.count '\n') := by
  rw [after_start]
  simp [behind, down, start, Nat.add_comm]

end Position

namespace Located

/-- The same thing some lines further down. -/
def down (lines : Nat) (located : Located α) : Located α :=
  ⟨located.value, located.position.down lines⟩

@[simp] theorem position_down (lines : Nat) (located : Located α) :
    (located.down lines).position = located.position.down lines :=
  rfl

theorem filterMap_down
    (choose : α → Option β)
    (lines : Nat)
    (located : Located α) :
    (located.down lines).filterMap choose = (located.filterMap choose).map (down lines) := by
  simp [filterMap, down, Function.comp_def]

/-- What is chosen stands where it was chosen from. -/
theorem position_eq_of_filterMap
    {choose : α → Option β}
    {located : Located α}
    {found : Located β}
    (chosen : located.filterMap choose = some found) :
    found.position = located.position := by
  obtain ⟨value, -, rfl⟩ := Option.map_eq_some_iff.mp chosen
  rfl

end Located
end Source
end SyntaxTree
