import SyntaxTree.Parsing.Diagnostic

/-!
# Diagnostics in the order of their lines

Sorting by lines is stable: the diagnostics on each line keep their order.  A
sorted list is known from what it has on each line, so diagnostics of an upper
and a lower part of a text can be sorted apart.
-/

namespace SyntaxTree
namespace Diagnostic

/-- Diagnostics on one line in their order. -/
def onLine (line : Nat) (diagnostics : List Diagnostic) : List Diagnostic :=
  diagnostics.filter (·.line == line)

/-- Lines never decrease along the list. -/
def Sorted (diagnostics : List Diagnostic) : Prop :=
  diagnostics.Pairwise fun left right => left.line ≤ right.line

@[simp] theorem onLine_append (line : Nat) (left right : List Diagnostic) :
    onLine line (left ++ right) = onLine line left ++ onLine line right :=
  List.filter_append left right

theorem mem_onLine
    {line : Nat}
    {diagnostics : List Diagnostic}
    {diagnostic : Diagnostic} :
    diagnostic ∈ onLine line diagnostics ↔ diagnostic ∈ diagnostics ∧ diagnostic.line = line := by
  rw [onLine, List.mem_filter, beq_iff_eq]

/-- A line outside all lines of a list has no diagnostics. -/
theorem onLine_eq_nil
    {line : Nat}
    {diagnostics : List Diagnostic}
    (absent : ∀ diagnostic ∈ diagnostics, diagnostic.line ≠ line) :
    onLine line diagnostics = [] := by
  rw [List.eq_nil_iff_forall_not_mem]
  intro diagnostic member
  obtain ⟨present, onIt⟩ := mem_onLine.mp member
  exact absent diagnostic present onIt

/-- Lists that agree on every line have the same diagnostics. -/
theorem mem_iff_of_onLine
    {left right : List Diagnostic}
    (agree : ∀ line, onLine line left = onLine line right)
    (diagnostic : Diagnostic) :
    diagnostic ∈ left ↔ diagnostic ∈ right := by
  have onItsLine : diagnostic ∈ onLine diagnostic.line left ↔
      diagnostic ∈ onLine diagnostic.line right := by rw [agree]
  simpa only [mem_onLine, and_true] using onItsLine

/-! ## Sorting -/

theorem line_le_trans (first second third : Diagnostic)
    (left : decide (first.line ≤ second.line) = true)
    (right : decide (second.line ≤ third.line) = true) :
    decide (first.line ≤ third.line) = true := by
  rw [decide_eq_true_eq] at *
  exact Nat.le_trans left right

theorem line_le_total (left right : Diagnostic) :
    (decide (left.line ≤ right.line) || decide (right.line ≤ left.line)) = true := by
  rw [Bool.or_eq_true, decide_eq_true_eq, decide_eq_true_eq]
  exact Nat.le_total _ _

theorem sorted_sortByLine (diagnostics : List Diagnostic) : Sorted (sortByLine diagnostics) := by
  have sorted := List.pairwise_mergeSort line_le_trans line_le_total diagnostics
  exact sorted.imp of_decide_eq_true

theorem perm_sortByLine (diagnostics : List Diagnostic) :
    (sortByLine diagnostics).Perm diagnostics :=
  List.mergeSort_perm _ _

/-- Sorting keeps the order of the diagnostics on each line. -/
theorem onLine_sortByLine (line : Nat) (diagnostics : List Diagnostic) :
    onLine line (sortByLine diagnostics) = onLine line diagnostics := by
  have sameLine : (onLine line diagnostics).Pairwise fun left right =>
      decide (left.line ≤ right.line) = true := by
    apply List.pairwise_of_forall_mem_list
    intro left leftMember right rightMember
    rw [(mem_onLine.mp leftMember).2, (mem_onLine.mp rightMember).2]
    exact decide_eq_true (Nat.le_refl line)
  have kept : (onLine line diagnostics).Sublist (sortByLine diagnostics) :=
    List.sublist_mergeSort line_le_trans line_le_total sameLine List.filter_sublist
  have keptOnLine : (onLine line diagnostics).Sublist (onLine line (sortByLine diagnostics)) := by
    have filtered := kept.filter (·.line == line)
    simpa only [onLine, List.filter_filter, Bool.and_self] using filtered
  apply Eq.symm
  apply keptOnLine.eq_of_length
  exact ((perm_sortByLine diagnostics).filter _).length_eq.symm

/-- The first of sorted diagnostics stands on the least line. -/
theorem Sorted.line_head_le
    {head : Diagnostic}
    {tail : List Diagnostic}
    (sorted : Sorted (head :: tail))
    {diagnostic : Diagnostic}
    (member : diagnostic ∈ head :: tail) :
    head.line ≤ diagnostic.line := by
  rcases List.mem_cons.mp member with rfl | later
  · exact Nat.le_refl _
  · exact (List.pairwise_cons.mp sorted).1 diagnostic later

/-- Sorted diagnostics are equal if they agree on every line. -/
theorem Sorted.eq_of_onLine
    {left right : List Diagnostic}
    (leftSorted : Sorted left)
    (rightSorted : Sorted right)
    (agree : ∀ line, onLine line left = onLine line right) :
    left = right := by
  induction left generalizing right with
  | nil =>
      symm
      rw [List.eq_nil_iff_forall_not_mem]
      intro diagnostic member
      exact List.not_mem_nil ((mem_iff_of_onLine agree diagnostic).mpr member)
  | cons head tail inductionHypothesis =>
      have sameMembers := mem_iff_of_onLine agree
      cases right with
      | nil => exact absurd ((sameMembers head).mp List.mem_cons_self) List.not_mem_nil
      | cons other others =>
          -- Both heads stand on the least line, on which the lists agree.
          have line : head.line = other.line :=
            Nat.le_antisymm
              (leftSorted.line_head_le ((sameMembers other).mpr List.mem_cons_self))
              (rightSorted.line_head_le ((sameMembers head).mp List.mem_cons_self))
          have same : head = other := by
            have heads := agree head.line
            simp only [onLine, List.filter_cons, beq_self_eq_true, if_true, line] at heads
            exact (List.cons.inj heads).1
          subst same
          have agreeBehind : ∀ line, onLine line tail = onLine line others := by
            intro line
            have lists := agree line
            by_cases onIt : head.line = line
            · simpa [onLine, onIt] using lists
            · simpa [onLine, onIt] using lists
          have tails : tail = others :=
            inductionHypothesis leftSorted.tail rightSorted.tail agreeBehind
          rw [tails]

/-- Diagnostics of an upper and a lower part of a text are sorted apart, also
if they come in turns. -/
theorem sortByLine_interleaved
    (bound : Nat)
    {firstUpper firstLower secondUpper secondLower : List Diagnostic}
    (upper : ∀ diagnostic ∈ firstUpper ++ secondUpper, diagnostic.line ≤ bound)
    (lower : ∀ diagnostic ∈ firstLower ++ secondLower, bound < diagnostic.line) :
    sortByLine (firstUpper ++ firstLower ++ (secondUpper ++ secondLower)) =
      sortByLine (firstUpper ++ secondUpper) ++ sortByLine (firstLower ++ secondLower) := by
  apply Sorted.eq_of_onLine (sorted_sortByLine _)
  · apply List.pairwise_append.mpr
    refine ⟨sorted_sortByLine _, sorted_sortByLine _, ?_⟩
    intro left leftMember right rightMember
    have below := upper left ((perm_sortByLine _).mem_iff.mp leftMember)
    have above := lower right ((perm_sortByLine _).mem_iff.mp rightMember)
    omega
  · intro line
    rw [onLine_append, onLine_sortByLine, onLine_sortByLine, onLine_sortByLine]
    simp only [onLine_append]
    by_cases inUpper : line ≤ bound
    · have noLower : onLine line (firstLower ++ secondLower) = [] := by
        apply onLine_eq_nil
        intro diagnostic member
        have := lower diagnostic member
        omega
      rw [onLine_append, List.append_eq_nil_iff] at noLower
      simp [noLower]
    · have noUpper : onLine line (firstUpper ++ secondUpper) = [] := by
        apply onLine_eq_nil
        intro diagnostic member
        have := upper diagnostic member
        omega
      rw [onLine_append, List.append_eq_nil_iff] at noUpper
      simp [noUpper]

/-! ## Moving down -/

/-- The same diagnostic some lines further down. -/
def down (lines : Nat) (diagnostic : Diagnostic) : Diagnostic :=
  { diagnostic with line := diagnostic.line + lines }

@[simp] theorem line_down (lines : Nat) (diagnostic : Diagnostic) :
    (diagnostic.down lines).line = diagnostic.line + lines :=
  rfl

theorem sortByLine_map_down (lines : Nat) (diagnostics : List Diagnostic) :
    sortByLine (diagnostics.map (down lines)) = (sortByLine diagnostics).map (down lines) := by
  unfold sortByLine
  rw [List.map_mergeSort]
  intro left _ right _
  simp

end Diagnostic
end SyntaxTree
