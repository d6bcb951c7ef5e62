import SyntaxTree.Proofs.Tree.Path
import SyntaxTree.Proofs.Viewer.Rows

/-!
# Hiding empty symbols

Symbols that derived the empty text can be hidden from an outline.  Hiding them
keeps every other row.  It also brings rows back: a hidden symbol folds nothing,
so what stood below it appears.  Hiding therefore only hides if nothing but
empty symbols stands below the empty symbols that are folded.
-/

namespace SyntaxTree

/-- If the row is that of an empty symbol and folded, only empty symbols stand
below it. -/
def Row.FoldsOnlyEpsilon (folded : FoldSet) (row : Row) : Prop :=
  row.symbol.kind = .epsilon → folded.contains row.id = true →
    row.tree.Everywhere (·.kind = .epsilon)

/-- Rows of symbols that are not empty. -/
def withoutEpsilon (rows : List Row) : List Row :=
  rows.filter (·.symbol.kind != .epsilon)

@[simp] theorem withoutEpsilon_nil : withoutEpsilon [] = [] :=
  rfl

@[simp] theorem withoutEpsilon_append (left right : List Row) :
    withoutEpsilon (left ++ right) = withoutEpsilon left ++ withoutEpsilon right :=
  List.filter_append left right

theorem withoutEpsilon_cons_of_epsilon
    {row : Row}
    (isEpsilon : row.symbol.kind = .epsilon)
    (rows : List Row) :
    withoutEpsilon (row :: rows) = withoutEpsilon rows :=
  List.filter_cons_of_neg (by simp [isEpsilon])

theorem withoutEpsilon_cons
    {row : Row}
    (notEpsilon : row.symbol.kind ≠ .epsilon)
    (rows : List Row) :
    withoutEpsilon (row :: rows) = row :: withoutEpsilon rows :=
  List.filter_cons_of_pos (by simp [notEpsilon])

/-- Lists with a sublist of each in their order are equal part by part. -/
theorem append_eq_append_iff_of_sublist
    {shorter longer shorterTail longerTail : List Row}
    (front : shorter.Sublist longer)
    (back : shorterTail.Sublist longerTail) :
    longer ++ longerTail = shorter ++ shorterTail ↔
      longer = shorter ∧ longerTail = shorterTail := by
  constructor
  · intro equal
    have lengths := congrArg List.length equal
    rw [List.length_append, List.length_append] at lengths
    have frontLength := front.length_le
    have backLength := back.length_le
    exact ⟨(front.eq_of_length (by omega)).symm, (back.eq_of_length (by omega)).symm⟩
  · rintro ⟨rfl, rfl⟩
    rfl

namespace Tree

variable {folded : FoldSet}

mutual

/-- Hiding the empty symbols leaves no rows only if there are no others. -/
theorem rowsFrom_false_eq_nil_iff :
    (tree : Tree) → (id depth : Nat) →
      (tree.rowsFrom folded false id depth = [] ↔ tree.Everywhere (·.kind = .epsilon))
  | .node symbol children, id, depth => by
    rw [everywhere_node]
    by_cases isEpsilon : symbol.kind = .epsilon
    · rw [rowsFrom_of_hidden isEpsilon, rowsBelow_false_eq_nil_iff children]
      exact (and_iff_right isEpsilon).symm
    · rw [rowsFrom_of_shown (Kind.isShown_of_ne isEpsilon)]
      simp [isEpsilon]

theorem rowsBelow_false_eq_nil_iff :
    (forest : List Tree) → (id depth : Nat) →
      (rowsBelow folded false id depth forest = [] ↔
        ∀ tree ∈ forest, tree.Everywhere (·.kind = .epsilon))
  | [], id, depth => by simp [rowsBelow]
  | tree :: forest, id, depth => by
    rw [rowsBelow, List.append_eq_nil_iff, rowsFrom_false_eq_nil_iff tree,
      rowsBelow_false_eq_nil_iff forest, List.forall_mem_cons]

end

mutual

/-- Hiding the empty symbols keeps all other rows. -/
theorem sublist_rowsFrom :
    (tree : Tree) → (id depth : Nat) →
      (withoutEpsilon (tree.rowsFrom folded true id depth)).Sublist
        (tree.rowsFrom folded false id depth)
  | .node symbol children, id, depth => by
    have below := sublist_rowsBelow children (id + 1) (depth + 1)
    rw [rowsFrom_of_shown (Kind.isShown_true symbol.kind)]
    by_cases isEpsilon : symbol.kind = .epsilon
    · rw [rowsFrom_of_hidden isEpsilon, withoutEpsilon_cons_of_epsilon (by exact isEpsilon)]
      split
      · exact List.nil_sublist _
      · exact below
    · rw [rowsFrom_of_shown (Kind.isShown_of_ne isEpsilon),
        withoutEpsilon_cons (by exact isEpsilon), List.cons_sublist_cons]
      split
      · exact List.nil_sublist _
      · exact below

theorem sublist_rowsBelow :
    (forest : List Tree) → (id depth : Nat) →
      (withoutEpsilon (rowsBelow folded true id depth forest)).Sublist
        (rowsBelow folded false id depth forest)
  | [], id, depth => by simp [rowsBelow]
  | tree :: forest, id, depth => by
    rw [rowsBelow, rowsBelow, withoutEpsilon_append]
    exact (sublist_rowsFrom tree id depth).append (sublist_rowsBelow forest _ depth)

end

mutual

/-- Hiding the empty symbols only hides them if and only if the folded ones
among them have nothing else below them. -/
theorem rowsFrom_false_eq_iff :
    (tree : Tree) → (id depth : Nat) →
      (tree.rowsFrom folded false id depth =
          withoutEpsilon (tree.rowsFrom folded true id depth) ↔
        ∀ row ∈ tree.rowsFrom folded true id depth, row.FoldsOnlyEpsilon folded)
  | .node symbol children, id, depth => by
    have below := rowsBelow_false_eq_iff children (id + 1) (depth + 1)
    rw [rowsFrom_of_shown (Kind.isShown_true symbol.kind), List.forall_mem_cons]
    by_cases isEpsilon : symbol.kind = .epsilon
    · rw [rowsFrom_of_hidden isEpsilon, withoutEpsilon_cons_of_epsilon (by exact isEpsilon)]
      by_cases isFolded : folded.contains id = true
      · -- The fold hides the subtrees only while its own row is shown.
        rw [if_pos isFolded, withoutEpsilon_nil, rowsBelow_false_eq_nil_iff]
        simp [Row.FoldsOnlyEpsilon, Row.symbol, isEpsilon, isFolded, everywhere_node]
      · rw [if_neg isFolded, below]
        simp [Row.FoldsOnlyEpsilon, isFolded]
    · have notAffected : Row.FoldsOnlyEpsilon folded ⟨id, depth, .node symbol children⟩ :=
        fun rowEpsilon => absurd rowEpsilon isEpsilon
      rw [rowsFrom_of_shown (Kind.isShown_of_ne isEpsilon),
        withoutEpsilon_cons (by exact isEpsilon), List.cons.injEq, and_iff_right rfl,
        and_iff_right notAffected]
      split
      · simp
      · exact below

theorem rowsBelow_false_eq_iff :
    (forest : List Tree) → (id depth : Nat) →
      (rowsBelow folded false id depth forest =
          withoutEpsilon (rowsBelow folded true id depth forest) ↔
        ∀ row ∈ rowsBelow folded true id depth forest, row.FoldsOnlyEpsilon folded)
  | [], id, depth => by simp [rowsBelow]
  | tree :: forest, id, depth => by
    rw [rowsBelow, rowsBelow, withoutEpsilon_append,
      append_eq_append_iff_of_sublist (sublist_rowsFrom tree id depth)
        (sublist_rowsBelow forest _ depth),
      rowsFrom_false_eq_iff tree, rowsBelow_false_eq_iff forest, List.forall_mem_append]

end

/-- Hiding the empty symbols keeps all other rows, in their order and with
their ids and depths.  No further row appears if and only if those empty
symbols that have a row and are folded have only empty symbols below them. -/
theorem outline_hidingEpsilon (tree : Tree) (folded : FoldSet) :
    (withoutEpsilon (tree.outline folded true)).Sublist (tree.outline folded false) ∧
      (tree.outline folded false = withoutEpsilon (tree.outline folded true) ↔
        ∀ row ∈ tree.outline folded true, row.FoldsOnlyEpsilon folded) := by
  rw [outline_eq_rowsFrom, outline_eq_rowsFrom]
  exact ⟨sublist_rowsFrom tree 0 0, rowsFrom_false_eq_iff tree 0 0⟩

/-- The declaration below the folded empty list has no row while the list is
shown, and it has one as soon as the list is hidden. -/
theorem outline_hidingEpsilon_foldedList :
    let tree : Tree :=
      .node ⟨"CompSt", .nonTerminal, 1, .unset⟩
        [.node ⟨"DefList", .epsilon, 1, .unset⟩ [.leaf ⟨"Def", .nonTerminal, 2, .unset⟩],
          .leaf ⟨"RC", .token, 3, .unset⟩]
    let folded := FoldSet.ofList [1]
    (tree.outline folded true).map (·.id) = [0, 1, 3] ∧
      (tree.outline folded false).map (·.id) = [0, 2, 3] ∧
      tree.outline folded false ≠ withoutEpsilon (tree.outline folded true) := by
  intro tree folded
  have shown : (withoutEpsilon (tree.outline folded true)).map (·.id) = [0, 3] := by
    decide +kernel
  have hidden : (tree.outline folded false).map (·.id) = [0, 2, 3] := by
    decide +kernel
  refine ⟨by decide +kernel, hidden, ?_⟩
  intro equal
  rw [equal, shown] at hidden
  contradiction

end Tree
end SyntaxTree
