import SyntaxTree.Proofs.Viewer.Invariant
import SyntaxTree.Proofs.Viewer.Visibility

/-!
# Where the selection stays

Rebuilding the rows looks for the selected node again.  A node is visible whether
it is folded or not, and so are the nodes before it, so folding and unfolding
the selected node leaves it selected at the same index.  Unfolding everything
takes no row away.  Only the switch for empty symbols can take the selected row
away, and then the selection stays at its index as far as there are rows.
-/

namespace SyntaxTree

/-- The folds of all nodes but one are as before. -/
structure FoldSet.Turns (id : Nat) (before after : FoldSet) : Prop where
  turned : after.contains id = !before.contains id
  others : ∀ other, other ≠ id → after.contains other = before.contains other

namespace FoldSet

theorem turns_insert
    {folded : FoldSet}
    {id : Nat}
    (isOpen : folded.contains id = false) :
    Turns id folded (folded.insert id) where
  turned := by
    rw [isOpen, Bool.not_false, contains_insert]
    exact Or.inl rfl
  others other different := by
    rw [Bool.eq_iff_iff, contains_insert, or_iff_right different]

theorem turns_erase
    {folded : FoldSet}
    {id : Nat}
    (isFolded : folded.contains id = true) :
    Turns id folded (folded.erase id) where
  turned := by
    rw [isFolded, Bool.not_true, ← Bool.not_eq_true, contains_erase]
    exact fun both => both.2 rfl
  others other different := by
    rw [Bool.eq_iff_iff, contains_erase, and_iff_left different]

end FoldSet

namespace Viewer

/-! ## Rebuilding the rows -/

/-- The first row with the id of a row is that row. -/
theorem findIdx?_id
    {rows : List Row}
    (ordered : rows.Pairwise fun upper lower => upper.id < lower.id)
    {index : Nat}
    {row : Row}
    (isRow : rows[index]? = some row) :
    rows.findIdx? (·.id == row.id) = some index := by
  obtain ⟨inRange, rfl⟩ := List.getElem?_eq_some_iff.mp isRow
  refine List.findIdx?_eq_some_iff_getElem.mpr ⟨inRange, beq_self_eq_true _, ?_⟩
  intro earlier before
  rw [beq_iff_eq]
  exact Nat.ne_of_lt (List.pairwise_iff_getElem.mp ordered earlier index _ inRange before)

@[simp] theorem rows_refresh (viewer : Viewer) :
    viewer.refresh.rows = viewer.root.outline viewer.folded viewer.showEpsilon :=
  rfl

theorem selected_refresh (viewer : Viewer) :
    viewer.refresh.selected =
      min ((viewer.selectedRow?.bind fun row =>
          viewer.refresh.rows.findIdx? (·.id == row.id)).getD viewer.selected)
        (viewer.refresh.rows.length - 1) :=
  rfl

/-- The selected row is found again at its new index. -/
theorem refresh_of_kept
    {viewer : Viewer}
    {row : Row}
    {index : Nat}
    (isSelected : viewer.selectedRow? = some row)
    (kept : viewer.refresh.rows[index]? = some row) :
    viewer.refresh.selected = index ∧ viewer.refresh.selectedRow? = some row := by
  have inRange := (List.getElem?_eq_some_iff.mp kept).1
  have ordered : viewer.refresh.rows.Pairwise fun upper lower => upper.id < lower.id :=
    viewer.root.pairwise_id_outline _ _
  have selected : viewer.refresh.selected = index := by
    rw [selected_refresh, isSelected, Option.bind_some, findIdx?_id ordered kept,
      Option.getD_some]
    exact Nat.min_eq_left (Nat.le_sub_one_of_lt inRange)
  refine ⟨selected, ?_⟩
  rw [selectedRow?, selected]
  exact kept

/-- Without its row the selection stays at its index as far as there are rows. -/
theorem refresh_of_lost
    {viewer : Viewer}
    (lost : ∀ row, viewer.selectedRow? = some row →
      ∀ other ∈ viewer.refresh.rows, other.id ≠ row.id) :
    viewer.refresh.selected = min viewer.selected (viewer.refresh.rows.length - 1) := by
  rw [selected_refresh]
  cases isSelected : viewer.selectedRow? with
  | none => rfl
  | some row =>
      have absent : viewer.refresh.rows.findIdx? (·.id == row.id) = none := by
        rw [List.findIdx?_eq_none_iff]
        intro other member
        exact beq_false_of_ne (lost row isSelected other member)
      rw [Option.bind_some, absent, Option.getD_none]

/-! ## Commands -/

/-- The command folds the selected row, or unfolds it. -/
def Refolds (viewer : Viewer) (row : Row) : Command → Prop
  | .toggleFold => row.isFoldable = true
  | .collapse => row.isFoldable = true ∧ viewer.folded.contains row.id = false
  | .expand => viewer.folded.contains row.id = true
  | _ => False

/-- Folding or unfolding is always a toggle. -/
theorem perform_of_refolds
    {viewer : Viewer}
    {row : Row}
    {command : Command}
    (isSelected : viewer.selectedRow? = some row)
    (refolds : viewer.Refolds row command) :
    viewer.perform command = viewer.toggleFold := by
  cases command with
  | toggleFold => rfl
  | collapse =>
      obtain ⟨foldable, isOpen⟩ := refolds
      simp [perform, collapse, isSelected, foldable, isOpen]
  | expand =>
      have isFolded : viewer.folded.contains row.id = true := refolds
      simp [perform, expand, isSelected, isFolded]
  | _ => cases refolds

/-- Toggling a row that has subtrees turns its fold and rebuilds the rows. -/
theorem toggleFold_of_foldable
    {viewer : Viewer}
    {row : Row}
    (isSelected : viewer.selectedRow? = some row)
    (foldable : row.isFoldable = true) :
    ∃ folded status, FoldSet.Turns row.id viewer.folded folded ∧
      viewer.toggleFold = { viewer with folded := folded, status := status }.refresh := by
  cases isFolded : viewer.folded.contains row.id with
  | false =>
      refine ⟨_, "Folded " ++ row.symbol.name, FoldSet.turns_insert isFolded, ?_⟩
      simp [toggleFold, isSelected, foldable, isFolded]
  | true =>
      refine ⟨_, "Expanded " ++ row.symbol.name, FoldSet.turns_erase isFolded, ?_⟩
      simp [toggleFold, isSelected, foldable, isFolded]

namespace Consistent

variable
  {root : Tree}
  {viewer : Viewer}
  (consistent : viewer.Consistent root)
  {row : Row}
  (isSelected : viewer.selectedRow? = some row)

include consistent isSelected

theorem selected_getElem? :
    (root.outline viewer.folded viewer.showEpsilon)[viewer.selected]? = some row := by
  rw [← consistent.rows]
  exact isSelected

/-- Only nodes with subtrees are folded. -/
theorem isFoldable_of_folded (isFolded : viewer.folded.contains row.id = true) :
    row.isFoldable = true := by
  obtain ⟨visit, visited, hasChildren⟩ := consistent.folded row.id isFolded
  have member := List.mem_of_getElem? (consistent.selected_getElem? isSelected)
  rw [Tree.getElem?_preorder_of_mem_outline member] at visited
  obtain rfl := Option.some.inj visited
  simpa [Row.isFoldable] using hasChildren

/-- Folding or unfolding the selected row keeps it selected at its index. -/
theorem toggleFold_of_foldable (foldable : row.isFoldable = true) :
    viewer.toggleFold.selectedRow? = some row ∧ viewer.toggleFold.selected = viewer.selected ∧
      FoldSet.Turns row.id viewer.folded viewer.toggleFold.folded := by
  obtain ⟨folded, status, turns, toggled⟩ := Viewer.toggleFold_of_foldable isSelected foldable
  rw [toggled]
  have kept : { viewer with folded := folded, status := status }.refresh.rows[viewer.selected]? =
      some row := by
    rw [rows_refresh, consistent.root]
    apply Tree.getElem?_outline_of_folds (consistent.selected_getElem? isSelected)
    intro id before
    exact turns.others id (Nat.ne_of_lt before)
  obtain ⟨selected, stillSelected⟩ := refresh_of_kept (by exact isSelected) kept
  exact ⟨stillSelected, selected, turns⟩

/-- Unfolding everything keeps the selected row selected. -/
theorem expandAll : viewer.expandAll.selectedRow? = some row := by
  have member := List.mem_of_getElem? (consistent.selected_getElem? isSelected)
  have stillRow : row ∈ { viewer with folded := {} }.refresh.rows := by
    rw [rows_refresh, consistent.root]
    exact (Tree.outline_sublist_of_folds (by simp) root).subset member
  obtain ⟨index, kept⟩ := List.mem_iff_getElem?.mp stillRow
  exact (refresh_of_kept (by exact isSelected) kept).2

/-- The switch for empty symbols keeps the selected row selected if it leaves a
row with its id. -/
theorem toggleEpsilon_of_kept
    {other : Row}
    (stillRow : other ∈ viewer.toggleEpsilon.rows)
    (same : other.id = row.id) :
    viewer.toggleEpsilon.selectedRow? = some row := by
  have member := List.mem_of_getElem? (consistent.selected_getElem? isSelected)
  change other ∈ { viewer with showEpsilon := !viewer.showEpsilon }.refresh.rows at stillRow
  obtain ⟨index, kept⟩ := List.mem_iff_getElem?.mp stillRow
  rw [rows_refresh, consistent.root] at stillRow
  obtain rfl := Tree.row_eq_of_id_eq stillRow member same
  exact (refresh_of_kept (by exact isSelected) kept).2

end Consistent

/-- The viewer is consistent in every state that it reaches. -/
theorem consistent_run (root : Tree) (showEpsilon : Bool) (steps : List Step) :
    ((start root showEpsilon).run steps).Consistent root :=
  run_induction (fun _ _ change consistent => consistent.change change)
    (consistent_start root showEpsilon) steps

/-- In every state that a viewer reaches, the rows behind a key are those of the
visible nodes.  A key that folds or unfolds the selected row leaves it selected at
its index, and the key that unfolds everything leaves it selected, maybe at another
one.  The key that switches empty symbols leaves the row selected if it stays, and
otherwise the index as far as there are rows. -/
theorem press_keeps_selection
    (root : Tree)
    (showEpsilon : Bool)
    (steps : List Step)
    (key : Key) :
    let viewer := (start root showEpsilon).run steps
    let after := viewer.press key
    after.rows = root.outline after.folded after.showEpsilon ∧
      (∀ row command, viewer.selectedRow? = some row → key.command? = some command →
        viewer.Refolds row command →
          after.selectedRow? = some row ∧ after.selected = viewer.selected ∧
            FoldSet.Turns row.id viewer.folded after.folded) ∧
      (∀ row, viewer.selectedRow? = some row → key.command? = some .expandAll →
        after.selectedRow? = some row ∧ after.folded = {}) ∧
      (key.command? = some .toggleEpsilon →
        after.showEpsilon = !viewer.showEpsilon ∧
        (∀ row, viewer.selectedRow? = some row → (∃ other ∈ after.rows, other.id = row.id) →
          after.selectedRow? = some row) ∧
        ((∀ row, viewer.selectedRow? = some row → ∀ other ∈ after.rows, other.id ≠ row.id) →
          after.selected = min viewer.selected (after.rows.length - 1))) := by
  intro viewer after
  have consistent : viewer.Consistent root := consistent_run root showEpsilon steps
  have pressed : ∀ command, key.command? = some command → after = viewer.perform command := by
    intro command isCommand
    simp only [after, press, isCommand]
  refine ⟨(consistent.change (change_press viewer key)).rows,
    fun row command isSelected isCommand refolds => ?refolds,
    fun row isSelected isCommand => ?expandAll,
    fun isCommand => ⟨?switched, ?kept, fun lost => ?lost⟩⟩
  case refolds =>
    have foldable : row.isFoldable = true := by
      cases command with
      | toggleFold => exact refolds
      | collapse => exact refolds.1
      | expand => exact consistent.isFoldable_of_folded isSelected refolds
      | _ => cases refolds
    rw [pressed command isCommand, perform_of_refolds isSelected refolds]
    exact consistent.toggleFold_of_foldable isSelected foldable
  case expandAll =>
    rw [pressed _ isCommand]
    exact ⟨consistent.expandAll isSelected, rfl⟩
  case switched =>
    rw [pressed _ isCommand]
    rfl
  case kept =>
    rw [pressed _ isCommand]
    rintro row isSelected ⟨other, stillRow, same⟩
    exact consistent.toggleEpsilon_of_kept isSelected stillRow same
  case lost =>
    rw [pressed _ isCommand] at lost ⊢
    exact refresh_of_lost (by exact lost)

/-- Folding the empty list keeps it selected.  Hiding it then takes its row away,
and the declaration that comes back takes its place under the selection. -/
theorem press_keeps_selection_emptyList :
    let root : Tree :=
      .node ⟨"CompSt", .nonTerminal, 1, .unset⟩
        [.node ⟨"DefList", .epsilon, 1, .unset⟩ [.leaf ⟨"Def", .nonTerminal, 2, .unset⟩],
          .leaf ⟨"RC", .token, 3, .unset⟩]
    let viewer := (start root true).run [.press .down]
    let folded := viewer.press .left
    (∃ row, viewer.selectedRow? = some row ∧ row.id = 1 ∧ folded.selectedRow? = some row ∧
      folded.rows.map (·.id) = [0, 1, 3]) ∧
      (folded.press (.character 'e')).rows.map (·.id) = [0, 2, 3] ∧
      (folded.press (.character 'e')).selected = 1 := by
  intro root viewer folded
  have picked : viewer.selectedRow?.map (fun row => (row.id, row.isFoldable)) = some (1, true) := by
    decide +kernel
  obtain ⟨row, isSelected, picks⟩ := Option.map_eq_some_iff.mp picked
  obtain ⟨isId, foldable⟩ := Prod.mk.inj picks
  have isOpen : viewer.folded.contains row.id = false := by
    rw [isId]
    decide +kernel
  obtain ⟨-, refolding, -, -⟩ := press_keeps_selection root true [.press .down] .left
  have stays : folded.selectedRow? = some row :=
    (refolding row .collapse isSelected rfl ⟨foldable, isOpen⟩).1
  refine ⟨⟨row, isSelected, isId, stays, by decide +kernel⟩, by decide +kernel, ?_⟩
  obtain ⟨-, -, -, switching⟩ :=
    press_keeps_selection root true [.press .down, .press .left] (.character 'e')
  have lost : ∀ other ∈ (folded.press (.character 'e')).rows, other.id ≠ 1 := by
    decide +kernel
  refine ((switching rfl).2.2 fun other isOther => ?_).trans (by decide +kernel)
  obtain rfl : row = other := Option.some.inj (stays.symm.trans isOther)
  rwa [isId]

end Viewer
end SyntaxTree
