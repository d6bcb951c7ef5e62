import SyntaxTree.Proofs.Viewer.Selection

/-!
# Folding and unfolding again

Toggling the selected row turns its fold and no other, and it leaves the row
selected.  A second toggle therefore turns the same fold back.  The rows depend
on the folds only, so those that disappeared come back as they were, with the
folds among them that could not be seen meanwhile.
-/

namespace SyntaxTree

/-- A fold that is turned twice is as it was. -/
theorem FoldSet.Turns.contains_eq_of_twice
    {id : Nat}
    {before between after : FoldSet}
    (first : Turns id before between)
    (second : Turns id between after)
    (other : Nat) :
    after.contains other = before.contains other := by
  by_cases same : other = id
  · rw [same, second.turned, first.turned, Bool.not_not]
  · rw [second.others other same, first.others other same]

/-- An outline depends on which nodes are folded and on nothing else of the folds. -/
theorem Tree.outline_congr
    {folded others : FoldSet}
    (agree : ∀ id, others.contains id = folded.contains id)
    (tree : Tree)
    (showEpsilon : Bool) :
    tree.outline others showEpsilon = tree.outline folded showEpsilon := by
  unfold outline
  rw [foldl_add_congr fun visit _ => agree visit.2]

namespace Viewer

/-- The row has something below it and is not folded. -/
def IsOpen (viewer : Viewer) (row : Row) : Prop :=
  row.isFoldable = true ∧ viewer.folded.contains row.id = false

/-- Two viewers show the same rows under the same folds and have the same row
selected. -/
structure SameView (before after : Viewer) : Prop where
  rows : after.rows = before.rows
  folded : ∀ id, after.folded.contains id = before.folded.contains id
  selected : after.selected = before.selected

theorem press_eq_perform
    {key : Key}
    {command : Command}
    (isCommand : key.command? = some command)
    (viewer : Viewer) :
    viewer.press key = viewer.perform command := by
  simp only [press, isCommand]

/-! ## Toggling -/

theorem toggleFold_of_noRow
    {viewer : Viewer}
    (noRow : viewer.selectedRow? = none) :
    viewer.toggleFold = viewer := by
  simp only [toggleFold, noRow]

/-- Toggling a row with nothing below it changes the status only. -/
theorem toggleFold_of_childless
    {viewer : Viewer}
    {row : Row}
    (isSelected : viewer.selectedRow? = some row)
    (childless : row.isFoldable = false) :
    viewer.toggleFold = { viewer with status := row.symbol.name ++ " has no children" } := by
  simp [toggleFold, isSelected, childless]

@[simp] theorem showEpsilon_toggleFold (viewer : Viewer) :
    viewer.toggleFold.showEpsilon = viewer.showEpsilon := by
  unfold toggleFold
  split
  · rfl
  · dsimp only
    split
    · rfl
    · split <;> rfl

/-- An open row is folded by the command that collapses. -/
theorem perform_collapse_of_open
    {viewer : Viewer}
    {row : Row}
    (isSelected : viewer.selectedRow? = some row)
    (isOpen : viewer.IsOpen row) :
    viewer.perform .collapse = viewer.toggleFold :=
  perform_of_refolds isSelected isOpen

namespace Consistent

variable
  {root : Tree}
  {viewer : Viewer}
  (consistent : viewer.Consistent root)

include consistent

theorem toggleFold : viewer.toggleFold.Consistent root :=
  consistent.change (change_toggleFold viewer)

/-- Two consistent viewers with the same folds and the same switch have the same
rows. -/
theorem rows_eq
    {other : Viewer}
    (otherConsistent : other.Consistent root)
    (sameFolds : ∀ id, other.folded.contains id = viewer.folded.contains id)
    (sameSwitch : other.showEpsilon = viewer.showEpsilon) :
    other.rows = viewer.rows := by
  rw [otherConsistent.rows, consistent.rows, sameSwitch, Tree.outline_congr sameFolds]

/-- Toggling twice shows what was shown before. -/
theorem sameView_toggleFold_toggleFold : SameView viewer viewer.toggleFold.toggleFold := by
  cases isSelected : viewer.selectedRow? with
  | none =>
      rw [toggleFold_of_noRow isSelected, toggleFold_of_noRow isSelected]
      exact ⟨rfl, fun _ => rfl, rfl⟩
  | some row =>
      cases foldable : row.isFoldable with
      | false =>
          rw [toggleFold_of_childless isSelected foldable,
            toggleFold_of_childless (by exact isSelected) foldable]
          exact ⟨rfl, fun _ => rfl, rfl⟩
      | true =>
          obtain ⟨stillSelected, selected, turns⟩ :=
            consistent.toggleFold_of_foldable isSelected foldable
          obtain ⟨-, selectedAgain, turnsBack⟩ :=
            consistent.toggleFold.toggleFold_of_foldable stillSelected foldable
          have sameFolds := turns.contains_eq_of_twice turnsBack
          refine ⟨?_, sameFolds, selectedAgain.trans selected⟩
          exact consistent.rows_eq consistent.toggleFold.toggleFold sameFolds (by simp)

/-- An open row stays selected when it is folded. -/
theorem toggleFold_of_open
    {row : Row}
    (isSelected : viewer.selectedRow? = some row)
    (isOpen : viewer.IsOpen row) :
    viewer.toggleFold.selectedRow? = some row ∧ viewer.toggleFold.selected = viewer.selected ∧
      viewer.toggleFold.folded.contains row.id = true := by
  obtain ⟨stillSelected, selected, turns⟩ :=
    consistent.toggleFold_of_foldable isSelected isOpen.1
  exact ⟨stillSelected, selected, by rw [turns.turned, isOpen.2, Bool.not_false]⟩

end Consistent

/-- In every state that a viewer reaches, toggling twice brings back the rows, the
folds and the selection.  On an open row, a key that collapses folds it, and a
key that expands then brings all of it back. -/
theorem toggleFold_restores (root : Tree) (showEpsilon : Bool) (steps : List Step) :
    let viewer := (start root showEpsilon).run steps
    SameView viewer viewer.toggleFold.toggleFold ∧
      ∀ row collapsing expanding, viewer.selectedRow? = some row → viewer.IsOpen row →
        Key.command? collapsing = some .collapse → Key.command? expanding = some .expand →
          (viewer.press collapsing).folded.contains row.id = true ∧
            SameView viewer ((viewer.press collapsing).press expanding) := by
  intro viewer
  have consistent : viewer.Consistent root := consistent_run root showEpsilon steps
  have restored := consistent.sameView_toggleFold_toggleFold
  refine ⟨restored, fun row collapsing expanding isSelected isOpen collapses expands => ?_⟩
  obtain ⟨stillSelected, -, isFolded⟩ := consistent.toggleFold_of_open isSelected isOpen
  have unfolds : viewer.toggleFold.Refolds row .expand := isFolded
  rw [press_eq_perform collapses, perform_collapse_of_open isSelected isOpen,
    press_eq_perform expands, perform_of_refolds stillSelected unfolds]
  exact ⟨isFolded, restored⟩

/-- A list with a folded declaration in it is folded and unfolded again; the
declaration is still folded afterwards. -/
theorem toggleFold_restores_nestedFold :
    let root : Tree :=
      .node ⟨"CompSt", .nonTerminal, 1, .unset⟩
        [.node ⟨"DefList", .nonTerminal, 1, .unset⟩
          [.node ⟨"Def", .nonTerminal, 2, .unset⟩ [.leaf ⟨"SEMI", .token, 2, .unset⟩]],
          .leaf ⟨"RC", .token, 3, .unset⟩]
    let viewer := (start root false).run
      [.press .down, .press .down, .press (.character ' '), .press .up]
    viewer.rows.map (·.id) = [0, 1, 2, 4] ∧ viewer.folded.ids = [2] ∧ viewer.selected = 1 ∧
      (viewer.press .left).rows.map (·.id) = [0, 1, 4] ∧
      SameView viewer viewer.toggleFold.toggleFold ∧
      SameView viewer ((viewer.press .left).press (.character 'l')) := by
  intro root viewer
  have picked : viewer.selectedRow?.map (fun row => (row.id, row.isFoldable)) = some (1, true) := by
    decide +kernel
  obtain ⟨row, isSelected, picks⟩ := Option.map_eq_some_iff.mp picked
  obtain ⟨isId, foldable⟩ := Prod.mk.inj picks
  have isOpen : viewer.IsOpen row := by
    refine ⟨foldable, ?_⟩
    rw [isId]
    decide +kernel
  obtain ⟨twice, leftRight⟩ := toggleFold_restores root false
    [.press .down, .press .down, .press (.character ' '), .press .up]
  exact ⟨by decide +kernel, by decide +kernel, by decide +kernel, by decide +kernel, twice,
    (leftRight row .left (.character 'l') isSelected isOpen rfl rfl).2⟩

end Viewer
end SyntaxTree
