import SyntaxTree.Proofs.Viewer.Outline
import SyntaxTree.Viewer.Key
import SyntaxTree.Viewer.Panes

/-!
# What a viewer keeps

A viewer is driven by keys, by toggling the selected row and by drawing.  All
that one of these steps can do is said once, as a change: either the selection
moves, or the rows are rebuilt under other folds.  From the changes follows
what holds in every state that a viewer reaches.
-/

namespace SyntaxTree
namespace Viewer

/-! ## Steps -/

/-- Something that happens to a viewer. -/
inductive Step where
  | press (key : Key)
  | toggleFold
  /-- The viewer is drawn on a screen of some size. -/
  | draw (width height : Nat)

/-- The viewer after a step. -/
def step (viewer : Viewer) : Step → Viewer
  | .press key => viewer.press key
  | .toggleFold => viewer.toggleFold
  | .draw width height => (viewer.draw width height).1

/-- The viewer after some steps. -/
def run (viewer : Viewer) (steps : List Step) : Viewer :=
  steps.foldl step viewer

@[simp] theorem run_nil (viewer : Viewer) : viewer.run [] = viewer :=
  rfl

@[simp] theorem run_cons (viewer : Viewer) (first : Step) (steps : List Step) :
    viewer.run (first :: steps) = (viewer.step first).run steps :=
  rfl

/-! ## Changes -/

/-- A node that may be folded: it is folded already, or it has a row and
subtrees. -/
def MayFold (viewer : Viewer) (id : Nat) : Prop :=
  viewer.folded.contains id = true ∨
    ∃ row ∈ viewer.rows, row.id = id ∧ row.isFoldable = true

/-- What one step can do to a viewer. -/
inductive Change (viewer : Viewer) : Viewer → Prop where
  /-- The rows stay.  The selection does not move behind the last row, and a
  viewer that has quit does not come back. -/
  | moves
      (selected scroll : Nat)
      (hasQuit : Bool)
      (status : String)
      (inRange : selected ≤ max viewer.selected (viewer.rows.length - 1))
      (final : viewer.hasQuit = true → hasQuit = true) :
      Change viewer
        { viewer with
          selected := selected, scroll := scroll, hasQuit := hasQuit, status := status }
  /-- The rows are rebuilt under other folds or for another switch. -/
  | rebuilds
      (folded : FoldSet)
      (showEpsilon : Bool)
      (status : String)
      (foldable : ∀ id, folded.contains id = true → viewer.MayFold id) :
      Change viewer
        { viewer with
          folded := folded, showEpsilon := showEpsilon, status := status }.refresh

/-- A change that moves nothing but the selection. -/
theorem Change.select
    {viewer : Viewer}
    {selected : Nat}
    (inRange : selected ≤ max viewer.selected (viewer.rows.length - 1)) :
    Change viewer { viewer with selected := selected } :=
  .moves selected viewer.scroll viewer.hasQuit viewer.status inRange id

/-- Doing nothing is a change as well. -/
theorem Change.none (viewer : Viewer) : Change viewer viewer :=
  .select (Nat.le_max_left _ _)

theorem mem_rows_of_selectedRow?
    {viewer : Viewer}
    {row : Row}
    (isSelected : viewer.selectedRow? = some row) :
    row ∈ viewer.rows :=
  List.mem_of_getElem? isSelected

theorem change_toggleFold (viewer : Viewer) : Change viewer viewer.toggleFold := by
  unfold toggleFold
  cases selection : viewer.selectedRow? with
  | none => exact .none viewer
  | some row =>
      have member := mem_rows_of_selectedRow? selection
      dsimp only
      by_cases foldable : row.isFoldable = true
      · rw [foldable]
        split
        · contradiction
        · split
          · apply Change.rebuilds
            intro id stillFolded
            exact Or.inl (FoldSet.contains_erase.mp stillFolded).1
          · apply Change.rebuilds
            intro id nowFolded
            rcases FoldSet.contains_insert.mp nowFolded with rfl | already
            · exact Or.inr ⟨row, member, rfl, foldable⟩
            · exact Or.inl already
      · rw [if_pos (by simpa using foldable)]
        exact .moves viewer.selected viewer.scroll viewer.hasQuit _ (Nat.le_max_left _ _) id

/-- The row found above the selected one is not behind it. -/
theorem shallowerIndex?_le
    {viewer : Viewer}
    {depth index : Nat}
    (found : viewer.shallowerIndex? depth = some index) :
    index ≤ viewer.selected := by
  obtain ⟨distance, -, rfl⟩ := Option.map_eq_some_iff.mp found
  have taken := List.length_take_le viewer.selected viewer.rows
  omega

theorem change_collapse (viewer : Viewer) : Change viewer viewer.collapse := by
  unfold collapse
  split
  · exact .none viewer
  · split
    · exact change_toggleFold viewer
    · split
      · rename_i found
        exact .select (Nat.le_trans (shallowerIndex?_le found) (Nat.le_max_left _ _))
      · exact .none viewer

theorem change_expand (viewer : Viewer) : Change viewer viewer.expand := by
  unfold expand
  split
  · exact .none viewer
  · split
    · exact change_toggleFold viewer
    · split
      · rename_i following
        have inRows := (List.getElem?_eq_some_iff.mp following).1
        split
        · exact .select (by omega)
        · exact .none viewer
      · exact .none viewer

theorem change_selectNext (viewer : Viewer) : Change viewer viewer.selectNext := by
  unfold selectNext
  split
  · exact .select (by omega)
  · exact .none viewer

theorem change_toggleEpsilon (viewer : Viewer) : Change viewer viewer.toggleEpsilon :=
  .rebuilds viewer.folded (!viewer.showEpsilon) viewer.toggleEpsilon.status fun _ => Or.inl

theorem change_expandAll (viewer : Viewer) : Change viewer viewer.expandAll :=
  .rebuilds {} viewer.showEpsilon viewer.expandAll.status (by simp)

theorem change_perform (viewer : Viewer) (command : Command) :
    Change viewer (viewer.perform command) := by
  cases command with
  | quit =>
      exact .moves viewer.selected viewer.scroll true viewer.status (Nat.le_max_left _ _)
        fun _ => rfl
  | selectPrevious => exact .select (by omega)
  | selectNext => exact change_selectNext viewer
  | selectFirst => exact .select (Nat.zero_le _)
  | selectLast => exact .select (Nat.le_max_right _ _)
  | collapse => exact change_collapse viewer
  | expand => exact change_expand viewer
  | toggleFold => exact change_toggleFold viewer
  | toggleEpsilon => exact change_toggleEpsilon viewer
  | expandAll => exact change_expandAll viewer

theorem change_press (viewer : Viewer) (key : Key) : Change viewer (viewer.press key) := by
  unfold press
  split
  · exact change_perform viewer _
  · exact .none viewer

theorem change_scrolled (viewer : Viewer) (paneHeight : Nat) :
    Change viewer (viewer.scrolled paneHeight) := by
  unfold scrolled
  split
  · exact .none viewer
  · exact .moves viewer.selected _ viewer.hasQuit viewer.status (Nat.le_max_left _ _) id

/-- Every step is a change. -/
theorem change_step (viewer : Viewer) (step : Step) : Change viewer (viewer.step step) := by
  cases step with
  | press key => exact change_press viewer key
  | toggleFold => exact change_toggleFold viewer
  | draw width height =>
      cases height with
      | zero => exact change_scrolled viewer 0
      | succ paneHeight => exact change_scrolled viewer paneHeight

/-! ## The invariant -/

/-- The viewer shows a tree as its folds and its switch ask for. -/
structure Consistent (tree : Tree) (viewer : Viewer) : Prop where
  root : viewer.root = tree
  /-- The rows are never out of date. -/
  rows : viewer.rows = tree.outline viewer.folded viewer.showEpsilon
  /-- A row is selected, unless there is none. -/
  selected : viewer.selected < viewer.rows.length ∨ viewer.rows = [] ∧ viewer.selected = 0
  /-- Only nodes of the tree that have subtrees are folded. -/
  folded : ∀ id, viewer.folded.contains id = true →
    ∃ visit : Visit, tree.preorder[id]? = some visit ∧ visit.tree.children ≠ []
  statistics : viewer.statistics = tree.statistics

/-- Some row is selected as soon as the selection is not behind the last row. -/
theorem selected_cases
    {rows : List Row}
    {selected : Nat}
    (inRange : selected ≤ rows.length - 1) :
    selected < rows.length ∨ rows = [] ∧ selected = 0 := by
  cases rows with
  | nil => exact Or.inr ⟨rfl, Nat.le_zero.mp inRange⟩
  | cons row rows =>
      left
      rw [List.length_cons] at inRange ⊢
      omega

theorem consistent_start (root : Tree) (showEpsilon : Bool) :
    (start root showEpsilon).Consistent root where
  root := rfl
  rows := rfl
  selected := selected_cases (Nat.zero_le _)
  folded := by simp [start]
  statistics := rfl

/-- Nodes that may be folded have subtrees. -/
theorem Consistent.of_mayFold
    {root : Tree}
    {viewer : Viewer}
    (consistent : viewer.Consistent root)
    {id : Nat}
    (mayFold : viewer.MayFold id) :
    ∃ visit, root.preorder[id]? = some visit ∧ visit.tree.children ≠ [] := by
  rcases mayFold with already | ⟨row, member, rfl, foldable⟩
  · exact consistent.folded id already
  · rw [consistent.rows] at member
    refine ⟨_, Tree.getElem?_preorder_of_mem_outline member, ?_⟩
    simpa [Row.isFoldable] using foldable

/-- A change keeps the viewer consistent. -/
theorem Consistent.change
    {root : Tree}
    {viewer changed : Viewer}
    (consistent : viewer.Consistent root)
    (change : Change viewer changed) :
    changed.Consistent root := by
  cases change with
  | moves selected scroll hasQuit status inRange final =>
      refine ⟨consistent.root, consistent.rows, ?_, consistent.folded, consistent.statistics⟩
      have before : viewer.selected ≤ viewer.rows.length - 1 := by
        rcases consistent.selected with inRows | ⟨-, first⟩ <;> omega
      exact selected_cases (Nat.le_trans inRange (Nat.max_le.mpr ⟨before, Nat.le_refl _⟩))
  | rebuilds folded showEpsilon status foldable =>
      refine ⟨consistent.root, ?_, ?_, ?_, consistent.statistics⟩
      · rw [← consistent.root]
        rfl
      · exact selected_cases (Nat.min_le_right _ _)
      · intro id isFolded
        exact consistent.of_mayFold (foldable id isFolded)

/-- A change never brings a viewer back that has quit. -/
theorem Change.hasQuit
    {viewer changed : Viewer}
    (change : Change viewer changed)
    (quit : viewer.hasQuit = true) :
    changed.hasQuit = true := by
  cases change with
  | moves selected scroll hasQuit status inRange final => exact final quit
  | rebuilds folded showEpsilon status foldable => exact quit

/-- What every change keeps holds after any number of steps. -/
theorem run_induction
    {motive : Viewer → Prop}
    (keeps : ∀ viewer changed, Change viewer changed → motive viewer → motive changed)
    {viewer : Viewer}
    (initially : motive viewer)
    (steps : List Step) :
    motive (viewer.run steps) := by
  induction steps generalizing viewer with
  | nil =>
      rw [run_nil]
      exact initially
  | cons first steps inductionHypothesis =>
      rw [run_cons]
      exact inductionHypothesis (keeps viewer _ (change_step viewer first) initially)

/-- In every state that a viewer reaches, its rows are the outline of the tree
under its folds and its switch, some row is selected unless there is none, only
nodes with subtrees are folded and the statistics are those of the tree; and a
viewer that has quit stays so. -/
theorem run_start_consistent (root : Tree) (showEpsilon : Bool) (steps : List Step) :
    ((start root showEpsilon).run steps).Consistent root ∧
      ∀ later, ((start root showEpsilon).run steps).hasQuit = true →
        ((start root showEpsilon).run (steps ++ later)).hasQuit = true := by
  constructor
  · exact run_induction (fun _ _ change consistent => consistent.change change)
      (consistent_start root showEpsilon) steps
  · intro later quit
    rw [run, List.foldl_append]
    exact run_induction (fun _ _ change => change.hasQuit) quit later

/-- Folding an empty symbol and hiding it brings the row below it back, and no
later key undoes quitting. -/
theorem run_start_consistent_hiddenFold :
    let root : Tree :=
      .node ⟨"List", .epsilon, 1, .unset⟩ [.leaf ⟨"SEMI", .token, 1, .unset⟩]
    let steps : List Step := [.press .left, .draw 40 3, .press (.character 'e'), .press .escape]
    let reached := (start root true).run steps
    reached.folded.ids = [0] ∧ reached.rows.map (·.id) = [1] ∧ reached.Consistent root ∧
      reached.hasQuit = true ∧
      ((start root true).run (steps ++ [.toggleFold, .press (.character 'z')])).hasQuit = true := by
  intro root steps reached
  have quit : reached.hasQuit = true := by decide +kernel
  obtain ⟨consistent, final⟩ := run_start_consistent root true steps
  exact ⟨by decide +kernel, by decide +kernel, consistent, quit, final _ quit⟩

end Viewer
end SyntaxTree
