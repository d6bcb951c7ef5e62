import SyntaxTree.Proofs.Viewer.Refold
import SyntaxTree.Proofs.Viewer.RowOrder

/-!
# Going up

Collapsing a row that is not open selects the nearest row above it that is less
deep.  If every parent has a row, that is the row of the parent, since all rows
between the two are below the parent.  In any case the selection gets less deep,
so collapsing again and again folds one row after the other until only the root
is left.
-/

namespace SyntaxTree
namespace Viewer

/-! ## The nearest shallower row -/

/-- The row at the index is the last one above the selected row that is less deep
than the given depth. -/
structure NearestShallower (viewer : Viewer) (depth index : Nat) : Prop where
  above : index < viewer.selected
  shallower : ∃ row, viewer.rows[index]? = some row ∧ row.depth < depth
  nearest : ∀ between row, index < between → between < viewer.selected →
    viewer.rows[between]? = some row → depth ≤ row.depth

variable {viewer : Viewer} {depth : Nat}

/-- There is only one nearest row. -/
theorem NearestShallower.unique
    {index other : Nat}
    (nearest : viewer.NearestShallower depth index)
    (otherNearest : viewer.NearestShallower depth other) :
    index = other := by
  obtain ⟨row, isRow, shallower⟩ := nearest.shallower
  obtain ⟨otherRow, isOther, otherShallower⟩ := otherNearest.shallower
  rcases Nat.lt_trichotomy index other with less | same | greater
  · have := nearest.nearest other otherRow less otherNearest.above isOther
    omega
  · exact same
  · have := otherNearest.nearest index row greater nearest.above isRow
    omega

/-- Counted upwards from the selected row, the rows above it are those of the
outline. -/
theorem getElem?_reverse_take
    {distance : Nat}
    (inRange : distance < (viewer.rows.take viewer.selected).length) :
    (viewer.rows.take viewer.selected).reverse[distance]? =
      viewer.rows[(viewer.rows.take viewer.selected).length - 1 - distance]? := by
  have taken := List.length_take_le viewer.selected viewer.rows
  rw [List.getElem?_reverse inRange, List.getElem?_take_of_lt (by omega)]

/-- The search from the selected row upwards finds the nearest row. -/
theorem nearestShallower_of_shallowerIndex?
    {index : Nat}
    (found : viewer.shallowerIndex? depth = some index) :
    viewer.NearestShallower depth index := by
  obtain ⟨distance, isFirst, rfl⟩ := Option.map_eq_some_iff.mp found
  obtain ⟨inReversed, shallower, refused⟩ := List.findIdx?_eq_some_iff_getElem.mp isFirst
  have inRange := inReversed
  rw [List.length_reverse] at inRange
  have taken := List.length_take_le viewer.selected viewer.rows
  refine ⟨by omega, ?_, ?_⟩
  · have isThere := List.getElem?_eq_getElem inReversed
    rw [getElem?_reverse_take inRange] at isThere
    exact ⟨_, isThere, of_decide_eq_true shallower⟩
  · intro between row below aboveSelected isRow
    have inRows := (List.getElem?_eq_some_iff.mp isRow).1
    have inTaken : between < (viewer.rows.take viewer.selected).length := by
      rw [List.length_take]
      omega
    -- The search passes the row before it reaches the one that it finds.
    generalize mirrored : (viewer.rows.take viewer.selected).length - 1 - between = passed
    have isPassed : (viewer.rows.take viewer.selected).reverse[passed]? = some row := by
      rw [getElem?_reverse_take (by omega), ← isRow]
      congr 1
      omega
    obtain ⟨-, rfl⟩ := List.getElem?_eq_some_iff.mp isPassed
    simpa using refused passed (by omega)

/-- The search fails only if no row above the selected one is less deep. -/
theorem le_depth_of_shallowerIndex?
    (none : viewer.shallowerIndex? depth = none)
    {index : Nat}
    {row : Row}
    (above : index < viewer.selected)
    (isRow : viewer.rows[index]? = some row) :
    depth ≤ row.depth := by
  have refused := List.findIdx?_eq_none_iff.mp (Option.map_eq_none_iff.mp none)
  have member : row ∈ viewer.rows.take viewer.selected :=
    List.mem_of_getElem? (by rw [List.getElem?_take_of_lt above, isRow])
  simpa using refused row (List.mem_reverse.mpr member)

theorem shallowerIndex?_eq_some_iff {index : Nat} :
    viewer.shallowerIndex? depth = some index ↔ viewer.NearestShallower depth index := by
  constructor
  · exact nearestShallower_of_shallowerIndex?
  · intro nearest
    cases found : viewer.shallowerIndex? depth with
    | none =>
        obtain ⟨row, isRow, shallower⟩ := nearest.shallower
        have notShallower := le_depth_of_shallowerIndex? found nearest.above isRow
        omega
    | some other =>
        rw [nearest.unique (nearestShallower_of_shallowerIndex? found)]

/-! ## Collapsing a row that is not open -/

instance (row : Row) : Decidable (viewer.IsOpen row) :=
  inferInstanceAs (Decidable (_ ∧ _))

theorem not_isOpen_iff {row : Row} :
    ¬ viewer.IsOpen row ↔
      row.isFoldable = false ∨ viewer.folded.contains row.id = true := by
  rw [IsOpen, Decidable.not_and_iff_not_or_not, Bool.not_eq_true, Bool.not_eq_false]

section

variable
  {row : Row}
  (isSelected : viewer.selectedRow? = some row)
  (notOpen : ¬ viewer.IsOpen row)

include isSelected notOpen

theorem collapse_of_notOpen :
    viewer.collapse =
      match viewer.shallowerIndex? row.depth with
      | some index => { viewer with selected := index }
      | none => viewer := by
  have isClosed : (row.isFoldable && !viewer.folded.contains row.id) = false := by
    rcases not_isOpen_iff.mp notOpen with childless | isFolded
    · rw [childless, Bool.false_and]
    · rw [isFolded, Bool.not_true, Bool.and_false]
  simp only [collapse, isSelected, isClosed]
  rfl

theorem collapse_of_nearestShallower
    {index : Nat}
    (nearest : viewer.NearestShallower row.depth index) :
    viewer.collapse = { viewer with selected := index } := by
  rw [collapse_of_notOpen isSelected notOpen, shallowerIndex?_eq_some_iff.mpr nearest]

/-- At depth zero there is nothing to go up to. -/
theorem collapse_of_depth_eq_zero (isTop : row.depth = 0) : viewer.collapse = viewer := by
  rw [collapse_of_notOpen isSelected notOpen]
  cases found : viewer.shallowerIndex? row.depth with
  | none => rfl
  | some index =>
      obtain ⟨other, -, shallower⟩ := (shallowerIndex?_eq_some_iff.mp found).shallower
      omega

end

/-! ## Parents -/

/-- Between the rows of a parent and of its child, all rows are at least as deep as
the child. -/
theorem Consistent.exists_nearestShallower_parent
    {root parent : Tree}
    (consistent : viewer.Consistent root)
    {row : Row}
    {front : List Nat}
    {index : Nat}
    (isSelected : viewer.selectedRow? = some row)
    (hasRow : root.HasRow (front ++ [index]) row)
    (isParent : root.at? front = some parent)
    (shown : parent.symbol.kind.isShown viewer.showEpsilon = true) :
    ∃ position parentRow, viewer.NearestShallower row.depth position ∧
      viewer.rows[position]? = some parentRow ∧ root.HasRow front parentRow := by
  have isRow := consistent.selected_getElem? isSelected
  have above : front <+: front ++ [index] := List.prefix_append _ _
  have visible := (hasRow.mem_outline_iff.mp (List.mem_of_getElem? isRow)).of_above above
    isParent shown
  obtain ⟨parentRow, member, parentHas⟩ := visible.exists_row
  obtain ⟨position, isThere⟩ := List.mem_iff_getElem?.mp member
  have before : parentRow.id < row.id := by
    rw [parentHas.id, hasRow.id]
    exact Tree.indexAt_lt_of_above hasRow.found above (by simp)
  refine ⟨position, parentRow, ⟨?_, ?_, ?_⟩, by rwa [consistent.rows], parentHas⟩
  · exact (Tree.index_lt_iff_id_lt isThere isRow).mpr before
  · refine ⟨parentRow, by rwa [consistent.rows], ?_⟩
    exact parentHas.depth_lt_of_above hasRow above before
  · intro between other below aboveSelected isOther
    rw [consistent.rows] at isOther
    have afterParent := (Tree.index_lt_iff_id_lt isThere isOther).mp below
    have beforeRow := (Tree.index_lt_iff_id_lt isOther isRow).mp aboveSelected
    obtain ⟨otherPath, otherHas, -⟩ :=
      Tree.exists_hasRow_of_mem_outline (List.mem_of_getElem? isOther)
    have belowParent := parentHas.above_of_between otherHas hasRow above afterParent
      (Nat.le_of_lt beforeRow)
    have deeper := parentHas.depth_lt_of_above otherHas belowParent afterParent
    rw [parentHas.depth] at deeper
    rw [hasRow.depth, List.length_append, List.length_singleton]
    exact deeper

/-- In every state that a viewer reaches in which empty symbols are shown or nothing
stands below them, a key that collapses a row which has nothing below it or is
folded changes the selection only.  It selects the row of the parent, which always
has one, and at the root it does nothing. -/
theorem press_collapse_selects_parent
    (root : Tree)
    (showEpsilon : Bool)
    (steps : List Step)
    (key : Key)
    (row : Row) :
    let viewer := (start root showEpsilon).run steps
    let after := viewer.press key
    viewer.selectedRow? = some row →
      row.isFoldable = false ∨ viewer.folded.contains row.id = true →
      viewer.showEpsilon = true ∨ root.EpsilonsAreLeaves →
      key.command? = some .collapse →
      after = { viewer with selected := after.selected } ∧
        ∃ path, root.HasRow path row ∧ (path = [] → after = viewer) ∧
          ∀ front index, path = front ++ [index] →
            ∃ parentRow ∈ viewer.rows, root.HasRow front parentRow ∧
              parentRow.tree.children[index]? = some row.tree ∧
              after.selectedRow? = some parentRow := by
  intro viewer after isSelected closed parentsShown isCollapse
  have consistent : viewer.Consistent root := consistent_run root showEpsilon steps
  have notOpen := not_isOpen_iff.mpr closed
  have collapsed : after = viewer.collapse := press_eq_perform isCollapse viewer
  obtain ⟨path, hasRow, -⟩ := consistent.exists_hasRow isSelected
  rcases List.eq_nil_or_concat path with rfl | ⟨front, index, split⟩
  · have unchanged := collapse_of_depth_eq_zero isSelected notOpen hasRow.depth
    rw [collapsed, unchanged]
    exact ⟨rfl, [], hasRow, fun _ => rfl, by simp⟩
  · obtain rfl := split.trans List.concat_eq_append
    obtain ⟨parent, isParent, isChild⟩ := Tree.at?_concat_eq_some_iff.mp hasRow.found
    have shown := Tree.isShown_of_parent parentsShown isParent
      (List.ne_nil_of_mem (List.mem_of_getElem? isChild))
    obtain ⟨position, parentRow, nearest, isThere, parentHas⟩ :=
      consistent.exists_nearestShallower_parent isSelected hasRow isParent shown
    rw [collapsed, collapse_of_nearestShallower isSelected notOpen nearest]
    refine ⟨rfl, _, hasRow, by simp, fun otherFront otherIndex same => ?_⟩
    obtain ⟨rfl, rfl⟩ : front = otherFront ∧ index = otherIndex := by simpa using same
    obtain rfl : parent = parentRow.tree :=
      Option.some.inj (isParent.symm.trans parentHas.found)
    exact ⟨parentRow, List.mem_of_getElem? isThere, parentHas, isChild, isThere⟩

/-- Between the second token of an empty list that is shown and the list there is
the row of the first token, which is as deep; the list is selected. -/
theorem press_collapse_selects_parent_emptyList :
    let root : Tree :=
      .node ⟨"CompSt", .nonTerminal, 1, .unset⟩
        [.node ⟨"DefList", .epsilon, 1, .unset⟩
          [.leaf ⟨"TYPE", .typeName, 2, .unset⟩, .leaf ⟨"SEMI", .token, 2, .unset⟩],
          .leaf ⟨"RC", .token, 3, .unset⟩]
    let viewer := (start root true).run [.press .down, .press .down, .press .down]
    ∃ row parentRow, viewer.selectedRow? = some row ∧ root.HasRow [0, 1] row ∧
      row.isFoldable = false ∧ viewer.showEpsilon = true ∧ root.HasRow [0] parentRow ∧
      (viewer.press (.character 'h')).selectedRow? = some parentRow := by
  intro root viewer
  have picked : viewer.selectedRow?.map (fun row => (row.id, row.isFoldable)) =
      some (3, false) := by
    decide +kernel
  obtain ⟨row, isSelected, picks⟩ := Option.map_eq_some_iff.mp picked
  obtain ⟨isId, childless⟩ := Prod.mk.inj picks
  have showsEpsilon : viewer.showEpsilon = true := by decide +kernel
  obtain ⟨-, path, hasRow, -, below⟩ := press_collapse_selects_parent root true
    [.press .down, .press .down, .press .down] (.character 'h') row isSelected
    (Or.inl childless) (Or.inl showsEpsilon) rfl
  obtain rfl : path = [0, 1] :=
    Tree.indexAt_injective hasRow.found (rfl : root.at? [0, 1] = some _)
      (hasRow.id.symm.trans isId)
  obtain ⟨parentRow, -, parentHas, -, isParent⟩ := below [0] 1 rfl
  exact ⟨row, parentRow, isSelected, hasRow, childless, showsEpsilon, parentHas, isParent⟩

/-! ## Collapsing again and again -/

/-- The viewer is consistent and the root of its tree has a row. -/
structure Rooted (tree : Tree) (viewer : Viewer) : Prop extends viewer.Consistent tree where
  shown : tree.symbol.kind.isShown viewer.showEpsilon = true

/-- How often collapsing can change something at most.  A row at some depth is
folded if it is open, and from each level there is one step up to a row that may be
open as well. -/
def effort (viewer : Viewer) : Nat :=
  match viewer.selectedRow? with
  | some row => 2 * row.depth + if viewer.IsOpen row then 1 else 0
  | none => 0

section

variable {row : Row} (isSelected : viewer.selectedRow? = some row)

include isSelected

theorem effort_of_open (isOpen : viewer.IsOpen row) : viewer.effort = 2 * row.depth + 1 := by
  simp only [effort, isSelected, if_pos isOpen]

theorem effort_of_notOpen (notOpen : ¬ viewer.IsOpen row) : viewer.effort = 2 * row.depth := by
  simp only [effort, isSelected, if_neg notOpen, Nat.add_zero]

theorem effort_le : viewer.effort ≤ 2 * row.depth + 1 := by
  by_cases isOpen : viewer.IsOpen row
  · exact Nat.le_of_eq (effort_of_open isSelected isOpen)
  · rw [effort_of_notOpen isSelected isOpen]
    exact Nat.le_succ _

end

@[simp] theorem showEpsilon_collapse (viewer : Viewer) :
    viewer.collapse.showEpsilon = viewer.showEpsilon := by
  unfold collapse
  split
  · rfl
  · split
    · exact showEpsilon_toggleFold viewer
    · split <;> rfl

namespace Rooted

variable {root : Tree} (rooted : viewer.Rooted root)

include rooted

theorem exists_rows :
    ∃ below, viewer.rows = ⟨0, 0, root⟩ :: below ∧
      (root.children = [] ∨ viewer.folded.contains 0 = true → below = []) := by
  rw [rooted.rows]
  exact Tree.outline_of_shownRoot rooted.shown

theorem exists_selectedRow : ∃ row, viewer.selectedRow? = some row := by
  obtain ⟨below, isRows, -⟩ := rooted.exists_rows
  rcases rooted.selected with inRange | ⟨empty, -⟩
  · exact ⟨_, List.getElem?_eq_getElem inRange⟩
  · rw [isRows] at empty
    contradiction

theorem collapse : viewer.collapse.Rooted root where
  toConsistent := rooted.toConsistent.change (change_collapse viewer)
  shown := by
    rw [showEpsilon_collapse]
    exact rooted.shown

/-- Below the root there is always a row that is less deep. -/
theorem exists_nearestShallower
    {row : Row}
    (isSelected : viewer.selectedRow? = some row)
    (isBelow : 0 < row.depth) :
    ∃ index, viewer.NearestShallower row.depth index := by
  obtain ⟨below, isRows, -⟩ := rooted.exists_rows
  have isFirst : viewer.rows[0]? = some ⟨0, 0, root⟩ := by
    rw [isRows]
    rfl
  have notFirst : 0 < viewer.selected := by
    refine Nat.pos_of_ne_zero fun first => ?_
    rw [selectedRow?, first, isFirst] at isSelected
    obtain rfl := Option.some.inj isSelected
    exact Nat.lt_irrefl 0 isBelow
  cases found : viewer.shallowerIndex? row.depth with
  | none =>
      have notShallower := le_depth_of_shallowerIndex? found notFirst isFirst
      exact absurd notShallower (Nat.not_le_of_lt isBelow)
  | some index => exact ⟨index, shallowerIndex?_eq_some_iff.mp found⟩

/-- Collapsing takes effort as long as some is left. -/
theorem effort_collapse_lt (unfinished : viewer.effort ≠ 0) :
    viewer.collapse.effort < viewer.effort := by
  obtain ⟨row, isSelected⟩ := rooted.exists_selectedRow
  by_cases isOpen : viewer.IsOpen row
  · -- The row is folded and stays selected.
    have collapsed : viewer.collapse = viewer.toggleFold :=
      perform_collapse_of_open isSelected isOpen
    obtain ⟨stillSelected, -, isFolded⟩ :=
      rooted.toConsistent.toggleFold_of_open isSelected isOpen
    rw [collapsed, effort_of_open isSelected isOpen,
      effort_of_notOpen stillSelected (not_isOpen_iff.mpr (Or.inr isFolded))]
    exact Nat.lt_succ_self _
  · -- The selection moves up by one level or more, maybe to an open row.
    rw [effort_of_notOpen isSelected isOpen] at unfinished ⊢
    obtain ⟨index, nearest⟩ := rooted.exists_nearestShallower isSelected (by omega)
    obtain ⟨other, isOther, shallower⟩ := nearest.shallower
    have moved : viewer.collapse.selectedRow? = some other := by
      rw [collapse_of_nearestShallower isSelected isOpen nearest]
      exact isOther
    have atMost := effort_le moved
    omega

/-- Without any effort left the root is selected and has the only row, and collapsing
does nothing. -/
theorem of_effort_eq_zero (finished : viewer.effort = 0) :
    viewer.rows = [⟨0, 0, root⟩] ∧ viewer.selected = 0 ∧ viewer.collapse = viewer := by
  obtain ⟨row, isSelected⟩ := rooted.exists_selectedRow
  have notOpen : ¬ viewer.IsOpen row := by
    intro isOpen
    rw [effort_of_open isSelected isOpen] at finished
    contradiction
  have isTop : row.depth = 0 := by
    rw [effort_of_notOpen isSelected notOpen] at finished
    omega
  have member := List.mem_of_getElem? (rooted.toConsistent.selected_getElem? isSelected)
  obtain rfl := Tree.row_eq_root_of_depth_eq_zero member isTop
  obtain ⟨below, isRows, closes⟩ := rooted.exists_rows
  have alone : viewer.rows = [⟨0, 0, root⟩] := by
    rw [isRows, closes]
    rcases not_isOpen_iff.mp notOpen with childless | isFolded
    · exact Or.inl (by simpa [Row.isFoldable] using childless)
    · exact Or.inr isFolded
  refine ⟨alone, ?_, collapse_of_depth_eq_zero isSelected notOpen isTop⟩
  have inRange := (List.getElem?_eq_some_iff.mp isSelected).1
  rw [alone, List.length_singleton] at inRange
  omega

theorem effort_collapse_le : viewer.collapse.effort ≤ viewer.effort - 1 := by
  by_cases finished : viewer.effort = 0
  · obtain ⟨-, -, unchanged⟩ := rooted.of_effort_eq_zero finished
    simp [unchanged, finished]
  · exact Nat.le_sub_one_of_lt (rooted.effort_collapse_lt finished)

/-- In a run of keys that collapse, each key takes off some of the effort that is
left. -/
theorem run
    {keys : List Key}
    (collapsing : ∀ key ∈ keys, key.command? = some .collapse) :
    (viewer.run (keys.map .press)).Rooted root ∧
      (viewer.run (keys.map .press)).effort ≤ viewer.effort - keys.length := by
  induction keys generalizing viewer with
  | nil => exact ⟨rooted, Nat.le_refl _⟩
  | cons key keys inductionHypothesis =>
      rw [List.forall_mem_cons] at collapsing
      have pressed : viewer.step (.press key) = viewer.collapse :=
        press_eq_perform collapsing.1 viewer
      rw [List.map_cons, run_cons, pressed]
      obtain ⟨stillRooted, effort⟩ := inductionHypothesis rooted.collapse collapsing.2
      have less := rooted.effort_collapse_le
      refine ⟨stillRooted, ?_⟩
      rw [List.length_cons]
      omega

end Rooted

/-- Keys that collapse do nothing to a viewer that collapsing does not change. -/
theorem run_of_collapse_eq
    (unchanged : viewer.collapse = viewer)
    {keys : List Key}
    (collapsing : ∀ key ∈ keys, key.command? = some .collapse) :
    viewer.run (keys.map .press) = viewer := by
  induction keys with
  | nil => rfl
  | cons key keys inductionHypothesis =>
      rw [List.forall_mem_cons] at collapsing
      have pressed : viewer.step (.press key) = viewer :=
        (press_eq_perform collapsing.1 viewer).trans unchanged
      rw [List.map_cons, run_cons, pressed, inductionHypothesis collapsing.2]

/-- In every state that a viewer reaches in which the root has a row, some row is
selected.  With two keys that collapse for each level of that row, the root
included, only the row of the root is left and selected, and further such keys
change nothing. -/
theorem run_collapse_folds_all (root : Tree) (showEpsilon : Bool) (steps : List Step) :
    let viewer := (start root showEpsilon).run steps
    root.symbol.kind.isShown viewer.showEpsilon = true →
      ∃ row, viewer.selectedRow? = some row ∧
        ∀ keys : List Key, (∀ key ∈ keys, key.command? = some .collapse) →
          2 * (row.depth + 1) ≤ keys.length →
          let after := viewer.run (keys.map .press)
          after.rows = [⟨0, 0, root⟩] ∧ after.selectedRow? = some ⟨0, 0, root⟩ ∧
            ∀ further : List Key, (∀ key ∈ further, key.command? = some .collapse) →
              after.run (further.map .press) = after := by
  intro viewer shown
  have rooted : viewer.Rooted root := ⟨consistent_run root showEpsilon steps, shown⟩
  obtain ⟨row, isSelected⟩ := rooted.exists_selectedRow
  refine ⟨row, isSelected, fun keys collapsing enough => ?_⟩
  obtain ⟨stillRooted, effort⟩ := rooted.run collapsing
  have atMost := effort_le isSelected
  obtain ⟨alone, first, unchanged⟩ := stillRooted.of_effort_eq_zero (by omega)
  refine ⟨alone, ?_, fun further => run_of_collapse_eq unchanged⟩
  rw [selectedRow?, alone, first]
  rfl

/-- From a token of a declaration below a hidden empty list, the selection goes up
to the declaration, which is folded, then to the brace beside the list and to the
root, which is folded as well. -/
theorem run_collapse_folds_all_belowHidden :
    let root : Tree :=
      .node ⟨"CompSt", .nonTerminal, 1, .unset⟩
        [.leaf ⟨"LC", .token, 1, .unset⟩,
          .node ⟨"DefList", .epsilon, 1, .unset⟩
            [.node ⟨"Def", .nonTerminal, 2, .unset⟩ [.leaf ⟨"SEMI", .token, 2, .unset⟩]],
          .leaf ⟨"RC", .token, 3, .unset⟩]
    let viewer := (start root false).run [.press .down, .press .down, .press .down]
    let after := viewer.run ((List.replicate 8 Key.left).map .press)
    viewer.rows.map (·.id) = [0, 1, 3, 4, 5] ∧
      viewer.selectedRow?.map (·.depth) = some 3 ∧ after.rows = [⟨0, 0, root⟩] ∧
      after.folded.ids = [0, 3] ∧ after.run [.press .left] = after := by
  intro root viewer after
  have picked : viewer.selectedRow?.map (·.depth) = some 3 := by decide +kernel
  have shown : root.symbol.kind.isShown viewer.showEpsilon = true := by decide +kernel
  obtain ⟨row, isSelected, collapses⟩ := run_collapse_folds_all root false
    [.press .down, .press .down, .press .down] shown
  have isDepth : row.depth = 3 := by
    rw [isSelected] at picked
    exact Option.some.inj picked
  obtain ⟨alone, -, unchanged⟩ := collapses (List.replicate 8 .left)
    (fun key member => by rw [List.eq_of_mem_replicate member]; rfl)
    (by simp [isDepth])
  exact ⟨by decide +kernel, picked, alone, by decide +kernel, unchanged [.left] (by decide)⟩

end Viewer
end SyntaxTree
