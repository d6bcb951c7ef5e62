import SyntaxTree.Proofs.Tree.Order
import SyntaxTree.Proofs.Viewer.Selection

/-!
# Rows in the order of a walk

The rows of an outline follow each other as the visible nodes do in a walk over
the tree.  What is known of the order of paths therefore tells where rows stand:
between a row and one below its node there are only rows below its node, and the
row of a shown root is the first one.
-/

namespace SyntaxTree
namespace Tree

/-! ## Rows of paths -/

/-- The row is that of the node at a path. -/
structure HasRow (tree : Tree) (path : List Nat) (row : Row) : Prop where
  found : tree.at? path = some row.tree
  id : row.id = tree.indexAt path
  depth : row.depth = path.length

variable {folded : FoldSet} {showEpsilon : Bool} {tree : Tree}

theorem hasRow_rowAt
    {path : List Nat}
    {node : Tree}
    (found : tree.at? path = some node) :
    tree.HasRow path (tree.rowAt path node) :=
  ⟨found, rfl, rfl⟩

namespace HasRow

variable {path other : List Nat} {row otherRow : Row}

theorem eq_rowAt (hasRow : tree.HasRow path row) : row = tree.rowAt path row.tree := by
  rw [rowAt, ← hasRow.id, ← hasRow.depth]

theorem mem_outline_iff (hasRow : tree.HasRow path row) :
    row ∈ tree.outline folded showEpsilon ↔ tree.Visible folded.contains showEpsilon path := by
  rw [hasRow.eq_rowAt]
  exact rowAt_mem_outline_iff hasRow.found

/-- The node of a later row is below the other one or on its right. -/
theorem above_or_leftOf
    (hasRow : tree.HasRow path row)
    (otherHas : tree.HasRow other otherRow)
    (before : row.id < otherRow.id) :
    path <+: other ∨ LeftOf path other := by
  rw [hasRow.id, otherHas.id] at before
  exact above_or_leftOf_of_indexAt_lt hasRow.found otherHas.found before

/-- Between a row and one below its node, all rows are below its node. -/
theorem above_of_between
    (hasRow : tree.HasRow path row)
    (otherHas : tree.HasRow other otherRow)
    {last : List Nat}
    {lastRow : Row}
    (lastHas : tree.HasRow last lastRow)
    (above : path <+: last)
    (before : row.id < otherRow.id)
    (behind : otherRow.id ≤ lastRow.id) :
    path <+: other := by
  rw [hasRow.id, otherHas.id] at before
  rw [otherHas.id, lastHas.id] at behind
  exact Tree.above_of_between hasRow.found otherHas.found lastHas.found above before behind

/-- Rows below the node of a row are deeper. -/
theorem depth_lt_of_above
    (hasRow : tree.HasRow path row)
    (otherHas : tree.HasRow other otherRow)
    (above : path <+: other)
    (before : row.id < otherRow.id) :
    row.depth < otherRow.depth := by
  rw [hasRow.depth, otherHas.depth]
  refine Nat.lt_of_le_of_ne above.length_le fun sameLength => ?_
  obtain rfl := above.eq_of_length sameLength
  exact Nat.ne_of_lt before (hasRow.id.trans otherHas.id.symm)

end HasRow

/-- Every row of an outline is that of a visible node. -/
theorem exists_hasRow_of_mem_outline
    {row : Row}
    (member : row ∈ tree.outline folded showEpsilon) :
    ∃ path, tree.HasRow path row ∧ tree.Visible folded.contains showEpsilon path := by
  obtain ⟨path, found, same, visible⟩ := exists_visible_of_mem_outline member
  exact ⟨path, ⟨found, congrArg Row.id same, congrArg Row.depth same⟩, visible⟩

/-- The id of a row tells whose row it is. -/
theorem hasRow_of_id_eq
    {row : Row}
    {path : List Nat}
    {node : Tree}
    (member : row ∈ tree.outline folded showEpsilon)
    (found : tree.at? path = some node)
    (same : row.id = tree.indexAt path) :
    tree.HasRow path row := by
  obtain ⟨other, hasRow, -⟩ := exists_hasRow_of_mem_outline member
  obtain rfl := indexAt_injective hasRow.found found (hasRow.id.symm.trans same)
  exact hasRow

/-- Every visible node has a row. -/
theorem Visible.exists_row
    {path : List Nat}
    (visible : tree.Visible folded.contains showEpsilon path) :
    ∃ row ∈ tree.outline folded showEpsilon, tree.HasRow path row := by
  obtain ⟨node, found, -⟩ := visible.shown
  exact ⟨_, (rowAt_mem_outline_iff found).mpr visible, hasRow_rowAt found⟩

/-- The nodes above a visible node are visible if their kind is shown. -/
theorem Visible.of_above
    {path front : List Nat}
    {node : Tree}
    (visible : tree.Visible folded.contains showEpsilon path)
    (isFront : front <+: path)
    (found : tree.at? front = some node)
    (shown : node.symbol.kind.isShown showEpsilon = true) :
    tree.Visible folded.contains showEpsilon front := by
  refine ⟨⟨node, found, shown⟩, fun higher isHigher proper => ?_⟩
  refine visible.exposed higher (isHigher.trans isFront) ?_
  rintro rfl
  exact proper (isHigher.eq_of_length (Nat.le_antisymm isHigher.length_le isFront.length_le))

/-! ## Neighbours -/

/-- Rows stand in the order of their ids. -/
theorem index_lt_iff_id_lt
    {index other : Nat}
    {row otherRow : Row}
    (isRow : (tree.outline folded showEpsilon)[index]? = some row)
    (isOther : (tree.outline folded showEpsilon)[other]? = some otherRow) :
    index < other ↔ row.id < otherRow.id := by
  have ordered := List.pairwise_iff_getElem.mp (tree.pairwise_id_outline folded showEpsilon)
  obtain ⟨inRange, rfl⟩ := List.getElem?_eq_some_iff.mp isRow
  obtain ⟨otherInRange, rfl⟩ := List.getElem?_eq_some_iff.mp isOther
  constructor
  · exact ordered index other inRange otherInRange
  · intro before
    rcases Nat.lt_trichotomy index other with less | rfl | greater
    · exact less
    · exact absurd before (Nat.lt_irrefl _)
    · exact absurd before (Nat.lt_asymm (ordered other index otherInRange inRange greater))

theorem id_lt_following
    {index : Nat}
    {row following : Row}
    (isRow : (tree.outline folded showEpsilon)[index]? = some row)
    (follows : (tree.outline folded showEpsilon)[index + 1]? = some following) :
    row.id < following.id :=
  (index_lt_iff_id_lt isRow follows).mp (Nat.lt_succ_self index)

section

variable
  {index : Nat}
  {row later : Row}
  (isRow : (tree.outline folded showEpsilon)[index]? = some row)
  (member : later ∈ tree.outline folded showEpsilon)
  (behind : row.id < later.id)

include isRow member behind

/-- A row with a later one is not the last. -/
theorem exists_following :
    ∃ following, (tree.outline folded showEpsilon)[index + 1]? = some following := by
  obtain ⟨position, isLater⟩ := List.mem_iff_getElem?.mp member
  have after : index < position := (index_lt_iff_id_lt isRow isLater).mpr behind
  have inRange := (List.getElem?_eq_some_iff.mp isLater).1
  exact ⟨_, List.getElem?_eq_getElem (Nat.lt_of_le_of_lt after inRange)⟩

/-- No row stands between a row and the following one. -/
theorem following_le
    {following : Row}
    (follows : (tree.outline folded showEpsilon)[index + 1]? = some following) :
    following.id ≤ later.id := by
  obtain ⟨position, isLater⟩ := List.mem_iff_getElem?.mp member
  have after : index < position := (index_lt_iff_id_lt isRow isLater).mpr behind
  rw [← Nat.not_lt, ← index_lt_iff_id_lt isLater follows]
  omega

end

/-! ## The root -/

/-- A shown root has the first row, and the only one if nothing stands below it
or it is folded. -/
theorem outline_of_shownRoot
    (shown : tree.symbol.kind.isShown showEpsilon = true) :
    ∃ below, tree.outline folded showEpsilon = ⟨0, 0, tree⟩ :: below ∧
      (tree.children = [] ∨ folded.contains 0 = true → below = []) := by
  cases tree with
  | node symbol children =>
      rw [symbol_node] at shown
      rw [outline_eq_rowsFrom, rowsFrom_of_shown shown]
      refine ⟨_, rfl, ?_⟩
      rintro (childless | isFolded)
      · obtain rfl : children = [] := childless
        simp [rowsBelow]
      · rw [if_pos isFolded]

/-- Only the root has a row at depth zero. -/
theorem row_eq_root_of_depth_eq_zero
    {row : Row}
    (member : row ∈ tree.outline folded showEpsilon)
    (isRoot : row.depth = 0) :
    row = ⟨0, 0, tree⟩ := by
  obtain ⟨path, hasRow, -⟩ := exists_hasRow_of_mem_outline member
  obtain rfl : path = [] := List.eq_nil_of_length_eq_zero (hasRow.depth.symm.trans isRoot)
  have isTree : tree = row.tree := by simpa using hasRow.found
  rw [hasRow.eq_rowAt, ← isTree, rowAt, indexAt_nil, List.length_nil]

/-! ## Shown parents -/

/-- Nothing stands below empty symbols. -/
def EpsilonsAreLeaves (tree : Tree) : Prop :=
  ∀ path node, tree.at? path = some node → node.symbol.kind = .epsilon → node.children = []

/-- If empty symbols are shown or nothing stands below them, every node with
something below it is shown. -/
theorem isShown_of_parent
    (parentsShown : showEpsilon = true ∨ tree.EpsilonsAreLeaves)
    {path : List Nat}
    {node : Tree}
    (found : tree.at? path = some node)
    (isParent : node.children ≠ []) :
    node.symbol.kind.isShown showEpsilon = true := by
  rcases parentsShown with rfl | leaves
  · exact Kind.isShown_true _
  · exact Kind.isShown_of_ne fun isEpsilon => isParent (leaves path node found isEpsilon)

end Tree

/-- The selected row is that of a visible node. -/
theorem Viewer.Consistent.exists_hasRow
    {root : Tree}
    {viewer : Viewer}
    (consistent : viewer.Consistent root)
    {row : Row}
    (isSelected : viewer.selectedRow? = some row) :
    ∃ path, root.HasRow path row ∧
      root.Visible viewer.folded.contains viewer.showEpsilon path :=
  Tree.exists_hasRow_of_mem_outline
    (List.mem_of_getElem? (consistent.selected_getElem? isSelected))

end SyntaxTree
