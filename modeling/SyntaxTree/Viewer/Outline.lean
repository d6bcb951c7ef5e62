import SyntaxTree.Tree.Preorder

/-!
# Outline rows

The outline of a tree lists its visible nodes in preorder.  A node is known by
its index in the preorder of the whole tree, which folding does not change.
Rows below a folded row are hidden, and on demand so are the symbols that
derived the empty text.
-/

namespace SyntaxTree

theorem FoldSet.ascending_nil : ([] : List Nat).Pairwise (· < ·) :=
  .nil

/-- Ids of folded nodes. -/
structure FoldSet where
  ids : List Nat := []
  /-- The ids ascend, so none is repeated. -/
  ascending : ids.Pairwise (· < ·) := by exact FoldSet.ascending_nil
deriving DecidableEq, Repr

namespace FoldSet

/-- Whether the node is folded. -/
def contains (folded : FoldSet) (id : Nat) : Bool :=
  folded.ids.contains id

/-- Inserts an id before the first larger one. -/
def insertInto (id : Nat) : List Nat → List Nat
  | [] => [id]
  | other :: ids =>
    if id < other then
      id :: other :: ids
    else if id = other then
      other :: ids
    else
      other :: insertInto id ids

theorem mem_insertInto {id other : Nat} {ids : List Nat} :
    other ∈ insertInto id ids ↔ other = id ∨ other ∈ ids := by
  induction ids with
  | nil => simp [insertInto]
  | cons first ids inductionHypothesis =>
      unfold insertInto
      split
      · simp
      · split
        · rename_i equal
          simp [equal]
        · rw [List.mem_cons, inductionHypothesis, List.mem_cons]
          exact or_left_comm

theorem ascending_insertInto
    {ids : List Nat}
    (ascending : ids.Pairwise (· < ·))
    (id : Nat) :
    (insertInto id ids).Pairwise (· < ·) := by
  induction ids with
  | nil => exact List.pairwise_singleton _ id
  | cons first ids inductionHypothesis =>
      obtain ⟨least, ofRest⟩ := List.pairwise_cons.mp ascending
      unfold insertInto
      split
      · rename_i below
        apply List.pairwise_cons.mpr ⟨?_, ascending⟩
        intro other member
        rcases List.mem_cons.mp member with rfl | later
        · exact below
        · exact Nat.lt_trans below (least other later)
      · split
        · exact ascending
        · apply List.pairwise_cons.mpr ⟨?_, inductionHypothesis ofRest⟩
          intro other member
          rcases mem_insertInto.mp member with rfl | later
          · omega
          · exact least other later

/-- Folds a node. -/
def insert (folded : FoldSet) (id : Nat) : FoldSet where
  ids := insertInto id folded.ids
  ascending := ascending_insertInto folded.ascending id

/-- Unfolds a node. -/
def erase (folded : FoldSet) (id : Nat) : FoldSet where
  ids := folded.ids.filter (· != id)
  ascending := folded.ascending.filter _

/-- The folds of a list of ids. -/
def ofList (ids : List Nat) : FoldSet :=
  ids.foldl insert {}

end FoldSet

/-- One line of the outline. -/
structure Row where
  /-- Preorder index of the node in the whole tree. -/
  id : Nat
  depth : Nat
  tree : Tree

namespace Row

/-- Symbol of the node. -/
def symbol (row : Row) : Symbol :=
  row.tree.symbol

/-- Whether the node has subtrees that can be folded. -/
def isFoldable (row : Row) : Bool :=
  !row.tree.children.isEmpty

end Row

/-- The rows found so far and the depth below which nodes are hidden. -/
structure OutlineScan where
  rows : Array Row := #[]
  hiddenBelow : Option Nat := none

namespace OutlineScan

/-- Whether a node at the depth is hidden by a fold. -/
def hides (scan : OutlineScan) (depth : Nat) : Bool :=
  match scan.hiddenBelow with
  | some foldDepth => foldDepth < depth
  | none => false

/-- Adds the next visited node unless it is hidden.  A symbol that is not shown
has no row, so a fold of it hides nothing. -/
def add
    (folded : FoldSet)
    (showEpsilon : Bool)
    (scan : OutlineScan)
    (visit : Visit × Nat) : OutlineScan :=
  let (⟨depth, tree⟩, id) := visit
  if scan.hides depth then
    scan
  else if tree.symbol.kind = .epsilon ∧ showEpsilon = false then
    { scan with hiddenBelow := none }
  else
    ⟨scan.rows.push ⟨id, depth, tree⟩, if folded.contains id then some depth else none⟩

end OutlineScan

namespace Tree

/-- Rows of a tree that are visible under the folds. -/
def outline (folded : FoldSet) (showEpsilon : Bool) (tree : Tree) : List Row :=
  (tree.preorder.zipIdx.foldl (OutlineScan.add folded showEpsilon) {}).rows.toList

end Tree
end SyntaxTree
