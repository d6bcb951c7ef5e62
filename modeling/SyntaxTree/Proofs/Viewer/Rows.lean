import SyntaxTree.Proofs.Tree.Preorder
import SyntaxTree.Proofs.Viewer.Outline

/-!
# Outlines by recursion

An outline is found in one pass over the preorder, which only remembers the
depth of the last fold.  The same rows come out of a recursion over the tree: a
shown node has a row, and the rows of its subtrees follow unless it is folded.
A node that is not shown gives way to the rows of its subtrees.
-/

namespace SyntaxTree

/-- Whether nodes of a kind have rows. -/
def Kind.isShown (showEpsilon : Bool) (kind : Kind) : Bool :=
  showEpsilon || kind != .epsilon

theorem Kind.isShown_true (kind : Kind) : kind.isShown true = true :=
  rfl

theorem Kind.isShown_of_ne
    {kind : Kind}
    (notEpsilon : kind ≠ .epsilon)
    {showEpsilon : Bool} :
    kind.isShown showEpsilon = true := by
  simp [isShown, notEpsilon]

theorem Kind.isShown_eq_false_iff {kind : Kind} {showEpsilon : Bool} :
    kind.isShown showEpsilon = false ↔ kind = .epsilon ∧ showEpsilon = false := by
  simp [isShown, and_comm]

namespace Tree

mutual

/-- Rows of a tree whose root has the given id and depth. -/
def rowsFrom (folded : FoldSet) (showEpsilon : Bool) (id depth : Nat) : Tree → List Row
  | .node symbol children =>
    let below := rowsBelow folded showEpsilon (id + 1) (depth + 1) children
    if symbol.kind.isShown showEpsilon then
      ⟨id, depth, .node symbol children⟩ :: if folded.contains id then [] else below
    else
      below

/-- Rows of trees side by side, the first of which has the given id. -/
def rowsBelow (folded : FoldSet) (showEpsilon : Bool) (id depth : Nat) : List Tree → List Row
  | [] => []
  | tree :: forest =>
    rowsFrom folded showEpsilon id depth tree ++
      rowsBelow folded showEpsilon (id + tree.nodeCount) depth forest

end

theorem rowsFrom_of_shown
    {folded : FoldSet}
    {symbol : Symbol}
    {showEpsilon : Bool}
    (shown : symbol.kind.isShown showEpsilon = true)
    (id depth : Nat)
    (children : List Tree) :
    (node symbol children).rowsFrom folded showEpsilon id depth =
      ⟨id, depth, .node symbol children⟩ ::
        if folded.contains id then []
        else rowsBelow folded showEpsilon (id + 1) (depth + 1) children := by
  rw [rowsFrom, if_pos shown]

/-- An empty symbol that is hidden gives way to the rows below it. -/
theorem rowsFrom_of_hidden
    {folded : FoldSet}
    {symbol : Symbol}
    (isEpsilon : symbol.kind = .epsilon)
    (id depth : Nat)
    (children : List Tree) :
    (node symbol children).rowsFrom folded false id depth =
      rowsBelow folded false (id + 1) (depth + 1) children := by
  rw [rowsFrom, if_neg (by simp [Kind.isShown, isEpsilon])]

end Tree

namespace OutlineScan

variable {folded : FoldSet} {showEpsilon : Bool}

/-- What does not hide a depth does not hide a smaller one. -/
theorem hides_of_le
    {scan : OutlineScan}
    {less greater : Nat}
    (notHidden : scan.hides greater = false)
    (ordered : less ≤ greater) :
    scan.hides less = false := by
  unfold hides at *
  split at notHidden
  · rw [decide_eq_false_iff_not] at notHidden ⊢
    omega
  · rfl

/-- Hidden nodes leave a scan as it is. -/
theorem foldl_add_of_hides
    {scan : OutlineScan}
    {visits : List (Visit × Nat)}
    (hidden : ∀ visit ∈ visits, scan.hides visit.1.depth = true) :
    visits.foldl (add folded showEpsilon) scan = scan := by
  induction visits with
  | nil => rfl
  | cons visit visits inductionHypothesis =>
      rw [List.forall_mem_cons] at hidden
      have unchanged : add folded showEpsilon scan visit = scan := if_pos hidden.1
      rw [List.foldl_cons, unchanged, inductionHypothesis hidden.2]

theorem add_of_shown
    {scan : OutlineScan}
    {depth id : Nat}
    {tree : Tree}
    (notHidden : scan.hides depth = false)
    (shown : tree.symbol.kind.isShown showEpsilon = true) :
    add folded showEpsilon scan (⟨depth, tree⟩, id) =
      ⟨scan.rows.push ⟨id, depth, tree⟩, if folded.contains id then some depth else none⟩ := by
  have notLeftOut : ¬ (tree.symbol.kind = .epsilon ∧ showEpsilon = false) := by
    rw [← Kind.isShown_eq_false_iff, shown]
    exact Bool.noConfusion
  unfold add
  dsimp only
  rw [if_neg (by simp [notHidden]), if_neg notLeftOut]

theorem add_of_notShown
    {scan : OutlineScan}
    {depth id : Nat}
    {tree : Tree}
    (notHidden : scan.hides depth = false)
    (notShown : tree.symbol.kind.isShown showEpsilon = false) :
    add folded showEpsilon scan (⟨depth, tree⟩, id) = { scan with hiddenBelow := none } := by
  unfold add
  dsimp only
  rw [if_neg (by simp [notHidden]), if_pos (Kind.isShown_eq_false_iff.mp notShown)]

/-- A scan has found some rows and hides no node at the given depth. -/
structure Found (depth : Nat) (rows : List Row) (scan : OutlineScan) : Prop where
  rows : scan.rows.toList = rows
  visible : scan.hides depth = false

/-- Trees side by side add their rows if each of them does. -/
theorem found_sideBySide
    {depth : Nat}
    {forest : List Tree}
    (each : ∀ tree ∈ forest, ∀ id rows scan, Found depth rows scan →
      Found depth (rows ++ tree.rowsFrom folded showEpsilon id depth)
        (((Visit.ofAgenda [⟨depth, tree⟩]).zipIdx id).foldl (add folded showEpsilon) scan))
    {id : Nat}
    {rows : List Row}
    {scan : OutlineScan}
    (found : Found depth rows scan) :
    Found depth (rows ++ Tree.rowsBelow folded showEpsilon id depth forest)
      (((Visit.sideBySide depth forest).zipIdx id).foldl (add folded showEpsilon) scan) := by
  induction forest generalizing id rows scan with
  | nil => simpa [Tree.rowsBelow, Visit.sideBySide] using found
  | cons tree forest inductionHypothesis =>
      rw [List.forall_mem_cons] at each
      rw [Visit.sideBySide, List.flatMap_cons, List.zipIdx_append, List.foldl_append,
        Visit.length_walk, Tree.rowsBelow, ← List.append_assoc]
      exact inductionHypothesis each.2 (each.1 id rows scan found)

/-- A scan over the walk of a tree adds the rows that recursion gives. -/
theorem found_walk (tree : Tree) :
    ∀ depth id rows scan, Found depth rows scan →
      Found depth (rows ++ tree.rowsFrom folded showEpsilon id depth)
        (((Visit.ofAgenda [⟨depth, tree⟩]).zipIdx id).foldl (add folded showEpsilon) scan) := by
  induction tree using Tree.induct with
  | step symbol children inductionHypothesis =>
      intro depth id rows scan found
      have below : ∀ rows scan, Found (depth + 1) rows scan →
          Found (depth + 1)
            (rows ++ Tree.rowsBelow folded showEpsilon (id + 1) (depth + 1) children)
            (((Visit.sideBySide (depth + 1) children).zipIdx (id + 1)).foldl
              (add folded showEpsilon) scan) :=
        fun _ _ => found_sideBySide fun child member => inductionHypothesis child member (depth + 1)
      rw [Visit.walk_node, List.zipIdx_cons, List.foldl_cons, Tree.rowsFrom]
      by_cases shown : symbol.kind.isShown showEpsilon = true
      · rw [add_of_shown found.visible shown, if_pos shown]
        by_cases isFolded : folded.contains id = true
        · -- The fold hides the subtrees, all of which are deeper.
          rw [if_pos isFolded, if_pos isFolded, foldl_add_of_hides]
          · exact ⟨by simp [found.rows], by simp [hides]⟩
          · intro visit member
            have deeper := Visit.depth_le_of_mem_sideBySide (List.fst_mem_of_mem_zipIdx member)
            exact decide_eq_true deeper
        · rw [if_neg isFolded, if_neg isFolded]
          have added := below (rows ++ [⟨id, depth, .node symbol children⟩])
            ⟨scan.rows.push ⟨id, depth, .node symbol children⟩, none⟩
            ⟨by simp [found.rows], rfl⟩
          exact ⟨by simpa using added.rows, hides_of_le added.visible (Nat.le_succ depth)⟩
      · rw [add_of_notShown found.visible (by simpa using shown), if_neg shown]
        have added := below rows { scan with hiddenBelow := none } ⟨found.rows, rfl⟩
        exact ⟨added.rows, hides_of_le added.visible (Nat.le_succ depth)⟩

end OutlineScan

/-- The rows of an outline come out of a recursion over the tree. -/
theorem Tree.outline_eq_rowsFrom (tree : Tree) (folded : FoldSet) (showEpsilon : Bool) :
    tree.outline folded showEpsilon = tree.rowsFrom folded showEpsilon 0 0 :=
  (OutlineScan.found_walk tree 0 0 [] {} ⟨rfl, rfl⟩).rows

end SyntaxTree
