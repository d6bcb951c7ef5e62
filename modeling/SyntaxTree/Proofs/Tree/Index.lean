import SyntaxTree.Proofs.Tree.Path
import SyntaxTree.Proofs.Tree.Preorder

/-!
# Preorder indices of paths

The index of a path counts the nodes that a walk meets before the node at its
end.  A walk finds that node at the index, the nodes below it follow at once,
and different paths have different indices.
-/

namespace SyntaxTree
namespace Tree

/-! ## Nodes on the left -/

theorem forestCount_take_succ
    {forest : List Tree}
    {index : Nat}
    {tree : Tree}
    (isThere : forest[index]? = some tree) :
    forestCount (forest.take (index + 1)) =
      forestCount (forest.take index) + tree.nodeCount := by
  rw [List.take_add_one, isThere, forestCount_append]
  simp

theorem forestCount_take_le
    (forest : List Tree)
    {less greater : Nat}
    (ordered : less ≤ greater) :
    forestCount (forest.take less) ≤ forestCount (forest.take greater) := by
  obtain ⟨more, rfl⟩ := Nat.exists_eq_add_of_le ordered
  rw [List.take_add, forestCount_append]
  omega

/-- The nodes of a tree and of those on its left are not more than all nodes. -/
theorem forestCount_take_add_le
    {forest : List Tree}
    {index : Nat}
    {tree : Tree}
    (isThere : forest[index]? = some tree) :
    forestCount (forest.take index) + tree.nodeCount ≤ forestCount forest := by
  have within := forestCount_take_le forest (List.getElem?_eq_some_iff.mp isThere).1
  rwa [Nat.succ_eq_add_one, forestCount_take_succ isThere, List.take_length] at within

/-! ## Indices -/

/-- Number of nodes that a walk over the tree meets before the node at the end
of a path: those above the node and those on the left of the path. -/
def indexAt (tree : Tree) : List Nat → Nat
  | [] => 0
  | index :: path =>
    forestCount (tree.children.take index) + 1 +
      match tree.children[index]? with
      | some child => child.indexAt path
      | none => 0

@[simp] theorem indexAt_nil (tree : Tree) : tree.indexAt [] = 0 := by
  rw [indexAt]

theorem indexAt_cons
    {tree child : Tree}
    {index : Nat}
    (isChild : tree.children[index]? = some child)
    (path : List Nat) :
    tree.indexAt (index :: path) =
      forestCount (tree.children.take index) + 1 + child.indexAt path := by
  rw [indexAt, isChild]

/-- The nodes below a node are numbered from its own index on. -/
theorem indexAt_append
    {tree node : Tree}
    {path : List Nat}
    (found : tree.at? path = some node)
    (rest : List Nat) :
    tree.indexAt (path ++ rest) = tree.indexAt path + node.indexAt rest := by
  induction path generalizing tree with
  | nil =>
      obtain rfl : tree = node := by simpa using found
      simp
  | cons index path inductionHypothesis =>
      obtain ⟨child, isChild, leads⟩ := at?_cons_eq_some_iff.mp found
      rw [List.cons_append, indexAt_cons isChild, indexAt_cons isChild, inductionHypothesis leads,
        ← Nat.add_assoc]

/-- A node is met after the nodes above it. -/
theorem indexAt_lt_of_above
    {tree node : Tree}
    {front path : List Nat}
    (found : tree.at? path = some node)
    (isFront : front <+: path)
    (proper : front ≠ path) :
    tree.indexAt front < tree.indexAt path := by
  obtain ⟨rest, rfl⟩ := isFront
  obtain ⟨above, isAbove, below⟩ : ∃ above, tree.at? front = some above ∧
      above.at? rest = some node := by
    rw [at?_append] at found
    exact Option.bind_eq_some_iff.mp found
  rw [indexAt_append isAbove]
  cases rest with
  | nil => simp at proper
  | cons index rest =>
      obtain ⟨child, isChild, -⟩ := at?_cons_eq_some_iff.mp below
      rw [indexAt_cons isChild]
      omega

/-- A walk has a visit at the index of every node. -/
theorem indexAt_lt
    {tree node : Tree}
    {path : List Nat}
    (found : tree.at? path = some node) :
    tree.indexAt path < tree.nodeCount := by
  induction path generalizing tree with
  | nil =>
      rw [indexAt_nil, nodeCount_eq]
      omega
  | cons index path inductionHypothesis =>
      obtain ⟨child, isChild, leads⟩ := at?_cons_eq_some_iff.mp found
      have within := inductionHypothesis leads
      have fits := forestCount_take_add_le isChild
      rw [indexAt_cons isChild, nodeCount_eq tree]
      omega

/-- All nodes of a subtree come before those of the subtrees on its right. -/
theorem indexAt_lt_of_left
    {tree node other : Tree}
    {left right : Nat}
    {path otherPath : List Nat}
    (found : tree.at? (left :: path) = some node)
    (otherFound : tree.at? (right :: otherPath) = some other)
    (isLeft : left < right) :
    tree.indexAt (left :: path) < tree.indexAt (right :: otherPath) := by
  obtain ⟨child, isChild, leads⟩ := at?_cons_eq_some_iff.mp found
  obtain ⟨otherChild, isOtherChild, -⟩ := at?_cons_eq_some_iff.mp otherFound
  have within := indexAt_lt leads
  have before := forestCount_take_le tree.children (Nat.succ_le_of_lt isLeft)
  rw [Nat.succ_eq_add_one, forestCount_take_succ isChild] at before
  rw [indexAt_cons isChild, indexAt_cons isOtherChild]
  omega

/-- Different nodes have different indices. -/
theorem indexAt_injective
    {tree leftNode rightNode : Tree}
    {left right : List Nat}
    (leftFound : tree.at? left = some leftNode)
    (rightFound : tree.at? right = some rightNode)
    (same : tree.indexAt left = tree.indexAt right) :
    left = right := by
  induction left generalizing tree right with
  | nil =>
      cases right with
      | nil => rfl
      | cons rightIndex rightPath =>
          have before := indexAt_lt_of_above rightFound List.nil_prefix (List.cons_ne_nil _ _).symm
          omega
  | cons leftIndex leftPath inductionHypothesis =>
      cases right with
      | nil =>
          have before := indexAt_lt_of_above leftFound List.nil_prefix (List.cons_ne_nil _ _).symm
          omega
      | cons rightIndex rightPath =>
          rcases Nat.lt_trichotomy leftIndex rightIndex with before | rfl | behind
          · have := indexAt_lt_of_left leftFound rightFound before
            omega
          · obtain ⟨child, isChild, leftLeads⟩ := at?_cons_eq_some_iff.mp leftFound
            obtain ⟨other, isOther, rightLeads⟩ := at?_cons_eq_some_iff.mp rightFound
            obtain rfl : child = other := Option.some.inj (isChild.symm.trans isOther)
            rw [indexAt_cons isChild, indexAt_cons isChild] at same
            rw [inductionHypothesis leftLeads rightLeads (by omega)]
          · have := indexAt_lt_of_left rightFound leftFound behind
            omega

/-! ## Walks -/

/-- Behind the trees on its left, the walk over a tree goes on inside it. -/
theorem getElem?_sideBySide
    {forest : List Tree}
    {index : Nat}
    {tree : Tree}
    (isThere : forest[index]? = some tree)
    (depth : Nat)
    {offset : Nat}
    (inside : offset < tree.nodeCount) :
    (Visit.sideBySide depth forest)[forestCount (forest.take index) + offset]? =
      (Visit.ofAgenda [⟨depth, tree⟩])[offset]? := by
  induction forest generalizing index with
  | nil => simp at isThere
  | cons first forest inductionHypothesis =>
      rw [Visit.sideBySide, List.flatMap_cons]
      cases index with
      | zero =>
          obtain rfl : first = tree := by simpa using isThere
          rw [List.take_zero, forestCount_nil, Nat.zero_add, List.getElem?_append_left]
          rwa [Visit.length_walk]
      | succ index =>
          rw [List.getElem?_cons_succ] at isThere
          rw [List.take_succ_cons, forestCount_cons, Nat.add_assoc,
            List.getElem?_append_right (by rw [Visit.length_walk]; omega), Visit.length_walk,
            Nat.add_sub_cancel_left]
          exact inductionHypothesis isThere

/-- A walk from a depth meets the node at a path at the index of the path. -/
theorem getElem?_walk_indexAt
    {tree node : Tree}
    {path : List Nat}
    (found : tree.at? path = some node)
    (depth : Nat) :
    (Visit.ofAgenda [⟨depth, tree⟩])[tree.indexAt path]? = some ⟨depth + path.length, node⟩ := by
  induction path generalizing tree depth with
  | nil =>
      obtain rfl : tree = node := by simpa using found
      rw [Visit.ofAgenda_singleton]
      simp
  | cons index path inductionHypothesis =>
      obtain ⟨child, isChild, leads⟩ := at?_cons_eq_some_iff.mp found
      rw [indexAt_cons isChild, Nat.add_right_comm]
      cases tree with
      | node symbol children =>
          rw [children_node] at isChild ⊢
          rw [Visit.walk_node, List.getElem?_cons_succ,
            getElem?_sideBySide isChild (depth + 1) (indexAt_lt leads), inductionHypothesis leads,
            List.length_cons, Nat.add_right_comm, Nat.add_assoc]

/-- A walk over a tree meets the node at a path at the index of the path, as deep
as the path is long. -/
theorem getElem?_preorder_indexAt
    {tree node : Tree}
    {path : List Nat}
    (found : tree.at? path = some node) :
    tree.preorder[tree.indexAt path]? = some ⟨path.length, node⟩ := by
  rw [preorder, getElem?_walk_indexAt found, Nat.zero_add]

end Tree
end SyntaxTree
