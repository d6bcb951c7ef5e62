import SyntaxTree.Proofs.Tree.Count
import SyntaxTree.Proofs.Tree.Order

/-!
# The release of a tree

The release of a tree is a loop over an agenda.  A round either releases a node or
puts it back behind its subtrees, and it always lowers the cost of the agenda, so
the loop ends.  Every path of the tree is released exactly once: after the paths
below it and after those on its left.
-/

namespace SyntaxTree
namespace Tree

/-! ## Paths in postorder -/

mutual

/-- Paths of all nodes from the leaves up, the root last. -/
def postorderPaths : Tree → List (List Nat)
  | .node _ children => postorderPathsBelow 0 children ++ [[]]

/-- Paths of all nodes of trees side by side, the first of which has the given
index. -/
def postorderPathsBelow (index : Nat) : List Tree → List (List Nat)
  | [] => []
  | tree :: forest =>
    (postorderPaths tree).map (index :: ·) ++ postorderPathsBelow (index + 1) forest

end

/-- The token beside a list of two comes after the list, which comes after its parts. -/
example :
    let token : Tree := .leaf ⟨"ID", .token, 1, .unset⟩
    let list : Tree := .node ⟨"Args", .nonTerminal, 1, .unset⟩ [token, token]
    postorderPaths (.node ⟨"Exp", .nonTerminal, 1, .unset⟩ [list, token]) =
      [[0, 0], [0, 1], [0], [1], []] :=
  rfl

/-- The node at the first path is released before the node at the other one: it is
below that node or on its left. -/
def ReleasedBefore (path other : List Nat) : Prop :=
  (other <+: path ∧ other ≠ path) ∨ LeftOf path other

theorem ReleasedBefore.cons
    {path other : List Nat}
    (before : ReleasedBefore path other)
    (index : Nat) :
    ReleasedBefore (index :: path) (index :: other) := by
  rcases before with ⟨isAbove, proper⟩ | isLeft
  · left
    exact ⟨List.cons_prefix_cons.mpr ⟨rfl, isAbove⟩, by simpa using proper⟩
  · exact Or.inr (.shares index isLeft)

theorem mem_postorderPathsBelow
    {index : Nat}
    {forest : List Tree}
    {path : List Nat} :
    path ∈ postorderPathsBelow index forest ↔
      ∃ (offset : Nat) (child : Tree) (rest : List Nat),
        forest[offset]? = some child ∧ rest ∈ child.postorderPaths ∧
          path = (index + offset) :: rest := by
  induction forest generalizing index with
  | nil => simp [postorderPathsBelow]
  | cons tree forest inductionHypothesis =>
      rw [postorderPathsBelow, List.mem_append, List.mem_map, inductionHypothesis]
      constructor
      · rintro (⟨rest, member, rfl⟩ | ⟨offset, child, rest, isChild, member, rfl⟩)
        · exact ⟨0, tree, rest, rfl, member, rfl⟩
        · have sameIndex : index + 1 + offset = index + (offset + 1) := by omega
          exact ⟨offset + 1, child, rest, isChild, member, by rw [sameIndex]⟩
      · rintro ⟨_ | offset, child, rest, isChild, member, rfl⟩
        · obtain rfl : tree = child := by simpa using isChild
          exact Or.inl ⟨rest, member, rfl⟩
        · have sameIndex : index + (offset + 1) = index + 1 + offset := by omega
          exact Or.inr ⟨offset, child, rest, isChild, member, by rw [sameIndex]⟩

/-- The listed paths are those that lead to a node. -/
theorem mem_postorderPaths {tree : Tree} {path : List Nat} :
    path ∈ tree.postorderPaths ↔ (tree.at? path).isSome = true := by
  induction path generalizing tree with
  | nil => cases tree with
      | node symbol children => simp [postorderPaths]
  | cons index path inductionHypothesis =>
      cases tree with
      | node symbol children =>
          rw [postorderPaths, List.mem_append, mem_postorderPathsBelow, at?_cons, children_node]
          constructor
          · rintro (⟨offset, child, rest, isChild, member, same⟩ | isRoot)
            · obtain ⟨rfl, rfl⟩ : index = offset ∧ path = rest := by simpa using same
              rw [isChild, Option.bind_some]
              exact inductionHypothesis.mp member
            · simp at isRoot
          · intro found
            cases isChild : children[index]? with
            | none => simp [isChild] at found
            | some child =>
                rw [isChild, Option.bind_some] at found
                exact Or.inl ⟨index, child, path, isChild, inductionHypothesis.mpr found, by simp⟩

theorem pairwise_postorderPathsBelow
    {forest : List Tree}
    (ofForest : ∀ child ∈ forest, child.postorderPaths.Pairwise ReleasedBefore)
    (index : Nat) :
    (postorderPathsBelow index forest).Pairwise ReleasedBefore := by
  induction forest generalizing index with
  | nil =>
      rw [postorderPathsBelow]
      exact List.Pairwise.nil
  | cons child forest inductionHypothesis =>
      rw [List.forall_mem_cons] at ofForest
      rw [postorderPathsBelow]
      refine List.pairwise_append.mpr ⟨?_, inductionHypothesis ofForest.2 (index + 1), ?_⟩
      · exact ofForest.1.map _ fun path other before => before.cons index
      · -- The paths part at their first step.
        intro path isPath other isOther
        obtain ⟨rest, -, rfl⟩ := List.mem_map.mp isPath
        obtain ⟨offset, sibling, otherRest, -, -, rfl⟩ := mem_postorderPathsBelow.mp isOther
        exact Or.inr (.parts (by omega) rest otherRest)

/-- No path is listed before one that is to be released before it. -/
theorem pairwise_postorderPaths (tree : Tree) :
    tree.postorderPaths.Pairwise ReleasedBefore := by
  induction tree using induct with
  | step symbol children inductionHypothesis =>
      rw [postorderPaths]
      refine List.pairwise_append.mpr
        ⟨pairwise_postorderPathsBelow inductionHypothesis 0, List.pairwise_singleton _ _, ?_⟩
      intro path isPath root isRoot
      obtain rfl : root = [] := by simpa using isRoot
      obtain ⟨offset, child, rest, -, -, rfl⟩ := mem_postorderPathsBelow.mp isPath
      exact Or.inl ⟨List.nil_prefix, (List.cons_ne_nil _ _).symm⟩

/-- The node at a path as it is handed over: with its symbol but without subtrees. -/
def bareAt (tree : Tree) (path : List Nat) : Option Tree :=
  (tree.at? path).map fun node => leaf node.symbol

theorem map_bareAt_below
    (symbol : Symbol)
    (front : List Tree)
    {forest : List Tree}
    (ofForest : ∀ child ∈ forest,
      child.postorderPaths.map child.bareAt = child.postorder.map some) :
    (postorderPathsBelow front.length forest).map (node symbol (front ++ forest)).bareAt =
      (forest.flatMap postorder).map some := by
  induction forest generalizing front with
  | nil => simp [postorderPathsBelow]
  | cons child forest inductionHypothesis =>
      rw [List.forall_mem_cons] at ofForest
      have here : ∀ path, (node symbol (front ++ child :: forest)).bareAt (front.length :: path) =
          child.bareAt path := by
        intro path
        simp [bareAt, at?_cons]
      have others := inductionHypothesis (front ++ [child]) ofForest.2
      rw [List.length_append, List.length_singleton, List.append_assoc,
        List.singleton_append] at others
      rw [postorderPathsBelow, List.map_append, List.map_map, Function.comp_def, others]
      simp only [here]
      rw [ofForest.1, List.flatMap_cons, List.map_append]

/-- The postorder of a tree lists the bare nodes at these paths. -/
theorem map_bareAt_postorderPaths (tree : Tree) :
    tree.postorderPaths.map tree.bareAt = tree.postorder.map some := by
  induction tree using induct with
  | step symbol children inductionHypothesis =>
      have below := map_bareAt_below symbol [] inductionHypothesis
      rw [List.length_nil, List.nil_append] at below
      rw [postorderPaths, List.map_append, below, postorder_node, List.map_append]
      simp [bareAt]

/-! ## Releasing every node once -/

theorem ReleasedBefore.ne
    {path other : List Nat}
    (before : ReleasedBefore path other) :
    path ≠ other := by
  rcases before with ⟨-, proper⟩ | isLeft
  · exact proper.symm
  · rintro rfl
    exact isLeft.not_above List.prefix_rfl

@[simp] theorem length_releaseOrder (tree : Tree) : tree.releaseOrder.length = tree.size := by
  rw [releaseOrder_eq_postorder, length_postorder, size_eq_nodeCount]

/-- The state before the first round. -/
def ReleaseState.start (tree : Tree) : ReleaseState :=
  ⟨#[], [⟨tree, false⟩]⟩

/-- Within two rounds a node, all nodes are released and the agenda is empty. -/
theorem iterate_round_start (tree : Tree) :
    ReleaseState.round^[2 * tree.size] (.start tree) = ⟨tree.releaseOrder.toArray, []⟩ := by
  have enough : Task.agendaCost (ReleaseState.start tree).agenda ≤ 2 * tree.size := by
    rw [size_eq_nodeCount]
    exact Nat.le_refl _
  have agenda : (ReleaseState.loop.run (.start tree)).agenda = [] :=
    ReleaseState.loop.agenda_run _
  apply (ReleaseState.loop.iterate_eq_run enough).trans
  rw [releaseOrder, Array.toArray_toList]
  exact congrArg (ReleaseState.mk _) agenda

/-- A tree is released in postorder.  Every path to a node is released exactly once,
before the paths above it and those on its right, and what is released there is the
symbol at its end without any subtrees.  The root comes last, and as many nodes are
counted as a walk over the tree visits.  The loop ends within two rounds a node. -/
theorem release_everyNode (tree : Tree) :
    tree.releaseOrder = tree.postorder ∧
    (∃ paths : List (List Nat),
      (∀ path, path ∈ paths ↔ ∃ node, tree.at? path = some node) ∧
      paths.Nodup ∧ paths.Pairwise ReleasedBefore ∧
      paths.map tree.bareAt = tree.releaseOrder.map some) ∧
    tree.releaseOrder.getLast? = some (leaf tree.symbol) ∧
    tree.releaseOrder.length = tree.size ∧ (release (some tree)).value = tree.size ∧
    ReleaseState.round^[2 * tree.size] (.start tree) = ⟨tree.releaseOrder.toArray, []⟩ := by
  have ordered := releaseOrder_eq_postorder tree
  refine ⟨ordered, ⟨tree.postorderPaths, ?_, ?_, pairwise_postorderPaths tree, ?_⟩, ?_,
    length_releaseOrder tree, length_releaseOrder tree, iterate_round_start tree⟩
  · intro path
    rw [mem_postorderPaths, Option.isSome_iff_exists]
  · exact (pairwise_postorderPaths tree).imp ReleasedBefore.ne
  · rw [ordered, map_bareAt_postorderPaths]
  · rw [ordered, postorder_eq, List.getLast?_concat]

end Tree
end SyntaxTree
