import SyntaxTree.Tree.Preorder

/-!
# Walks over a tree

A walk works off the subtrees on its agenda one after the other, so the walk
over a tree is its root followed by the walks over its subtrees.  It meets every
node once, and its length is the number of nodes.
-/

namespace SyntaxTree

/-- An agenda leads to as many visits as there are nodes on it. -/
theorem Visit.length_ofAgenda (agenda : List Visit) :
    (ofAgenda agenda).length = agendaCount agenda := by
  match agenda with
  | [] => simp [agendaCount]
  | visit :: agenda =>
      rw [ofAgenda_cons, List.length_cons, length_ofAgenda (visit.below ++ agenda),
        agendaCount_visit]
termination_by agendaCount agenda
decreasing_by
  rw [agendaCount_visit]
  exact Nat.lt_succ_self _

namespace Visit

/-- The subtrees in front of an agenda are worked off before the others. -/
theorem ofAgenda_append (left right : List Visit) :
    ofAgenda (left ++ right) = ofAgenda left ++ ofAgenda right := by
  match left with
  | [] => simp
  | visit :: left =>
      rw [List.cons_append, ofAgenda_cons, ofAgenda_cons, ← List.append_assoc,
        ofAgenda_append (visit.below ++ left) right, List.cons_append]
termination_by agendaCount left
decreasing_by
  rw [agendaCount_visit]
  exact Nat.lt_succ_self _

/-- An agenda is worked off visit by visit. -/
theorem ofAgenda_eq_flatMap (agenda : List Visit) :
    ofAgenda agenda = agenda.flatMap fun visit => ofAgenda [visit] := by
  induction agenda with
  | nil => simp
  | cons visit agenda inductionHypothesis =>
      rw [← List.singleton_append, ofAgenda_append, inductionHypothesis, List.flatMap_append,
        List.flatMap_singleton]

/-- A visit is followed by the walks over the subtrees one level below. -/
theorem ofAgenda_singleton (visit : Visit) :
    ofAgenda [visit] = visit :: visit.below.flatMap fun below => ofAgenda [below] := by
  rw [ofAgenda_cons, List.append_nil, ofAgenda_eq_flatMap]

/-! ## Walks from a depth -/

/-- A walk never rises above the depth at which it starts. -/
theorem depth_le_of_mem_walk
    (tree : Tree)
    {depth : Nat}
    {visit : Visit}
    (member : visit ∈ ofAgenda [⟨depth, tree⟩]) :
    depth ≤ visit.depth := by
  induction tree using Tree.induct generalizing depth with
  | step symbol children inductionHypothesis =>
      rw [ofAgenda_singleton, List.mem_cons] at member
      rcases member with rfl | deeper
      · exact Nat.le_refl _
      · obtain ⟨start, startMember, walked⟩ := List.mem_flatMap.mp deeper
        obtain ⟨child, childMember, rfl⟩ := List.mem_map.mp startMember
        exact Nat.le_of_succ_le (inductionHypothesis child childMember walked)

/-- Visits of trees side by side at one depth. -/
def sideBySide (depth : Nat) (forest : List Tree) : List Visit :=
  forest.flatMap fun tree => ofAgenda [⟨depth, tree⟩]

theorem walk_node (depth : Nat) (symbol : Symbol) (children : List Tree) :
    ofAgenda [⟨depth, .node symbol children⟩] =
      ⟨depth, .node symbol children⟩ :: sideBySide (depth + 1) children := by
  rw [ofAgenda_singleton, below, List.flatMap_map]
  rfl

theorem depth_le_of_mem_sideBySide
    {depth : Nat}
    {forest : List Tree}
    {visit : Visit}
    (member : visit ∈ sideBySide depth forest) :
    depth ≤ visit.depth := by
  obtain ⟨tree, -, walked⟩ := List.mem_flatMap.mp member
  exact depth_le_of_mem_walk tree walked

theorem length_walk (depth : Nat) (tree : Tree) :
    (ofAgenda [⟨depth, tree⟩]).length = tree.nodeCount := by
  rw [length_ofAgenda]
  simp [agendaCount]

end Visit

namespace Tree

/-- A walk over a tree meets as many nodes as the tree has. -/
@[simp] theorem size_eq_nodeCount (tree : Tree) : tree.size = tree.nodeCount := by
  rw [size, preorder, Visit.length_ofAgenda]
  simp [Visit.agendaCount]

end Tree
end SyntaxTree
