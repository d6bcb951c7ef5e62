import SyntaxTree.Tree.Basic

/-!
# Preorder

The nodes of a tree are visited from the root down and from left to right, each
with its depth.  The visits are produced from an agenda of subtrees that are
still to be visited, so trees of any depth are walked without nested calls.
-/

namespace SyntaxTree

/-- A subtree met at a depth below the root of the walk. -/
structure Visit where
  depth : Nat
  tree : Tree

namespace Visit

/-- Symbol at the visited node. -/
def symbol (visit : Visit) : Symbol :=
  visit.tree.symbol

/-- Visits of the subtrees one level below. -/
def below (visit : Visit) : List Visit :=
  visit.tree.children.map (⟨visit.depth + 1, ·⟩)

/-- Number of nodes that the visits of an agenda lead to. -/
def agendaCount (agenda : List Visit) : Nat :=
  Tree.forestCount (agenda.map (·.tree))

end Visit

namespace Tree

@[simp] theorem forestCount_append (left right : List Tree) :
    forestCount (left ++ right) = forestCount left + forestCount right := by
  induction left with
  | nil => simp
  | cons tree forest inductionHypothesis =>
    simp only [List.cons_append, forestCount_cons, inductionHypothesis]
    omega

end Tree

namespace Visit

/-- Visiting a node replaces it on the agenda by the nodes below it. -/
theorem agendaCount_visit (visit : Visit) (agenda : List Visit) :
    agendaCount (visit :: agenda) = agendaCount (visit.below ++ agenda) + 1 := by
  have trees : visit.below.map (·.tree) = visit.tree.children := by
    simp [below, Function.comp_def]
  simp only [agendaCount, List.map_cons, List.map_append, trees, Tree.forestCount_cons,
    Tree.forestCount_append, Tree.nodeCount_eq]
  omega

/-- Works off an agenda, behind the visits already made. -/
def walk (visited : Array Visit) : List Visit → Array Visit
  | [] => visited
  | visit :: agenda => walk (visited.push visit) (visit.below ++ agenda)
termination_by agenda => agendaCount agenda
decreasing_by
  rw [agendaCount_visit]
  exact Nat.lt_succ_self _

/-- Visits already made stay in front of the others. -/
theorem walk_eq_append (visited : Array Visit) (agenda : List Visit) :
    walk visited agenda = visited ++ walk #[] agenda := by
  match agenda with
  | [] => simp [walk]
  | visit :: agenda =>
    rw [walk, walk, walk_eq_append (visited.push visit), walk_eq_append (Array.push #[] visit)]
    simp
termination_by agendaCount agenda
decreasing_by
  all_goals
    rw [agendaCount_visit]
    exact Nat.lt_succ_self _

/-- The visits of an agenda, in order. -/
def ofAgenda (agenda : List Visit) : List Visit :=
  (walk #[] agenda).toList

@[simp] theorem ofAgenda_nil : ofAgenda [] = [] := by
  simp [ofAgenda, walk]

/-- A visit is followed by the visits below it and then by the others. -/
theorem ofAgenda_cons (visit : Visit) (agenda : List Visit) :
    ofAgenda (visit :: agenda) = visit :: ofAgenda (visit.below ++ agenda) := by
  rw [ofAgenda, walk, walk_eq_append]
  simp [ofAgenda]

end Visit

namespace Tree

/-- Visits of all nodes in preorder, the root at depth zero. -/
def preorder (tree : Tree) : List Visit :=
  Visit.ofAgenda [⟨0, tree⟩]

/-- Number of nodes that a walk meets. -/
def size (tree : Tree) : Nat :=
  tree.preorder.length

end Tree
end SyntaxTree
