import SyntaxTree.Tree.Preorder

/-!
# Agendas for work from the leaves up

Work on a tree that handles every node after its subtrees keeps an agenda of
tasks.  A task is met twice: first to put the tasks of its subtrees in front of
it, then to handle the node itself.  A loop goes on in rounds until no task is
left, and it ends because every round lowers the cost of the agenda.
-/

namespace SyntaxTree

/-- A subtree on an agenda. -/
structure Task where
  tree : Tree
  /-- Whether the subtrees were already put on the agenda. -/
  expanded : Bool

namespace Task

/-- Bound on the steps that a task causes. -/
def cost (task : Task) : Nat :=
  if task.expanded then 1 else 2 * task.tree.nodeCount

/-- Bound on the steps that an agenda causes. -/
def agendaCost : List Task → Nat
  | [] => 0
  | task :: agenda => task.cost + agendaCost agenda

/-- Tasks for the subtrees of a tree. -/
def below (tree : Tree) : List Task :=
  tree.children.map (⟨·, false⟩)

@[simp] theorem cost_expanded (tree : Tree) : cost ⟨tree, true⟩ = 1 :=
  rfl

@[simp] theorem cost_unexpanded (tree : Tree) :
    cost ⟨tree, false⟩ = 2 * tree.nodeCount :=
  rfl

theorem cost_pos (task : Task) : 0 < task.cost := by
  unfold cost
  split
  · exact Nat.one_pos
  · rw [Tree.nodeCount_eq]
    omega

@[simp] theorem agendaCost_cons (task : Task) (agenda : List Task) :
    agendaCost (task :: agenda) = task.cost + agendaCost agenda :=
  rfl

@[simp] theorem agendaCost_append (left right : List Task) :
    agendaCost (left ++ right) = agendaCost left + agendaCost right := by
  induction left with
  | nil => simp [agendaCost]
  | cons task agenda inductionHypothesis =>
    rw [List.cons_append, agendaCost_cons, agendaCost_cons, inductionHypothesis]
    omega

@[simp] theorem agendaCost_below (tree : Tree) :
    agendaCost (below tree) = 2 * Tree.forestCount tree.children := by
  unfold below
  induction tree.children with
  | nil => simp [agendaCost]
  | cons child forest inductionHypothesis =>
    rw [List.map_cons, agendaCost_cons, inductionHypothesis, Tree.forestCount_cons, cost_unexpanded]
    omega

/-- Handling a task that was expanded takes one step. -/
theorem agendaCost_handle_lt (task : Task) (agenda : List Task) :
    agendaCost agenda < agendaCost (task :: agenda) := by
  have positive := task.cost_pos
  rw [agendaCost_cons]
  omega

/-- Expanding a task costs less than the task itself, whatever tree it comes
back with. -/
theorem agendaCost_expand_lt
    (tree replacement : Tree)
    (agenda : List Task) :
    agendaCost (below tree ++ ⟨replacement, true⟩ :: agenda) <
      agendaCost (⟨tree, false⟩ :: agenda) := by
  simp only [agendaCost_append, agendaCost_below, agendaCost_cons, cost_expanded,
    cost_unexpanded, Tree.nodeCount_eq]
  omega

end Task

/-- A loop over an agenda that is part of its state. -/
structure AgendaLoop (State : Type) where
  /-- The tasks that are left. -/
  agenda : State → List Task
  /-- What one round makes of a state. -/
  round : State → State
  /-- Nothing is done once the agenda is empty. -/
  rests : ∀ state, agenda state = [] → round state = state
  lowers : ∀ state, agenda state ≠ [] →
    Task.agendaCost (agenda (round state)) < Task.agendaCost (agenda state)

namespace AgendaLoop

variable {State : Type}

/-- Goes on until no task is left. -/
def run (loop : AgendaLoop State) (state : State) : State :=
  if (loop.agenda state).isEmpty then
    state
  else
    loop.run (loop.round state)
termination_by Task.agendaCost (loop.agenda state)
decreasing_by
  rename_i unfinished
  apply loop.lowers
  simpa using unfinished

theorem run_of_nil
    {loop : AgendaLoop State}
    {state : State}
    (ended : loop.agenda state = []) :
    loop.run state = state := by
  rw [run, ended]
  rfl

/-- A round changes nothing about the state that is reached in the end. -/
@[simp] theorem run_round (loop : AgendaLoop State) (state : State) :
    loop.run (loop.round state) = loop.run state := by
  by_cases ended : loop.agenda state = []
  · rw [loop.rests state ended]
  · rw [run.eq_def loop state, if_neg (by simpa using ended)]

end AgendaLoop
end SyntaxTree
