import SyntaxTree.Proofs.Tree.Agenda
import SyntaxTree.Proofs.Tree.Building
import SyntaxTree.Proofs.Tree.Preorder

/-!
# Copying on two stacks

A copy is made by a loop over an agenda of tasks and a stack of finished copies.  The
subtrees of a node are not marked on the stack; they are known only as its topmost
copies.  In every round the stack serves the agenda: whenever the turn of a node comes
for the second time, the copies of its subtrees lie on top, the last one topmost.
-/

namespace SyntaxTree
namespace Tree
namespace CopyState

/-! ## Rounds of the loop -/

/-- The state before the first round. -/
def start (tree : Tree) : CopyState :=
  ⟨[], [⟨tree, false⟩]⟩

/-- The loop leaves the copy of the tree alone on the stack. -/
theorem run_start (tree : Tree) : loop.run (start tree) = ⟨[tree], []⟩ := by
  have built : (loop.run (start tree)).built = [tree] := by
    change copyFrom [] [⟨tree, false⟩] = [tree]
    rw [copyFrom_tree, copyFrom_nil]
  have agenda : (loop.run (start tree)).agenda = [] := loop.agenda_run _
  rw [← built, ← agenda]

/-- Whenever the loop has ended, the copy lies on the stack alone. -/
theorem iterate_round_of_nil
    {tree : Tree}
    {rounds : Nat}
    (ended : (round^[rounds] (start tree)).agenda = []) :
    round^[rounds] (start tree) = ⟨[tree], []⟩ := by
  have reached : loop.run (round^[rounds] (start tree)) = round^[rounds] (start tree) :=
    AgendaLoop.run_of_nil ended
  rw [← reached, ← run_start tree]
  exact loop.run_iterate rounds

/-- Within two rounds a node, the loop has ended. -/
theorem agenda_iterate_start (tree : Tree) :
    (round^[2 * tree.size] (start tree)).agenda = [] := by
  apply loop.agenda_iterate_eq_nil
  rw [size_eq_nodeCount]
  exact Nat.le_refl _

/-! ## Stacks that serve an agenda -/

/-- The stack has what the tasks of the agenda rely on.  A tree that is met for the
first time relies on nothing; when it is met again, the copies of its subtrees lie on
top.  Either way the rest of the agenda finds its copy there instead. -/
inductive Serves : (built : List Tree) → (agenda : List Task) → Prop
  | ended (built : List Tree) : Serves built []
  | unexpanded
      {tree : Tree}
      {built : List Tree}
      {agenda : List Task}
      (serves : Serves (tree :: built) agenda) :
      Serves built (⟨tree, false⟩ :: agenda)
  | expanded
      {tree : Tree}
      {built : List Tree}
      {agenda : List Task}
      (serves : Serves (tree :: built) agenda) :
      Serves (tree.children.reverse ++ built) (⟨tree, true⟩ :: agenda)

/-- Trees that are met for the first time leave their copies to the rest of the
agenda, the last one topmost. -/
theorem Serves.schedule
    {forest built : List Tree}
    {agenda : List Task}
    (serves : Serves (forest.reverse ++ built) agenda) :
    Serves built (forest.map (⟨·, false⟩) ++ agenda) := by
  induction forest generalizing built with
  | nil => exact serves
  | cons tree forest inductionHypothesis =>
      apply Serves.unexpanded
      apply inductionHypothesis
      simpa using serves

/-- A node that is met again finds the copies of its subtrees on top. -/
theorem Serves.exists_rest
    {tree : Tree}
    {built : List Tree}
    {agenda : List Task}
    (serves : Serves built (⟨tree, true⟩ :: agenda)) :
    ∃ rest, built = tree.children.reverse ++ rest ∧ Serves (tree :: rest) agenda := by
  cases serves with
  | expanded serves => exact ⟨_, rfl, serves⟩

/-- A node takes the copies of its subtrees and nothing else off the stack. -/
theorem assembleCopy_append (tree : Tree) (rest : List Tree) :
    assembleCopy tree (tree.children.reverse ++ rest) = tree :: rest := by
  cases tree with
  | node symbol children => simp [assembleCopy]

theorem Serves.round
    {state : CopyState}
    (serves : Serves state.built state.agenda) :
    Serves state.round.built state.round.agenda := by
  obtain ⟨built, agenda⟩ := state
  cases agenda with
  | nil => exact .ended built
  | cons task agenda =>
      obtain ⟨tree, expanded⟩ := task
      cases expanded with
      | true =>
          obtain ⟨rest, rfl, served⟩ := serves.exists_rest
          rw [CopyState.round, assembleCopy_append]
          exact served
      | false =>
          cases serves with
          | unexpanded serves => exact .schedule (.expanded serves)

theorem serves_iterate_start (tree : Tree) (rounds : Nat) :
    Serves (round^[rounds] (start tree)).built (round^[rounds] (start tree)).agenda :=
  Function.Iterate.rec (fun state : CopyState => Serves state.built state.agenda)
    (.unexpanded (.ended [tree])) (fun _ => Serves.round) rounds

end CopyState

/-- A tree is copied as it is.  Whenever the turn of a node comes for the second time,
the stack has at least as many copies as the node has subtrees; those on top are the
copies of the subtrees, which the copy of the node replaces.  The loop ends within two
rounds a node, and it leaves the copy of the tree alone on the stack. -/
theorem copy_everyNode (tree : Tree) :
    tree.copy = tree ∧
    (∀ rounds built node agenda,
      CopyState.round^[rounds] (.start tree) = ⟨built, ⟨node, true⟩ :: agenda⟩ →
        node.children.length ≤ built.length ∧
        (built.take node.children.length).reverse = node.children ∧
        CopyState.round^[rounds + 1] (.start tree) =
          ⟨node :: built.drop node.children.length, agenda⟩) ∧
    (∀ rounds, (CopyState.round^[rounds] (.start tree)).agenda = [] →
      (CopyState.round^[rounds] (.start tree)).built = [tree]) ∧
    (CopyState.round^[2 * tree.size] (.start tree)).agenda = [] ∧
    copyFrom [] [⟨tree, false⟩] = [tree] := by
  refine ⟨copy_eq tree, ?_, ?_, CopyState.agenda_iterate_start tree,
    congrArg CopyState.built (CopyState.run_start tree)⟩
  · intro rounds built node agenda reached
    have serves := CopyState.serves_iterate_start tree rounds
    rw [reached] at serves
    obtain ⟨rest, rfl, -⟩ := serves.exists_rest
    rw [Function.iterate_succ_apply', reached, CopyState.round, CopyState.assembleCopy_append]
    simp
  · intro rounds ended
    rw [CopyState.iterate_round_of_nil ended]

/-- Behind a leaf, a node with two subtrees finds their copies above the one of the
leaf. -/
theorem copy_everyNode_nestedPair :
    let leaf : String → Tree := fun name => .leaf ⟨name, .token, 1, .unset⟩
    let pair : Tree := .node ⟨"Args", .nonTerminal, 1, .unset⟩ [leaf "A", leaf "B"]
    let tree : Tree := .node ⟨"Exp", .nonTerminal, 1, .unset⟩ [leaf "ID", pair]
    CopyState.round^[8] (.start tree) =
        ⟨[leaf "B", leaf "A", leaf "ID"], [⟨pair, true⟩, ⟨tree, true⟩]⟩ ∧
      CopyState.round^[9] (.start tree) = ⟨[pair, leaf "ID"], [⟨tree, true⟩]⟩ := by
  intro leaf pair tree
  have reached : CopyState.round^[8] (.start tree) =
      ⟨[leaf "B", leaf "A", leaf "ID"], [⟨pair, true⟩, ⟨tree, true⟩]⟩ := rfl
  exact ⟨reached, ((copy_everyNode tree).2.1 8 _ pair _ reached).2.2⟩

end Tree
end SyntaxTree
