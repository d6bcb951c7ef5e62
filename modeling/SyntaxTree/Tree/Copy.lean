import SyntaxTree.Tree.Agenda

/-!
# Copying a tree

A tree is copied from the leaves up.  Finished copies are kept on a stack, and
the copies of a node's subtrees are the topmost ones when its turn comes.
-/

namespace SyntaxTree
namespace Tree

/-- Puts a copy of the node on top of the stack, in place of the copies of its
subtrees, of which the last is topmost. -/
def assembleCopy (tree : Tree) (built : List Tree) : List Tree :=
  let count := tree.children.length
  .node tree.symbol (built.take count).reverse :: built.drop count

/-- The copies finished so far, the last one topmost, and the tasks that are left. -/
structure CopyState where
  built : List Tree
  agenda : List Task

namespace CopyState

/-- One round of the loop.  Nothing is done once the agenda is empty. -/
def round : CopyState → CopyState
  | ⟨built, []⟩ => ⟨built, []⟩
  | ⟨built, ⟨tree, true⟩ :: agenda⟩ => ⟨assembleCopy tree built, agenda⟩
  | ⟨built, ⟨tree, false⟩ :: agenda⟩ => ⟨built, Task.below tree ++ ⟨tree, true⟩ :: agenda⟩

theorem round_of_nil
    (state : CopyState)
    (ended : state.agenda = []) :
    state.round = state := by
  obtain ⟨built, agenda⟩ := state
  obtain rfl : agenda = [] := ended
  rfl

theorem agendaCost_round_lt
    (state : CopyState)
    (unfinished : state.agenda ≠ []) :
    Task.agendaCost state.round.agenda < Task.agendaCost state.agenda := by
  obtain ⟨built, agenda⟩ := state
  cases agenda with
  | nil => contradiction
  | cons task agenda =>
      obtain ⟨tree, expanded⟩ := task
      cases expanded with
      | true => exact Task.agendaCost_handle_lt _ agenda
      | false => exact Task.agendaCost_expand_lt tree tree agenda

/-- The loop that works off a copy agenda. -/
def loop : AgendaLoop CopyState where
  agenda := agenda
  round := round
  rests := round_of_nil
  lowers := agendaCost_round_lt

end CopyState

/-- The stack that is left when a copy agenda is worked off on the stack of finished
copies. -/
def copyFrom (built : List Tree) (agenda : List Task) : List Tree :=
  (CopyState.loop.run ⟨built, agenda⟩).built

theorem copyFrom_nil (built : List Tree) : copyFrom built [] = built := by
  rw [copyFrom, AgendaLoop.run_of_nil rfl]

theorem copyFrom_expanded (built : List Tree) (tree : Tree) (agenda : List Task) :
    copyFrom built (⟨tree, true⟩ :: agenda) = copyFrom (assembleCopy tree built) agenda := by
  rw [copyFrom, ← AgendaLoop.run_round]
  rfl

theorem copyFrom_unexpanded (built : List Tree) (tree : Tree) (agenda : List Task) :
    copyFrom built (⟨tree, false⟩ :: agenda) =
      copyFrom built (Task.below tree ++ ⟨tree, true⟩ :: agenda) := by
  rw [copyFrom, ← AgendaLoop.run_round]
  rfl

/-- A copy of the tree; were no copy left on the stack, the bare root. -/
def copy (tree : Tree) : Tree :=
  match copyFrom [] [⟨tree, false⟩] with
  | built :: _ => built
  | [] => leaf tree.symbol

end Tree
end SyntaxTree
