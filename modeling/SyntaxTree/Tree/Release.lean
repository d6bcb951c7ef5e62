import SyntaxTree.Log.Event
import SyntaxTree.Tree.Agenda

/-!
# Releasing a tree

A tree is taken apart from the leaves up: a node is released after all of its
subtrees, which are released from left to right.  A node with subtrees goes
back on the agenda without them.
-/

namespace SyntaxTree

open Log

namespace Tree

/-- The nodes released so far and the tasks that are left. -/
structure ReleaseState where
  released : Array Tree
  agenda : List Task

namespace ReleaseState

/-- One round of the loop.  Nothing is done once the agenda is empty. -/
def round : ReleaseState → ReleaseState
  | ⟨released, []⟩ => ⟨released, []⟩
  | ⟨released, ⟨tree, true⟩ :: agenda⟩ => ⟨released.push tree, agenda⟩
  | ⟨released, ⟨tree, false⟩ :: agenda⟩ =>
    if tree.children.isEmpty then
      ⟨released.push tree, agenda⟩
    else
      ⟨released, Task.below tree ++ ⟨leaf tree.symbol, true⟩ :: agenda⟩

theorem round_of_nil
    (state : ReleaseState)
    (ended : state.agenda = []) :
    state.round = state := by
  obtain ⟨released, agenda⟩ := state
  obtain rfl : agenda = [] := ended
  rfl

/-- A round lowers the cost of the agenda, also when a node goes back on it. -/
theorem agendaCost_round_lt
    (state : ReleaseState)
    (unfinished : state.agenda ≠ []) :
    Task.agendaCost state.round.agenda < Task.agendaCost state.agenda := by
  obtain ⟨released, agenda⟩ := state
  cases agenda with
  | nil => contradiction
  | cons task agenda =>
      obtain ⟨tree, expanded⟩ := task
      cases expanded with
      | true => exact Task.agendaCost_handle_lt _ agenda
      | false =>
          rw [round]
          split
          · exact Task.agendaCost_handle_lt _ agenda
          · exact Task.agendaCost_expand_lt tree _ agenda

/-- The loop that works off a release agenda. -/
def loop : AgendaLoop ReleaseState where
  agenda := agenda
  round := round
  rests := round_of_nil
  lowers := agendaCost_round_lt

end ReleaseState

/-- All nodes that are released when a release agenda is worked off, behind those
already released. -/
def releaseFrom (released : Array Tree) (agenda : List Task) : Array Tree :=
  (ReleaseState.loop.run ⟨released, agenda⟩).released

/-- The nodes of a tree as they are released, each without its subtrees. -/
def releaseOrder (tree : Tree) : List Tree :=
  (releaseFrom #[] [⟨tree, false⟩]).toList

/-- Releases a tree and counts its nodes; a missing tree has none. -/
def release : Option Tree → Logged Nat
  | none => ⟨0, []⟩
  | some tree =>
    let released := tree.releaseOrder.length
    ⟨released, [.treeReleased tree.symbol.name released]⟩

end Tree
end SyntaxTree
