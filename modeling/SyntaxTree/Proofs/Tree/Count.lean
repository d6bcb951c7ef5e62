import SyntaxTree.Proofs.Tree.Agenda
import SyntaxTree.Proofs.Tree.Preorder
import SyntaxTree.Tree.Release
import SyntaxTree.Tree.Statistics

/-!
# Counts of nodes

Releasing a tree takes its nodes in postorder, each without its subtrees.  So
as many nodes are released as a walk meets and as the statistics count.
-/

namespace SyntaxTree
namespace Tree

mutual

/-- Nodes of a tree from the leaves up, each without its subtrees. -/
def postorder : Tree → List Tree
  | .node symbol children => postorderAll children ++ [leaf symbol]

/-- Nodes of all trees of a list from the leaves up. -/
def postorderAll : List Tree → List Tree
  | [] => []
  | tree :: forest => postorder tree ++ postorderAll forest

end

theorem postorderAll_eq_flatMap (forest : List Tree) :
    postorderAll forest = forest.flatMap postorder := by
  induction forest with
  | nil => rw [postorderAll, List.flatMap_nil]
  | cons tree forest inductionHypothesis =>
      rw [postorderAll, inductionHypothesis, List.flatMap_cons]

@[simp] theorem postorder_node (symbol : Symbol) (children : List Tree) :
    (node symbol children).postorder = children.flatMap postorder ++ [leaf symbol] := by
  rw [postorder, postorderAll_eq_flatMap]

theorem postorder_eq (tree : Tree) :
    tree.postorder = tree.children.flatMap postorder ++ [leaf tree.symbol] := by
  cases tree with
  | node symbol children => exact postorder_node symbol children

@[simp] theorem length_postorder (tree : Tree) : tree.postorder.length = tree.nodeCount := by
  induction tree using induct with
  | step symbol children inductionHypothesis =>
      have below : (children.flatMap postorder).length = forestCount children := by
        induction children with
        | nil => simp
        | cons child children ofOthers =>
            rw [List.flatMap_cons, List.length_append, forestCount_cons,
              inductionHypothesis child List.mem_cons_self,
              ofOthers fun other member => inductionHypothesis other (.tail _ member)]
      rw [postorder_node, List.length_append, below, nodeCount_node, List.length_singleton]

/-! ## Releasing -/

/-- Nodes that a task of a release agenda releases: the bare node if its
subtrees were scheduled before, else all nodes of the tree. -/
def releasedBy (task : Task) : List Tree :=
  if task.expanded then [task.tree] else task.tree.postorder

/-- The nodes released so far, and those that the tasks that are left release. -/
def ReleaseState.expected (state : ReleaseState) : List Tree :=
  state.released.toList ++ state.agenda.flatMap releasedBy

theorem ReleaseState.expected_round (state : ReleaseState) :
    state.round.expected = state.expected := by
  obtain ⟨released, agenda⟩ := state
  cases agenda with
  | nil => rfl
  | cons task agenda =>
      obtain ⟨tree, expanded⟩ := task
      cases expanded with
      | true =>
          rw [round]
          simp [expected, releasedBy]
      | false =>
          rw [round]
          split
          · -- A childless node goes back on no agenda, and it is its own postorder.
            rename_i childless
            cases tree with
            | node symbol children =>
                obtain rfl : children = [] := by simpa using childless
                simp [expected, releasedBy, leaf]
          · simp [expected, releasedBy, Task.below, postorder_eq tree, List.flatMap_map]

/-- Nodes already released stay in front of those of the agenda. -/
theorem releaseFrom_eq (released : Array Tree) (agenda : List Task) :
    (releaseFrom released agenda).toList = released.toList ++ agenda.flatMap releasedBy := by
  have kept := ReleaseState.loop.eq_of_round ReleaseState.expected_round ⟨released, agenda⟩
  have ended : (ReleaseState.loop.run ⟨released, agenda⟩).agenda = [] :=
    ReleaseState.loop.agenda_run _
  rw [ReleaseState.expected, ended, List.flatMap_nil, List.append_nil] at kept
  exact kept

/-- A tree is released in postorder. -/
theorem releaseOrder_eq_postorder (tree : Tree) : tree.releaseOrder = tree.postorder := by
  rw [releaseOrder, releaseFrom_eq]
  simp [releasedBy]

/-- As many nodes are released as the tree has. -/
theorem value_release (root : Option Tree) :
    (release root).value = (root.map nodeCount).getD 0 := by
  cases root with
  | none => rfl
  | some tree => simp [release, releaseOrder_eq_postorder]

end Tree

/-! ## Statistics -/

/-- What the statistics say after some more visits. -/
theorem Statistics.foldl_add_eq (statistics : Statistics) (visits : List Visit) :
    visits.foldl add statistics =
      { nodes := statistics.nodes + visits.length
        leaves := statistics.leaves + visits.countP (·.symbol.kind.isLeaf)
        epsilons := statistics.epsilons + visits.countP (·.symbol.kind = .epsilon)
        depth := visits.foldl (fun depth visit => max depth visit.depth) statistics.depth
        labels :=
          visits.foldl (fun labels visit => Tally.add visit.symbol.name labels)
            statistics.labels } := by
  induction visits generalizing statistics with
  | nil => rfl
  | cons visit visits inductionHypothesis =>
      rw [List.foldl_cons, inductionHypothesis, add]
      simp only [List.length_cons, List.countP_cons, List.foldl_cons, decide_eq_true_eq]
      congr 1 <;> omega

/-- The statistics count every node. -/
@[simp] theorem Tree.nodes_statistics (tree : Tree) : tree.statistics.nodes = tree.nodeCount := by
  rw [statistics, Statistics.foldl_add_eq, ← size_eq_nodeCount]
  exact Nat.zero_add tree.size

end SyntaxTree
