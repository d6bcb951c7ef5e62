import Mathlib.Data.Set.Card
import SyntaxTree.Proofs.Tree.Count
import SyntaxTree.Proofs.Tree.Tally

/-!
# Statistics as counts over a tree

The statistics are gathered along a walk.  They say what a recursion over the tree
says: how many of its nodes have symbols of a sort, how high it is, and how often each
name occurs in it.
-/

namespace SyntaxTree

/-! ## Counts by recursion -/

namespace Tree

mutual

/-- Number of nodes with a symbol of a sort. -/
def countWhere (sort : Symbol → Bool) : Tree → Nat
  | .node symbol children => (if sort symbol then 1 else 0) + forestCountWhere sort children

/-- Number of nodes of all trees of a list with a symbol of a sort. -/
def forestCountWhere (sort : Symbol → Bool) : List Tree → Nat
  | [] => 0
  | tree :: forest => countWhere sort tree + forestCountWhere sort forest

end

mutual

/-- Number of levels below the root. -/
def height : Tree → Nat
  | .node _ children => forestHeight children

/-- Number of levels of trees side by side. -/
def forestHeight : List Tree → Nat
  | [] => 0
  | tree :: forest => max (height tree + 1) (forestHeight forest)

end

/-- Number of nodes with a name. -/
def occurrences (name : String) (tree : Tree) : Nat :=
  tree.countWhere fun symbol => symbol.name == name

/-! ## Counts along a walk -/

theorem forestCountWhere_eq_sum (sort : Symbol → Bool) (forest : List Tree) :
    forestCountWhere sort forest = (forest.map (countWhere sort)).sum := by
  induction forest with
  | nil => rfl
  | cons tree forest inductionHypothesis =>
      rw [forestCountWhere, inductionHypothesis, List.map_cons, List.sum_cons]

/-- A walk visits as many symbols of a sort as the tree has. -/
theorem countP_walk (sort : Symbol → Bool) (depth : Nat) (tree : Tree) :
    (Visit.ofAgenda [⟨depth, tree⟩]).countP (fun visit => sort visit.symbol) =
      tree.countWhere sort := by
  induction tree using induct generalizing depth with
  | step symbol children inductionHypothesis =>
      have below : (Visit.sideBySide (depth + 1) children).countP (fun visit => sort visit.symbol) =
          forestCountWhere sort children := by
        rw [Visit.sideBySide, List.countP_flatMap, forestCountWhere_eq_sum]
        exact congrArg List.sum
          (List.map_congr_left fun child member => inductionHypothesis child member (depth + 1))
      rw [Visit.walk_node, List.countP_cons, below, countWhere, Nat.add_comm]
      rfl

theorem forestHeight_le_iff {forest : List Tree} {bound : Nat} :
    forestHeight forest ≤ bound ↔ ∀ tree ∈ forest, tree.height + 1 ≤ bound := by
  induction forest with
  | nil => simp [forestHeight]
  | cons tree forest inductionHypothesis =>
      rw [forestHeight, Nat.max_le, inductionHypothesis, List.forall_mem_cons]

/-- No visit of a walk is deeper than the tree is high. -/
theorem add_height_le_iff {tree : Tree} {depth bound : Nat} :
    depth + tree.height ≤ bound ↔
      ∀ visit ∈ Visit.ofAgenda [⟨depth, tree⟩], visit.depth ≤ bound := by
  induction tree using induct generalizing depth with
  | step symbol children inductionHypothesis =>
      rw [Visit.walk_node, List.forall_mem_cons, height]
      simp only [Visit.sideBySide, List.mem_flatMap, forall_exists_index, and_imp]
      constructor
      · intro within
        refine ⟨by omega, fun visit child member walked => ?_⟩
        have childHeight := forestHeight_le_iff.mp (Nat.le_refl _) child member
        exact (inductionHypothesis child member).mp (by omega) visit walked
      · rintro ⟨root, below⟩
        have heights : forestHeight children ≤ bound - depth := by
          refine forestHeight_le_iff.mpr fun child member => ?_
          have within :=
            (inductionHypothesis child member).mpr fun visit => below visit child member
          omega
        omega

end Tree

/-! ## Statistics -/

theorem foldl_max_le_iff {visits : List Visit} {depth bound : Nat} :
    visits.foldl (fun depth visit => max depth visit.depth) depth ≤ bound ↔
      depth ≤ bound ∧ ∀ visit ∈ visits, visit.depth ≤ bound := by
  induction visits generalizing depth with
  | nil => simp
  | cons visit visits inductionHypothesis =>
      rw [List.foldl_cons, inductionHypothesis, Nat.max_le, List.forall_mem_cons, and_assoc]

namespace Tally

/-- A table of the names that were visited: each visit raises the count of its name. -/
theorem foldl_add
    {tallies : List Tally}
    (table : IsTable tallies)
    (visits : List Visit) :
    let counted := visits.foldl (fun labels visit => add visit.symbol.name labels) tallies
    IsTable counted ∧
      (counted.map (·.count)).sum = (tallies.map (·.count)).sum + visits.length ∧
      ∀ name, countOf name counted =
        countOf name tallies + visits.countP (fun visit => visit.symbol.name == name) := by
  induction visits generalizing tallies with
  | nil => exact ⟨table, rfl, fun name => rfl⟩
  | cons visit visits inductionHypothesis =>
      obtain ⟨isTable, sum, counts⟩ := inductionHypothesis (table.add visit.symbol.name)
      refine ⟨isTable, ?_, fun name => ?_⟩
      · rw [List.foldl_cons, sum, sum_count_add, List.length_cons]
        omega
      · rw [List.foldl_cons, counts, countOf_add, List.countP_cons]
        simp only [beq_iff_eq]
        omega

end Tally

namespace Tree

theorem statistics_eq (tree : Tree) :
    tree.statistics =
      { nodes := tree.size
        leaves := tree.countWhere (·.kind.isLeaf)
        epsilons := tree.countWhere (·.kind = .epsilon)
        depth := tree.height
        labels :=
          tree.preorder.foldl (fun labels visit => Tally.add visit.symbol.name labels) [] } := by
  have deepest :
      tree.preorder.foldl (fun depth visit => max depth visit.depth) 0 = tree.height := by
    apply eq_of_forall_ge_iff
    intro bound
    rw [foldl_max_le_iff, preorder, ← add_height_le_iff, Nat.zero_add]
    simp
  rw [statistics, Statistics.foldl_add_eq, deepest, ← countP_walk _ 0, ← countP_walk _ 0]
  simp only [Nat.zero_add]
  rfl

/-- The names of the statistics with their numbers of occurrences. -/
theorem labels_statistics (tree : Tree) :
    Tally.IsTable tree.statistics.labels ∧
      (tree.statistics.labels.map (·.count)).sum = tree.size ∧
      ∀ name, Tally.countOf name tree.statistics.labels = tree.occurrences name := by
  obtain ⟨table, sum, counts⟩ := Tally.foldl_add .nil tree.preorder
  rw [statistics_eq]
  refine ⟨table, sum.trans (Nat.zero_add _), fun name => ?_⟩
  rw [counts, occurrences, ← countP_walk _ 0, Tally.countOf, Nat.zero_add]
  rfl

/-- A table has as many tallies as there are names that occur in the tree. -/
theorem length_labels (tree : Tree) :
    tree.statistics.labels.length = {name | 0 < tree.occurrences name}.ncard := by
  obtain ⟨table, -, counts⟩ := tree.labels_statistics
  have names : {name | 0 < tree.occurrences name} =
      ((tree.statistics.labels.map (·.name)).toFinset : Set String) := by
    ext name
    rw [Set.mem_ofPred_eq, Finset.mem_coe, List.mem_toFinset, List.mem_map, ← counts]
    constructor
    · intro positive
      exact ⟨⟨name, _⟩, table.mem_iff.mpr ⟨positive, Eq.refl (Tally.countOf name _)⟩, rfl⟩
    · rintro ⟨tally, member, rfl⟩
      exact (table.mem_iff.mp member).1
  rw [names, Set.ncard_coe_finset, List.toFinset_card_of_nodup table.distinct, List.length_map]

/-- The statistics count the nodes of a tree, those of token kinds and the empty
symbols, and give its height and the number of occurrences of every name in it.  The
most common names are listed by descending count and then by ascending octets, without
ties and up to the limit, and no name that is omitted comes before one that is listed.
The order in which the statistics keep the names does not matter to that. -/
theorem statistics_counts (tree : Tree) :
    tree.statistics.nodes = tree.size ∧ tree.statistics.depth = tree.height ∧
    tree.statistics.leaves = tree.countWhere (·.kind.isLeaf) ∧
    tree.statistics.epsilons = tree.countWhere (·.kind = .epsilon) ∧
    (tree.statistics.labels.map (·.name)).Nodup ∧
    (∀ name count, ⟨name, count⟩ ∈ tree.statistics.labels ↔
      0 < tree.occurrences name ∧ count = tree.occurrences name) ∧
    (tree.statistics.labels.map (·.count)).sum = tree.statistics.nodes ∧
    ∀ limit,
      Tally.Ranks limit tree.statistics.labels (tree.statistics.mostCommon limit) ∧
      (tree.statistics.mostCommon limit).length =
        min limit {name | 0 < tree.occurrences name}.ncard ∧
      ∀ labels : List Tally, labels.Perm tree.statistics.labels →
        Statistics.mostCommon limit { tree.statistics with labels := labels } =
          tree.statistics.mostCommon limit := by
  obtain ⟨table, sum, counts⟩ := tree.labels_statistics
  have nodes : tree.statistics.nodes = tree.size := by rw [statistics_eq]
  refine ⟨nodes, by rw [statistics_eq], by rw [statistics_eq], by rw [statistics_eq],
    table.distinct, fun name count => ?_, sum.trans nodes.symm, fun limit => ?_⟩
  · rw [table.mem_iff, counts]
  · have ranks := Statistics.ranks_mostCommon table limit
    refine ⟨ranks, ?_, fun labels perm => Statistics.mostCommon_of_perm perm limit⟩
    rw [ranks.length, length_labels]

/-- Of two names that occur twice the smaller one is the most common, also if the names
are kept in the opposite order. -/
theorem statistics_counts_tie :
    let token : String → Tree := fun name => .leaf ⟨name, .token, 1, .unset⟩
    let tree : Tree :=
      .node ⟨"Exp", .nonTerminal, 1, .unset⟩ [token "RP", token "LP", token "LP", token "RP"]
    tree.statistics.labels = [⟨"Exp", 1⟩, ⟨"RP", 2⟩, ⟨"LP", 2⟩] ∧
      tree.statistics.mostCommon 1 = [⟨"LP", 2⟩] ∧
      Statistics.mostCommon 1
        { tree.statistics with labels := [⟨"LP", 2⟩, ⟨"RP", 2⟩, ⟨"Exp", 1⟩] } = [⟨"LP", 2⟩] := by
  intro token tree
  have labels : tree.statistics.labels = [⟨"Exp", 1⟩, ⟨"RP", 2⟩, ⟨"LP", 2⟩] := by
    decide +kernel
  have first : tree.statistics.mostCommon 1 = [⟨"LP", 2⟩] := by
    rw [Statistics.mostCommon, labels]
    simp [List.mergeSort, Tally.precedes]
  obtain ⟨-, -, anyOrder⟩ := (statistics_counts tree).2.2.2.2.2.2.2 1
  refine ⟨labels, first, (anyOrder _ ?_).trans first⟩
  rw [labels]
  decide

end Tree
end SyntaxTree
