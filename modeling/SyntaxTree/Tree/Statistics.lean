import SyntaxTree.Tree.Preorder

/-!
# Statistics of a tree

Counts of nodes, leaves and empty symbols, the greatest depth, and how often
each name occurs.
-/

namespace SyntaxTree

/-- A name with the number of its occurrences. -/
structure Tally where
  name : String
  count : Nat
deriving DecidableEq, Repr

namespace Tally

/-- Counts one more occurrence of a name. -/
def add (name : String) : List Tally → List Tally
  | [] => [⟨name, 1⟩]
  | tally :: tallies =>
    if tally.name = name then
      ⟨name, tally.count + 1⟩ :: tallies
    else
      tally :: add name tallies

/-- More frequent names come first, equally frequent ones in alphabetical
order. -/
def precedes (left right : Tally) : Bool :=
  right.count < left.count || (left.count == right.count && left.name ≤ right.name)

end Tally

/-- Summary counts over a tree. -/
structure Statistics where
  nodes : Nat := 0
  leaves : Nat := 0
  epsilons : Nat := 0
  /-- Greatest depth of a node, the root being at depth zero. -/
  depth : Nat := 0
  /-- Each name that occurs, with its number of occurrences. -/
  labels : List Tally := []
deriving DecidableEq, Repr

namespace Statistics

/-- Counts one visited node. -/
def add (statistics : Statistics) (visit : Visit) : Statistics where
  nodes := statistics.nodes + 1
  leaves := statistics.leaves + (if visit.symbol.kind.isLeaf then 1 else 0)
  epsilons := statistics.epsilons + (if visit.symbol.kind = .epsilon then 1 else 0)
  depth := max statistics.depth visit.depth
  labels := Tally.add visit.symbol.name statistics.labels

/-- The most frequent names, at most `limit` of them. -/
def mostCommon (limit : Nat) (statistics : Statistics) : List Tally :=
  (statistics.labels.mergeSort Tally.precedes).take limit

end Statistics

namespace Tree

/-- Counts all nodes of a tree. -/
def statistics (tree : Tree) : Statistics :=
  tree.preorder.foldl Statistics.add {}

end Tree
end SyntaxTree
