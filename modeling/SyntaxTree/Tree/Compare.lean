import SyntaxTree.Tree.Preorder

/-!
# Comparing trees

Two trees are compared node by node from an agenda of pairs that still have to
agree.  The numbers of subtrees are compared before the subtrees are paired.
-/

namespace SyntaxTree
namespace Tree

/-- Number of nodes on the left-hand sides of a list of pairs. -/
def pairsCount (pairs : List (Tree × Tree)) : Nat :=
  forestCount (pairs.map (·.1))

/-- Whether the roots agree: their symbols and the number of their subtrees. -/
def rootsAgree (left right : Tree) : Bool :=
  left.symbol.equals right.symbol && left.children.length == right.children.length

theorem pairsCount_zip_le (left right : List Tree) :
    pairsCount (left.zip right) ≤ forestCount left := by
  unfold pairsCount
  induction left generalizing right with
  | nil => simp
  | cons tree forest inductionHypothesis =>
    cases right with
    | nil => simp
    | cons other others =>
      have := inductionHypothesis others
      simp only [List.zip_cons_cons, List.map_cons, forestCount_cons]
      omega

/-- Whether all pairs of an agenda agree. -/
def pairsAgree : List (Tree × Tree) → Bool
  | [] => true
  | (left, right) :: agenda =>
    rootsAgree left right && pairsAgree (left.children.zip right.children ++ agenda)
termination_by pairs => pairsCount pairs
decreasing_by
  have zipped := pairsCount_zip_le left.children right.children
  unfold pairsCount at zipped ⊢
  simp only [List.map_append, List.map_cons, forestCount_append, forestCount_cons, nodeCount_eq]
  omega

/-- Equality of trees, in which floating-point payloads compare as numbers. -/
def equals (left right : Tree) : Bool :=
  pairsAgree [(left, right)]

end Tree
end SyntaxTree
