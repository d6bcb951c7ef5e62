import SyntaxTree.Proofs.Tree.Index

/-!
# The order of a walk

Of two nodes, a walk meets first the one above the other.  If neither is above
the other, their paths part somewhere, and the walk meets first the one that
goes on further to the left.  The nodes between a node and one below it
therefore are all below that node.
-/

namespace SyntaxTree
namespace Tree

/-! ## Parents -/

/-- The last step of a path leads from a node to one of its children. -/
theorem at?_concat_eq_some_iff
    {tree node : Tree}
    {front : List Nat}
    {index : Nat} :
    tree.at? (front ++ [index]) = some node ↔
      ∃ parent : Tree, tree.at? front = some parent ∧ parent.children[index]? = some node := by
  rw [at?_append, Option.bind_eq_some_iff]
  simp [at?_cons_eq_some_iff]

/-! ## Left and right -/

/-- The paths part at some node, and the first one goes on further to the left. -/
inductive LeftOf : List Nat → List Nat → Prop
  | parts
      {index other : Nat}
      (less : index < other)
      (path otherPath : List Nat) :
      LeftOf (index :: path) (other :: otherPath)
  | shares
      (index : Nat)
      {path otherPath : List Nat}
      (isLeft : LeftOf path otherPath) :
      LeftOf (index :: path) (index :: otherPath)

/-- Of any two nodes, one is above the other or on its left. -/
theorem above_or_leftOf (path other : List Nat) :
    path <+: other ∨ other <+: path ∨ LeftOf path other ∨ LeftOf other path := by
  induction path generalizing other with
  | nil => exact Or.inl List.nil_prefix
  | cons index path inductionHypothesis =>
      cases other with
      | nil => exact Or.inr (Or.inl List.nil_prefix)
      | cons otherIndex otherPath =>
          rcases Nat.lt_trichotomy index otherIndex with less | rfl | greater
          · exact Or.inr (Or.inr (Or.inl (.parts less path otherPath)))
          · simp only [List.cons_prefix_cons, true_and]
            rcases inductionHypothesis otherPath with above | below | left | right
            · exact Or.inl above
            · exact Or.inr (Or.inl below)
            · exact Or.inr (Or.inr (Or.inl (.shares index left)))
            · exact Or.inr (Or.inr (Or.inr (.shares index right)))
          · exact Or.inr (Or.inr (Or.inr (.parts greater otherPath path)))

namespace LeftOf

variable {path other : List Nat}

/-- What is below a node is on the left of the same nodes. -/
theorem append (isLeft : LeftOf path other) (rest : List Nat) : LeftOf (path ++ rest) other := by
  induction isLeft with
  | parts less path otherPath => exact .parts less (path ++ rest) otherPath
  | shares index isLeft inductionHypothesis => exact .shares index inductionHypothesis

theorem not_above (isLeft : LeftOf path other) : ¬ path <+: other := by
  induction isLeft with
  | parts less path otherPath =>
      intro above
      exact absurd (List.cons_prefix_cons.mp above).1 (Nat.ne_of_lt less)
  | shares index isLeft inductionHypothesis =>
      intro above
      exact inductionHypothesis (List.cons_prefix_cons.mp above).2

/-- What is on the left of a node is on the left of the nodes above it as well,
apart from those that are above both. -/
theorem above_or_leftOf_front
    (isLeft : LeftOf path other)
    {front : List Nat}
    (isFront : front <+: other) :
    front <+: path ∨ LeftOf path front := by
  induction isLeft generalizing front with
  | parts less path otherPath =>
      rcases List.prefix_cons_iff.mp isFront with rfl | ⟨rest, rfl, -⟩
      · exact Or.inl List.nil_prefix
      · exact Or.inr (.parts less path rest)
  | shares index isLeft inductionHypothesis =>
      rcases List.prefix_cons_iff.mp isFront with rfl | ⟨rest, rfl, isRest⟩
      · exact Or.inl List.nil_prefix
      · rcases inductionHypothesis isRest with above | left
        · exact Or.inl (List.cons_prefix_cons.mpr ⟨rfl, above⟩)
        · exact Or.inr (.shares index left)

/-- A walk meets the node on the left first. -/
theorem indexAt_lt
    (isLeft : LeftOf path other)
    {tree node otherNode : Tree}
    (found : tree.at? path = some node)
    (otherFound : tree.at? other = some otherNode) :
    tree.indexAt path < tree.indexAt other := by
  induction isLeft generalizing tree with
  | parts less path otherPath => exact indexAt_lt_of_left found otherFound less
  | shares index isLeft inductionHypothesis =>
      obtain ⟨child, isChild, leads⟩ := at?_cons_eq_some_iff.mp found
      obtain ⟨otherChild, isOtherChild, otherLeads⟩ := at?_cons_eq_some_iff.mp otherFound
      obtain rfl : child = otherChild := Option.some.inj (isChild.symm.trans isOtherChild)
      rw [indexAt_cons isChild, indexAt_cons isChild]
      exact Nat.add_lt_add_left (inductionHypothesis leads otherLeads) _

end LeftOf

/-! ## Nodes between two others -/

section

variable
  {tree node between last : Tree}
  {path middle lastPath : List Nat}

/-- A node that a walk meets later is below the other one or on its right. -/
theorem above_or_leftOf_of_indexAt_lt
    (found : tree.at? path = some node)
    (middleFound : tree.at? middle = some between)
    (before : tree.indexAt path < tree.indexAt middle) :
    path <+: middle ∨ LeftOf path middle := by
  rcases above_or_leftOf path middle with above | below | left | right
  · exact Or.inl above
  · by_cases same : middle = path
    · exact Or.inl (same ▸ List.prefix_rfl)
    · exact absurd before (Nat.lt_asymm (indexAt_lt_of_above found below same))
  · exact Or.inr left
  · exact absurd before (Nat.lt_asymm (right.indexAt_lt middleFound found))

/-- Between a node and one below it, a walk meets only nodes below it. -/
theorem above_of_between
    (found : tree.at? path = some node)
    (middleFound : tree.at? middle = some between)
    (lastFound : tree.at? lastPath = some last)
    (above : path <+: lastPath)
    (before : tree.indexAt path < tree.indexAt middle)
    (behind : tree.indexAt middle ≤ tree.indexAt lastPath) :
    path <+: middle := by
  rcases above_or_leftOf_of_indexAt_lt found middleFound before with isAbove | left
  · exact isAbove
  · -- On the right of the node it would be on the right of all that is below, too.
    obtain ⟨rest, rfl⟩ := above
    have late := (left.append rest).indexAt_lt lastFound middleFound
    omega

end

end Tree
end SyntaxTree
