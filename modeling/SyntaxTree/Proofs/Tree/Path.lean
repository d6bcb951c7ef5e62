import SyntaxTree.Tree.Basic

/-!
# Nodes and paths

The nodes of a tree are the ends of its paths.  What holds of all symbols of a
tree holds of the node at every path, and a change at one path leaves the nodes
at the other paths where they are.
-/

namespace SyntaxTree
namespace Tree

theorem at?_cons (tree : Tree) (index : Nat) (path : List Nat) :
    tree.at? (index :: path) = tree.children[index]?.bind (·.at? path) := by
  rw [at?]
  cases tree.children[index]? <;> rfl

/-- A path leads on from the child that it starts with. -/
theorem at?_cons_eq_some_iff
    {tree node : Tree}
    {index : Nat}
    {path : List Nat} :
    tree.at? (index :: path) = some node ↔
      ∃ child : Tree, tree.children[index]? = some child ∧ child.at? path = some node := by
  rw [at?_cons, Option.bind_eq_some_iff]

/-- A path is followed part by part. -/
theorem at?_append (tree : Tree) (path rest : List Nat) :
    tree.at? (path ++ rest) = (tree.at? path).bind (·.at? rest) := by
  induction path generalizing tree with
  | nil => simp
  | cons index path inductionHypothesis =>
      rw [List.cons_append, at?_cons, at?_cons]
      cases tree.children[index]? with
      | none => rfl
      | some child => exact inductionHypothesis child

/-- A change at the end of a path changes the child that the path starts with. -/
theorem modifyAt?_cons_eq_some_iff
    {change : Tree → Tree}
    {tree after : Tree}
    {index : Nat}
    {path : List Nat} :
    tree.modifyAt? change (index :: path) = some after ↔
      ∃ child changed, tree.children[index]? = some child ∧
        child.modifyAt? change path = some changed ∧
          .node tree.symbol (tree.children.set index changed) = after := by
  rw [modifyAt?]
  cases tree.children[index]? with
  | none => simp
  | some child => cases modified : child.modifyAt? change path <;> simp [modified]

/-- A node can be changed wherever a path leads to one, and the path leads to
the changed node afterwards. -/
theorem exists_modifyAt?
    {tree node : Tree}
    {path : List Nat}
    (change : Tree → Tree)
    (found : tree.at? path = some node) :
    ∃ after, tree.modifyAt? change path = some after ∧
      after.at? path = some (change node) := by
  induction path generalizing tree with
  | nil =>
      obtain rfl : tree = node := by simpa using found
      exact ⟨change tree, by simp⟩
  | cons index path inductionHypothesis =>
      obtain ⟨child, isChild, below⟩ := at?_cons_eq_some_iff.mp found
      obtain ⟨changed, isChanged, leads⟩ := inductionHypothesis below
      refine ⟨_, modifyAt?_cons_eq_some_iff.mpr ⟨child, changed, isChild, isChanged, rfl⟩, ?_⟩
      have inRange : index < tree.children.length := (List.getElem?_eq_some_iff.mp isChild).1
      refine at?_cons_eq_some_iff.mpr ⟨changed, ?_, leads⟩
      rw [children_node, List.getElem?_set_self inRange]

/-! ## Properties of all nodes -/

/-- Every node of the tree has a symbol with the property. -/
inductive Everywhere (property : Symbol → Prop) : Tree → Prop
  | node
      {symbol : Symbol}
      {children : List Tree}
      (root : property symbol)
      (below : ∀ child ∈ children, Everywhere property child) :
      Everywhere property (.node symbol children)

theorem everywhere_node
    {property : Symbol → Prop}
    {symbol : Symbol}
    {children : List Tree} :
    Everywhere property (.node symbol children) ↔
      property symbol ∧ ∀ child ∈ children, Everywhere property child := by
  constructor
  · rintro ⟨root, below⟩
    exact ⟨root, below⟩
  · rintro ⟨root, below⟩
    exact .node root below

namespace Everywhere

variable {property : Symbol → Prop}

theorem root {tree : Tree} (everywhere : Everywhere property tree) :
    property tree.symbol := by
  cases everywhere with
  | node root below => exact root

theorem child
    {tree child : Tree}
    (everywhere : Everywhere property tree)
    (isChild : child ∈ tree.children) :
    Everywhere property child := by
  cases everywhere with
  | node root below => exact below child isChild

theorem leaf {symbol : Symbol} (root : property symbol) : Everywhere property (leaf symbol) :=
  .node root (by simp)

theorem extend
    {tree : Tree}
    {more : List Tree}
    (everywhere : Everywhere property tree)
    (ofMore : ∀ child ∈ more, Everywhere property child) :
    Everywhere property (.node tree.symbol (tree.children ++ more)) := by
  refine .node everywhere.root fun child member => ?_
  rcases List.mem_append.mp member with old | new
  · exact everywhere.child old
  · exact ofMore child new

/-- What holds everywhere in a tree holds everywhere in its subtrees. -/
theorem of_at?
    {tree node : Tree}
    {path : List Nat}
    (everywhere : Everywhere property tree)
    (found : tree.at? path = some node) :
    Everywhere property node := by
  induction path generalizing tree with
  | nil =>
      obtain rfl : tree = node := by simpa using found
      exact everywhere
  | cons index path inductionHypothesis =>
      obtain ⟨child, isChild, leads⟩ := at?_cons_eq_some_iff.mp found
      exact inductionHypothesis (everywhere.child (List.mem_of_getElem? isChild)) leads

/-- A subtree may be replaced by one that has the property as well. -/
theorem modifyAt?
    {tree changed after : Tree}
    {path : List Nat}
    (everywhere : Everywhere property tree)
    (ofChanged : Everywhere property changed)
    (modified : tree.modifyAt? (fun _ => changed) path = some after) :
    Everywhere property after := by
  induction path generalizing tree after with
  | nil =>
      obtain rfl : changed = after := by simpa using modified
      exact ofChanged
  | cons index path inductionHypothesis =>
      obtain ⟨child, inner, isChild, isInner, rfl⟩ := modifyAt?_cons_eq_some_iff.mp modified
      refine .node everywhere.root fun other member => ?_
      rcases List.mem_or_eq_of_mem_set member with unchanged | rfl
      · exact everywhere.child unchanged
      · exact inductionHypothesis (everywhere.child (List.mem_of_getElem? isChild)) isInner

end Everywhere

end Tree

/-! ## Trees that keep their nodes -/

/-- Two symbols that differ in nothing but their payload. -/
structure Symbol.SameButPayload (before after : Symbol) : Prop where
  name : after.name = before.name
  kind : after.kind = before.kind
  line : after.line = before.line

namespace Symbol.SameButPayload

theorem refl (symbol : Symbol) : symbol.SameButPayload symbol :=
  ⟨rfl, rfl, rfl⟩

theorem trans
    {first second third : Symbol}
    (before : first.SameButPayload second)
    (after : second.SameButPayload third) :
    first.SameButPayload third :=
  ⟨after.name.trans before.name, after.kind.trans before.kind, after.line.trans before.line⟩

end Symbol.SameButPayload

namespace Tree

/-- Every node of the tree is still at its place, with its name, kind and line;
other nodes may have joined them. -/
def Retains (after before : Tree) : Prop :=
  ∀ path node, before.at? path = some node →
    ∃ kept, after.at? path = some kept ∧ node.symbol.SameButPayload kept.symbol

namespace Retains

theorem refl (tree : Tree) : tree.Retains tree :=
  fun _ node found => ⟨node, found, .refl node.symbol⟩

/-- A tree retains another one if its root does and every child of the other
one is retained by the child of the same number. -/
theorem of_children
    {before after : Tree}
    (root : before.symbol.SameButPayload after.symbol)
    (below : ∀ (index : Nat) child, before.children[index]? = some child →
      ∃ kept : Tree, after.children[index]? = some kept ∧ kept.Retains child) :
    after.Retains before := by
  rintro (_ | ⟨index, path⟩) found isFound
  · obtain rfl : before = found := by simpa using isFound
    exact ⟨after, at?_nil after, root⟩
  · obtain ⟨child, isChild, leads⟩ := at?_cons_eq_some_iff.mp isFound
    obtain ⟨kept, isKept, retains⟩ := below index child isChild
    obtain ⟨inner, isInner, same⟩ := retains path found leads
    exact ⟨inner, at?_cons_eq_some_iff.mpr ⟨kept, isKept, isInner⟩, same⟩

/-- A tree with more children on the right retains the nodes it had. -/
theorem extend (tree : Tree) (more : List Tree) :
    (Tree.node tree.symbol (tree.children ++ more)).Retains tree := by
  refine .of_children (.refl tree.symbol) fun index child isChild => ?_
  have inRange : index < tree.children.length := (List.getElem?_eq_some_iff.mp isChild).1
  refine ⟨child, ?_, .refl child⟩
  rw [children_node, List.getElem?_append_left inRange, isChild]

/-- A tree in which a subtree was replaced by one that retains it retains all
of its nodes. -/
theorem modifyAt?
    {tree found changed after : Tree}
    {path : List Nat}
    (isFound : tree.at? path = some found)
    (retains : changed.Retains found)
    (modified : tree.modifyAt? (fun _ => changed) path = some after) :
    after.Retains tree := by
  induction path generalizing tree after with
  | nil =>
      obtain rfl : tree = found := by simpa using isFound
      obtain rfl : changed = after := by simpa using modified
      exact retains
  | cons index path inductionHypothesis =>
      obtain ⟨child, isChild, leads⟩ := at?_cons_eq_some_iff.mp isFound
      obtain ⟨other, inner, isOther, isInner, rfl⟩ := modifyAt?_cons_eq_some_iff.mp modified
      obtain rfl : child = other := Option.some.inj (isChild.symm.trans isOther)
      refine .of_children (.refl tree.symbol) fun position sibling isSibling => ?_
      have inRange : position < tree.children.length := (List.getElem?_eq_some_iff.mp isSibling).1
      by_cases here : index = position
      · obtain rfl := here
        obtain rfl : child = sibling := Option.some.inj (isChild.symm.trans isSibling)
        refine ⟨inner, ?_, inductionHypothesis leads isInner⟩
        rw [children_node, List.getElem?_set_self inRange]
      · refine ⟨sibling, ?_, .refl sibling⟩
        rw [children_node, List.getElem?_set_ne here, isSibling]

end Retains
end Tree
end SyntaxTree
