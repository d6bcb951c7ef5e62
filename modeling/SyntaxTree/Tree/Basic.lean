import SyntaxTree.Tree.Symbol

/-!
# Syntax trees

A syntax tree is a symbol with an ordered list of subtrees.  Nodes are reached
by paths of child indices from the root.
-/

namespace SyntaxTree

/-- A symbol with its subtrees from left to right. -/
inductive Tree where
  | node (symbol : Symbol) (children : List Tree)

namespace Tree

/-- Symbol at the root. -/
def symbol : Tree → Symbol
  | .node symbol _ => symbol

/-- Subtrees of the root from left to right. -/
def children : Tree → List Tree
  | .node _ children => children

@[simp] theorem symbol_node (symbol : Symbol) (children : List Tree) :
    (node symbol children).symbol = symbol :=
  rfl

@[simp] theorem children_node (symbol : Symbol) (children : List Tree) :
    (node symbol children).children = children :=
  rfl

/-- A tree with no subtrees. -/
def leaf (symbol : Symbol) : Tree :=
  .node symbol []

instance : Inhabited Tree :=
  ⟨leaf ⟨"", .nonTerminal, 0, .unset⟩⟩

mutual

/-- Number of nodes of a tree. -/
def nodeCount : Tree → Nat
  | .node _ children => forestCount children + 1

/-- Number of nodes of all trees of a list. -/
def forestCount : List Tree → Nat
  | [] => 0
  | tree :: forest => nodeCount tree + forestCount forest

end

@[simp] theorem nodeCount_node (symbol : Symbol) (children : List Tree) :
    (node symbol children).nodeCount = forestCount children + 1 := by
  rw [nodeCount]

@[simp] theorem forestCount_nil : forestCount [] = 0 := by
  rw [forestCount]

@[simp] theorem forestCount_cons (tree : Tree) (forest : List Tree) :
    forestCount (tree :: forest) = tree.nodeCount + forestCount forest := by
  rw [forestCount]

/-- A tree has one node more than its subtrees together. -/
theorem nodeCount_eq (tree : Tree) :
    tree.nodeCount = forestCount tree.children + 1 := by
  cases tree with
  | node symbol children => simp

/-- Every property that passes from the subtrees to the tree holds of all
trees. -/
theorem induct
    {motive : Tree → Prop}
    (step : ∀ symbol children,
      (∀ child ∈ children, motive child) → motive (.node symbol children)) :
    (tree : Tree) → motive tree
  | .node symbol children =>
    step symbol children fun child _ => induct step child

/-- Subtree that a path of child indices leads to. -/
def at? (tree : Tree) : List Nat → Option Tree
  | [] => some tree
  | index :: path =>
    match tree.children[index]? with
    | some child => child.at? path
    | none => none

/-- Replaces the subtree at a path by its image, or fails if there is none. -/
def modifyAt? (change : Tree → Tree) (tree : Tree) : List Nat → Option Tree
  | [] => some (change tree)
  | index :: path =>
    match tree.children[index]? with
    | some child =>
      match child.modifyAt? change path with
      | some changed => some (.node tree.symbol (tree.children.set index changed))
      | none => none
    | none => none

@[simp] theorem at?_nil (tree : Tree) : tree.at? [] = some tree := by
  rw [at?]

@[simp] theorem modifyAt?_nil (change : Tree → Tree) (tree : Tree) :
    tree.modifyAt? change [] = some (change tree) := by
  rw [modifyAt?]

end Tree
end SyntaxTree
