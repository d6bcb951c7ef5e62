import SyntaxTree.Log.Event
import SyntaxTree.Tree.Basic
import SyntaxTree.Tree.Error

/-!
# Building trees

Trees grow by appending children on the right.  A payload is only stored if the
kind of its node accepts it, and inserting reports a missing side.

There is always room for another child here.  That memory runs out while a child
is appended is not modelled; `TreeError.outOfMemory` is for parsers to report.
-/

namespace SyntaxTree
namespace Tree

open Log Number

/-- A node for a grammar symbol. -/
def nonTerminal (name : String) (line : Nat) : Tree :=
  leaf ⟨name, .nonTerminal, line, .unset⟩

/-- A node for a grammar symbol that derived the empty text. -/
def epsilon (name : String) (line : Nat) : Tree :=
  leaf ⟨name, .epsilon, line, .unset⟩

/-- A node for an identifier. -/
def identifier (lexeme : String) (line : Nat) : Tree :=
  leaf ⟨"ID", .identifier, line, .text lexeme⟩

/-- A node for a type. -/
def typeName (lexeme : String) (line : Nat) : Tree :=
  leaf ⟨"TYPE", .typeName, line, .text lexeme⟩

/-- A node for an integer literal. -/
def integer (value : Int32) (line : Nat) : Tree :=
  leaf ⟨"INT", .integer, line, .integer value⟩

/-- A node for a floating-point literal. -/
def real (value : Binary32) (line : Nat) : Tree :=
  leaf ⟨"FLOAT", .real, line, .real value⟩

/-- A node for a token without a value. -/
def token (name : String) (line : Nat) : Tree :=
  leaf ⟨name, .token, line, .unset⟩

/-- Stores a payload at the root if its kind accepts it. -/
def setPayload (payload : Payload) (tree : Tree) : Except TreeError Tree :=
  let symbol := tree.symbol
  if symbol.kind.accepts payload then
    .ok (.node { symbol with payload := payload } tree.children)
  else
    .error (.payloadMismatch symbol.name symbol.kind payload.variant)

/-- Appends a new last child to the root. -/
def append (parent child : Tree) : Tree :=
  .node parent.symbol (parent.children ++ [child])

/-- Event of appending a child at a position below a parent. -/
def appendEvent (parent child : Tree) (position : Nat) : Event :=
  .childAppended parent.symbol.name child.symbol.name position

/-- Appends a new last child and reports it. -/
def appendLogged (parent child : Tree) : Logged Tree :=
  ⟨parent.append child, [appendEvent parent child parent.children.length]⟩

/-- Appends several children in their order and reports each. -/
def appendAll (parent : Tree) (children : List Tree) : Logged Tree :=
  ⟨.node parent.symbol (parent.children ++ children),
    (children.zipIdx parent.children.length).map fun (child, position) =>
      appendEvent parent child position⟩

@[simp] theorem appendAll_nil (parent : Tree) :
    parent.appendAll [] = ⟨parent, []⟩ := by
  cases parent with
  | node symbol children => simp [appendAll]

/-- Appending several children appends the first one and then the others. -/
theorem appendAll_cons (parent child : Tree) (children : List Tree) :
    parent.appendAll (child :: children) =
      ⟨((parent.append child).appendAll children).value,
        appendEvent parent child parent.children.length ::
          ((parent.append child).appendAll children).events⟩ := by
  simp [appendAll, append, appendEvent]

/-- Inserts a child below a parent, either of which may be missing. -/
def insert : (child parent : Option Tree) → Logged (Except TreeError Tree)
  | some child, some parent =>
    ⟨.ok (parent.append child), (parent.appendLogged child).events⟩
  | some child, none =>
    ⟨.error (.missingParent (some child.symbol.name)), [.parentMissing child.symbol.name]⟩
  | none, some parent =>
    ⟨.error (.missingChild parent.symbol.name), [.childMissing parent.symbol.name]⟩
  | none, none => ⟨.error (.missingParent none), [.bothMissing]⟩

/-- Puts a chain of grammar symbols on top of the tree, one above the other. -/
def wrap (name : String) (line : Nat) : Nat → Tree → Tree
  | 0, tree => tree
  | height + 1, tree => wrap name line height ((nonTerminal name line).append tree)

/-- Events of putting a chain of grammar symbols on top of the tree. -/
def wrapEvents (name : String) : Nat → Tree → List Event
  | 0, _ => []
  | height + 1, tree =>
    .childAppended name tree.symbol.name 0 :: List.replicate height (.childAppended name name 0)

mutual

/-- Builds the described tree from the root down: each node checks its payload
and then builds and appends its children from left to right.  The first payload
that is not accepted ends the work. -/
def build : Tree → Logged (Except TreeError Tree)
  | .node symbol children =>
    match setPayload symbol.payload (leaf { symbol with payload := .unset }) with
    | .error error => ⟨.error error, []⟩
    | .ok root => buildBelow root children

/-- Builds the described children and appends them to the parent. -/
def buildBelow (parent : Tree) : List Tree → Logged (Except TreeError Tree)
  | [] => ⟨.ok parent, []⟩
  | child :: children =>
    match build child with
    | ⟨.error error, events⟩ => ⟨.error error, events⟩
    | ⟨.ok built, events⟩ =>
      let following := buildBelow (parent.append built) children
      ⟨following.value,
        events ++ appendEvent parent built parent.children.length :: following.events⟩

end

end Tree
end SyntaxTree
