import SyntaxTree.Tree.Copy
import SyntaxTree.Tree.Edit
import SyntaxTree.Tree.Release

/-!
# Workbench

A workbench holds trees under names and builds them step by step.  Attaching a
tree takes it off the bench, so no tree is part of two others.
-/

namespace SyntaxTree

open Log Number

/-- Trees under names. -/
@[ext] structure Workbench where
  slots : List (String × Tree) := []
  /-- No name holds two trees. -/
  distinct : (slots.map (·.1)).Nodup := by exact .nil

namespace Workbench

/-- The tree under a name. -/
def get? (bench : Workbench) (slot : String) : Option Tree :=
  bench.slots.lookup slot

/-- Takes the tree under a name off the bench. -/
def erase (bench : Workbench) (slot : String) : Workbench where
  slots := bench.slots.filter (·.1 != slot)
  distinct := bench.distinct.sublist (List.filter_sublist.map _)

/-- Puts a tree under a name in place of the one that was there. -/
def put (bench : Workbench) (slot : String) (tree : Tree) : Workbench where
  slots := (slot, tree) :: (bench.erase slot).slots
  distinct := by
    rw [List.map_cons, List.nodup_cons]
    exact ⟨by simp [erase], (bench.erase slot).distinct⟩

/-- The tree under a name, if a name is given and holds one, and the bench
without it. -/
def take (bench : Workbench) : Option String → Option Tree × Workbench
  | none => (none, bench)
  | some slot => (bench.get? slot, bench.erase slot)

/-- The trees under several names, skipping names that hold none, and the bench
without them. -/
def takeAll (bench : Workbench) : List String → List Tree × Workbench
  | [] => ([], bench)
  | slot :: slots =>
    let (tree, bench) := bench.take (some slot)
    let (trees, bench) := bench.takeAll slots
    (tree.toList ++ trees, bench)

end Workbench

/-- A node to be made with its payload set. -/
inductive NodeRecipe where
  | nonTerminal (name : String)
  | epsilon (name : String)
  | identifier (lexeme : String)
  | typeName (lexeme : String)
  | integer (value : Int32)
  | real (value : Binary32)
  | token (name : String)

/-- The node that a recipe describes. -/
def NodeRecipe.node (line : Nat) : NodeRecipe → Tree
  | .nonTerminal name => .nonTerminal name line
  | .epsilon name => .epsilon name line
  | .identifier lexeme => .identifier lexeme line
  | .typeName lexeme => .typeName lexeme line
  | .integer value => .integer value line
  | .real value => .real value line
  | .token name => .token name line

/-- A step at the workbench. -/
inductive Operation where
  /-- Puts a bare node without a payload under a name. -/
  | create (slot name : String) (kind : Kind) (line : Nat)
  /-- Puts a node with its payload under a name. -/
  | make (slot : String) (recipe : NodeRecipe) (line : Nat)
  /-- Builds a described tree and puts it under a name. -/
  | build (slot : String) (description : Tree)
  /-- Puts a chain of grammar symbols on top of a tree. -/
  | wrap (slot name : String) (line height : Nat)
  /-- Sets the payload of a node. -/
  | setPayload (slot : String) (path : List Nat) (payload : Payload)
  /-- Inserts a tree below a node, either of which may be missing. -/
  | insert (child parent : Option String) (path : List Nat)
  /-- Appends a tree below a node. -/
  | append (child parent : String) (path : List Nat)
  /-- Appends several trees below the root of a tree. -/
  | appendAll (slot : String) (children : List String)
  /-- Puts a copy of a subtree under a name. -/
  | copy (source : String) (path : List Nat) (slot : String)
  /-- Releases a tree. -/
  | release (slot : Option String)

/-- Why a step at the workbench was refused. -/
inductive Refusal where
  /-- The name holds no tree. -/
  | emptySlot
  /-- The path leads to no node of the tree. -/
  | noChild
  /-- There is no node to change. -/
  | noNode
  /-- The tree does not admit the change. -/
  | rejected (error : TreeError)

/-- What a step at the workbench shows. -/
inductive Reply where
  /-- The tree that now stands under the name. -/
  | tree (tree : Tree)
  /-- The payload now stored. -/
  | payload (payload : Payload)
  /-- The number of children that the parent now has. -/
  | childCount (count : Nat)
  /-- The nodes that were released, in their order. -/
  | released (order : List Tree)

/-- The bench after a step, with what the step shows and logs. -/
structure StepReport where
  bench : Workbench
  result : Except Refusal Reply
  events : List Event := []

namespace Workbench

/-- The subtree at a path below the tree under a name. -/
def find (bench : Workbench) (slot : String) (path : List Nat) : Except Refusal Tree :=
  match bench.get? slot with
  | none => .error .emptySlot
  | some tree =>
    match tree.at? path with
    | none => .error .noChild
    | some node => .ok node

/-- Puts a tree under a name and shows it. -/
def present (bench : Workbench) (slot : String) (tree : Tree) (events : List Event) :
    StepReport :=
  ⟨bench.put slot tree, .ok (.tree tree), events⟩

/-- Replaces the node at a path below the tree under a name. -/
def change
    (bench : Workbench)
    (slot : String)
    (path : List Nat)
    (replace : Tree → Tree) : Workbench :=
  match (bench.get? slot).bind (·.modifyAt? replace path) with
  | none => bench
  | some tree => bench.put slot tree

/-- The node at a path below the tree under a name, if all three exist. -/
def node? (bench : Workbench) (slot : Option String) (path : List Nat) : Option Tree :=
  (slot.bind bench.get?).bind (·.at? path)

/-- Carries out one step. -/
def apply (bench : Workbench) : Operation → StepReport
  | .create slot name kind line => bench.present slot (.leaf ⟨name, kind, line, .unset⟩) []
  | .make slot recipe line => bench.present slot (recipe.node line) []
  | .build slot description =>
    match description.build with
    | ⟨.error error, events⟩ => ⟨bench, .error (.rejected error), events⟩
    | ⟨.ok tree, events⟩ => bench.present slot tree events
  | .wrap slot name line height =>
    match bench.get? slot with
    | none => ⟨bench, .error .emptySlot, []⟩
    | some tree => bench.present slot (tree.wrap name line height) (tree.wrapEvents name height)
  | .setPayload slot path payload =>
    match bench.node? (some slot) path with
    | none => ⟨bench, .error .noNode, []⟩
    | some node =>
      match node.setPayload payload with
      | .error error => ⟨bench, .error (.rejected error), []⟩
      | .ok changed => ⟨bench.change slot path fun _ => changed, .ok (.payload payload), []⟩
  | .insert child parent path =>
    let (childTree, bench) := bench.take child
    let inserted := Tree.insert childTree (bench.node? parent path)
    match inserted.value, parent with
    | .ok changed, some slot =>
      ⟨bench.change slot path fun _ => changed, .ok (.childCount changed.children.length),
        inserted.events⟩
    | .ok _, none => ⟨bench, .error .noNode, inserted.events⟩
    | .error error, _ => ⟨bench, .error (.rejected error), inserted.events⟩
  | .append child parent path =>
    match bench.take (some child) with
    | (none, bench) => ⟨bench, .error .emptySlot, []⟩
    | (some childTree, bench) =>
      match bench.node? (some parent) path with
      | none => ⟨bench, .error .noNode, []⟩
      | some node =>
        let appended := node.appendLogged childTree
        ⟨bench.change parent path fun _ => appended.value,
          .ok (.childCount appended.value.children.length), appended.events⟩
  | .appendAll slot children =>
    match bench.take (some slot) with
    | (none, bench) => ⟨bench, .error .emptySlot, []⟩
    | (some tree, bench) =>
      let (trees, bench) := bench.takeAll children
      let appended := tree.appendAll trees
      bench.present slot appended.value appended.events
  | .copy source path slot =>
    match bench.find source path with
    | .error refusal => ⟨bench, .error refusal, []⟩
    | .ok node => bench.present slot node.copy []
  | .release slot =>
    let (tree, bench) := bench.take slot
    ⟨bench, .ok (.released ((tree.map Tree.releaseOrder).getD [])), (Tree.release tree).events⟩

end Workbench
end SyntaxTree
