import SyntaxTree.Proofs.Tree.Path
import SyntaxTree.Tree.Workbench

/-!
# Trees as they are built

Every way of building a tree gives accepted symbols if it is given accepted
ones: the recipes pair each kind with its payload, storing a payload checks it,
and appending, wrapping and copying take the symbols as they are.  What is built
upon stays in place.
-/

namespace SyntaxTree

/-- Grammar symbols and tokens without a value are accepted with no payload
only. -/
theorem Symbol.Accepted.payload_eq_unset
    {symbol : Symbol}
    (accepted : symbol.Accepted)
    (valueless : symbol.kind ∈ [.nonTerminal, .epsilon, .token]) :
    symbol.payload = .unset := by
  obtain ⟨name, kind, line, payload⟩ := symbol
  cases payload with
  | unset => rfl
  | integer value | real value | text value =>
      simp only [List.mem_cons, List.not_mem_nil, or_false] at valueless
      rcases valueless with rfl | rfl | rfl <;> cases accepted

namespace Tree

/-- Every recipe pairs a kind with a payload that it accepts. -/
theorem everywhere_recipe (recipe : NodeRecipe) (line : Nat) :
    (recipe.node line).Everywhere Symbol.Accepted := by
  cases recipe <;> exact .leaf rfl

/-! ## Payloads -/

theorem setPayload_eq_ok_iff
    {payload : Payload}
    {tree changed : Tree} :
    tree.setPayload payload = .ok changed ↔
      tree.symbol.kind.accepts payload = true ∧
        .node { tree.symbol with payload := payload } tree.children = changed := by
  rw [setPayload]
  by_cases accepts : tree.symbol.kind.accepts payload = true <;> simp [accepts]

theorem Everywhere.setPayload
    {payload : Payload}
    {tree changed : Tree}
    (everywhere : tree.Everywhere Symbol.Accepted)
    (stored : tree.setPayload payload = .ok changed) :
    changed.Everywhere Symbol.Accepted := by
  obtain ⟨accepts, rfl⟩ := setPayload_eq_ok_iff.mp stored
  exact .node accepts fun child => everywhere.child

theorem Retains.setPayload
    {payload : Payload}
    {tree changed : Tree}
    (stored : tree.setPayload payload = .ok changed) :
    changed.Retains tree := by
  obtain ⟨-, rfl⟩ := setPayload_eq_ok_iff.mp stored
  exact .of_children ⟨rfl, rfl, rfl⟩ fun index child isChild => ⟨child, isChild, .refl child⟩

/-! ## Children -/

/-- Inserting succeeds only if both sides are there. -/
theorem exists_of_insert_eq_ok
    {child parent : Option Tree}
    {changed : Tree}
    (inserted : (insert child parent).value = .ok changed) :
    ∃ tree node, child = some tree ∧ parent = some node ∧ node.append tree = changed := by
  cases child with
  | none => cases parent <;> cases inserted
  | some tree =>
      cases parent with
      | none => cases inserted
      | some node => exact ⟨tree, node, rfl, rfl, Except.ok.inj inserted⟩

/-! ## Chains of grammar symbols -/

theorem Everywhere.wrap
    {tree : Tree}
    (everywhere : tree.Everywhere Symbol.Accepted)
    (name : String)
    (line height : Nat) :
    (tree.wrap name line height).Everywhere Symbol.Accepted := by
  induction height generalizing tree with
  | zero => exact everywhere
  | succ height inductionHypothesis =>
      apply inductionHypothesis
      exact .extend (.leaf (Symbol.accepted_of_unset rfl)) (by simpa using everywhere)

/-- A wrapped tree stands at the lower end of the chain. -/
theorem at?_wrap (tree : Tree) (name : String) (line height : Nat) :
    (tree.wrap name line height).at? (List.replicate height 0) = some tree := by
  induction height generalizing tree with
  | zero => exact at?_nil tree
  | succ height inductionHypothesis =>
      rw [wrap, List.replicate_succ', at?_append, inductionHypothesis]
      exact at?_nil tree

/-! ## Described trees -/

/-- If all children can be built they are appended as described. -/
theorem buildBelow_eq_ok
    {children : List Tree}
    (asDescribed : ∀ child ∈ children, ∀ built, child.build.value = .ok built →
      built = child ∧ child.Everywhere Symbol.Accepted)
    {parent tree : Tree}
    (isBuilt : (parent.buildBelow children).value = .ok tree) :
    tree = .node parent.symbol (parent.children ++ children) ∧
      ∀ child ∈ children, child.Everywhere Symbol.Accepted := by
  induction children generalizing parent with
  | nil =>
      obtain rfl : parent = tree := by simpa [buildBelow] using isBuilt
      cases parent with
      | node symbol children => simp
  | cons child children inductionHypothesis =>
      rw [buildBelow] at isBuilt
      split at isBuilt
      · cases isBuilt
      · rename_i built events isChild
        obtain ⟨rfl, ofChild⟩ := asDescribed child List.mem_cons_self built (by rw [isChild])
        obtain ⟨rfl, ofChildren⟩ :=
          inductionHypothesis (fun other member => asDescribed other (.tail _ member)) isBuilt
        exact ⟨by simp [append], List.forall_mem_cons.mpr ⟨ofChild, ofChildren⟩⟩

/-- A tree that can be built from a description is the described one, and all
of its symbols are accepted. -/
theorem build_eq_ok
    {description tree : Tree}
    (isBuilt : description.build.value = .ok tree) :
    tree = description ∧ description.Everywhere Symbol.Accepted := by
  induction description using induct generalizing tree with
  | step symbol children inductionHypothesis =>
      rw [build] at isBuilt
      split at isBuilt
      · cases isBuilt
      · rename_i root isRoot
        obtain ⟨accepts, rfl⟩ := setPayload_eq_ok_iff.mp isRoot
        obtain ⟨rfl, ofChildren⟩ :=
          buildBelow_eq_ok (fun child member built => inductionHypothesis child member) isBuilt
        exact ⟨rfl, .node accepts ofChildren⟩

/-! ## Copies -/

/-- The copies of several trees come to lie on the stack, the last one topmost. -/
theorem copyFrom_forest
    {forest : List Tree}
    (copied : ∀ tree ∈ forest, ∀ built agenda,
      copyFrom built (⟨tree, false⟩ :: agenda) = copyFrom (tree :: built) agenda)
    (built : List Tree)
    (agenda : List Task) :
    copyFrom built (forest.map (⟨·, false⟩) ++ agenda) =
      copyFrom (forest.reverse ++ built) agenda := by
  induction forest generalizing built with
  | nil => rfl
  | cons tree forest inductionHypothesis =>
      rw [List.map_cons, List.cons_append, copied tree List.mem_cons_self,
        inductionHypothesis fun other member => copied other (.tail _ member)]
      simp

/-- A tree on the agenda comes to lie on the stack as it is. -/
theorem copyFrom_tree (tree : Tree) (built : List Tree) (agenda : List Task) :
    copyFrom built (⟨tree, false⟩ :: agenda) = copyFrom (tree :: built) agenda := by
  induction tree using induct generalizing built agenda with
  | step symbol children inductionHypothesis =>
      rw [copyFrom_unexpanded, Task.below, children_node, copyFrom_forest inductionHypothesis,
        copyFrom_expanded]
      -- The copies of the children are the topmost ones.
      simp [assembleCopy]

theorem copy_eq (tree : Tree) : tree.copy = tree := by
  rw [copy, copyFrom_tree, copyFrom_nil]

end Tree
end SyntaxTree
