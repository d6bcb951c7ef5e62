import SyntaxTree.Proofs.Tree.Index
import SyntaxTree.Proofs.Tree.Nesting
import SyntaxTree.Proofs.Tree.Workbench

/-!
# Insertions as splices

A child that is inserted below a node comes last below it.  In the list of entries of the
tree, the entries of the child are spliced in behind those of the node and of all that was
below it, and the other entries stay as they are.  So insertions below different nodes
do not depend on each other.
-/

namespace SyntaxTree

/-! ## Entries of parts of a tree -/

/-- The entry of a symbol that is some levels deeper. -/
def Entry.deepen (levels : Nat) (entry : Entry) : Entry :=
  ⟨entry.depth + levels, entry.symbol⟩

theorem Entry.map_deepen_deepen (first second : Nat) (entries : List Entry) :
    (entries.map (deepen first)).map (deepen second) = entries.map (deepen (first + second)) := by
  rw [List.map_map]
  apply List.map_congr_left
  intro entry _
  exact congrArg (Entry.mk · entry.symbol) (Nat.add_assoc entry.depth first second)

theorem Entry.map_deepen_zero (entries : List Entry) : entries.map (deepen 0) = entries :=
  List.map_id entries

namespace Tree

/-- A walk from a depth gives the entries of a tree that are deeper by as many levels. -/
theorem map_entry_walk (depth : Nat) (tree : Tree) :
    (Visit.ofAgenda [⟨depth, tree⟩]).map Visit.entry = tree.entries.map (Entry.deepen depth) := by
  induction tree using induct generalizing depth with
  | step symbol children inductionHypothesis =>
      have below : ∀ level, (Visit.sideBySide level children).map Visit.entry =
          children.flatMap fun child => child.entries.map (Entry.deepen level) := by
        intro level
        rw [Visit.sideBySide, List.map_flatMap]
        exact List.flatMap_congr fun child member => inductionHypothesis child member level
      rw [entries, preorder, Visit.walk_node, Visit.walk_node, List.map_cons, List.map_cons,
        List.map_cons, below, below, List.map_flatMap]
      simp only [Entry.map_deepen_deepen, Nat.zero_add, Nat.add_comm 1 depth]
      rw [Entry.deepen, Visit.entry, Visit.entry, Nat.zero_add]
      rfl

/-- Entries of trees side by side that are children of one root. -/
def entriesBelow (forest : List Tree) : List Entry :=
  forest.flatMap fun tree => tree.entries.map (.deepen 1)

theorem entriesBelow_append (left right : List Tree) :
    entriesBelow (left ++ right) = entriesBelow left ++ entriesBelow right :=
  List.flatMap_append

theorem entriesBelow_cons (tree : Tree) (forest : List Tree) :
    entriesBelow (tree :: forest) = tree.entries.map (.deepen 1) ++ entriesBelow forest :=
  List.flatMap_cons

/-- The root comes first, and the entries of its subtrees are one level deeper. -/
theorem entries_eq (tree : Tree) :
    tree.entries = ⟨0, tree.symbol⟩ :: entriesBelow tree.children := by
  cases tree with
  | node symbol children =>
      rw [entries, preorder, Visit.walk_node, List.map_cons, Visit.sideBySide, List.map_flatMap,
        children_node]
      exact congrArg _ (List.flatMap_congr fun child _ => map_entry_walk 1 child)

theorem length_entries (tree : Tree) : tree.entries.length = tree.size :=
  List.length_map _

theorem length_entriesBelow (forest : List Tree) :
    (entriesBelow forest).length = forestCount forest := by
  induction forest with
  | nil => rw [forestCount_nil, entriesBelow, List.flatMap_nil, List.length_nil]
  | cons tree forest inductionHypothesis =>
      rw [entriesBelow_cons, List.length_append, List.length_map, length_entries,
        size_eq_nodeCount, inductionHypothesis, forestCount_cons]

/-- Entries of further children come behind all others. -/
theorem map_deepen_entries_appendAll (levels : Nat) (tree : Tree) (more : List Tree) :
    (tree.appendAll more).value.entries.map (Entry.deepen levels) =
      tree.entries.map (Entry.deepen levels) ++
        more.flatMap fun child => child.entries.map (Entry.deepen (levels + 1)) := by
  have extended : (tree.appendAll more).value.entries = tree.entries ++ entriesBelow more := by
    rw [appendAll, entries_eq, entries_eq tree, symbol_node, children_node, entriesBelow_append,
      List.cons_append]
  rw [extended, List.map_append, entriesBelow, List.map_flatMap]
  simp only [Entry.map_deepen_deepen, Nat.add_comm 1 levels]

theorem append_eq_appendAll (parent child : Tree) :
    parent.append child = (parent.appendAll [child]).value :=
  rfl

/-- The entries of a child, among those of its siblings on both sides. -/
theorem entriesBelow_eq
    {forest : List Tree}
    {index : Nat}
    {tree : Tree}
    (isThere : forest[index]? = some tree) :
    entriesBelow forest =
      entriesBelow (forest.take index) ++ tree.entries.map (.deepen 1) ++
        entriesBelow (forest.drop (index + 1)) := by
  obtain ⟨inRange, rfl⟩ := List.getElem?_eq_some_iff.mp isThere
  rw [List.append_assoc, ← entriesBelow_cons, List.getElem_cons_drop, ← entriesBelow_append,
    List.take_append_drop]

/-! ## Changes at a path -/

/-- Two changes at a path are one. -/
theorem modifyAt?_of_modifyAt?
    {tree changed : Tree}
    {path : List Nat}
    {first : Tree → Tree}
    (modified : tree.modifyAt? first path = some changed)
    (second : Tree → Tree) :
    changed.modifyAt? second path = tree.modifyAt? (second ∘ first) path := by
  induction path generalizing tree changed with
  | nil =>
      obtain rfl : first tree = changed := by simpa using modified
      rw [modifyAt?_nil, modifyAt?_nil, Function.comp_apply]
  | cons index path inductionHypothesis =>
      obtain ⟨child, inner, isChild, isInner, rfl⟩ := modifyAt?_cons_eq_some_iff.mp modified
      have inRange : index < tree.children.length := (List.getElem?_eq_some_iff.mp isChild).1
      rw [modifyAt?, modifyAt?, children_node, List.getElem?_set_self inRange, isChild]
      dsimp only
      rw [inductionHypothesis isInner]
      cases child.modifyAt? (second ∘ first) path with
      | none => rfl
      | some twice =>
          dsimp only
          rw [List.set_set, symbol_node]

/-- What a change does to the node at the path is all that matters of it. -/
theorem modifyAt?_congr
    {tree node : Tree}
    {path : List Nat}
    {change other : Tree → Tree}
    (found : tree.at? path = some node)
    (same : change node = other node) :
    tree.modifyAt? change path = tree.modifyAt? other path := by
  induction path generalizing tree with
  | nil =>
      obtain rfl : tree = node := by simpa using found
      rw [modifyAt?_nil, modifyAt?_nil, same]
  | cons index path inductionHypothesis =>
      obtain ⟨child, isChild, leads⟩ := at?_cons_eq_some_iff.mp found
      rw [modifyAt?, modifyAt?, isChild]
      dsimp only
      rw [inductionHypothesis leads]

/-- Putting a node in its own place changes nothing. -/
theorem modifyAt?_of_same
    {tree node : Tree}
    {path : List Nat}
    {change : Tree → Tree}
    (found : tree.at? path = some node)
    (same : change node = node) :
    tree.modifyAt? change path = some tree := by
  induction path generalizing tree with
  | nil =>
      obtain rfl : tree = node := by simpa using found
      rw [modifyAt?_nil, same]
  | cons index path inductionHypothesis =>
      obtain ⟨child, isChild, leads⟩ := at?_cons_eq_some_iff.mp found
      refine modifyAt?_cons_eq_some_iff.mpr
        ⟨child, child, isChild, inductionHypothesis leads, ?_⟩
      obtain ⟨inRange, rfl⟩ := List.getElem?_eq_some_iff.mp isChild
      rw [List.set_getElem_self]
      cases tree with
      | node symbol children => rfl

/-- The entries of the subtree at a path start at the index of the path.  A change at the
path replaces them and leaves those before and behind them. -/
theorem exists_entries_modifyAt?
    {tree node : Tree}
    {path : List Nat}
    (found : tree.at? path = some node) :
    ∃ before behind : List Entry,
      before.length = tree.indexAt path ∧
      tree.entries = before ++ node.entries.map (.deepen path.length) ++ behind ∧
      ∀ change after, tree.modifyAt? change path = some after →
        after.entries = before ++ (change node).entries.map (.deepen path.length) ++ behind := by
  induction path generalizing tree with
  | nil =>
      obtain rfl : tree = node := by simpa using found
      refine ⟨[], [], by simp, ?_, ?_⟩
      · rw [List.length_nil, Entry.map_deepen_zero, List.append_nil, List.nil_append]
      · intro change after modified
        obtain rfl : change tree = after := by simpa using modified
        rw [List.length_nil, Entry.map_deepen_zero, List.append_nil, List.nil_append]
  | cons index path inductionHypothesis =>
      obtain ⟨child, isChild, leads⟩ := at?_cons_eq_some_iff.mp found
      obtain ⟨before, behind, position, ofChild, ofChanged⟩ := inductionHypothesis leads
      have inRange : index < tree.children.length := (List.getElem?_eq_some_iff.mp isChild).1
      refine ⟨⟨0, tree.symbol⟩ :: entriesBelow (tree.children.take index) ++
        before.map (.deepen 1),
        behind.map (.deepen 1) ++ entriesBelow (tree.children.drop (index + 1)), ?_, ?_, ?_⟩
      · rw [List.length_append, List.length_cons, length_entriesBelow, List.length_map, position,
          indexAt_cons isChild]
      · rw [entries_eq, entriesBelow_eq isChild, ofChild]
        simp only [List.map_append, Entry.map_deepen_deepen, List.length_cons, List.cons_append,
          List.append_assoc]
      · intro change after modified
        obtain ⟨other, inner, isOther, isInner, rfl⟩ := modifyAt?_cons_eq_some_iff.mp modified
        obtain rfl : child = other := Option.some.inj (isChild.symm.trans isOther)
        have isThere : (tree.children.set index inner)[index]? = some inner :=
          List.getElem?_set_self inRange
        rw [entries_eq, children_node, entriesBelow_eq isThere, ofChanged change inner isInner,
          List.take_set_of_le (Nat.le_refl index), List.drop_set_of_lt (Nat.lt_succ_self index)]
        simp only [List.map_append, Entry.map_deepen_deepen, List.length_cons, List.cons_append,
          List.append_assoc, symbol_node]

/-! ## Insertions -/

/-- The tree with a new last child below the node at a path, if there is one. -/
def insertAt? (tree : Tree) (path : List Nat) (child : Tree) : Option Tree :=
  tree.modifyAt? (·.append child) path

theorem insertAt?_nil (tree child : Tree) : tree.insertAt? [] child = some (tree.append child) :=
  modifyAt?_nil _ _

theorem insertAt?_cons
    {tree below inner child : Tree}
    {index : Nat}
    {path : List Nat}
    (isBelow : tree.children[index]? = some below)
    (inserted : below.insertAt? path child = some inner) :
    tree.insertAt? (index :: path) child =
      some (.node tree.symbol (tree.children.set index inner)) :=
  modifyAt?_cons_eq_some_iff.mpr ⟨below, inner, isBelow, inserted, rfl⟩

/-- Children that are inserted below one node come behind those it has, in the order of the
insertions. -/
theorem foldlM_insertAt?
    {tree node : Tree}
    {path : List Nat}
    (found : tree.at? path = some node)
    (children : List Tree) :
    children.foldlM (fun grown child => grown.insertAt? path child) tree =
      tree.modifyAt? (fun grown => (grown.appendAll children).value) path := by
  induction children generalizing tree node with
  | nil =>
      refine (modifyAt?_of_same found ?_).symm
      rw [appendAll_nil]
  | cons child children inductionHypothesis =>
      obtain ⟨after, inserted, leads⟩ := exists_modifyAt? (·.append child) found
      rw [List.foldlM_cons, insertAt?, inserted]
      refine (inductionHypothesis leads).trans ?_
      rw [modifyAt?_of_modifyAt? inserted]
      apply modifyAt?_congr found
      rw [appendAll_cons, Function.comp_apply]

/-! ## Insertions at two paths -/

/-- Both orders of an insertion at one path and one at another succeed and give the same
tree. -/
def InsertionsCommute
    (tree : Tree)
    (path : List Nat)
    (child : Tree)
    (otherPath : List Nat)
    (second : Tree) : Prop :=
  ∃ after,
    (tree.insertAt? path child).bind (·.insertAt? otherPath second) = some after ∧
    (tree.insertAt? otherPath second).bind (·.insertAt? path child) = some after

namespace InsertionsCommute

variable {tree node otherNode : Tree} {index otherIndex : Nat} {path otherPath : List Nat}

theorem symm
    {child second : Tree}
    (commute : tree.InsertionsCommute path child otherPath second) :
    tree.InsertionsCommute otherPath second path child := by
  obtain ⟨after, ofFirst, ofSecond⟩ := commute
  exact ⟨after, ofSecond, ofFirst⟩

/-- The children that the root had keep their indices when it gets another one. -/
theorem root
    (found : tree.at? (index :: path) = some node)
    (child second : Tree) :
    tree.InsertionsCommute [] child (index :: path) second := by
  obtain ⟨below, isBelow, leads⟩ := at?_cons_eq_some_iff.mp found
  obtain ⟨inner, inserted, -⟩ := exists_modifyAt? (·.append second) leads
  have inRange : index < tree.children.length := (List.getElem?_eq_some_iff.mp isBelow).1
  have isStillBelow : (tree.append child).children[index]? = some below := by
    rw [append, children_node, List.getElem?_append_left inRange, isBelow]
  refine ⟨.node tree.symbol (tree.children.set index inner ++ [child]), ?_, ?_⟩
  · rw [insertAt?_nil, Option.bind_some, insertAt?_cons isStillBelow inserted, append,
      symbol_node, children_node, List.set_append_left _ _ inRange]
  · rw [insertAt?_cons isBelow inserted, Option.bind_some, insertAt?_nil, append, symbol_node,
      children_node]

theorem siblings
    (found : tree.at? (index :: path) = some node)
    (otherFound : tree.at? (otherIndex :: otherPath) = some otherNode)
    (apart : index ≠ otherIndex)
    (child second : Tree) :
    tree.InsertionsCommute (index :: path) child (otherIndex :: otherPath) second := by
  obtain ⟨below, isBelow, leads⟩ := at?_cons_eq_some_iff.mp found
  obtain ⟨otherBelow, isOtherBelow, otherLeads⟩ := at?_cons_eq_some_iff.mp otherFound
  obtain ⟨inner, inserted, -⟩ := exists_modifyAt? (·.append child) leads
  obtain ⟨otherInner, otherInserted, -⟩ := exists_modifyAt? (·.append second) otherLeads
  refine ⟨.node tree.symbol ((tree.children.set index inner).set otherIndex otherInner), ?_, ?_⟩
  · rw [insertAt?_cons isBelow inserted, Option.bind_some]
    refine insertAt?_cons ?_ otherInserted
    rw [children_node, List.getElem?_set_ne apart, isOtherBelow]
  · rw [insertAt?_cons isOtherBelow otherInserted, Option.bind_some, List.set_comm _ _ apart]
    refine insertAt?_cons ?_ inserted
    rw [children_node, List.getElem?_set_ne (Ne.symm apart), isBelow]

/-- Insertions that commute in a child commute in the tree. -/
theorem below
    {below child second : Tree}
    (isBelow : tree.children[index]? = some below)
    (commute : below.InsertionsCommute path child otherPath second) :
    tree.InsertionsCommute (index :: path) child (index :: otherPath) second := by
  obtain ⟨both, ofFirst, ofSecond⟩ := commute
  obtain ⟨inner, inserted, further⟩ := Option.bind_eq_some_iff.mp ofFirst
  obtain ⟨otherInner, otherInserted, otherFurther⟩ := Option.bind_eq_some_iff.mp ofSecond
  have inRange : index < tree.children.length := (List.getElem?_eq_some_iff.mp isBelow).1
  refine ⟨.node tree.symbol (tree.children.set index both), ?_, ?_⟩
  · rw [insertAt?_cons isBelow inserted, Option.bind_some,
      insertAt?_cons (List.getElem?_set_self inRange) further, children_node, List.set_set,
      symbol_node]
  · rw [insertAt?_cons isBelow otherInserted, Option.bind_some,
      insertAt?_cons (List.getElem?_set_self inRange) otherFurther, children_node, List.set_set,
      symbol_node]

/-- Insertions below different nodes commute. -/
theorem of_ne
    (found : tree.at? path = some node)
    (otherFound : tree.at? otherPath = some otherNode)
    (different : path ≠ otherPath)
    (child second : Tree) :
    tree.InsertionsCommute path child otherPath second := by
  induction path generalizing tree otherPath with
  | nil =>
      cases otherPath with
      | nil => exact absurd rfl different
      | cons index otherPath => exact root otherFound child second
  | cons index path inductionHypothesis =>
      cases otherPath with
      | nil => exact (root found second child).symm
      | cons otherIndex otherPath =>
          by_cases sameChild : index = otherIndex
          · obtain rfl := sameChild
            obtain ⟨common, isCommon, leads⟩ := at?_cons_eq_some_iff.mp found
            obtain ⟨other, isOther, otherLeads⟩ := at?_cons_eq_some_iff.mp otherFound
            obtain rfl : common = other := Option.some.inj (isCommon.symm.trans isOther)
            apply below isCommon
            exact inductionHypothesis leads otherLeads fun same => different (by rw [same])
          · exact siblings found otherFound sameChild child second

end InsertionsCommute

end Tree

/-! ## Insertions at the workbench -/

/-- The steps that take a tree off the bench and make it the last child of a node. -/
def Operation.attaching (slot target : String) (path : List Nat) : List Operation :=
  [.insert (some slot) (some target) path, .append slot target path]

namespace Workbench

/-- Both steps that attach a tree insert it below the node at the path, and show how many
children the node has then. -/
theorem apply_attaching
    {bench : Workbench}
    {slot target : String}
    {path : List Nat}
    {tree node child after : Tree}
    (held : bench.get? slot = some child)
    (isTarget : bench.get? target = some tree)
    (isOther : target ≠ slot)
    (found : tree.at? path = some node)
    (inserted : tree.insertAt? path child = some after)
    {operation : Operation}
    (attaches : operation ∈ Operation.attaching slot target path) :
    (bench.apply operation).bench.get? target = some after ∧
      (bench.apply operation).result = .ok (.childCount (node.children.length + 1)) := by
  have stays : (bench.erase slot).get? target = some tree := by
    rw [get?_erase_of_ne isOther, isTarget]
  have isNode : (bench.erase slot).node? (some target) path = some node := by
    rw [node?, Option.bind_some, stays, Option.bind_some, found]
  have changed : ((bench.erase slot).change target path fun _ => node.append child).get? target =
      some after := by
    have same : tree.modifyAt? (·.append child) path =
        tree.modifyAt? (fun _ => node.append child) path := Tree.modifyAt?_congr found rfl
    rw [Tree.insertAt?, same] at inserted
    rw [change, stays, Option.bind_some, inserted, get?_put_self]
  have count : (node.append child).children.length = node.children.length + 1 := by
    rw [Tree.append, Tree.children_node, List.length_append, List.length_singleton]
  rw [← count]
  rcases List.mem_pair.mp attaches with rfl | rfl <;>
    rw [apply, take, held] <;>
    dsimp only <;>
    rw [isNode] <;>
    exact ⟨changed, rfl⟩

end Workbench

namespace Tree

/-- A child that is inserted below the node at a path, by either step of the workbench,
has its entries spliced in directly behind those of the subtree there, one level deeper
than the node; all other entries stay as they are, and the sizes add up.  Several
insertions leave exactly the inserted children behind those that the node had, in their
order, and insertions below different nodes commute. -/
theorem insert_splices
    {tree node : Tree}
    {path : List Nat}
    (found : tree.at? path = some node) :
    ∃ before behind : List Entry,
      before.length = tree.indexAt path ∧
      tree.entries = before ++ node.entries.map (.deepen path.length) ++ behind ∧
      (∀ child, ∃ after,
        tree.insertAt? path child = some after ∧
        after.entries = before ++ node.entries.map (.deepen path.length) ++
          child.entries.map (.deepen (path.length + 1)) ++ behind ∧
        after.size = tree.size + child.size ∧
        ∀ (bench : Workbench) (slot target : String), target ≠ slot →
          bench.get? slot = some child → bench.get? target = some tree →
          ∀ operation ∈ Operation.attaching slot target path,
            (bench.apply operation).bench.get? target = some after ∧
            (bench.apply operation).result = .ok (.childCount (node.children.length + 1))) ∧
      (∀ children : List Tree, ∃ after,
        children.foldlM (fun grown child => grown.insertAt? path child) tree = some after ∧
        after.at? path = some (.node node.symbol (node.children ++ children)) ∧
        after.entries = before ++ node.entries.map (.deepen path.length) ++
          (children.flatMap fun child => child.entries.map (.deepen (path.length + 1))) ++
            behind) ∧
      ∀ otherPath otherNode, tree.at? otherPath = some otherNode → path ≠ otherPath →
        ∀ child second, ∃ after,
          (tree.insertAt? path child).bind (·.insertAt? otherPath second) = some after ∧
          (tree.insertAt? otherPath second).bind (·.insertAt? path child) = some after := by
  obtain ⟨before, behind, position, ofTree, ofChanged⟩ := exists_entries_modifyAt? found
  refine ⟨before, behind, position, ofTree, ?_, ?_, ?_⟩
  · intro child
    obtain ⟨after, inserted, -⟩ := exists_modifyAt? (fun grown => grown.append child) found
    have ofAfter := ofChanged _ _ inserted
    rw [append_eq_appendAll, map_deepen_entries_appendAll, List.flatMap_singleton,
      ← List.append_assoc] at ofAfter
    refine ⟨after, inserted, ofAfter, ?_, ?_⟩
    · rw [← length_entries, ofAfter, ← length_entries tree, ofTree, ← length_entries child]
      simp only [List.length_append, List.length_map]
      omega
    · intro bench slot target isOther held isTarget operation attaches
      exact Workbench.apply_attaching held isTarget isOther found inserted attaches
  · intro children
    obtain ⟨after, modified, leads⟩ :=
      exists_modifyAt? (fun grown => (grown.appendAll children).value) found
    refine ⟨after, (foldlM_insertAt? found children).trans modified, leads, ?_⟩
    rw [ofChanged _ _ modified, map_deepen_entries_appendAll, ← List.append_assoc]
  · intro otherPath otherNode otherFound different child second
    exact InsertionsCommute.of_ne found otherFound different child second

/-- A second argument goes before the token behind the arguments, and it does not matter
whether it is inserted before or after something below the first one. -/
theorem insert_splices_secondArgument :
    let token : String → Tree := fun name => .leaf ⟨name, .token, 1, .unset⟩
    let list : List Tree → Tree := .node ⟨"Args", .nonTerminal, 1, .unset⟩
    let call : List Tree → Tree := fun arguments =>
      .node ⟨"Exp", .nonTerminal, 1, .unset⟩ [list arguments, token "RP"]
    let bench : Workbench :=
      { slots := [("argument", token "B"), ("call", call [token "A"])]
        distinct := by decide }
    (call [token "A"]).at? [0] = some (list [token "A"]) ∧
      (bench.apply (.insert (some "argument") (some "call") [0])).bench.get? "call" =
        some (call [token "A", token "B"]) ∧
      (call [token "A", token "B"]).size = (call [token "A"]).size + (token "B").size ∧
      ∃ after,
        ((call [token "A"]).insertAt? [0] (token "B")).bind (·.insertAt? [0, 0] (token "C")) =
          some after ∧
        ((call [token "A"]).insertAt? [0, 0] (token "C")).bind (·.insertAt? [0] (token "B")) =
          some after := by
  intro token list call bench
  have found : (call [token "A"]).at? [0] = some (list [token "A"]) := rfl
  obtain ⟨before, behind, -, -, single, -, commute⟩ := insert_splices found
  obtain ⟨after, inserted, -, size, atBench⟩ := single (token "B")
  obtain rfl : call [token "A", token "B"] = after := Option.some.inj inserted
  refine ⟨found, ?_, size, commute [0, 0] (token "A") rfl (by decide) (token "B") (token "C")⟩
  exact (atBench bench "argument" "call" (by decide) rfl rfl _ (List.mem_cons_self ..)).1

end Tree
end SyntaxTree
