import SyntaxTree.Proofs.Tree.Building
import SyntaxTree.Proofs.Tree.Workbench

/-!
# What a workbench keeps

A step at the workbench puts a new tree under a name, takes a tree off the
bench, or changes one in place.  All that a step can do is said once, as an
effect, together with the places at which it leaves the trees of the bench.
From the effects follows what holds after any number of steps.
-/

namespace SyntaxTree

/-- The name whose tree a step takes off the bench and does not put back when
it is refused: an inserted child is handed over for good. -/
def Operation.handedOver : Operation → Option String
  | .insert child _ _ => child
  | .append child _ _ => some child
  | _ => none

/-- The name whose tree goes when a step is carried out: it is released, or
another tree takes its name. -/
def Operation.displaced : Operation → Option String
  | .create slot .. | .make slot .. | .build slot .. | .copy _ _ slot => some slot
  | .release slot => slot
  | _ => none

namespace Workbench

/-! ## Where a step leaves the trees -/

/-- Number of children of the node at a place. -/
def childCount (bench : Workbench) (place : Place) : Nat :=
  (bench.at? place).elim 0 (·.children.length)

/-- The place of the next child of the node at a place. -/
def nextChild (bench : Workbench) (place : Place) : Place :=
  place.below [bench.childCount place]

/-- Where the root of the tree under a name is after a step was carried out
that did not displace the tree. -/
def position (bench : Workbench) (slot : String) : Operation → Place
  | .wrap target _ _ height =>
    if target = slot then ⟨slot, List.replicate height 0⟩ else .root slot
  | .insert child (some parent) path =>
    if child = some slot then bench.nextChild ⟨parent, path⟩ else .root slot
  | .append child parent path =>
    if child = slot then bench.nextChild ⟨parent, path⟩ else .root slot
  | .appendAll target children =>
    if target = slot ∨ slot ∉ children then
      .root slot
    else
      -- The names before this one have given their trees already.
      let before := ((bench.erase target).takeAll (children.takeWhile (· ≠ slot))).1
      ⟨target, [bench.childCount (.root target) + before.length]⟩
  | _ => .root slot

/-- Where a step that is carried out leaves the tree under a name. -/
def destination (bench : Workbench) (operation : Operation) (slot : String) : Option Place :=
  if operation.displaced = some slot then none else some (bench.position slot operation)

/-- Where a step leaves the tree under a name, unless the tree goes: a step
that is refused leaves all trees that were not handed over to it. -/
def whereabouts (bench : Workbench) (operation : Operation) (slot : String) : Option Place :=
  match (bench.apply operation).result with
  | .ok _ => bench.destination operation slot
  | .error _ => if operation.handedOver = some slot then none else some (.root slot)

/-- A step that displaces a tree and moves no other leaves all others under
their names. -/
theorem destination_of_displaced
    {bench : Workbench}
    {operation : Operation}
    {target : String}
    (displaces : operation.displaced = some target)
    (stays : ∀ slot, bench.position slot operation = .root slot) :
    bench.destination operation =
      fun slot => if target = slot then none else some (.root slot) := by
  funext slot
  rw [destination, displaces, stays]
  simp only [Option.some.injEq]

/-! ## What a step does -/

/-- Every node on the bench has a payload that its kind accepts. -/
def AllAccepted (bench : Workbench) : Prop :=
  ∀ slot tree, bench.get? slot = some tree → tree.Everywhere Symbol.Accepted

theorem allAccepted_empty : AllAccepted {} := by
  intro slot tree held
  cases held

theorem AllAccepted.at?
    {bench : Workbench}
    {place : Place}
    {node : Tree}
    (accepted : bench.AllAccepted)
    (found : bench.at? place = some node) :
    node.Everywhere Symbol.Accepted := by
  obtain ⟨tree, held, leads⟩ := at?_eq_some_iff.mp found
  exact (accepted place.slot tree held).of_at? leads

/-- All that a step can do to the bench, with where it leaves the trees. -/
inductive Effect (bench : Workbench) : (String → Option Place) → Workbench → Prop where
  | rests : Effect bench (fun slot => some (.root slot)) bench
  | takes (target : String) :
      Effect bench
        (fun slot => if target = slot then none else some (.root slot))
        (bench.erase target)
  | presents
      (target : String)
      (tree : Tree)
      (accepted : bench.AllAccepted → tree.Everywhere Symbol.Accepted) :
      Effect bench
        (fun slot => if target = slot then none else some (.root slot))
        (bench.put target tree)
  /-- A node is changed in place. -/
  | changes
      {target : String}
      {path : List Nat}
      {node changed : Tree}
      (found : bench.at? ⟨target, path⟩ = some node)
      (retains : changed.Retains node)
      (accepted : node.Everywhere Symbol.Accepted → changed.Everywhere Symbol.Accepted) :
      Effect bench (fun slot => some (.root slot)) (bench.change target path fun _ => changed)
  | wraps
      {target : String}
      {tree : Tree}
      (held : bench.get? target = some tree)
      (name : String)
      (line height : Nat) :
      Effect bench
        (fun slot => some (if target = slot then ⟨slot, List.replicate height 0⟩ else .root slot))
        (bench.put target (tree.wrap name line height))
  /-- A tree becomes the last child of a node of another one. -/
  | attaches
      {child target : String}
      {path : List Nat}
      {tree node : Tree}
      (held : bench.get? child = some tree)
      (found : (bench.erase child).at? ⟨target, path⟩ = some node) :
      Effect bench
        (fun slot => some (if child = slot then bench.nextChild ⟨target, path⟩ else .root slot))
        ((bench.erase child).change target path fun _ => node.append tree)
  /-- Several trees become the last children of a root. -/
  | gathers
      {target : String}
      {tree : Tree}
      (held : bench.get? target = some tree)
      (children : List String) :
      Effect bench
        (fun slot => some (bench.position slot (.appendAll target children)))
        (((bench.erase target).takeAll children).2.put target
          (tree.appendAll ((bench.erase target).takeAll children).1).value)

/-- How a step ends.  One that is refused has done nothing but take what was
handed over to it. -/
inductive Outcome (bench : Workbench) (operation : Operation) : StepReport → Prop where
  | refused (refusal : Refusal) (events : List Log.Event) :
      Outcome bench operation ⟨(bench.take operation.handedOver).2, .error refusal, events⟩
  | carriedOut
      {next : Workbench}
      {reply : Reply}
      {events : List Log.Event}
      (effect : bench.Effect (bench.destination operation) next) :
      Outcome bench operation ⟨next, .ok reply, events⟩

theorem Outcome.presented
    {bench : Workbench}
    {operation : Operation}
    {target : String}
    {tree : Tree}
    {events : List Log.Event}
    (displaces : operation.displaced = some target)
    (stays : ∀ slot, bench.position slot operation = .root slot)
    (accepted : bench.AllAccepted → tree.Everywhere Symbol.Accepted) :
    bench.Outcome operation (bench.present target tree events) := by
  apply carriedOut
  rw [destination_of_displaced displaces stays]
  exact .presents target tree accepted

theorem outcome_apply (bench : Workbench) (operation : Operation) :
    bench.Outcome operation (bench.apply operation) := by
  cases operation with
  | create target name kind line =>
      exact .presented rfl (fun _ => rfl) fun _ => .leaf (Symbol.accepted_of_unset rfl)
  | make target recipe line =>
      exact .presented rfl (fun _ => rfl) fun _ => Tree.everywhere_recipe recipe line
  | build target description =>
      rw [apply]
      split
      · exact .refused _ _
      · rename_i tree events isBuilt
        obtain ⟨rfl, accepted⟩ := Tree.build_eq_ok (by rw [isBuilt])
        exact .presented rfl (fun _ => rfl) fun _ => accepted
  | wrap target name line height =>
      rw [apply]
      split
      · exact .refused _ _
      · rename_i tree held
        exact .carriedOut (.wraps held name line height)
  | setPayload target path payload =>
      rw [apply]
      split
      · exact .refused _ _
      · rename_i node found
        split
        · exact .refused _ _
        · rename_i changed stored
          exact .carriedOut (.changes found (.setPayload stored) (.setPayload · stored))
  | insert child parent path =>
      rw [apply]
      dsimp only
      split
      · rename_i changed target inserted
        obtain ⟨tree, node, held, found, rfl⟩ := Tree.exists_of_insert_eq_ok inserted
        cases child with
        | none => cases held
        | some child =>
            have moves : bench.destination (.insert (some child) (some target) path) =
                fun slot =>
                  some (if child = slot then bench.nextChild ⟨target, path⟩ else .root slot) := by
              funext slot
              simp [destination, Operation.displaced, position]
            apply Outcome.carriedOut
            rw [moves]
            exact .attaches held found
      · exact .refused _ _
      · exact .refused _ _
  | append child parent path =>
      rw [apply]
      split
      · rename_i rest taken
        obtain ⟨isEmpty, rfl⟩ := Prod.mk.inj taken
        exact .refused _ _
      · rename_i tree rest taken
        obtain ⟨held, rfl⟩ := Prod.mk.inj taken
        split
        · exact .refused _ _
        · rename_i node found
          exact .carriedOut (.attaches held found)
  | appendAll target children =>
      rw [apply]
      split
      · rename_i rest taken
        obtain ⟨isEmpty, rfl⟩ := Prod.mk.inj taken
        rw [erase_of_empty isEmpty]
        exact .refused _ _
      · rename_i tree rest taken
        obtain ⟨held, rfl⟩ := Prod.mk.inj taken
        exact .carriedOut (.gathers held children)
  | copy source path target =>
      rw [apply]
      split
      · exact .refused _ _
      · rename_i node found
        rw [Tree.copy_eq]
        exact .presented rfl (fun _ => rfl) fun accepted => accepted.at? (at?_of_find found)
  | release slot =>
      cases slot with
      | none => exact .carriedOut .rests
      | some target =>
          apply Outcome.carriedOut
          rw [destination_of_displaced rfl fun _ => rfl]
          exact .takes target

/-- Whether it is refused or not, a step has one of the effects. -/
theorem effect_apply (bench : Workbench) (operation : Operation) :
    bench.Effect (bench.whereabouts operation) (bench.apply operation).bench := by
  have outcome := bench.outcome_apply operation
  unfold whereabouts
  generalize bench.apply operation = report at outcome
  cases outcome with
  | carriedOut effect => exact effect
  | refused refusal events =>
      dsimp only
      cases operation.handedOver with
      | none => exact .rests
      | some target =>
          simp only [Option.some.injEq]
          exact .takes target

/-- A step that is refused leaves all trees as they were, but for one that was
handed over to it. -/
theorem get?_of_error
    {bench : Workbench}
    {operation : Operation}
    {refusal : Refusal}
    {slot : String}
    (refused : (bench.apply operation).result = .error refusal)
    (isKept : operation.handedOver ≠ some slot) :
    (bench.apply operation).bench.get? slot = bench.get? slot := by
  have outcome := bench.outcome_apply operation
  generalize bench.apply operation = report at outcome refused
  cases outcome with
  | carriedOut effect => cases refused
  | refused refusal events =>
      cases handed : operation.handedOver with
      | none => rfl
      | some child =>
          have isOther : slot ≠ child := by
            rintro rfl
            exact isKept handed
          exact get?_erase_of_ne isOther bench

/-! ## Accepted payloads -/

namespace AllAccepted

variable {bench : Workbench}

theorem put
    {tree : Tree}
    (accepted : bench.AllAccepted)
    (ofTree : tree.Everywhere Symbol.Accepted)
    (target : String) :
    (bench.put target tree).AllAccepted := by
  intro slot held isHeld
  rw [get?_put] at isHeld
  split at isHeld
  · obtain rfl := Option.some.inj isHeld
    exact ofTree
  · exact accepted slot held isHeld

theorem erase (accepted : bench.AllAccepted) (target : String) :
    (bench.erase target).AllAccepted := by
  intro slot held isHeld
  rw [get?_erase] at isHeld
  split at isHeld
  · cases isHeld
  · exact accepted slot held isHeld

theorem takeAll (accepted : bench.AllAccepted) (slots : List String) :
    (bench.takeAll slots).2.AllAccepted := by
  intro slot held isHeld
  rw [get?_takeAll] at isHeld
  split at isHeld
  · cases isHeld
  · exact accepted slot held isHeld

theorem change
    {target : String}
    {path : List Nat}
    {node changed : Tree}
    (accepted : bench.AllAccepted)
    (found : bench.at? ⟨target, path⟩ = some node)
    (ofChanged : changed.Everywhere Symbol.Accepted) :
    (bench.change target path fun _ => changed).AllAccepted := by
  obtain ⟨before, after, held, -, modified, -, isPut⟩ := exists_change found changed
  rw [isPut]
  exact accepted.put ((accepted target before held).modifyAt? ofChanged modified) target

/-- No effect brings a payload that is not accepted. -/
theorem of_effect
    {moves : String → Option Place}
    {next : Workbench}
    (accepted : bench.AllAccepted)
    (effect : bench.Effect moves next) :
    next.AllAccepted := by
  cases effect with
  | rests => exact accepted
  | takes target => exact accepted.erase target
  | presents target tree ofTree => exact accepted.put (ofTree accepted) target
  | changes found retains ofNode => exact accepted.change found (ofNode (accepted.at? found))
  | wraps held name line height =>
      exact accepted.put ((accepted _ _ held).wrap name line height) _
  | attaches held found =>
      refine (accepted.erase _).change found ?_
      exact ((accepted.erase _).at? found).extend (by simpa using accepted _ _ held)
  | gathers held children =>
      refine ((accepted.erase _).takeAll children).put ?_ _
      refine (accepted _ _ held).extend fun child taken => ?_
      obtain ⟨slot, isHeld⟩ := held_of_mem_takeAll taken
      exact accepted.erase _ slot child isHeld

end AllAccepted

/-! ## Names, kinds and lines -/

/-- A change at a place retains all trees if it retains the node there. -/
theorem retained_change
    {bench : Workbench}
    {target slot : String}
    {path : List Nat}
    {node changed tree : Tree}
    (found : bench.at? ⟨target, path⟩ = some node)
    (retains : changed.Retains node)
    (held : bench.get? slot = some tree) :
    ∃ after, (bench.change target path fun _ => changed).get? slot = some after ∧
      after.Retains tree := by
  obtain ⟨before, after, isHeld, leads, modified, -, isPut⟩ := exists_change found changed
  rw [isPut]
  by_cases isTarget : slot = target
  · subst isTarget
    obtain rfl : before = tree := Option.some.inj (isHeld.symm.trans held)
    exact ⟨after, get?_put_self .., .modifyAt? leads retains modified⟩
  · exact ⟨tree, (get?_put_of_ne isTarget bench after).trans held, .refl tree⟩

/-- A tree that stays under its name is retained. -/
theorem retained_of_get?
    {bench : Workbench}
    {slot : String}
    {tree : Tree}
    (held : bench.get? slot = some tree) :
    ∃ after, bench.at? (.root slot) = some after ∧ after.Retains tree :=
  ⟨tree, (bench.at?_root slot).trans held, .refl tree⟩

/-- A tree is retained where the trees under all names but one stay. -/
theorem retained_elsewhere
    {bench next : Workbench}
    {target slot : String}
    {tree : Tree}
    {place : Place}
    (others : ∀ other, other ≠ target → next.get? other = bench.get? other)
    (held : bench.get? slot = some tree)
    (goes : (if target = slot then none else some (Place.root slot)) = some place) :
    ∃ after, next.at? place = some after ∧ after.Retains tree := by
  split at goes
  · cases goes
  · rename_i isOther
    obtain rfl := Option.some.inj goes
    exact retained_of_get? ((others slot (Ne.symm isOther)).trans held)

/-- A tree that is appended with others below a root is found behind the
children of the root and behind the trees taken before it. -/
theorem retained_gather
    {bench : Workbench}
    {target slot : String}
    {parent tree : Tree}
    {children : List String}
    (isParent : bench.get? target = some parent)
    (held : bench.get? slot = some tree) :
    ∃ after,
      (((bench.erase target).takeAll children).2.put target
        (parent.appendAll ((bench.erase target).takeAll children).1).value).at?
          (bench.position slot (.appendAll target children)) = some after ∧
      after.Retains tree := by
  rw [position]
  split
  · rename_i stays
    by_cases isTarget : slot = target
    · subst isTarget
      obtain rfl : parent = tree := Option.some.inj (isParent.symm.trans held)
      exact ⟨_, (at?_root ..).trans (get?_put_self ..), .extend parent _⟩
    · apply retained_of_get?
      rw [get?_put_of_ne isTarget, get?_takeAll, if_neg (stays.resolve_left (Ne.symm isTarget)),
        get?_erase_of_ne isTarget, held]
  · rename_i moves
    obtain ⟨isOther, among⟩ := not_or.mp moves
    have count : bench.childCount (.root target) = parent.children.length := by
      rw [childCount, at?_root, isParent, Option.elim_some]
    have heldBefore : (bench.erase target).get? slot = some tree := by
      rw [get?_erase_of_ne (Ne.symm isOther), held]
    refine ⟨tree, at?_eq_some_iff.mpr ⟨_, get?_put_self .., ?_⟩, .refl tree⟩
    rw [count, Tree.at?_cons, Tree.appendAll, Tree.children_node,
      List.getElem?_append_right (Nat.le_add_right _ _), Nat.add_sub_cancel_left,
      getElem?_takeAll heldBefore (Decidable.not_not.mp among)]
    exact Tree.at?_nil tree

/-- Every tree that an effect leaves on the bench keeps its nodes. -/
theorem Effect.retained
    {bench next : Workbench}
    {moves : String → Option Place}
    (effect : bench.Effect moves next)
    {slot : String}
    {tree : Tree}
    (held : bench.get? slot = some tree)
    {place : Place}
    (goes : moves slot = some place) :
    ∃ after, next.at? place = some after ∧ after.Retains tree := by
  cases effect with
  | rests =>
      obtain rfl := Option.some.inj goes
      exact retained_of_get? held
  | takes target =>
      exact retained_elsewhere (fun other isOther => get?_erase_of_ne isOther bench) held goes
  | presents target new ofNew =>
      exact retained_elsewhere (fun other isOther => get?_put_of_ne isOther bench new) held goes
  | changes found retains ofNode =>
      obtain rfl := Option.some.inj goes
      rw [at?_root]
      exact retained_change found retains held
  | @wraps target wrapped isHeld name line height =>
      obtain rfl := Option.some.inj goes
      split
      · rename_i isTarget
        subst isTarget
        obtain rfl : wrapped = tree := Option.some.inj (isHeld.symm.trans held)
        refine ⟨wrapped, at?_eq_some_iff.mpr ⟨_, get?_put_self .., ?_⟩, .refl wrapped⟩
        exact Tree.at?_wrap wrapped name line height
      · rename_i isOther
        apply retained_of_get?
        rw [get?_put_of_ne (Ne.symm isOther), held]
  | @attaches child target path attached node isHeld found =>
      obtain rfl := Option.some.inj goes
      split
      · rename_i isChild
        subst isChild
        obtain rfl : attached = tree := Option.some.inj (isHeld.symm.trans held)
        obtain ⟨before, after, -, -, -, atPath, isPut⟩ :=
          exists_change found (node.append attached)
        rw [isPut]
        refine ⟨attached, at?_eq_some_iff.mpr ⟨after, get?_put_self .., ?_⟩, .refl attached⟩
        simp [nextChild, childCount, at?_of_erase found, Place.below, Tree.at?_append, atPath,
          Tree.at?_cons, Tree.append]
      · rename_i isOther
        rw [at?_root]
        refine retained_change found (.extend node [attached]) ?_
        rw [get?_erase_of_ne (Ne.symm isOther), held]
  | gathers isParent children =>
      obtain rfl := Option.some.inj goes
      exact retained_gather isParent held

/-! ## Any number of steps -/

/-- The bench after some steps. -/
def run (bench : Workbench) (operations : List Operation) : Workbench :=
  operations.foldl (fun bench operation => (bench.apply operation).bench) bench

/-- Where some steps leave the node at a place, unless its tree goes. -/
def track (bench : Workbench) : List Operation → Place → Option Place
  | [], place => some place
  | operation :: operations, place =>
    (bench.whereabouts operation place.slot).bind fun root =>
      (bench.apply operation).bench.track operations (root.below place.path)

theorem run_cons (bench : Workbench) (first : Operation) (operations : List Operation) :
    bench.run (first :: operations) = (bench.apply first).bench.run operations :=
  rfl

theorem run_append (bench : Workbench) (operations further : List Operation) :
    bench.run (operations ++ further) = (bench.run operations).run further :=
  List.foldl_append

theorem AllAccepted.run
    {bench : Workbench}
    (accepted : bench.AllAccepted)
    (operations : List Operation) :
    (bench.run operations).AllAccepted := by
  induction operations generalizing bench with
  | nil => exact accepted
  | cons operation operations inductionHypothesis =>
      rw [run_cons]
      exact inductionHypothesis (accepted.of_effect (bench.effect_apply operation))

/-- A step leaves the name, the kind and the line of every node. -/
theorem exists_sameButPayload_apply
    {bench : Workbench}
    {operation : Operation}
    {place root : Place}
    {node : Tree}
    (found : bench.at? place = some node)
    (goes : bench.whereabouts operation place.slot = some root) :
    ∃ kept, (bench.apply operation).bench.at? (root.below place.path) = some kept ∧
      node.symbol.SameButPayload kept.symbol := by
  obtain ⟨tree, held, leads⟩ := at?_eq_some_iff.mp found
  obtain ⟨after, isAfter, retains⟩ := (bench.effect_apply operation).retained held goes
  obtain ⟨kept, isKept, same⟩ := retains place.path node leads
  refine ⟨kept, ?_, same⟩
  rw [at?_below, isAfter]
  exact isKept

/-- A node that is tracked through some steps keeps its name, kind and line. -/
theorem exists_sameButPayload_run
    {bench : Workbench}
    {operations : List Operation}
    {place last : Place}
    {node : Tree}
    (found : bench.at? place = some node)
    (goes : bench.track operations place = some last) :
    ∃ kept, (bench.run operations).at? last = some kept ∧
      node.symbol.SameButPayload kept.symbol := by
  induction operations generalizing bench place node with
  | nil =>
      obtain rfl : place = last := Option.some.inj goes
      exact ⟨node, found, .refl node.symbol⟩
  | cons operation operations inductionHypothesis =>
      obtain ⟨root, isRoot, onward⟩ := Option.bind_eq_some_iff.mp goes
      obtain ⟨next, isNext, sameFirst⟩ := exists_sameButPayload_apply found isRoot
      obtain ⟨kept, isKept, sameThen⟩ := inductionHypothesis isNext onward
      rw [run_cons]
      exact ⟨kept, isKept, sameFirst.trans sameThen⟩

/-- After any steps at an empty bench, every node has a payload that its kind
accepts, so that grammar symbols and tokens without a value have none.  Further
steps keep the name, kind and line of every node whose tree does not go, and a
step that is refused leaves everything that was not handed over to it. -/
theorem run_conserves (operations : List Operation) :
    (∀ place node, (run {} operations).at? place = some node →
      node.symbol.Accepted ∧
        (node.symbol.kind ∈ [.nonTerminal, .epsilon, .token] →
          node.symbol.payload = .unset)) ∧
    (∀ further place last node,
      (run {} operations).at? place = some node →
      (run {} operations).track further place = some last →
        ∃ kept, (run {} (operations ++ further)).at? last = some kept ∧
          node.symbol.SameButPayload kept.symbol) ∧
    (∀ operation refusal,
      ((run {} operations).apply operation).result = .error refusal →
        ∀ slot, operation.handedOver ≠ some slot →
          ((run {} operations).apply operation).bench.get? slot =
            (run {} operations).get? slot) := by
  have accepted : (run {} operations).AllAccepted :=
    AllAccepted.run allAccepted_empty operations
  refine ⟨fun place node found => ?_, fun further place last node found goes => ?_,
    fun operation refusal refused slot isKept => get?_of_error refused isKept⟩
  · have ofNode := (accepted.at? found).root
    exact ⟨ofNode, ofNode.payload_eq_unset⟩
  · rw [run_append]
    exact exists_sameButPayload_run found goes

/-- A leaf is inserted below a tree that is wrapped afterwards.  Its payload
can be changed there but not to one of another kind, and a missing child leaves
the tree below which it was to be inserted. -/
theorem run_conserves_insertedLeaf :
    (∃ kept,
      (run {} ([.make "leaf" (.identifier "x") 2, .make "tree" (.nonTerminal "Exp") 1] ++
        [.insert (some "leaf") (some "tree") [], .wrap "tree" "Stmt" 1 1,
          .setPayload "tree" [0, 0] (.integer 7), .setPayload "tree" [0, 0] (.text "y")])).at?
        ⟨"tree", [0, 0]⟩ = some kept ∧
      kept.symbol.name = "ID" ∧ kept.symbol.kind = .identifier ∧ kept.symbol.line = 2) ∧
    ((run {} [.make "leaf" (.identifier "x") 2, .make "tree" (.nonTerminal "Exp") 1]).apply
      (.insert none (some "tree") [])).bench.get? "tree" = some (.nonTerminal "Exp" 1) := by
  obtain ⟨-, tracked, refused⟩ :=
    run_conserves [.make "leaf" (.identifier "x") 2, .make "tree" (.nonTerminal "Exp") 1]
  constructor
  · obtain ⟨kept, isKept, same⟩ :=
      tracked
        [.insert (some "leaf") (some "tree") [], .wrap "tree" "Stmt" 1 1,
          .setPayload "tree" [0, 0] (.integer 7), .setPayload "tree" [0, 0] (.text "y")]
        (.root "leaf") ⟨"tree", [0, 0]⟩ (.identifier "x" 2) (by rfl) (by rfl)
    exact ⟨kept, isKept, same.name, same.kind, same.line⟩
  · exact refused (.insert none (some "tree") []) _ (by rfl) "tree" (by simp [Operation.handedOver])

end Workbench
end SyntaxTree
