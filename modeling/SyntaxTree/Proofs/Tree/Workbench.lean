import SyntaxTree.Proofs.Tree.Building

/-!
# Trees and places on a workbench

Putting a tree under a name and taking one off the bench leave the trees under
all other names.  The nodes on a bench are at places: a name, and a path below
the tree under it.
-/

namespace SyntaxTree

/-- A node on a bench: a name, and a path below the tree under it. -/
structure Place where
  slot : String
  path : List Nat

namespace Place

/-- The root of the tree under a name. -/
def root (slot : String) : Place :=
  ⟨slot, []⟩

/-- The node at a path below the one at a place. -/
def below (place : Place) (path : List Nat) : Place :=
  ⟨place.slot, place.path ++ path⟩

end Place

namespace Workbench

/-! ## Trees under names -/

theorem lookup_cons (name other : String) (tree : Tree) (slots : List (String × Tree)) :
    ((name, tree) :: slots).lookup other =
      if other = name then some tree else slots.lookup other := by
  rw [List.lookup_cons]
  by_cases isName : other = name
  · simp [isName]
  · rw [beq_false_of_ne isName, if_neg isName]

theorem lookup_filter (slots : List (String × Tree)) (slot other : String) :
    (slots.filter (·.1 != slot)).lookup other =
      if other = slot then none else slots.lookup other := by
  induction slots with
  | nil => simp
  | cons entry slots inductionHypothesis =>
      obtain ⟨name, tree⟩ := entry
      by_cases isSlot : name = slot
      · rw [List.filter_cons_of_neg (by simpa using isSlot), inductionHypothesis, lookup_cons,
          isSlot]
        split <;> rfl
      · rw [List.filter_cons_of_pos (by simpa using isSlot), lookup_cons, lookup_cons,
          inductionHypothesis]
        by_cases isName : other = name
        · rw [if_pos isName, if_pos isName, if_neg (isName ▸ isSlot)]
        · rw [if_neg isName, if_neg isName]

theorem get?_erase (bench : Workbench) (slot other : String) :
    (bench.erase slot).get? other = if other = slot then none else bench.get? other :=
  lookup_filter bench.slots slot other

theorem get?_put (bench : Workbench) (slot other : String) (tree : Tree) :
    (bench.put slot tree).get? other = if other = slot then some tree else bench.get? other := by
  rw [get?, put, lookup_cons]
  split
  · rfl
  · rename_i isOther
    exact (bench.get?_erase slot other).trans (if_neg isOther)

@[simp] theorem get?_put_self (bench : Workbench) (slot : String) (tree : Tree) :
    (bench.put slot tree).get? slot = some tree :=
  (bench.get?_put slot slot tree).trans (if_pos rfl)

theorem get?_put_of_ne
    {slot other : String}
    (isOther : other ≠ slot)
    (bench : Workbench)
    (tree : Tree) :
    (bench.put slot tree).get? other = bench.get? other :=
  (bench.get?_put slot other tree).trans (if_neg isOther)

theorem get?_erase_of_ne
    {slot other : String}
    (isOther : other ≠ slot)
    (bench : Workbench) :
    (bench.erase slot).get? other = bench.get? other :=
  (bench.get?_erase slot other).trans (if_neg isOther)

/-- Nothing is taken from under a name that holds no tree. -/
theorem erase_of_empty
    {bench : Workbench}
    {slot : String}
    (isEmpty : bench.get? slot = none) :
    bench.erase slot = bench := by
  have absent := List.lookup_eq_none_iff.mp isEmpty
  apply Workbench.ext
  apply List.filter_eq_self.mpr
  intro entry member
  rw [bne_comm]
  exact absent entry member

theorem takeAll_cons (bench : Workbench) (slot : String) (slots : List String) :
    bench.takeAll (slot :: slots) =
      ((bench.get? slot).toList ++ ((bench.erase slot).takeAll slots).1,
        ((bench.erase slot).takeAll slots).2) :=
  rfl

theorem get?_takeAll (bench : Workbench) (slots : List String) (other : String) :
    (bench.takeAll slots).2.get? other = if other ∈ slots then none else bench.get? other := by
  induction slots generalizing bench with
  | nil => simp [takeAll]
  | cons slot slots inductionHypothesis =>
      rw [takeAll_cons, inductionHypothesis, get?_erase]
      by_cases isSlot : other = slot <;> by_cases among : other ∈ slots <;> simp [isSlot, among]

theorem held_of_mem_takeAll
    {bench : Workbench}
    {slots : List String}
    {tree : Tree}
    (taken : tree ∈ (bench.takeAll slots).1) :
    ∃ slot, bench.get? slot = some tree := by
  induction slots generalizing bench with
  | nil => simp [takeAll] at taken
  | cons slot slots inductionHypothesis =>
      rw [takeAll_cons] at taken
      rcases List.mem_append.mp taken with here | later
      · exact ⟨slot, Option.mem_toList.mp here⟩
      · obtain ⟨other, held⟩ := inductionHypothesis later
        rw [get?_erase] at held
        split at held
        · cases held
        · exact ⟨other, held⟩

/-- Among the trees taken, one is behind those under the names before its own. -/
theorem getElem?_takeAll
    {bench : Workbench}
    {slot : String}
    {tree : Tree}
    (held : bench.get? slot = some tree)
    {slots : List String}
    (among : slot ∈ slots) :
    (bench.takeAll slots).1[(bench.takeAll (slots.takeWhile (· ≠ slot))).1.length]? =
      some tree := by
  induction slots generalizing bench with
  | nil => simp at among
  | cons first slots inductionHypothesis =>
      by_cases isFirst : first = slot
      · subst isFirst
        rw [takeAll_cons, held]
        simp [takeAll]
      · have held : (bench.erase first).get? slot = some tree := by
          rw [get?_erase_of_ne (Ne.symm isFirst), held]
        have among : slot ∈ slots := (List.mem_cons.mp among).resolve_left (Ne.symm isFirst)
        rw [List.takeWhile_cons_of_pos (by simpa using isFirst), takeAll_cons, takeAll_cons,
          List.length_append, List.getElem?_append_right (Nat.le_add_right _ _),
          Nat.add_sub_cancel_left]
        exact inductionHypothesis held among

/-! ## Nodes at places -/

/-- The subtree at a place. -/
def at? (bench : Workbench) (place : Place) : Option Tree :=
  bench.node? (some place.slot) place.path

theorem at?_eq_some_iff
    {bench : Workbench}
    {place : Place}
    {node : Tree} :
    bench.at? place = some node ↔
      ∃ tree, bench.get? place.slot = some tree ∧ tree.at? place.path = some node :=
  Option.bind_eq_some_iff

theorem at?_root (bench : Workbench) (slot : String) :
    bench.at? (.root slot) = bench.get? slot := by
  simp [at?, node?, Place.root]

theorem at?_below (bench : Workbench) (place : Place) (path : List Nat) :
    bench.at? (place.below path) = (bench.at? place).bind (·.at? path) := by
  simp only [at?, node?, Place.below, Option.bind_some, Tree.at?_append, Option.bind_assoc]

theorem at?_of_find
    {bench : Workbench}
    {slot : String}
    {path : List Nat}
    {node : Tree}
    (found : bench.find slot path = .ok node) :
    bench.at? ⟨slot, path⟩ = some node := by
  rw [find] at found
  split at found
  · cases found
  · rename_i tree held
    split at found
    · cases found
    · rename_i other leads
      obtain rfl : other = node := Except.ok.inj found
      exact at?_eq_some_iff.mpr ⟨tree, held, leads⟩

/-- A node that is found after a tree was taken off the bench was there
before. -/
theorem at?_of_erase
    {bench : Workbench}
    {slot : String}
    {place : Place}
    {node : Tree}
    (found : (bench.erase slot).at? place = some node) :
    bench.at? place = some node := by
  obtain ⟨tree, held, leads⟩ := at?_eq_some_iff.mp found
  rw [get?_erase] at held
  split at held
  · cases held
  · exact at?_eq_some_iff.mpr ⟨tree, held, leads⟩

/-- A change at a place puts a tree under the name in which the place holds
the changed node. -/
theorem exists_change
    {bench : Workbench}
    {slot : String}
    {path : List Nat}
    {node : Tree}
    (found : bench.at? ⟨slot, path⟩ = some node)
    (changed : Tree) :
    ∃ before after, bench.get? slot = some before ∧ before.at? path = some node ∧
      before.modifyAt? (fun _ => changed) path = some after ∧ after.at? path = some changed ∧
        bench.change slot path (fun _ => changed) = bench.put slot after := by
  obtain ⟨before, isHeld, leads⟩ := at?_eq_some_iff.mp found
  obtain ⟨after, modified, atPath⟩ := Tree.exists_modifyAt? (fun _ => changed) leads
  refine ⟨before, after, isHeld, leads, modified, atPath, ?_⟩
  dsimp only at isHeld
  rw [change, isHeld, Option.bind_some, modified]

end Workbench
end SyntaxTree
