import Mathlib.Algebra.GroupWithZero.Nat
import Mathlib.Data.List.Chain
import Mathlib.Data.List.TakeWhile
import SyntaxTree.Proofs.Tree.Path
import SyntaxTree.Proofs.Tree.Preorder

/-!
# Trees from the depths of their nodes

A walk lists the nodes of a tree as a recursion over the tree does.  The symbols
of the list and their depths are enough to rebuild the tree: read from the end of
the list, every symbol takes the trees behind it that are deeper for its subtrees.
So no two trees have the same list, and a list belongs to a tree if and only if
its depths are those of nested nodes.
-/

namespace SyntaxTree

/-! ## Walks by recursion -/

namespace Tree

mutual

/-- Visits of a tree whose root has the given depth: the root comes first, and
the visits of its subtrees follow from left to right, one level deeper. -/
def visitsFrom (depth : Nat) : Tree → List Visit
  | .node symbol children =>
    ⟨depth, .node symbol children⟩ :: visitsBelow (depth + 1) children

/-- Visits of trees side by side at one depth. -/
def visitsBelow (depth : Nat) : List Tree → List Visit
  | [] => []
  | tree :: forest => visitsFrom depth tree ++ visitsBelow depth forest

end

theorem visitsBelow_eq_flatMap (depth : Nat) (forest : List Tree) :
    visitsBelow depth forest = forest.flatMap (visitsFrom depth) := by
  induction forest with
  | nil => rw [visitsBelow, List.flatMap_nil]
  | cons tree forest inductionHypothesis =>
      rw [visitsBelow, inductionHypothesis, List.flatMap_cons]

theorem forestCount_eq_sum (forest : List Tree) :
    forestCount forest = (forest.map nodeCount).sum := by
  induction forest with
  | nil => simp
  | cons tree forest inductionHypothesis =>
      rw [forestCount_cons, inductionHypothesis, List.map_cons, List.sum_cons]

/-- The nodes below the root are those of its subtrees. -/
theorem size_eq_sum (tree : Tree) : tree.size = 1 + (tree.children.map size).sum := by
  have sizes : tree.children.map size = tree.children.map nodeCount :=
    List.map_congr_left fun child _ => size_eq_nodeCount child
  rw [sizes, size_eq_nodeCount, nodeCount_eq, forestCount_eq_sum, Nat.add_comm]

end Tree

namespace Visit

/-- A walk over a tree visits it by recursion. -/
theorem ofAgenda_eq_visitsFrom (depth : Nat) (tree : Tree) :
    ofAgenda [⟨depth, tree⟩] = tree.visitsFrom depth := by
  induction tree using Tree.induct generalizing depth with
  | step symbol children inductionHypothesis =>
      have below : sideBySide (depth + 1) children = Tree.visitsBelow (depth + 1) children := by
        rw [Tree.visitsBelow_eq_flatMap]
        exact List.flatMap_congr fun child member => inductionHypothesis child member (depth + 1)
      rw [walk_node, below, Tree.visitsFrom]

@[simp] theorem head?_ofAgenda (agenda : List Visit) :
    (ofAgenda agenda).head? = agenda.head? := by
  cases agenda with
  | nil => rw [ofAgenda_nil]
  | cons visit agenda => rw [ofAgenda_cons, List.head?_cons, List.head?_cons]

end Visit

/-- What holds of all visited symbols holds everywhere in the tree. -/
theorem Tree.everywhere_iff_walk
    {property : Symbol → Prop}
    (depth : Nat)
    (tree : Tree) :
    tree.Everywhere property ↔ ∀ visit ∈ Visit.ofAgenda [⟨depth, tree⟩], property visit.symbol := by
  induction tree using Tree.induct generalizing depth with
  | step symbol children inductionHypothesis =>
      rw [everywhere_node, Visit.walk_node, List.forall_mem_cons]
      apply and_congr Iff.rfl
      simp only [Visit.sideBySide, List.mem_flatMap, forall_exists_index, and_imp]
      constructor
      · intro below visit child member walked
        exact (inductionHypothesis child member (depth + 1)).mp (below child member) visit walked
      · intro below child member
        apply (inductionHypothesis child member (depth + 1)).mpr
        intro visit walked
        exact below visit child member walked

/-! ## Entries -/

/-- A symbol with the depth of its node. -/
structure Entry where
  depth : Nat
  symbol : Symbol
deriving DecidableEq

/-- What a visit shows of its node. -/
def Visit.entry (visit : Visit) : Entry :=
  ⟨visit.depth, visit.symbol⟩

/-- The symbols of a tree in preorder, each with its depth. -/
def Tree.entries (tree : Tree) : List Entry :=
  tree.preorder.map Visit.entry

namespace Entry

/-- Whether a tree is deeper than the symbol of an entry. -/
def isAbove (entry : Entry) (found : Visit) : Bool :=
  entry.depth < found.depth

/-- Puts a symbol in front of the trees that were found behind it.  The trees up to
the first one that is not deeper become its subtrees. -/
def gather (entry : Entry) (found : List Visit) : List Visit :=
  ⟨entry.depth, .node entry.symbol ((found.takeWhile entry.isAbove).map (·.tree))⟩ ::
    found.dropWhile entry.isAbove

/-- The trees that a list of entries describes, with the depths of their roots. -/
def rebuild (entries : List Entry) : List Visit :=
  entries.foldr gather []

@[simp] theorem rebuild_nil : rebuild [] = [] :=
  rfl

@[simp] theorem rebuild_cons (entry : Entry) (entries : List Entry) :
    rebuild (entry :: entries) = entry.gather (rebuild entries) :=
  rfl

/-- No entry is more than one level below the entry before it. -/
def Stepwise (entries : List Entry) : Prop :=
  entries.IsChain fun before after => after.depth ≤ before.depth + 1

/-- The depths of nested nodes: zero at the root, greater everywhere else, and
never growing by more than one level. -/
structure Nested (entries : List Entry) : Prop where
  root : ∀ first ∈ entries.head?, first.depth = 0
  below : ∀ later ∈ entries.tail, 1 ≤ later.depth
  stepwise : Stepwise entries

/-- A token beside a list of two tokens comes out of its depth. -/
example :
    let symbol := fun name : String => (⟨name, .token, 1, .unset⟩ : Symbol)
    rebuild [⟨0, symbol "R"⟩, ⟨1, symbol "A"⟩, ⟨2, symbol "B"⟩, ⟨2, symbol "C"⟩, ⟨1, symbol "D"⟩] =
      [⟨0, .node (symbol "R")
        [.node (symbol "A") [.leaf (symbol "B"), .leaf (symbol "C")], .leaf (symbol "D")]⟩] :=
  rfl

end Entry

/-! ## Rebuilding what was walked over -/

namespace Visit

/-- Along the agenda, the depth does not grow. -/
def Falling (agenda : List Visit) : Prop :=
  agenda.Pairwise fun before after => after.depth ≤ before.depth

theorem depth_of_mem_below
    {visit child : Visit}
    (member : child ∈ visit.below) :
    child.depth = visit.depth + 1 := by
  obtain ⟨tree, -, rfl⟩ := List.mem_map.mp member
  rfl

/-- The agenda of a walk stays falling when a node gives way to its subtrees. -/
theorem Falling.visit
    {visit : Visit}
    {agenda : List Visit}
    (falling : Falling (visit :: agenda)) :
    Falling (visit.below ++ agenda) := by
  obtain ⟨notDeeper, falls⟩ := List.pairwise_cons.mp falling
  refine List.pairwise_append.mpr ⟨?_, falls, ?_⟩
  · apply List.pairwise_of_forall_mem_list
    intro before isBefore after isAfter
    exact Nat.le_of_eq ((depth_of_mem_below isAfter).trans (depth_of_mem_below isBefore).symm)
  · intro child isChild other isOther
    rw [depth_of_mem_below isChild]
    exact Nat.le_succ_of_le (notDeeper other isOther)

/-- A node takes back the subtrees that it gave way to, and no other tree. -/
theorem gather_entry
    {visit : Visit}
    {agenda : List Visit}
    (falling : Falling (visit :: agenda)) :
    visit.entry.gather (visit.below ++ agenda) = visit :: agenda := by
  have deeper : ∀ child ∈ visit.below, visit.entry.isAbove child = true := by
    intro child member
    apply decide_eq_true
    rw [depth_of_mem_below member]
    exact Nat.lt_succ_self visit.depth
  have split : agenda.takeWhile visit.entry.isAbove = [] ∧
      agenda.dropWhile visit.entry.isAbove = agenda := by
    cases agenda with
    | nil => exact ⟨rfl, rfl⟩
    | cons other agenda =>
        have notDeeper : ¬ visit.entry.isAbove other = true := by
          intro isAbove
          have within := (List.pairwise_cons.mp falling).1 other List.mem_cons_self
          exact absurd (of_decide_eq_true isAbove) (Nat.not_lt.mpr within)
        exact ⟨List.takeWhile_cons_of_neg notDeeper, List.dropWhile_cons_of_neg notDeeper⟩
  have trees : visit.below.map (·.tree) = visit.tree.children := by
    rw [below, List.map_map]
    exact List.map_id _
  rw [Entry.gather, List.takeWhile_append_of_pos deeper, List.dropWhile_append_of_pos deeper,
    split.1, split.2, List.append_nil, trees]
  obtain ⟨depth, root, children⟩ := visit
  rfl

/-- Rebuilding undoes a walk over a falling agenda. -/
theorem rebuild_ofAgenda
    {agenda : List Visit}
    (falling : Falling agenda) :
    Entry.rebuild ((ofAgenda agenda).map entry) = agenda := by
  match agenda with
  | [] => simp
  | visit :: agenda =>
      rw [ofAgenda_cons, List.map_cons, Entry.rebuild_cons, rebuild_ofAgenda falling.visit,
        gather_entry falling]
termination_by agendaCount agenda
decreasing_by
  rw [agendaCount_visit]
  exact Nat.lt_succ_self _

/-- A walk over a falling agenda goes down by single levels. -/
theorem stepwise_ofAgenda
    {agenda : List Visit}
    (falling : Falling agenda) :
    Entry.Stepwise ((ofAgenda agenda).map entry) := by
  match agenda with
  | [] =>
      rw [ofAgenda_nil]
      exact List.IsChain.nil
  | visit :: agenda =>
      rw [ofAgenda_cons, List.map_cons, Entry.Stepwise, List.isChain_cons, List.head?_map,
        head?_ofAgenda]
      refine ⟨?_, stepwise_ofAgenda falling.visit⟩
      intro next isNext
      obtain ⟨following, isFollowing, rfl⟩ := Option.map_eq_some_iff.mp isNext
      rcases List.mem_append.mp (List.mem_of_mem_head? isFollowing) with child | other
      · exact Nat.le_of_eq (depth_of_mem_below child)
      · exact Nat.le_succ_of_le ((List.pairwise_cons.mp falling).1 following other)
termination_by agendaCount agenda
decreasing_by
  rw [agendaCount_visit]
  exact Nat.lt_succ_self _

end Visit

/-! ## Walking over what was rebuilt -/

namespace Entry

theorem falling_gather
    {found : List Visit}
    (falling : Visit.Falling found)
    (entry : Entry) :
    Visit.Falling (entry.gather found) := by
  have rest : Visit.Falling (found.dropWhile entry.isAbove) :=
    falling.sublist (List.dropWhile_sublist _)
  refine List.pairwise_cons.mpr ⟨?_, rest⟩
  intro other member
  have stops := List.head?_dropWhile_not entry.isAbove found
  cases remaining : found.dropWhile entry.isAbove with
  | nil => simp [remaining] at member
  | cons first others =>
      rw [remaining] at member rest stops
      have notDeeper : first.depth ≤ entry.depth :=
        Nat.not_lt.mp (of_decide_eq_false stops)
      rcases List.mem_cons.mp member with rfl | later
      · exact notDeeper
      · exact Nat.le_trans ((List.pairwise_cons.mp rest).1 other later) notDeeper

theorem falling_rebuild (entries : List Entry) : Visit.Falling (rebuild entries) := by
  induction entries with
  | nil => exact List.Pairwise.nil
  | cons entry entries inductionHypothesis => exact falling_gather inductionHypothesis entry

/-- Every tree that was found has the depth of some entry. -/
theorem exists_of_mem_rebuild
    {entries : List Entry}
    {visit : Visit}
    (member : visit ∈ rebuild entries) :
    ∃ entry ∈ entries, entry.depth = visit.depth := by
  induction entries with
  | nil => cases member
  | cons first entries inductionHypothesis =>
      rcases List.mem_cons.mp member with rfl | later
      · exact ⟨first, List.mem_cons_self, rfl⟩
      · obtain ⟨entry, isEntry, same⟩ :=
          inductionHypothesis ((List.dropWhile_sublist _).subset later)
        exact ⟨entry, List.mem_cons_of_mem first isEntry, same⟩

/-- No tree is deeper than the first one, which has the depth of the first entry. -/
theorem depth_le_of_mem_rebuild
    {first : Entry}
    {entries : List Entry}
    {visit : Visit}
    (member : visit ∈ rebuild (first :: entries)) :
    visit.depth ≤ first.depth := by
  rcases List.mem_cons.mp member with rfl | later
  · exact Nat.le_refl _
  · exact (List.pairwise_cons.mp (falling_rebuild (first :: entries))).1 visit later

/-- If the depth grows by single levels, the trees that a symbol takes are one level
below it. -/
theorem depth_eq_of_mem_takeWhile
    {entry : Entry}
    {entries : List Entry}
    (stepwise : Stepwise (entry :: entries))
    {visit : Visit}
    (member : visit ∈ (rebuild entries).takeWhile entry.isAbove) :
    visit.depth = entry.depth + 1 := by
  have isAbove : entry.isAbove visit = true := List.mem_takeWhile_imp member
  have deeper : entry.depth < visit.depth := of_decide_eq_true isAbove
  have isFound : visit ∈ rebuild entries := (List.takeWhile_sublist _).subset member
  cases entries with
  | nil => cases isFound
  | cons next entries =>
      have atMost : next.depth ≤ entry.depth + 1 := (List.isChain_cons_cons.mp stepwise).1
      have notDeeper := depth_le_of_mem_rebuild isFound
      omega

/-- A walk over the trees that were found gives the entries back. -/
theorem map_entry_ofAgenda_rebuild
    {entries : List Entry}
    (stepwise : Stepwise entries) :
    (Visit.ofAgenda (rebuild entries)).map Visit.entry = entries := by
  induction entries with
  | nil => simp
  | cons entry entries inductionHypothesis =>
      have below : ((rebuild entries).takeWhile entry.isAbove).map
          (fun visit => (⟨entry.depth + 1, visit.tree⟩ : Visit)) =
            (rebuild entries).takeWhile entry.isAbove := by
        conv_rhs => rw [← List.map_id ((rebuild entries).takeWhile entry.isAbove)]
        apply List.map_congr_left
        intro visit member
        rw [← depth_eq_of_mem_takeWhile stepwise member]
        rfl
      -- Visiting the symbol puts the trees back in front of which it was found.
      rw [rebuild_cons, gather, Visit.ofAgenda_cons, Visit.below, Tree.children_node, List.map_map,
        Function.comp_def, below, List.takeWhile_append_dropWhile, List.map_cons,
        inductionHypothesis stepwise.tail]
      rfl

end Entry

/-! ## Trees and their entries -/

namespace Tree

theorem falling_root (tree : Tree) : Visit.Falling [⟨0, tree⟩] :=
  List.pairwise_singleton _ _

theorem rebuild_entries (tree : Tree) : Entry.rebuild tree.entries = [⟨0, tree⟩] :=
  Visit.rebuild_ofAgenda tree.falling_root

theorem entries_injective : Function.Injective entries := by
  intro left right same
  have rebuilt : [(⟨0, left⟩ : Visit)] = [⟨0, right⟩] := by
    rw [← rebuild_entries left, ← rebuild_entries right, same]
  cases rebuilt
  rfl

theorem entries_ne_nil (tree : Tree) : tree.entries ≠ [] := by
  rw [entries, preorder, Visit.ofAgenda_cons]
  exact List.cons_ne_nil _ _

theorem nested_entries (tree : Tree) : Entry.Nested tree.entries := by
  constructor
  case root =>
    intro first isFirst
    rw [entries, preorder, List.head?_map, Visit.head?_ofAgenda] at isFirst
    cases isFirst
    rfl
  case below =>
    intro later isLater
    cases tree with
    | node symbol children =>
        rw [entries, preorder, Visit.walk_node, List.map_cons, List.tail_cons] at isLater
        obtain ⟨visit, walked, rfl⟩ := List.mem_map.mp isLater
        exact Visit.depth_le_of_mem_sideBySide walked
  case stepwise => exact Visit.stepwise_ofAgenda tree.falling_root

theorem everywhere_iff_entries {property : Symbol → Prop} {tree : Tree} :
    tree.Everywhere property ↔ ∀ entry ∈ tree.entries, property entry.symbol := by
  rw [everywhere_iff_walk 0, entries, List.forall_mem_map]
  rfl

end Tree

/-- Nested entries are rebuilt to a single tree. -/
theorem Entry.Nested.exists_tree
    {entries : List Entry}
    (nested : Nested entries)
    (isNonempty : entries ≠ []) :
    ∃ tree : Tree, tree.entries = entries := by
  cases entries with
  | nil => contradiction
  | cons first later =>
      have isRoot : first.depth = 0 := nested.root first rfl
      have walked := map_entry_ofAgenda_rebuild nested.stepwise
      -- A second tree would be no deeper than the root, but all other entries are.
      have alone : (rebuild later).dropWhile first.isAbove = [] := by
        apply List.eq_nil_iff_forall_not_mem.mpr
        intro other member
        obtain ⟨entry, isLater, sameDepth⟩ :=
          exists_of_mem_rebuild ((List.dropWhile_sublist _).subset member)
        have below := nested.below entry isLater
        have within := depth_le_of_mem_rebuild (List.mem_cons_of_mem _ member)
        omega
      rw [rebuild_cons, gather, alone, isRoot] at walked
      exact ⟨_, walked⟩

namespace Tree

/-- A walk with an agenda visits a tree as the recursion does: a node, and then its
subtrees from left to right, one level deeper.  The list of visited symbols with
their depths determines the tree.  A list belongs to a tree if and only if it starts
at depth zero, stays below the root afterwards and goes down by single levels; and
the tree has accepted payloads only if and only if the list has. -/
theorem entries_determine_tree :
    (∀ tree : Tree, tree.preorder = tree.visitsFrom 0) ∧
    (∀ tree : Tree, tree.size = 1 + (tree.children.map size).sum) ∧
    (∀ left right : Tree, left.entries = right.entries ↔ left = right) ∧
    ∀ list : List Entry,
      ((∃ tree : Tree, tree.entries = list) ↔ list ≠ [] ∧ Entry.Nested list) ∧
      ((∃ tree : Tree, tree.entries = list ∧ tree.Everywhere Symbol.Accepted) ↔
        list ≠ [] ∧ Entry.Nested list ∧ ∀ entry ∈ list, entry.symbol.Accepted) := by
  have exists_iff : ∀ list : List Entry,
      (∃ tree : Tree, tree.entries = list) ↔ list ≠ [] ∧ Entry.Nested list := by
    intro list
    constructor
    · rintro ⟨tree, rfl⟩
      exact ⟨tree.entries_ne_nil, tree.nested_entries⟩
    · rintro ⟨isNonempty, nested⟩
      exact nested.exists_tree isNonempty
  refine ⟨Visit.ofAgenda_eq_visitsFrom 0, size_eq_sum, fun left right => entries_injective.eq_iff,
    fun list => ⟨exists_iff list, ?_⟩⟩
  constructor
  · rintro ⟨tree, rfl, accepted⟩
    exact ⟨tree.entries_ne_nil, tree.nested_entries, everywhere_iff_entries.mp accepted⟩
  · rintro ⟨isNonempty, nested, accepted⟩
    obtain ⟨tree, rfl⟩ := (exists_iff list).mpr ⟨isNonempty, nested⟩
    exact ⟨tree, rfl, everywhere_iff_entries.mpr accepted⟩

end Tree
end SyntaxTree
