import SyntaxTree.Proofs.Tree.Index
import SyntaxTree.Proofs.Viewer.Rows

/-!
# Visible nodes

A scan for the rows of an outline knows no ancestors, only the depth of the last
fold.  Still it finds exactly the nodes that are visible in the tree: those of a
kind that is shown, below no node that is shown and folded.
-/

namespace SyntaxTree
namespace Tree

/-! ## Visibility -/

/-- The node at a path has a kind that is shown and is folded, so it conceals
what stands below it.  Whether a node is folded is asked by its index. -/
def Conceals
    (isFolded : Nat → Bool)
    (showEpsilon : Bool)
    (tree : Tree)
    (path : List Nat) : Prop :=
  ∃ node, tree.at? path = some node ∧
    node.symbol.kind.isShown showEpsilon = true ∧ isFolded (tree.indexAt path) = true

/-- The node at a path can be seen. -/
structure Visible
    (isFolded : Nat → Bool)
    (showEpsilon : Bool)
    (tree : Tree)
    (path : List Nat) : Prop where
  shown : ∃ node, tree.at? path = some node ∧ node.symbol.kind.isShown showEpsilon = true
  /-- No node above it conceals it. -/
  exposed : ∀ front, front <+: path → front ≠ path → ¬ tree.Conceals isFolded showEpsilon front

section

variable {isFolded : Nat → Bool} {showEpsilon : Bool}

theorem conceals_nil (tree : Tree) :
    tree.Conceals isFolded showEpsilon [] ↔
      tree.symbol.kind.isShown showEpsilon = true ∧ isFolded 0 = true := by
  simp [Conceals]

/-- Seen from a subtree, indices count from its root. -/
theorem conceals_cons
    {tree child : Tree}
    {index : Nat}
    (isChild : tree.children[index]? = some child)
    (path : List Nat) :
    tree.Conceals isFolded showEpsilon (index :: path) ↔
      child.Conceals
        (fun offset => isFolded (forestCount (tree.children.take index) + 1 + offset))
        showEpsilon path := by
  unfold Conceals
  rw [indexAt_cons isChild, at?_cons, isChild]
  rfl

theorem visible_nil (tree : Tree) :
    tree.Visible isFolded showEpsilon [] ↔ tree.symbol.kind.isShown showEpsilon = true := by
  constructor
  · rintro ⟨⟨node, found, shown⟩, -⟩
    obtain rfl : tree = node := by simpa using found
    exact shown
  · intro shown
    refine ⟨⟨tree, at?_nil tree, shown⟩, fun front isFront proper => ?_⟩
    exact absurd (List.prefix_nil.mp isFront) proper

/-- A node below the root is visible if the root does not conceal it and it is
visible in the subtree that it stands in. -/
theorem visible_cons
    {tree child : Tree}
    {index : Nat}
    (isChild : tree.children[index]? = some child)
    (path : List Nat) :
    tree.Visible isFolded showEpsilon (index :: path) ↔
      ¬ tree.Conceals isFolded showEpsilon [] ∧
        child.Visible
          (fun offset => isFolded (forestCount (tree.children.take index) + 1 + offset))
          showEpsilon path := by
  have leads : tree.at? (index :: path) = child.at? path := by
    rw [at?_cons, isChild]
    rfl
  constructor
  · rintro ⟨shown, exposed⟩
    rw [leads] at shown
    refine ⟨exposed [] List.nil_prefix (List.cons_ne_nil _ _).symm, shown, ?_⟩
    intro front isFront proper
    rw [← conceals_cons isChild]
    apply exposed
    · rwa [List.cons_prefix_cons, eq_self, true_and]
    · simpa using proper
  · rintro ⟨rootOpen, shown, exposed⟩
    refine ⟨by rwa [leads], fun front isFront proper => ?_⟩
    rcases List.prefix_cons_iff.mp isFront with rfl | ⟨below, rfl, isBelow⟩
    · exact rootOpen
    · rw [conceals_cons isChild]
      exact exposed below isBelow (by simpa using proper)

end

/-! ## Rows of visible nodes -/

variable {folded : FoldSet} {showEpsilon : Bool}

theorem mem_rowsBelow_iff
    {forest : List Tree}
    {id depth : Nat}
    {row : Row} :
    row ∈ rowsBelow folded showEpsilon id depth forest ↔
      ∃ (index : Nat) (tree : Tree), forest[index]? = some tree ∧
        row ∈ tree.rowsFrom folded showEpsilon (id + forestCount (forest.take index)) depth := by
  induction forest generalizing id with
  | nil => simp [rowsBelow]
  | cons first forest inductionHypothesis =>
      rw [rowsBelow, List.mem_append, inductionHypothesis]
      constructor
      · rintro (inFirst | ⟨index, tree, isThere, inTree⟩)
        · exact ⟨0, first, rfl, by simpa using inFirst⟩
        · exact ⟨index + 1, tree, isThere, by simpa [Nat.add_assoc] using inTree⟩
      · rintro ⟨_ | index, tree, isThere, inTree⟩
        · obtain rfl : first = tree := by simpa using isThere
          exact Or.inl (by simpa using inTree)
        · exact Or.inr ⟨index, tree, isThere, by simpa [Nat.add_assoc] using inTree⟩

/-- A row of a tree is that of its root, or one below a root that conceals
nothing. -/
theorem mem_rowsFrom_node
    {symbol : Symbol}
    {children : List Tree}
    {id depth : Nat}
    {row : Row} :
    row ∈ (node symbol children).rowsFrom folded showEpsilon id depth ↔
      symbol.kind.isShown showEpsilon = true ∧ row = ⟨id, depth, .node symbol children⟩ ∨
        ¬ (symbol.kind.isShown showEpsilon = true ∧ folded.contains id = true) ∧
          row ∈ rowsBelow folded showEpsilon (id + 1) (depth + 1) children := by
  rw [rowsFrom]
  by_cases shown : symbol.kind.isShown showEpsilon = true <;>
    by_cases isFolded : folded.contains id = true <;> simp [shown, isFolded]

/-- Recursion over a tree gives the rows of its visible nodes. -/
theorem mem_rowsFrom_iff (tree : Tree) :
    ∀ {id depth : Nat} {row : Row},
      row ∈ tree.rowsFrom folded showEpsilon id depth ↔
        ∃ path node, tree.at? path = some node ∧
          tree.Visible (fun offset => folded.contains (id + offset)) showEpsilon path ∧
          row = ⟨id + tree.indexAt path, depth + path.length, node⟩ := by
  induction tree using Tree.induct with
  | step symbol children inductionHypothesis =>
      intro id depth row
      have shift : ∀ count offset, id + (count + 1 + offset) = id + 1 + count + offset := by omega
      rw [mem_rowsFrom_node, mem_rowsBelow_iff]
      constructor
      · rintro (⟨shown, rfl⟩ | ⟨rootOpen, index, child, isChild, inChild⟩)
        · exact ⟨[], _, at?_nil _, (visible_nil _).mpr shown, by simp⟩
        · obtain ⟨path, found, leads, visible, rfl⟩ :=
            (inductionHypothesis child (List.mem_of_getElem? isChild)).mp inChild
          refine ⟨index :: path, found, at?_cons_eq_some_iff.mpr ⟨child, isChild, leads⟩,
            (visible_cons isChild path).mpr ⟨?_, ?_⟩, ?_⟩
          · rwa [conceals_nil]
          · simpa only [children_node, shift] using visible
          · rw [indexAt_cons isChild, shift, List.length_cons, Nat.add_right_comm depth]
            rfl
      · rintro ⟨_ | ⟨index, path⟩, found, isFound, visible, rfl⟩
        · obtain rfl : node symbol children = found := by simpa using isFound
          exact Or.inl ⟨(visible_nil _).mp visible, by simp⟩
        · obtain ⟨child, isChild, leads⟩ := at?_cons_eq_some_iff.mp isFound
          obtain ⟨rootOpen, visibleBelow⟩ := (visible_cons isChild path).mp visible
          refine Or.inr ⟨by rwa [conceals_nil] at rootOpen, index, child, isChild, ?_⟩
          refine (inductionHypothesis child (List.mem_of_getElem? isChild)).mpr
            ⟨path, found, leads, ?_, ?_⟩
          · simpa only [children_node, shift] using visibleBelow
          · rw [indexAt_cons isChild, shift, List.length_cons, Nat.add_right_comm depth]
            rfl

/-- Row of the node at a path. -/
def rowAt (tree : Tree) (path : List Nat) (node : Tree) : Row :=
  ⟨tree.indexAt path, path.length, node⟩

/-- Every row of an outline is that of a visible node. -/
theorem exists_visible_of_mem_outline
    {tree : Tree}
    {row : Row}
    (member : row ∈ tree.outline folded showEpsilon) :
    ∃ path, tree.at? path = some row.tree ∧ row = tree.rowAt path row.tree ∧
      tree.Visible folded.contains showEpsilon path := by
  rw [outline_eq_rowsFrom] at member
  obtain ⟨path, node, found, visible, rfl⟩ := (mem_rowsFrom_iff tree).mp member
  refine ⟨path, found, by simp [rowAt], ?_⟩
  simpa only [Nat.zero_add] using visible

/-- A node has a row in an outline if and only if it is visible. -/
theorem rowAt_mem_outline_iff
    {tree node : Tree}
    {path : List Nat}
    (found : tree.at? path = some node) :
    tree.rowAt path node ∈ tree.outline folded showEpsilon ↔
      tree.Visible folded.contains showEpsilon path := by
  constructor
  · intro member
    obtain ⟨other, isOther, same, visible⟩ := exists_visible_of_mem_outline member
    -- The index in the row tells which node it belongs to.
    obtain rfl : path = other := indexAt_injective found isOther (Row.mk.inj same).1
    exact visible
  · intro visible
    rw [outline_eq_rowsFrom]
    refine (mem_rowsFrom_iff tree).mpr ⟨path, node, found, ?_, by simp [rowAt]⟩
    simpa only [Nat.zero_add] using visible

/-- Visibility depends on the folds of the nodes above only. -/
theorem Visible.congr
    {tree : Tree}
    {path : List Nat}
    {isFolded others : Nat → Bool}
    (visible : tree.Visible isFolded showEpsilon path)
    (agree : ∀ front, front <+: path → front ≠ path →
      others (tree.indexAt front) = isFolded (tree.indexAt front)) :
    tree.Visible others showEpsilon path := by
  refine ⟨visible.shown, fun front isFront proper => ?_⟩
  rintro ⟨node, found, shown, folded⟩
  rw [agree front isFront proper] at folded
  exact visible.exposed front isFront proper ⟨node, found, shown, folded⟩

/-! ## Order of the rows -/

/-- A walk numbers its visits upwards. -/
theorem pairwise_zipIdx_preorder (tree : Tree) :
    tree.preorder.zipIdx.Pairwise fun earlier later => earlier.2 < later.2 := by
  rw [← List.pairwise_map (f := Prod.snd) (R := (· < ·)), List.zipIdx_map_snd]
  exact List.pairwise_lt_range'

/-- Rows are added in the order of the visited nodes. -/
theorem ids_foldl_add_sublist (visits : List (Visit × Nat)) (scan : OutlineScan) :
    ((visits.foldl (OutlineScan.add folded showEpsilon) scan).rows.toList.map (·.id)).Sublist
      (scan.rows.toList.map (·.id) ++ visits.map (·.2)) := by
  induction visits generalizing scan with
  | nil => simp
  | cons visit visits inductionHypothesis =>
      refine (inductionHypothesis (scan.add folded showEpsilon visit)).trans ?_
      rcases OutlineScan.rows_add folded showEpsilon scan visit with same | pushed
      · rw [same, List.map_cons]
        exact (List.Sublist.refl _).append (List.sublist_cons_self _ _)
      · rw [pushed]
        simp

/-- Rows stand in the order of their ids. -/
theorem pairwise_id_outline (tree : Tree) (folded : FoldSet) (showEpsilon : Bool) :
    (tree.outline folded showEpsilon).Pairwise fun upper lower => upper.id < lower.id := by
  rw [← List.pairwise_map]
  apply List.Pairwise.sublist (ids_foldl_add_sublist tree.preorder.zipIdx {})
  exact List.pairwise_map.mpr (pairwise_zipIdx_preorder tree)

/-! ## More folds -/

mutual

/-- More folds leave fewer rows. -/
theorem sublist_rowsFrom_of_folds
    {more : FoldSet}
    (added : ∀ id, folded.contains id = true → more.contains id = true) :
    (tree : Tree) → (id depth : Nat) →
      (tree.rowsFrom more showEpsilon id depth).Sublist
        (tree.rowsFrom folded showEpsilon id depth)
  | .node symbol children, id, depth => by
    have below := sublist_rowsBelow_of_folds added children (id + 1) (depth + 1)
    rw [rowsFrom, rowsFrom]
    split
    · rw [List.cons_sublist_cons]
      by_cases isFolded : more.contains id = true
      · rw [if_pos isFolded]
        exact List.nil_sublist _
      · have notBefore : ¬ folded.contains id = true := fun before => isFolded (added id before)
        rw [if_neg isFolded, if_neg notBefore]
        exact below
    · exact below

theorem sublist_rowsBelow_of_folds
    {more : FoldSet}
    (added : ∀ id, folded.contains id = true → more.contains id = true) :
    (forest : List Tree) → (id depth : Nat) →
      (rowsBelow more showEpsilon id depth forest).Sublist
        (rowsBelow folded showEpsilon id depth forest)
  | [], id, depth => by simp [rowsBelow]
  | tree :: forest, id, depth => by
    rw [rowsBelow, rowsBelow]
    exact (sublist_rowsFrom_of_folds added tree id depth).append
      (sublist_rowsBelow_of_folds added forest _ depth)

end

/-- Folding more nodes only removes rows. -/
theorem outline_sublist_of_folds
    {more : FoldSet}
    (added : ∀ id, folded.contains id = true → more.contains id = true)
    (tree : Tree) :
    (tree.outline more showEpsilon).Sublist (tree.outline folded showEpsilon) := by
  rw [outline_eq_rowsFrom, outline_eq_rowsFrom]
  exact sublist_rowsFrom_of_folds added tree 0 0

/-! ## Rows up to a fold -/

/-- Whether a node gets a row does not depend on its own fold. -/
theorem rows_add_of_folds
    (folded others : FoldSet)
    (showEpsilon : Bool)
    (scan : OutlineScan)
    (visit : Visit × Nat) :
    (scan.add others showEpsilon visit).rows = (scan.add folded showEpsilon visit).rows := by
  unfold OutlineScan.add
  dsimp only
  split
  · rfl
  · split <;> rfl

/-- A scan asks for the folds of the visited nodes only. -/
theorem foldl_add_congr
    {others : FoldSet}
    {visits : List (Visit × Nat)}
    (agree : ∀ visit ∈ visits, others.contains visit.2 = folded.contains visit.2)
    (scan : OutlineScan) :
    visits.foldl (OutlineScan.add others showEpsilon) scan =
      visits.foldl (OutlineScan.add folded showEpsilon) scan := by
  induction visits generalizing scan with
  | nil => rfl
  | cons visit visits inductionHypothesis =>
      rw [List.forall_mem_cons] at agree
      have added : scan.add others showEpsilon visit = scan.add folded showEpsilon visit := by
        obtain ⟨⟨depth, tree⟩, id⟩ := visit
        simp only [OutlineScan.add, agree.1]
      rw [List.foldl_cons, List.foldl_cons, added, inductionHypothesis agree.2]

/-- A scan keeps the rows that it has found. -/
theorem rows_prefix_foldl_add (visits : List (Visit × Nat)) (scan : OutlineScan) :
    scan.rows.toList <+:
      (visits.foldl (OutlineScan.add folded showEpsilon) scan).rows.toList := by
  induction visits generalizing scan with
  | nil => exact List.prefix_rfl
  | cons visit visits inductionHypothesis =>
      refine List.IsPrefix.trans ?_ (inductionHypothesis (scan.add folded showEpsilon visit))
      rcases OutlineScan.rows_add folded showEpsilon scan visit with same | pushed
      · simp only [same, List.prefix_rfl]
      · rw [pushed, Array.toList_push]
        exact List.prefix_append _ _

/-- Outlines whose folds differ from some node on have the rows up to that node
in common. -/
theorem exists_common_front
    {tree : Tree}
    {others : FoldSet}
    {row : Row}
    (member : row ∈ tree.outline folded showEpsilon)
    (agree : ∀ id < row.id, others.contains id = folded.contains id) :
    ∃ front : List Row, row ∈ front ∧
      front <+: tree.outline folded showEpsilon ∧ front <+: tree.outline others showEpsilon := by
  have visited : (⟨row.depth, row.tree⟩, row.id) ∈ tree.preorder.zipIdx :=
    List.mem_zipIdx_iff_getElem?.mpr (getElem?_preorder_of_mem_outline member)
  have ordered := pairwise_zipIdx_preorder tree
  obtain ⟨earlier, later, split⟩ := List.append_of_mem visited
  rw [split, List.pairwise_append, List.pairwise_cons] at ordered
  obtain ⟨-, ⟨afterRow, -⟩, beforeRow⟩ := ordered
  have sameScan : earlier.foldl (OutlineScan.add others showEpsilon) {} =
      earlier.foldl (OutlineScan.add folded showEpsilon) {} := by
    apply foldl_add_congr
    intro visit isEarlier
    exact agree visit.2 (beforeRow visit isEarlier _ List.mem_cons_self)
  unfold outline at member ⊢
  rw [split, List.foldl_append, List.foldl_cons] at member ⊢
  refine ⟨_, ?_, rows_prefix_foldl_add later _, ?_⟩
  · rcases OutlineScan.mem_rows_foldl (Array.mem_toList_iff.mp member) with found | isLater
    · exact Array.mem_toList_iff.mpr found
    · exact absurd (afterRow _ isLater) (Nat.lt_irrefl _)
  · rw [List.foldl_append, List.foldl_cons, sameScan, ← rows_add_of_folds folded others]
    exact rows_prefix_foldl_add later _

/-- Rows of one tree with the same id are the same row, also in different
outlines. -/
theorem row_eq_of_id_eq
    {tree : Tree}
    {others : FoldSet}
    {otherShow : Bool}
    {row other : Row}
    (member : row ∈ tree.outline folded showEpsilon)
    (otherMember : other ∈ tree.outline others otherShow)
    (same : row.id = other.id) :
    row = other := by
  obtain ⟨id, depth, node⟩ := row
  obtain ⟨otherId, otherDepth, otherNode⟩ := other
  obtain rfl : id = otherId := same
  have visited := getElem?_preorder_of_mem_outline member
  rw [getElem?_preorder_of_mem_outline otherMember] at visited
  obtain ⟨rfl, rfl⟩ := Visit.mk.inj (Option.some.inj visited)
  rfl

/-- A row stays at its index while the folds of the nodes before it stay. -/
theorem getElem?_outline_of_folds
    {tree : Tree}
    {others : FoldSet}
    {row : Row}
    {index : Nat}
    (isRow : (tree.outline folded showEpsilon)[index]? = some row)
    (agree : ∀ id < row.id, others.contains id = folded.contains id) :
    (tree.outline others showEpsilon)[index]? = some row := by
  obtain ⟨front, inFront, ⟨behind, split⟩, ⟨otherBehind, otherSplit⟩⟩ :=
    exists_common_front (List.mem_of_getElem? isRow) agree
  have distinct : (tree.outline folded showEpsilon).Nodup :=
    (pairwise_id_outline tree folded showEpsilon).imp fun before same =>
      absurd (congrArg Row.id same) (Nat.ne_of_lt before)
  obtain ⟨position, isThere⟩ := List.mem_iff_getElem?.mp inFront
  have inRange := (List.getElem?_eq_some_iff.mp isThere).1
  have here : (tree.outline folded showEpsilon)[position]? = some row := by
    rw [← split, List.getElem?_append_left inRange, isThere]
  obtain rfl : index = position :=
    (List.getElem?_inj (List.getElem?_eq_some_iff.mp isRow).1 distinct).mp (isRow.trans here.symm)
  rw [← otherSplit, List.getElem?_append_left inRange, isThere]

/-- The rows of an outline are those of the visible nodes, in the order of a walk
and with the index and the depth that the walk gives them.  Folding more nodes
only removes rows, and none of a node above which no fold changes. -/
theorem outline_visibility (tree : Tree) (folded : FoldSet) (showEpsilon : Bool) :
    let rows := tree.outline folded showEpsilon
    rows.Pairwise (fun upper lower => upper.id < lower.id) ∧
      (∀ row ∈ rows, ∃ path, tree.at? path = some row.tree ∧ row = tree.rowAt path row.tree) ∧
      (∀ path node, tree.at? path = some node →
        tree.preorder[tree.indexAt path]? = some ⟨path.length, node⟩ ∧
          (tree.rowAt path node ∈ rows ↔ tree.Visible folded.contains showEpsilon path)) ∧
      ∀ more : FoldSet, (∀ id, folded.contains id = true → more.contains id = true) →
        (tree.outline more showEpsilon).Sublist rows ∧
          ∀ path node, tree.at? path = some node →
            (∀ front, front <+: path → front ≠ path →
              more.contains (tree.indexAt front) = folded.contains (tree.indexAt front)) →
            tree.rowAt path node ∈ rows → tree.rowAt path node ∈ tree.outline more showEpsilon := by
  intro rows
  refine ⟨pairwise_id_outline tree folded showEpsilon, ?paths, ?visible, ?more⟩
  case paths =>
    intro row member
    obtain ⟨path, found, same, -⟩ := exists_visible_of_mem_outline member
    exact ⟨path, found, same⟩
  case visible =>
    intro path node found
    exact ⟨getElem?_preorder_indexAt found, rowAt_mem_outline_iff found⟩
  case more =>
    intro more added
    refine ⟨outline_sublist_of_folds added tree, fun path node found agree member => ?_⟩
    rw [rowAt_mem_outline_iff found]
    exact ((rowAt_mem_outline_iff found).mp member).congr agree

/-- The closing brace keeps its row when the list before it is folded, although
the ids of a leaf and of no node at all are folded as well. -/
theorem outline_visibility_foldedList :
    let tree : Tree :=
      .node ⟨"CompSt", .nonTerminal, 1, .unset⟩
        [.node ⟨"DefList", .nonTerminal, 1, .unset⟩ [.leaf ⟨"Def", .nonTerminal, 2, .unset⟩],
          .leaf ⟨"RC", .token, 3, .unset⟩]
    let brace : Tree := .leaf ⟨"RC", .token, 3, .unset⟩
    let more := FoldSet.ofList [1, 3, 9]
    tree.at? [1] = some brace ∧ tree.rowAt [1] brace ∈ tree.outline {} false ∧
      (tree.outline more false).map (·.id) = [0, 1, 3] ∧
      tree.rowAt [1] brace ∈ tree.outline more false := by
  intro tree brace more
  have found : tree.at? [1] = some brace := rfl
  have hasRow : tree.rowAt [1] brace ∈ tree.outline {} false := by
    rw [outline_eq_rowsFrom]
    exact List.mem_of_getElem? (rfl : _[3]? = _)
  have agree : ∀ front, front <+: [1] → front ≠ [1] →
      more.contains (tree.indexAt front) = FoldSet.contains {} (tree.indexAt front) := by
    intro front isFront proper
    rcases List.prefix_cons_iff.mp isFront with rfl | ⟨rest, rfl, isRest⟩
    · decide +kernel
    · exact absurd (congrArg (1 :: ·) (List.prefix_nil.mp isRest)) proper
  obtain ⟨-, -, -, folding⟩ := outline_visibility tree {} false
  exact ⟨found, hasRow, by decide +kernel, (folding more (by simp)).2 [1] brace found agree hasRow⟩

end Tree
end SyntaxTree
