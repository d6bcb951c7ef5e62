import SyntaxTree.Proofs.Viewer.Refold
import SyntaxTree.Proofs.Viewer.RowOrder

/-!
# Going down

Expanding a row that is not folded selects the following row if it is deeper.
Where something is visible below the selected node, the following row is the
first of it.  Otherwise the following row belongs to a node on the right.  It is
deeper only if it hangs below an empty symbol that has no row, and then the
selection leaves the selected node for a place that is not below it.
-/

namespace SyntaxTree
namespace Tree

/-! ## What is visible below a node -/

/-- The node at the second path is visible and below the first one. -/
structure VisibleBelow
    (isFolded : Nat → Bool)
    (showEpsilon : Bool)
    (tree : Tree)
    (path below : List Nat) : Prop where
  above : path <+: below
  proper : path ≠ below
  visible : tree.Visible isFolded showEpsilon below

/-- The node at the second path is the first one that is visible below the
first path. -/
structure FirstVisibleBelow
    (isFolded : Nat → Bool)
    (showEpsilon : Bool)
    (tree : Tree)
    (path below : List Nat) : Prop extends tree.VisibleBelow isFolded showEpsilon path below where
  first : ∀ other, tree.VisibleBelow isFolded showEpsilon path other →
    tree.indexAt below ≤ tree.indexAt other

/-- The node at the second path is on the right and deeper, and all nodes above
it that are not above the first path as well are of a kind that is not shown. -/
structure DeeperAside
    (showEpsilon : Bool)
    (tree : Tree)
    (path other : List Nat) : Prop where
  isLeft : LeftOf path other
  deeper : path.length < other.length
  hidden : ∀ front node, front <+: other → front ≠ other → ¬ front <+: path →
    tree.at? front = some node → node.symbol.kind.isShown showEpsilon = false

/-- What is deeper on the right hangs below a parent that is not shown. -/
theorem DeeperAside.exists_parent
    {showEpsilon : Bool}
    {tree node : Tree}
    {path other : List Nat}
    (aside : tree.DeeperAside showEpsilon path other)
    (found : tree.at? other = some node) :
    ∃ front parent, tree.at? front = some parent ∧ parent.children ≠ [] ∧
      parent.symbol.kind.isShown showEpsilon = false := by
  have deeper := aside.deeper
  rcases List.eq_nil_or_concat other with rfl | ⟨front, index, split⟩
  · simp at deeper
  · obtain rfl := split.trans List.concat_eq_append
    obtain ⟨parent, isParent, isChild⟩ := at?_concat_eq_some_iff.mp found
    rw [List.length_append, List.length_singleton] at deeper
    refine ⟨front, parent, isParent, List.ne_nil_of_mem (List.mem_of_getElem? isChild), ?_⟩
    refine aside.hidden front parent (List.prefix_append _ _) (by simp) ?_ isParent
    -- The parent is at least as deep as the node on its left.
    intro above
    obtain rfl := above.eq_of_length (Nat.le_antisymm above.length_le (by omega))
    exact aside.isLeft.not_above (List.prefix_append _ _)

/-! ## The following row -/

section

variable
  {tree : Tree}
  {folded : FoldSet}
  {showEpsilon : Bool}
  {row : Row}
  {path : List Nat}
  (hasRow : tree.HasRow path row)

include hasRow

/-- What is visible below the node of a row has a later row. -/
theorem VisibleBelow.exists_later
    {below : List Nat}
    (visibleBelow : tree.VisibleBelow folded.contains showEpsilon path below) :
    ∃ later ∈ tree.outline folded showEpsilon, tree.HasRow below later ∧ row.id < later.id := by
  obtain ⟨later, member, laterHas⟩ := visibleBelow.visible.exists_row
  refine ⟨later, member, laterHas, ?_⟩
  rw [hasRow.id, laterHas.id]
  exact indexAt_lt_of_above laterHas.found visibleBelow.above visibleBelow.proper

variable
  {index : Nat}
  {following : Row}
  {nextPath : List Nat}
  (isRow : (tree.outline folded showEpsilon)[index]? = some row)
  (follows : (tree.outline folded showEpsilon)[index + 1]? = some following)
  (nextHas : tree.HasRow nextPath following)

include isRow follows nextHas

/-- If anything is visible below the node of a row, the following row belongs to
something below that node. -/
theorem VisibleBelow.above_following
    {below : List Nat}
    (visibleBelow : tree.VisibleBelow folded.contains showEpsilon path below) :
    path <+: nextPath := by
  obtain ⟨later, member, laterHas, behind⟩ := visibleBelow.exists_later hasRow
  exact hasRow.above_of_between nextHas laterHas visibleBelow.above
    (id_lt_following isRow follows) (following_le isRow member behind follows)

/-- If the following row belongs to something below the node of a row, it is the
first that is visible there. -/
theorem firstVisibleBelow_of_above (above : path <+: nextPath) :
    tree.FirstVisibleBelow folded.contains showEpsilon path nextPath := by
  refine ⟨⟨above, ?_, nextHas.mem_outline_iff.mp (List.mem_of_getElem? follows)⟩, ?_⟩
  · rintro rfl
    exact Nat.ne_of_lt (id_lt_following isRow follows) (hasRow.id.trans nextHas.id.symm)
  · intro other visibleBelow
    obtain ⟨later, member, laterHas, behind⟩ := visibleBelow.exists_later hasRow
    rw [← nextHas.id, ← laterHas.id]
    exact following_le isRow member behind follows

/-- If the following row belongs to something on the right of the node of a row, it
is deeper only below nodes that are not shown. -/
theorem deeperAside_of_leftOf
    (isLeft : LeftOf path nextPath)
    (deeper : row.depth < following.depth) :
    tree.DeeperAside showEpsilon path nextPath := by
  refine ⟨isLeft, by rwa [← hasRow.depth, ← nextHas.depth], ?_⟩
  intro front node isFront proper notAbove found
  rw [← Bool.not_eq_true]
  intro shown
  -- A shown node on the way would have a row between the two.
  have visible : tree.Visible folded.contains showEpsilon front :=
    (nextHas.mem_outline_iff.mp (List.mem_of_getElem? follows)).of_above isFront found shown
  obtain ⟨between, member, betweenHas⟩ := visible.exists_row
  have onRight : LeftOf path front :=
    (isLeft.above_or_leftOf_front isFront).resolve_left notAbove
  have late : row.id < between.id := by
    rw [hasRow.id, betweenHas.id]
    exact onRight.indexAt_lt hasRow.found betweenHas.found
  have early : between.id < following.id := by
    rw [betweenHas.id, nextHas.id]
    exact indexAt_lt_of_above nextHas.found isFront proper
  exact Nat.not_lt_of_le (following_le isRow member late follows) early

end

end Tree

namespace Viewer

/-! ## Expanding a row that is not folded -/

section

variable
  {viewer : Viewer}
  {row : Row}
  (isSelected : viewer.selectedRow? = some row)
  (notFolded : viewer.folded.contains row.id = false)

include isSelected notFolded

theorem expand_of_noneFollowing (last : viewer.rows[viewer.selected + 1]? = none) :
    viewer.expand = viewer := by
  simp only [expand, isSelected, notFolded, last]
  rfl

theorem expand_of_following
    {following : Row}
    (follows : viewer.rows[viewer.selected + 1]? = some following) :
    viewer.expand =
      if row.depth < following.depth then { viewer with selected := viewer.selected + 1 }
      else viewer := by
  simp only [expand, isSelected, notFolded, follows]
  rfl

end

/-- The row behind the selected one is deeper. -/
def DeeperFollows (viewer : Viewer) (row : Row) : Prop :=
  ∃ following, viewer.rows[viewer.selected + 1]? = some following ∧ row.depth < following.depth

/-- What expanding a row that is not folded can do: if the following row is deeper
it is selected, and otherwise nothing is visible below the selected node. -/
theorem Consistent.expand_cases
    {root : Tree}
    {viewer : Viewer}
    (consistent : viewer.Consistent root)
    {row : Row}
    {path : List Nat}
    (isSelected : viewer.selectedRow? = some row)
    (notFolded : viewer.folded.contains row.id = false)
    (hasRow : root.HasRow path row) :
    (viewer.expand = viewer ∧ ¬ viewer.DeeperFollows row ∧
        ¬ ∃ below, root.VisibleBelow viewer.folded.contains viewer.showEpsilon path below) ∨
      ∃ next nextPath, viewer.DeeperFollows row ∧ root.HasRow nextPath next ∧
        viewer.rows[viewer.selected + 1]? = some next ∧
        viewer.expand = { viewer with selected := viewer.selected + 1 } ∧
        (root.FirstVisibleBelow viewer.folded.contains viewer.showEpsilon path nextPath ∨
          root.DeeperAside viewer.showEpsilon path nextPath ∧
            ¬ ∃ below, root.VisibleBelow viewer.folded.contains viewer.showEpsilon path below) := by
  have isRow := consistent.selected_getElem? isSelected
  cases follows : viewer.rows[viewer.selected + 1]? with
  | none =>
      refine Or.inl ⟨expand_of_noneFollowing isSelected notFolded follows, ?_, ?_⟩
      · simp [DeeperFollows, follows]
      · rintro ⟨below, visibleBelow⟩
        obtain ⟨later, member, -, behind⟩ := visibleBelow.exists_later hasRow
        obtain ⟨following, isThere⟩ := Tree.exists_following isRow member behind
        rw [← consistent.rows, follows] at isThere
        contradiction
  | some next =>
      have expanded := expand_of_following isSelected notFolded follows
      have isNext := follows
      rw [consistent.rows] at isNext
      obtain ⟨nextPath, nextHas, -⟩ :=
        Tree.exists_hasRow_of_mem_outline (List.mem_of_getElem? isNext)
      have behind := Tree.id_lt_following isRow isNext
      by_cases deeper : row.depth < next.depth
      · rw [if_pos deeper] at expanded
        refine Or.inr ⟨next, nextPath, ⟨next, follows, deeper⟩, nextHas, rfl, expanded, ?_⟩
        rcases hasRow.above_or_leftOf nextHas behind with above | isLeft
        · exact Or.inl (Tree.firstVisibleBelow_of_above hasRow isRow isNext nextHas above)
        · refine Or.inr ⟨Tree.deeperAside_of_leftOf hasRow isRow isNext nextHas isLeft deeper, ?_⟩
          rintro ⟨below, visibleBelow⟩
          exact isLeft.not_above (visibleBelow.above_following hasRow isRow isNext nextHas)
      · rw [if_neg deeper] at expanded
        refine Or.inl ⟨expanded, ?_, ?_⟩
        · rintro ⟨following, isFollowing, isDeeper⟩
          obtain rfl : next = following := Option.some.inj (follows.symm.trans isFollowing)
          exact deeper isDeeper
        · rintro ⟨below, visibleBelow⟩
          have above := visibleBelow.above_following hasRow isRow isNext nextHas
          exact deeper (hasRow.depth_lt_of_above nextHas above behind)

/-- In every state that a viewer reaches, a key that expands a row which is not
folded changes the selection only.  It selects the first node that is visible below
the selected one, if there is any.  Otherwise the row stays selected, unless the
following row is deeper: then the selection goes to that row, which is not below
the selected node but below a symbol that is not shown.  This cannot happen while
empty symbols are shown or nothing stands below them. -/
theorem press_expand_descends
    (root : Tree)
    (showEpsilon : Bool)
    (steps : List Step)
    (key : Key)
    (row : Row) :
    let viewer := (start root showEpsilon).run steps
    let after := viewer.press key
    let visibleBelow := root.VisibleBelow viewer.folded.contains viewer.showEpsilon
    let firstVisibleBelow := root.FirstVisibleBelow viewer.folded.contains viewer.showEpsilon
    viewer.selectedRow? = some row → viewer.folded.contains row.id = false →
      key.command? = some .expand →
      after = { viewer with selected := after.selected } ∧
        ∃ path next nextPath, root.HasRow path row ∧ root.HasRow nextPath next ∧
          after.selectedRow? = some next ∧
          (firstVisibleBelow path nextPath ∨
            (¬ ∃ below, visibleBelow path below) ∧
              (next = row ∨ root.DeeperAside viewer.showEpsilon path nextPath)) ∧
          (¬ path <+: nextPath ↔
            (¬ ∃ below, visibleBelow path below) ∧ viewer.DeeperFollows row) ∧
          (viewer.showEpsilon = true ∨ root.EpsilonsAreLeaves →
            next = row ∨ firstVisibleBelow path nextPath) := by
  intro viewer after visibleBelow firstVisibleBelow isSelected notFolded isExpand
  have consistent : viewer.Consistent root := consistent_run root showEpsilon steps
  have expanded : after = viewer.expand := press_eq_perform isExpand viewer
  obtain ⟨path, hasRow, -⟩ := consistent.exists_hasRow isSelected
  rcases consistent.expand_cases isSelected notFolded hasRow with
    ⟨unchanged, notDeeper, bare⟩ | ⟨next, nextPath, deeper, nextHas, follows, moved, target⟩
  · rw [expanded, unchanged]
    refine ⟨rfl, path, row, path, hasRow, hasRow, isSelected, Or.inr ⟨bare, Or.inl rfl⟩, ?_,
      fun _ => Or.inl rfl⟩
    exact iff_of_false (fun leaves => leaves List.prefix_rfl) fun both => notDeeper both.2
  · rw [expanded, moved]
    refine ⟨rfl, path, next, nextPath, hasRow, nextHas, follows, ?_⟩
    rcases target with first | ⟨aside, bare⟩
    · refine ⟨Or.inl first, ?_, fun _ => Or.inr first⟩
      exact iff_of_false (fun leaves => leaves first.above) fun both =>
        both.1 ⟨nextPath, first.toVisibleBelow⟩
    · refine ⟨Or.inr ⟨bare, Or.inr aside⟩, ?_, fun parentsShown => ?_⟩
      · exact iff_of_true aside.isLeft.not_above ⟨bare, deeper⟩
      · obtain ⟨front, parent, found, isParent, hidden⟩ := aside.exists_parent nextHas.found
        rw [Tree.isShown_of_parent parentsShown found isParent] at hidden
        contradiction

/-- Nothing has a row between a statement and the declaration below the hidden
empty list in it, so the declaration is the first visible node below the
statement. -/
theorem press_expand_descends_belowHidden :
    let root : Tree :=
      .node ⟨"CompSt", .nonTerminal, 1, .unset⟩
        [.node ⟨"Stmt", .nonTerminal, 1, .unset⟩
          [.node ⟨"DefList", .epsilon, 1, .unset⟩ [.leaf ⟨"Def", .nonTerminal, 2, .unset⟩]],
          .leaf ⟨"RC", .token, 3, .unset⟩]
    let viewer := (start root false).run [.press .down]
    ∃ row next, viewer.selectedRow? = some row ∧ root.HasRow [0] row ∧
      viewer.folded.contains row.id = false ∧
      (viewer.press .right).selectedRow? = some next ∧ root.HasRow [0, 0, 0] next ∧
      root.FirstVisibleBelow viewer.folded.contains viewer.showEpsilon [0] [0, 0, 0] := by
  intro root viewer
  have picked : viewer.selectedRow?.map (·.id) = some 1 := by decide +kernel
  obtain ⟨row, isSelected, isId⟩ := Option.map_eq_some_iff.mp picked
  have notFolded : viewer.folded.contains row.id = false := by
    rw [isId]
    decide +kernel
  obtain ⟨-, path, next, nextPath, hasRow, nextHas, isNext, target, -⟩ :=
    press_expand_descends root false [.press .down] .right row isSelected notFolded rfl
  have reached : next.id = 3 := by
    have moved : (viewer.press .right).selectedRow?.map (·.id) = some 3 := by decide +kernel
    rw [isNext] at moved
    exact Option.some.inj moved
  obtain rfl : path = [0] :=
    Tree.indexAt_injective hasRow.found (rfl : root.at? [0] = some _) (hasRow.id.symm.trans isId)
  obtain rfl : nextPath = [0, 0, 0] :=
    Tree.indexAt_injective nextHas.found (rfl : root.at? [0, 0, 0] = some _)
      (nextHas.id.symm.trans reached)
  refine ⟨row, next, isSelected, hasRow, notFolded, isNext, nextHas, ?_⟩
  rcases target with first | ⟨-, rfl | aside⟩
  · exact first
  · omega
  · exact absurd (by decide) aside.isLeft.not_above

/-- The opening brace has nothing below it, yet expanding it selects the
declaration below the hidden empty list on its right. -/
theorem press_expand_leavesSubtree :
    let root : Tree :=
      .node ⟨"CompSt", .nonTerminal, 1, .unset⟩
        [.leaf ⟨"LC", .token, 1, .unset⟩,
          .node ⟨"DefList", .epsilon, 1, .unset⟩ [.leaf ⟨"Def", .nonTerminal, 2, .unset⟩],
          .leaf ⟨"RC", .token, 3, .unset⟩]
    let viewer := (start root false).run [.press .down]
    ∃ row next, viewer.selectedRow? = some row ∧ root.HasRow [0] row ∧
      viewer.folded.contains row.id = false ∧
      (viewer.press .right).selectedRow? = some next ∧ root.HasRow [1, 0] next ∧
      next ≠ row ∧ ¬ [0] <+: [1, 0] := by
  intro root viewer
  have picked : viewer.selectedRow?.map (·.id) = some 1 := by decide +kernel
  obtain ⟨row, isSelected, isId⟩ := Option.map_eq_some_iff.mp picked
  have moved : (viewer.press .right).selectedRow?.map (·.id) = some 3 := by decide +kernel
  obtain ⟨next, isNext, isNextId⟩ := Option.map_eq_some_iff.mp moved
  have consistent := consistent_run root false [.press .down]
  have nextConsistent := consistent_run root false [.press .down, .press .right]
  have hasRow := Tree.hasRow_of_id_eq
    (List.mem_of_getElem? (consistent.selected_getElem? isSelected))
    (rfl : root.at? [0] = some _) isId
  have nextHas := Tree.hasRow_of_id_eq
    (List.mem_of_getElem? (nextConsistent.selected_getElem? isNext))
    (rfl : root.at? [1, 0] = some _) isNextId
  refine ⟨row, next, isSelected, hasRow, ?_, isNext, nextHas, ?_, by decide⟩
  · rw [isId]
    decide +kernel
  · rintro rfl
    omega

end Viewer
end SyntaxTree
