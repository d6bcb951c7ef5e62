import SyntaxTree.Proofs.Screen.Area
import SyntaxTree.Proofs.Viewer.Selection

/-!
# Scrolling the outline

Folds, long moves of the selection and other screen sizes may leave the selected
row out of view.  Drawing scrolls no further than it has to in order to bring it back,
and changes nothing else.  The lines inside the frame of the outline are the rows from
the first one in view on, and only the selected one is laid on its background.  That is
said of rows whose texts take one cell a character.
-/

namespace SyntaxTree
namespace Viewer

open Screen

/-! ## The first row in view -/

/-- Whether the selected row is among those that a pane of the given height shows. -/
def InView (viewer : Viewer) (paneHeight : Nat) : Prop :=
  viewer.scroll ≤ viewer.selected ∧ viewer.selected < viewer.scroll + visibleHeight paneHeight

theorem visibleHeight_pos (paneHeight : Nat) : 0 < visibleHeight paneHeight :=
  Nat.lt_of_lt_of_le Nat.one_pos (Nat.le_max_right _ _)

/-- The rows are scrolled by no more than the selected row is out of view. -/
structure ScrollsTo (height selected before after : Nat) : Prop where
  fromAbove : selected < before → after = selected
  fromBelow : before + height ≤ selected → after + height = selected + 1
  stays : before ≤ selected → selected < before + height → after = before

theorem scrollsTo_scrollTo (height selected scroll : Nat) :
    ScrollsTo height selected scroll (scrollTo height selected scroll) := by
  unfold scrollTo
  split
  · constructor <;> omega
  · split <;> constructor <;> omega

/-- Wherever the rows were scrolled to, the selected one comes into view. -/
theorem ScrollsTo.inView
    {height selected before after : Nat}
    (scrolls : ScrollsTo height selected before after)
    (positive : 0 < height) :
    after ≤ selected ∧ selected < after + height := by
  rcases Nat.lt_or_ge selected before with above | notAbove
  · have moved := scrolls.fromAbove above
    omega
  · rcases Nat.lt_or_ge selected (before + height) with inView | below
    · have unmoved := scrolls.stays notAbove inView
      omega
    · have moved := scrolls.fromBelow below
      omega

theorem scrolled_eq (viewer : Viewer) (paneHeight : Nat) :
    viewer.scrolled paneHeight =
      { viewer with scroll := (viewer.scrolled paneHeight).scroll } := by
  unfold scrolled
  split <;> rfl

theorem scrolled_of_empty
    {viewer : Viewer}
    (isEmpty : viewer.rows = [])
    (paneHeight : Nat) :
    viewer.scrolled paneHeight = viewer := by
  rw [scrolled, if_pos (by simp [isEmpty])]

theorem scrollsTo_scrolled
    {viewer : Viewer}
    (isNonempty : viewer.rows ≠ [])
    (paneHeight : Nat) :
    ScrollsTo (visibleHeight paneHeight) viewer.selected viewer.scroll
      (viewer.scrolled paneHeight).scroll := by
  rw [scrolled, if_neg (by simpa using isNonempty)]
  exact scrollsTo_scrollTo _ _ _

/-! ## Items -/

theorem getElem?_items (viewer : Viewer) (paneHeight offset : Nat) :
    (viewer.items paneHeight)[offset]? =
      if offset < visibleHeight paneHeight then
        viewer.rows[viewer.scroll + offset]?.map fun row =>
          ⟨row, viewer.scroll + offset == viewer.selected⟩
      else none := by
  rw [items, List.getElem?_map, List.getElem?_take]
  split
  · rw [List.getElem?_drop, List.getElem?_zipIdx, Option.map_map]
    cases viewer.rows[viewer.scroll + offset]? <;> simp
  · rfl

theorem map_row_items (viewer : Viewer) (paneHeight : Nat) :
    (viewer.items paneHeight).map (·.row) =
      (viewer.rows.drop viewer.scroll).take (visibleHeight paneHeight) := by
  apply List.ext_getElem?
  intro offset
  rw [List.getElem?_map, getElem?_items, List.getElem?_take]
  split
  · rw [Option.map_map, List.getElem?_drop]
    exact congrFun Option.map_id _
  · rfl

/-- How a cell is laid: on the background of the selected row and in bold, or on no
background of its own. -/
def LaidAs (isSelected : Bool) (cell : Cell) : Prop :=
  cell.background = (if isSelected then Theme.currentLine else .reset) ∧ cell.bold = isSelected

theorem laidAs_of_mem_blank
    {width : Nat}
    {cell : Cell}
    (member : cell ∈ CellRow.blank width) :
    LaidAs false cell := by
  rw [List.eq_of_mem_replicate member]
  exact ⟨rfl, rfl⟩

/-- All cells of an item are laid as the item is, since its line sets nothing but
characters and their colours. -/
theorem laidAs_of_mem_itemCells
    {viewer : Viewer}
    {width : Nat}
    {item : Item}
    {cell : Cell}
    (member : cell ∈ viewer.itemCells width item) :
    LaidAs item.isSelected cell := by
  revert cell
  apply CellRow.forall_mem_writeLeft
  · intro cell member
    cases selected : item.isSelected with
    | true =>
        rw [selected, if_pos rfl] at member
        obtain ⟨blank, isBlank, rfl⟩ := List.mem_map.mp member
        rw [List.eq_of_mem_replicate isBlank]
        exact ⟨rfl, rfl⟩
    | false =>
        rw [selected] at member
        exact laidAs_of_mem_blank member
  · intro span member character cell laid
    have colouredOnly : span.style.background = none ∧ span.style.bold = false := by
      simp only [rowLine, List.mem_cons, List.not_mem_nil, or_false] at member
      rcases member with rfl | rfl | rfl <;> exact ⟨rfl, rfl⟩
    simpa [LaidAs, Style.paint, colouredOnly] using laid

/-! ## The picture -/

/-- The inside of the outline in a line of the screen: what stands between the side
edges of its frame. -/
def insideOutline (width : Nat) (line : CellRow) : CellRow :=
  (line.drop 1).take (outlineWidth width - 2)

@[simp] theorem length_itemCells (viewer : Viewer) (width : Nat) (item : Item) :
    (viewer.itemCells width item).length = width := by
  rw [itemCells, CellRow.length_writeLeft]
  split <;> simp

/-- Cells of the item at an offset, or of an empty line if there are no more items. -/
def lineAt (viewer : Viewer) (paneHeight width offset : Nat) : CellRow :=
  match (viewer.items paneHeight)[offset]? with
  | some item => viewer.itemCells width item
  | none => .blank width

theorem length_lineAt (viewer : Viewer) (paneHeight width offset : Nat) :
    (viewer.lineAt paneHeight width offset).length = width := by
  unfold lineAt
  split <;> simp

theorem getElem?_outlinePane
    {viewer : Viewer}
    (isNonempty : viewer.rows ≠ [])
    (width : Nat)
    {height offset : Nat}
    (within : offset < height - 2) :
    (viewer.outlinePane width height)[offset + 1]? =
      some (outlineBorder.side width (viewer.lineAt height (width - 2) offset)) := by
  unfold outlinePane
  dsimp only
  rw [if_neg (by simpa using isNonempty)]
  apply Border.getElem?_surround _ _ within
  unfold lineAt
  cases isItem : (viewer.items height)[offset]? with
  | some item =>
      rw [List.getElem?_append_left, List.getElem?_map, isItem]
      · rfl
      · rw [List.length_map]
        exact (List.getElem?_eq_some_iff.mp isItem).1
  | none =>
      have behind : (viewer.items height).length ≤ offset := List.getElem?_eq_none_iff.mp isItem
      rw [List.getElem?_append_right (by rwa [List.length_map]), List.length_map, Area.blank,
        List.getElem?_replicate_of_lt (by omega)]

theorem exists_getElem?_detailsPane
    (viewer : Viewer)
    (width : Nat)
    {height offset : Nat}
    (within : offset < height - 2) :
    ∃ line, (viewer.detailsPane width height)[offset + 1]? = some line := by
  unfold detailsPane
  dsimp only
  generalize isInside :
    (Area.writeLines (Area.blank (width - 3) (height - 2)) viewer.detailLines).map
      (Cell.blank :: ·) = inside
  have inRange : offset < inside.length := by
    rw [← isInside, List.length_map, Area.length_writeLines, Area.length_blank]
    exact within
  exact ⟨_, Border.getElem?_surround detailsBorder (List.getElem?_eq_getElem inRange) within⟩

theorem draw_fst (viewer : Viewer) (width height : Nat) :
    (viewer.draw width height).1 = viewer.scrolled (height - 1) := by
  cases height <;> rfl

/-- The lines of the screen show the items one below the other inside the frame of the
outline. -/
theorem exists_line_draw
    {viewer : Viewer}
    (isNonempty : viewer.rows ≠ [])
    (width : Nat)
    {height offset : Nat}
    (within : offset < height - 1 - 2) :
    ∃ line, (viewer.draw width height).2[offset + 1]? = some line ∧
      insideOutline width line =
        (viewer.draw width height).1.lineAt (height - 1) (outlineWidth width - 2) offset := by
  cases height with
  | zero => contradiction
  | succ paneHeight =>
      rw [Nat.add_sub_cancel] at within ⊢
      rw [draw]
      dsimp only
      have stillNonempty : (viewer.scrolled paneHeight).rows ≠ [] := by
        rw [scrolled_eq]
        exact isNonempty
      have left := getElem?_outlinePane stillNonempty (outlineWidth width) within
      obtain ⟨other, right⟩ := (viewer.scrolled paneHeight).exists_getElem?_detailsPane
        (width - outlineWidth width) within
      have joined := Area.getElem?_beside left right
      refine ⟨_, ?_, Border.inside_side outlineBorder (length_lineAt _ _ _ _) other⟩
      rw [List.getElem?_append_left (List.getElem?_eq_some_iff.mp joined).1, joined]

/-! ## The selected item -/

section

variable
  {viewer : Viewer}
  {paneHeight : Nat}
  (inView : viewer.InView paneHeight)

include inView

theorem getElem?_items_selected
    {row : Row}
    (isSelected : viewer.selectedRow? = some row) :
    (viewer.items paneHeight)[viewer.selected - viewer.scroll]? = some ⟨row, true⟩ := by
  obtain ⟨above, below⟩ := inView
  have within : viewer.selected - viewer.scroll < visibleHeight paneHeight := by omega
  rw [selectedRow?] at isSelected
  rw [getElem?_items, if_pos within, Nat.add_sub_cancel' above, isSelected]
  simp

theorem isSelected_of_getElem?_items
    {offset : Nat}
    {item : Item}
    (isItem : (viewer.items paneHeight)[offset]? = some item) :
    item.isSelected = (offset == viewer.selected - viewer.scroll) := by
  rw [getElem?_items] at isItem
  split at isItem
  · obtain ⟨row, -, rfl⟩ := Option.map_eq_some_iff.mp isItem
    have above := inView.1
    rw [Bool.eq_iff_iff, beq_iff_eq, beq_iff_eq]
    omega
  · cases isItem

/-- Only the line of the selected row is laid on its background. -/
theorem laidAs_of_mem_lineAt
    {row : Row}
    (isSelected : viewer.selectedRow? = some row)
    {width offset : Nat}
    {cell : Cell}
    (member : cell ∈ viewer.lineAt paneHeight width offset) :
    LaidAs (offset == viewer.selected - viewer.scroll) cell := by
  unfold lineAt at member
  cases isItem : (viewer.items paneHeight)[offset]? with
  | some item =>
      rw [isItem] at member
      rw [← isSelected_of_getElem?_items inView isItem]
      exact laidAs_of_mem_itemCells member
  | none =>
      rw [isItem] at member
      have other : (offset == viewer.selected - viewer.scroll) = false := by
        rw [beq_eq_false_iff_ne]
        rintro rfl
        rw [getElem?_items_selected inView isSelected] at isItem
        cases isItem
      rw [other]
      exact laidAs_of_mem_blank member

end

/-! ## Drawing -/

section

variable (viewer : Viewer) (width height : Nat)

/-- Drawing changes nothing but the first row in view. -/
theorem draw_eq :
    (viewer.draw width height).1 =
      { viewer with scroll := (viewer.draw width height).1.scroll } := by
  rw [draw_fst]
  exact scrolled_eq viewer (height - 1)

@[simp] theorem rows_draw : (viewer.draw width height).1.rows = viewer.rows := by
  rw [draw_eq]

@[simp] theorem selected_draw : (viewer.draw width height).1.selected = viewer.selected := by
  rw [draw_eq]

variable {viewer}

theorem scroll_draw_of_empty (isEmpty : viewer.rows = []) :
    (viewer.draw width height).1.scroll = viewer.scroll := by
  rw [draw_fst, scrolled_of_empty isEmpty]

theorem scrollsTo_draw (isNonempty : viewer.rows ≠ []) :
    ScrollsTo (visibleHeight (height - 1)) viewer.selected viewer.scroll
      (viewer.draw width height).1.scroll := by
  rw [draw_fst]
  exact scrollsTo_scrolled isNonempty (height - 1)

theorem inView_draw (isNonempty : viewer.rows ≠ []) :
    (viewer.draw width height).1.InView (height - 1) := by
  rw [InView, selected_draw]
  exact (scrollsTo_draw width height isNonempty).inView (visibleHeight_pos (height - 1))

end

theorem Consistent.selected_lt
    {viewer : Viewer}
    {root : Tree}
    (consistent : viewer.Consistent root)
    (isNonempty : viewer.rows ≠ []) :
    viewer.selected < viewer.rows.length := by
  rcases consistent.selected with inRows | ⟨isEmpty, -⟩
  · exact inRows
  · contradiction

/-- What drawing a viewer on a screen does. -/
structure Draws
    (viewer : Viewer)
    (width height : Nat)
    (drawn : Viewer)
    (screen : Area) : Prop where
  /-- Nothing changes but the first row in view. -/
  onlyScrolls : drawn = { viewer with scroll := drawn.scroll }
  /-- An empty outline is not scrolled. -/
  empty : viewer.rows = [] → drawn.scroll = viewer.scroll
  /-- The outline is not scrolled if the selected row is in view already. -/
  stays : viewer.InView (height - 1) → drawn.scroll = viewer.scroll
  /-- Otherwise it is scrolled as little as brings that row into view. -/
  scrolls : viewer.rows ≠ [] →
    ScrollsTo (visibleHeight (height - 1)) viewer.selected viewer.scroll drawn.scroll
  /-- Behind it the selected row is in view, so the first row in view is a row. -/
  inView : viewer.rows ≠ [] →
    drawn.InView (height - 1) ∧ drawn.selected < drawn.rows.length ∧
      drawn.scroll < drawn.rows.length
  /-- The items are the rows from there on, as many as the pane shows. -/
  items : (drawn.items (height - 1)).map (·.row) =
    (drawn.rows.drop drawn.scroll).take (visibleHeight (height - 1))
  /-- The selected row has its item, which is the only one that is marked. -/
  selectedItem : viewer.rows ≠ [] →
    (∃ row, drawn.selectedRow? = some row ∧
      (drawn.items (height - 1))[drawn.selected - drawn.scroll]? = some ⟨row, true⟩) ∧
    ∀ offset item, (drawn.items (height - 1))[offset]? = some item → item.isSelected = true →
      offset = drawn.selected - drawn.scroll
  /-- Inside the frame of the outline stand the lines of the items and then empty
  ones, where the texts of the items are of single width.  Only the line of the
  selected row is laid on its background. -/
  picture : viewer.rows ≠ [] → ∀ offset < height - 1 - 2,
    (∀ item, (drawn.items (height - 1))[offset]? = some item →
      SingleWidth (rowLabel item.row.symbol)) →
    ∃ line, screen[offset + 1]? = some line ∧
      insideOutline width line = drawn.lineAt (height - 1) (outlineWidth width - 2) offset ∧
      ∀ cell ∈ insideOutline width line,
        LaidAs (offset == drawn.selected - drawn.scroll) cell

/-- However a viewer came to its state, drawing it on a screen of any size brings the
selected row into view and draws the rows from the first one in view on. -/
theorem draws_of_run
    (root : Tree)
    (showEpsilon : Bool)
    (steps : List Step)
    (width height : Nat) :
    let viewer := (start root showEpsilon).run steps
    viewer.Draws width height (viewer.draw width height).1 (viewer.draw width height).2 := by
  intro viewer
  have consistent : viewer.Consistent root := consistent_run root showEpsilon steps
  have selectedRow : viewer.rows ≠ [] →
      ∃ row, (viewer.draw width height).1.selectedRow? = some row := by
    intro isNonempty
    rw [selectedRow?, rows_draw, selected_draw]
    exact ⟨_, List.getElem?_eq_getElem (consistent.selected_lt isNonempty)⟩
  constructor
  case onlyScrolls => exact draw_eq viewer width height
  case empty => exact scroll_draw_of_empty width height
  case stays =>
    intro already
    by_cases isEmpty : viewer.rows = []
    · exact scroll_draw_of_empty width height isEmpty
    · exact (scrollsTo_draw width height isEmpty).stays already.1 already.2
  case scrolls => exact scrollsTo_draw width height
  case inView =>
    intro isNonempty
    have inView := inView_draw width height isNonempty
    have inRows : (viewer.draw width height).1.selected <
        (viewer.draw width height).1.rows.length := by
      rw [rows_draw, selected_draw]
      exact consistent.selected_lt isNonempty
    exact ⟨inView, inRows, Nat.lt_of_le_of_lt inView.1 inRows⟩
  case items => exact map_row_items _ _
  case selectedItem =>
    intro isNonempty
    have inView := inView_draw width height isNonempty
    obtain ⟨row, isSelected⟩ := selectedRow isNonempty
    refine ⟨⟨row, isSelected, getElem?_items_selected inView isSelected⟩, ?_⟩
    intro offset item isItem isMarked
    rw [isSelected_of_getElem?_items inView isItem] at isMarked
    exact beq_iff_eq.mp isMarked
  case picture =>
    intro isNonempty offset within _
    obtain ⟨row, isSelected⟩ := selectedRow isNonempty
    obtain ⟨line, isLine, inside⟩ := exists_line_draw isNonempty width within
    refine ⟨line, isLine, inside, ?_⟩
    intro cell member
    rw [inside] at member
    exact laidAs_of_mem_lineAt (inView_draw width height isNonempty) isSelected member

/-- The last row was drawn at the lower end of a screen with two lines for rows.  After
that the root is selected and folded, and its row, the only one left, is far above
the first row in view.  The next drawing brings it back. -/
theorem draws_of_run_foldedAway :
    let root : Tree :=
      .node ⟨"CompSt", .nonTerminal, 1, .unset⟩
        [.node ⟨"Stmt", .nonTerminal, 1, .unset⟩
          [.leaf ⟨"RETURN", .token, 1, .unset⟩, .leaf ⟨"SEMI", .token, 1, .unset⟩],
          .leaf ⟨"RC", .token, 2, .unset⟩]
    let viewer := (start root false).run [.press .ending, .draw 20 5, .press .home, .press .left]
    let drawn := (viewer.draw 30 6).1
    viewer.rows.map (·.id) = [0] ∧ viewer.scroll = 3 ∧ drawn.scroll = 0 ∧
      drawn.InView 5 ∧ (drawn.items 5).map (·.row.id) = [0] := by
  intro root viewer drawn
  have ids : viewer.rows.map (·.id) = [0] := by decide +kernel
  have scroll : viewer.scroll = 3 := by decide +kernel
  have selected : viewer.selected = 0 := by decide +kernel
  have isNonempty : viewer.rows ≠ [] := by
    intro isEmpty
    rw [isEmpty] at ids
    cases ids
  have draws := draws_of_run root false
    [.press .ending, .draw 20 5, .press .home, .press .left] 30 6
  have moved : drawn.scroll = 0 := by
    rw [← selected]
    apply (draws.scrolls isNonempty).fromAbove
    rw [selected, scroll]
    exact Nat.zero_lt_succ 2
  have drawnRows : drawn.rows = viewer.rows := rows_draw viewer 30 6
  refine ⟨ids, scroll, moved, (draws.inView isNonempty).1, ?_⟩
  calc (drawn.items 5).map (·.row.id)
      = ((drawn.items 5).map (·.row)).map (·.id) := by rw [List.map_map]; rfl
    _ = ((drawn.rows.drop drawn.scroll).take 3).map (·.id) := by rw [draws.items]; rfl
    _ = ((viewer.rows.map (·.id)).drop 0).take 3 := by
        rw [moved, drawnRows, List.map_take, List.map_drop]
    _ = [0] := by rw [ids]; rfl

end Viewer
end SyntaxTree
