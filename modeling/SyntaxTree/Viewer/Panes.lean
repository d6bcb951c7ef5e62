import SyntaxTree.Screen.Area
import SyntaxTree.Tree.Line
import SyntaxTree.Viewer.State
import SyntaxTree.Viewer.Theme

/-!
# Panes of the viewer

The outline with its fold markers, the details of the selected node with the
summary of the tree, and the status bar with the keys.
-/

namespace SyntaxTree
namespace Viewer

open Screen

/-! ## Outline -/

/-- Mark in front of a row that tells whether it is open, folded or neither. -/
def foldMarker (row : Row) (isFolded : Bool) : String :=
  if !row.isFoldable then "  " else if isFolded then "▸ " else "▾ "

/-- Text of a row behind its marker. -/
def rowLabel (symbol : Symbol) : String :=
  match symbol.line? true 0 with
  | .ok (some line) => line
  | .ok none => symbol.name
  | .error _ => symbol.name ++ ": <unset>"

/-- Line of a row in the outline. -/
def rowLine (row : Row) (isFolded : Bool) : TextLine :=
  [⟨Symbol.indentation row.depth, {}⟩,
    Theme.colored Theme.comment (foldMarker row isFolded),
    Theme.colored (Theme.kindColor row.symbol.kind) (rowLabel row.symbol)]

/-- A row as it is drawn. -/
structure Item where
  row : Row
  isSelected : Bool

/-- Style laid under the selected row. -/
def selectedStyle : Style :=
  { background := some Theme.currentLine, bold := true }

/-- Number of rows that a pane of the given height shows, at least one. -/
def visibleHeight (paneHeight : Nat) : Nat :=
  max (paneHeight - 2) 1

/-- First row to draw so that the selected row is among those shown. -/
def scrollTo (height selected scroll : Nat) : Nat :=
  if selected < scroll then
    selected
  else if scroll + height ≤ selected then
    selected + 1 - height
  else
    scroll

/-- Brings the selected row into view; an empty outline stays where it is. -/
def scrolled (viewer : Viewer) (paneHeight : Nat) : Viewer :=
  if viewer.rows.isEmpty then
    viewer
  else
    { viewer with
      scroll := scrollTo (visibleHeight paneHeight) viewer.selected viewer.scroll }

/-- The rows that a pane of the given height shows. -/
def items (viewer : Viewer) (paneHeight : Nat) : List Item :=
  ((viewer.rows.zipIdx.drop viewer.scroll).take (visibleHeight paneHeight)).map
    fun (row, index) => ⟨row, index == viewer.selected⟩

/-- Cells of an item. -/
def itemCells (viewer : Viewer) (width : Nat) (item : Item) : CellRow :=
  let base := CellRow.blank width
  let base := if item.isSelected then base.map selectedStyle.paint else base
  CellRow.writeLeft base (rowLine item.row (viewer.folded.contains item.row.id))

/-- Frame of the outline. -/
def outlineBorder : Border where
  title := " Syntax Tree "
  style := { foreground := some Theme.focusedBorder, bold := true }

/-- The outline pane. -/
def outlinePane (viewer : Viewer) (width height : Nat) : Area :=
  let innerWidth := width - 2
  let innerHeight := height - 2
  if viewer.rows.isEmpty then
    let style : Style := { foreground := some Theme.comment }
    let base := (Area.blank innerWidth innerHeight).map (·.map style.paint)
    outlineBorder.surround width height (Area.writeLines base [[⟨"(empty tree)", style⟩]])
  else
    let rows := (viewer.items height).map (viewer.itemCells innerWidth)
    outlineBorder.surround width height
      (rows ++ Area.blank innerWidth (innerHeight - rows.length))

/-! ## Details -/

/-- Name of a kind in the details. -/
def kindName : Kind → String
  | .nonTerminal => "non-terminal"
  | .epsilon => "epsilon"
  | .identifier => "identifier"
  | .typeName => "type"
  | .integer => "int literal"
  | .real => "float literal"
  | .token => "token"

/-- Pads a text on the right up to nine characters. -/
def fieldName (name : String) : String :=
  name ++ String.ofList (List.replicate (9 - name.length) ' ')

/-- A name with a value behind it. -/
def fieldLine (name value : String) : TextLine :=
  [Theme.colored Theme.comment (fieldName name), Theme.colored Theme.foreground value]

/-- A bold line in one colour. -/
def headingLine (color : Color) (text : String) : TextLine :=
  [⟨text, { foreground := some color, bold := true }⟩]

/-- Details of a row. -/
def rowDetails (row : Row) : List TextLine :=
  let symbol := row.symbol
  [headingLine (Theme.kindColor symbol.kind) symbol.name,
    fieldLine "kind" (kindName symbol.kind),
    fieldLine "line" (toString symbol.line)] ++
  (if symbol.kind.carriesValue then [fieldLine "value" symbol.payload.shown] else []) ++
  [fieldLine "children" (toString row.tree.children.length),
    fieldLine "depth" (toString row.depth),
    fieldLine "subtree" (toString row.tree.size)]

/-- A name behind its count, which is right-aligned to five characters. -/
def tallyLine (tally : Tally) : TextLine :=
  let count := toString tally.count
  let padding := String.ofList (List.replicate (5 - count.length) ' ')
  [Theme.colored Theme.number (padding ++ count ++ " "),
    Theme.colored Theme.foreground tally.name]

/-- Summary of the tree with its five most frequent names. -/
def statisticsLines (statistics : Statistics) : List TextLine :=
  [[],
    headingLine Theme.primary "Tree",
    fieldLine "nodes" (toString statistics.nodes),
    fieldLine "leaves" (toString statistics.leaves),
    fieldLine "epsilon" (toString statistics.epsilons),
    fieldLine "depth" (toString statistics.depth)] ++
  (statistics.mostCommon 5).map tallyLine

/-- Lines of the details pane. -/
def detailLines (viewer : Viewer) : List TextLine :=
  (match viewer.selectedRow? with
    | some row => rowDetails row
    | none => []) ++
  statisticsLines viewer.statistics

/-- Frame of the details. -/
def detailsBorder : Border where
  title := " Node "
  style := { foreground := some Theme.plainBorder }

/-- The details pane, which keeps one cell free at its left edge. -/
def detailsPane (viewer : Viewer) (width height : Nat) : Area :=
  let lines := Area.writeLines (Area.blank (width - 3) (height - 2)) viewer.detailLines
  detailsBorder.surround width height (lines.map (Cell.blank :: ·))

/-! ## Status bar -/

/-- Background of the status bar. -/
def statusStyle : Style :=
  { background := some Theme.currentLine }

/-- Text in one colour on the background of the status bar. -/
def statusText (color : Color) (text : String) : Span :=
  ⟨text, { statusStyle with foreground := some color }⟩

/-- Bold black text on a coloured background. -/
def badge (color : Color) (text : String) : Span :=
  ⟨text, { foreground := some .black, background := some color, bold := true }⟩

/-- Name of a key. -/
def keyText (text : String) : Span :=
  ⟨text, { foreground := some .black, background := some Theme.comment }⟩

/-- Line between two entries of the status bar. -/
def divider : Span :=
  statusText Theme.comment "│"

/-- Row counter and message. -/
def statusLeft (viewer : Viewer) : TextLine :=
  let total := viewer.rows.length
  let current := min (viewer.selected + 1) total
  [badge Theme.primary (" Row " ++ toString current ++ "/" ++ toString total ++ " "),
    statusText Theme.comment " | ",
    statusText Theme.foreground (" " ++ viewer.status ++ " ")]

/-- A key with what it does. -/
def keyHelp (key description : String) : TextLine :=
  [keyText key, statusText Theme.foreground description]

/-- The keys, each with what it does. -/
def keyHelps : List TextLine :=
  [keyHelp " ↑/↓ " " move ",
    keyHelp " ←/→ " " fold/unfold ",
    keyHelp " e " " epsilon ",
    keyHelp " z " " expand all ",
    keyHelp " q " " quit "]

/-- The keys and, on the last row, a mark for the end. -/
def statusRight (viewer : Viewer) : TextLine :=
  let gap := [divider, statusText Theme.foreground " "]
  let ending := if viewer.rows.length ≤ viewer.selected + 1 then
      [divider, badge Theme.success " END "]
    else
      []
  gap.intercalate keyHelps ++ ending

/-- The status bar. -/
def statusBar (viewer : Viewer) (width : Nat) : CellRow :=
  let leftWidth := (width + 1) / 2
  let half := fun width => (CellRow.blank width).map statusStyle.paint
  CellRow.writeLeft (half leftWidth) viewer.statusLeft ++
    CellRow.writeRight (half (width - leftWidth)) viewer.statusRight

/-! ## Whole screen -/

/-- Width of the outline pane: 65 of 100 parts, a half rounded up. -/
def outlineWidth (width : Nat) : Nat :=
  (65 * width + 50) / 100

/-- Draws the viewer on a screen of the given size, after bringing the selected
row into view. -/
def draw (viewer : Viewer) (width height : Nat) : Viewer × Area :=
  match height with
  | 0 => (viewer.scrolled 0, [])
  | paneHeight + 1 =>
    let viewer := viewer.scrolled paneHeight
    let left := viewer.outlinePane (outlineWidth width) paneHeight
    let right := viewer.detailsPane (width - outlineWidth width) paneHeight
    (viewer, Area.beside left right ++ [viewer.statusBar width])

end Viewer
end SyntaxTree
