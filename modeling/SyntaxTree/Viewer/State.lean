import SyntaxTree.Tree.Statistics
import SyntaxTree.Viewer.Outline

/-!
# Viewer state

A viewer shows the outline of one tree with one selected row.  Folding and the
switch for empty symbols rebuild the rows and keep the selection on the same
node while it is visible.
-/

namespace SyntaxTree

/-- State of the viewer. -/
structure Viewer where
  root : Tree
  statistics : Statistics
  /-- The outline of the root under the folds and the switch. -/
  rows : List Row
  folded : FoldSet
  showEpsilon : Bool
  /-- Index of the selected row. -/
  selected : Nat
  /-- Index of the first row that is drawn. -/
  scroll : Nat
  hasQuit : Bool
  status : String

namespace Viewer

/-- The viewer of a tree before the first key. -/
def start (root : Tree) (showEpsilon : Bool) : Viewer where
  root := root
  statistics := root.statistics
  rows := root.outline {} showEpsilon
  folded := {}
  showEpsilon := showEpsilon
  selected := 0
  scroll := 0
  hasQuit := false
  status := "Ready!"

/-- The selected row, unless the selection lies behind the last row. -/
def selectedRow? (viewer : Viewer) : Option Row :=
  viewer.rows[viewer.selected]?

/-- Rebuilds the rows.  The selection stays on the same node if it is still
visible, else on the same index as far as there are rows. -/
def refresh (viewer : Viewer) : Viewer :=
  let rows := viewer.root.outline viewer.folded viewer.showEpsilon
  let kept := viewer.selectedRow?.bind fun row => rows.findIdx? (·.id == row.id)
  { viewer with
    rows := rows
    selected := min (kept.getD viewer.selected) (rows.length - 1) }

/-- Folds the selected row or unfolds it. -/
def toggleFold (viewer : Viewer) : Viewer :=
  match viewer.selectedRow? with
  | none => viewer
  | some row =>
    let name := row.symbol.name
    if !row.isFoldable then
      { viewer with status := name ++ " has no children" }
    else if viewer.folded.contains row.id then
      { viewer with
        folded := viewer.folded.erase row.id
        status := "Expanded " ++ name }.refresh
    else
      { viewer with
        folded := viewer.folded.insert row.id
        status := "Folded " ++ name }.refresh

/-- Selects the row above. -/
def selectPrevious (viewer : Viewer) : Viewer :=
  { viewer with selected := viewer.selected - 1 }

/-- Selects the row below, if there is one. -/
def selectNext (viewer : Viewer) : Viewer :=
  if viewer.selected + 1 < viewer.rows.length then
    { viewer with selected := viewer.selected + 1 }
  else
    viewer

/-- Selects the first row. -/
def selectFirst (viewer : Viewer) : Viewer :=
  { viewer with selected := 0 }

/-- Selects the last row. -/
def selectLast (viewer : Viewer) : Viewer :=
  { viewer with selected := viewer.rows.length - 1 }

/-- Index of the nearest row above the selected one that is less deep. -/
def shallowerIndex? (viewer : Viewer) (depth : Nat) : Option Nat :=
  let above := viewer.rows.take viewer.selected
  (above.reverse.findIdx? (·.depth < depth)).map (above.length - 1 - ·)

/-- Folds an open row; otherwise selects the nearest shallower row above. -/
def collapse (viewer : Viewer) : Viewer :=
  match viewer.selectedRow? with
  | none => viewer
  | some row =>
    if row.isFoldable && !viewer.folded.contains row.id then
      viewer.toggleFold
    else
      match viewer.shallowerIndex? row.depth with
      | some index => { viewer with selected := index }
      | none => viewer

/-- Unfolds a folded row; otherwise selects the next row if it is deeper. -/
def expand (viewer : Viewer) : Viewer :=
  match viewer.selectedRow? with
  | none => viewer
  | some row =>
    if viewer.folded.contains row.id then
      viewer.toggleFold
    else
      match viewer.rows[viewer.selected + 1]? with
      | some next =>
        if row.depth < next.depth then
          { viewer with selected := viewer.selected + 1 }
        else
          viewer
      | none => viewer

/-- Shows or hides the symbols that derived the empty text. -/
def toggleEpsilon (viewer : Viewer) : Viewer :=
  let refreshed := { viewer with showEpsilon := !viewer.showEpsilon }.refresh
  { refreshed with
    status :=
      if refreshed.showEpsilon then "Showing epsilon nodes" else "Hiding epsilon nodes" }

/-- Unfolds everything. -/
def expandAll (viewer : Viewer) : Viewer :=
  { { viewer with folded := {} }.refresh with status := "Expanded all" }

end Viewer
end SyntaxTree
