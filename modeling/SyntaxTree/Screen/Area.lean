import SyntaxTree.Screen.Style

/-!
# Rows of cells and framed areas

Texts are written over rows of cells and cut where the row ends.  An area may
have a frame with a title in its upper edge.

Every character is written to one cell of its own.  Texts with characters that a
terminal gives two cells or none, or that it joins into one, are out of scope.
-/

namespace SyntaxTree
namespace Screen

/-- Cells from left to right. -/
abbrev CellRow := List Cell

namespace CellRow

/-- A row of untouched cells. -/
def blank (width : Nat) : CellRow :=
  List.replicate width .blank

/-- Writes styled characters over the cells from the left, one to a cell; what
does not fit is cut. -/
def overlay : CellRow → List (Char × Style) → CellRow
  | [], _ => []
  | cells, [] => cells
  | cell :: cells, (character, style) :: characters =>
    style.paint { cell with character := character } :: overlay cells characters

/-- Writes a line from the left edge. -/
def writeLeft (row : CellRow) (line : TextLine) : CellRow :=
  overlay row (TextLine.characters line)

/-- Writes a line up to the right edge, or from the left edge if it is too
long. -/
def writeRight (row : CellRow) (line : TextLine) : CellRow :=
  let characters := TextLine.characters line
  let margin := row.length - characters.length
  row.take margin ++ overlay (row.drop margin) characters

/-- Text of a row. -/
def text (row : CellRow) : String :=
  String.ofList (row.map (·.character))

end CellRow

/-- Rows from top to bottom. -/
abbrev Area := List CellRow

namespace Area

/-- Writes lines one below the other; what does not fit is cut. -/
def writeLines : Area → List TextLine → Area
  | [], _ => []
  | rows, [] => rows
  | row :: rows, line :: lines => CellRow.writeLeft row line :: writeLines rows lines

/-- An area of untouched cells. -/
def blank (width height : Nat) : Area :=
  List.replicate height (.blank width)

/-- Two areas side by side. -/
def beside (left right : Area) : Area :=
  List.zipWith (· ++ ·) left right

end Area

/-- A frame around an area. -/
structure Border where
  title : String
  style : Style

namespace Border

/-- One edge row; the left end wins if there is room for one cell only. -/
def edge (border : Border) (left middle right : Char) (width : Nat) : CellRow :=
  let cell := fun character => border.style.paint { Cell.blank with character := character }
  match width with
  | 0 => []
  | 1 => [cell left]
  | inner + 2 => cell left :: (List.replicate inner (cell middle) ++ [cell right])

/-- The upper edge, with the title between the corners. -/
def top (border : Border) (width : Nat) : CellRow :=
  let plain := border.edge '┌' '─' '┐' width
  let inner := (plain.drop 1).take (width - 2)
  let titled := CellRow.writeLeft inner [⟨border.title, border.style⟩]
  plain.take 1 ++ titled ++ plain.drop (1 + (width - 2))

/-- A row of the inside between the side edges. -/
def side (border : Border) (width : Nat) (inside : CellRow) : CellRow :=
  let plain := border.edge '│' ' ' '│' width
  plain.take 1 ++ inside.take (width - 2) ++ plain.drop (1 + (width - 2))

/-- The framed area of the given size around an inside that is two cells
narrower and lower. -/
def surround (border : Border) (width height : Nat) (inside : Area) : Area :=
  match height with
  | 0 => []
  | 1 => [border.top width]
  | inner + 2 =>
    border.top width ::
      ((inside.take inner).map (border.side width) ++ [border.edge '└' '─' '┘' width])

end Border
end Screen
end SyntaxTree
