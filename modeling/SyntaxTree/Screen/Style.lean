/-!
# Cells and styles

A screen is made of cells that each show one character.  A style sets some
properties of a cell and leaves the others as they are.
-/

namespace SyntaxTree
namespace Screen

/-- Colour of a cell. -/
inductive Color where
  /-- The colour that the terminal uses by default. -/
  | reset
  | black
  | rgb (red green blue : UInt8)
deriving DecidableEq, Repr

/-- One character cell. -/
structure Cell where
  character : Char
  foreground : Color
  background : Color
  bold : Bool
deriving DecidableEq, Repr

/-- An untouched cell. -/
def Cell.blank : Cell := ⟨' ', .reset, .reset, false⟩

/-- Properties to be set on cells. -/
structure Style where
  foreground : Option Color := none
  background : Option Color := none
  /-- Whether to make the cell bold; otherwise it stays as it is. -/
  bold : Bool := false
deriving DecidableEq, Repr

namespace Style

/-- Sets the properties of a cell and keeps its character. -/
def paint (style : Style) (cell : Cell) : Cell :=
  { cell with
    foreground := style.foreground.getD cell.foreground
    background := style.background.getD cell.background
    bold := cell.bold || style.bold }

end Style

/-- A text in one style. -/
structure Span where
  text : String
  style : Style := {}
deriving DecidableEq, Repr

/-- Spans one after the other. -/
abbrev TextLine := List Span

namespace TextLine

/-- Characters of a line with their styles. -/
def characters (line : TextLine) : List (Char × Style) :=
  line.flatMap fun span => span.text.toList.map (·, span.style)

end TextLine
end Screen
end SyntaxTree
