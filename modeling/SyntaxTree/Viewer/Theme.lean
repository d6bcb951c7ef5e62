import SyntaxTree.Screen.Style
import SyntaxTree.Tree.Symbol

/-!
# Colours of the viewer

The palette of the viewer and the colour in which each kind of node is shown.
-/

namespace SyntaxTree
namespace Theme

open Screen

/-- Ordinary text. -/
def foreground : Color := .rgb 205 214 244

/-- Headings and the row counter. -/
def primary : Color := .rgb 137 180 250

/-- Secondary text. -/
def comment : Color := .rgb 108 112 134

/-- The mark at the end of the outline. -/
def success : Color := .rgb 166 227 161

/-- Frame of the outline. -/
def focusedBorder : Color := .rgb 249 226 175

/-- Frame of the details. -/
def plainBorder : Color := .rgb 108 112 134

/-- Background of the selected row and the status bar. -/
def currentLine : Color := .rgb 50 50 70

/-- Numbers. -/
def number : Color := .rgb 250 179 135

/-- Colour of a kind of node. -/
def kindColor : Kind → Color
  | .nonTerminal => .rgb 137 180 250
  | .epsilon => comment
  | .identifier => .rgb 249 226 175
  | .typeName => .rgb 148 226 213
  | .integer => number
  | .real => number
  | .token => foreground

/-- Text in one colour. -/
def colored (color : Color) (text : String) : Span :=
  ⟨text, { foreground := some color }⟩

end Theme
end SyntaxTree
