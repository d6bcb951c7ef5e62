import SyntaxTree.Number.Shortest
import SyntaxTree.Text.Quoted
import SyntaxTree.Tree.Basic

/-!
# One-line summaries

A node is summarised by its fields and the number of its children, with texts
quoted and floating-point values in their shortest form.
-/

namespace SyntaxTree

open Text

/-- Payload with the name of its variant. -/
def Payload.summary : Payload → String
  | .unset => "Unset"
  | .integer value => "Int(" ++ toString value.toInt ++ ")"
  | .real value => "Float(" ++ value.shortest ++ ")"
  | .text value => "Text(" ++ quoted value ++ ")"

/-- Fields of the root and the number of its children. -/
def Tree.summary (tree : Tree) : String :=
  let symbol := tree.symbol
  "SyntaxNode \x7b name: " ++ quoted symbol.name ++ ", kind: " ++ symbol.kind.tag ++
    ", lineno: " ++ toString symbol.line ++ ", payload: " ++ symbol.payload.summary ++
    ", children: " ++ toString tree.children.length ++ " \x7d"

end SyntaxTree
