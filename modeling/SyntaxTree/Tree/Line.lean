import SyntaxTree.Tree.Error

/-!
# Lines of a dump

Each node is written on one line, indented by two blanks a level.  Grammar
symbols show their source line, value leaves their payload.  A symbol that
derived the empty text is only written on demand, and then without indentation.
-/

namespace SyntaxTree
namespace Symbol

/-- Blanks in front of a line at the given depth. -/
def indentation (depth : Nat) : String :=
  String.ofList (List.replicate (2 * depth) ' ')

/-- Name and source line of a grammar symbol. -/
def heading (symbol : Symbol) : String :=
  symbol.name ++ " (" ++ toString symbol.line ++ ")"

/-- Whether the symbol stands for a value that was never set. -/
def lacksPayload (symbol : Symbol) : Bool :=
  symbol.kind.carriesValue && symbol.payload.isUnset

/-- Line of a symbol at a depth, `none` if it is not written. -/
def line? (verbose : Bool) (depth : Nat) (symbol : Symbol) : Except TreeError (Option String) :=
  if symbol.lacksPayload then
    .error (.missingPayload symbol.name symbol.kind symbol.line)
  else
    match symbol.kind with
    | .epsilon => .ok (if verbose then some symbol.heading else none)
    | .nonTerminal => .ok (some (indentation depth ++ symbol.heading))
    | .token => .ok (some (indentation depth ++ symbol.name))
    | _ => .ok (some (indentation depth ++ symbol.name ++ ": " ++ symbol.payload.shown))

end Symbol
end SyntaxTree
