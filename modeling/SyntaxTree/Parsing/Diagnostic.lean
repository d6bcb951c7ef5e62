/-!
# Diagnostics

A diagnostic is one error that a parse counted: malformed input is reported and
never stops the parse.
-/

namespace SyntaxTree

/-- Phase of recognition that reported an error. -/
inductive Phase where
  /-- A malformed or unknown token. -/
  | lexical
  /-- A sequence of tokens that matches no production. -/
  | grammatical
deriving DecidableEq, Repr

/-- Letter of a phase in reports. -/
def Phase.code : Phase → Char
  | .lexical => 'A'
  | .grammatical => 'B'

/-- One counted error. -/
structure Diagnostic where
  phase : Phase
  line : Nat
  message : String
deriving DecidableEq, Repr

namespace Diagnostic

/-- Report line of a diagnostic. -/
def text (diagnostic : Diagnostic) : String :=
  "Error type " ++ String.singleton diagnostic.phase.code ++ " at Line " ++
    toString diagnostic.line ++ ": " ++ diagnostic.message ++ "."

/-- Diagnostics in the order of their lines; those on one line keep their
order. -/
def sortByLine (diagnostics : List Diagnostic) : List Diagnostic :=
  diagnostics.mergeSort fun left right => left.line ≤ right.line

end Diagnostic
end SyntaxTree
