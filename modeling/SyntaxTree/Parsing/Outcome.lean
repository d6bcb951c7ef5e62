import SyntaxTree.Log.Event
import SyntaxTree.Parsing.Diagnostic
import SyntaxTree.Tree.Basic
import SyntaxTree.Tree.Error

/-!
# Parsers and their outcomes

A parser reads its input to the end and returns a tree with the errors it
counted.  Only unreadable input or a tree that cannot be built stops it.  The
input arrives in chunks, and it ends behind the last one.
-/

namespace SyntaxTree

open Log

/-- A piece of the input as it arrives, or what came in place of one. -/
inductive Chunk where
  /-- The next octets.  A piece without any adds nothing and does not end the
  input, since a whole input, also an empty one, may arrive as one piece. -/
  | octets (content : List UInt8)
  /-- An attempt to read was interrupted and is repeated. -/
  | interrupted
  /-- The input cannot be read any further. -/
  | failed (message : String)
deriving DecidableEq, Repr

namespace Chunk

/-- The octets of all pieces of an input, or the message of its first failure. -/
def readAll : List Chunk → Except String (List UInt8)
  | [] => .ok []
  | .octets content :: chunks => (readAll chunks).map (content ++ ·)
  | .interrupted :: chunks => readAll chunks
  | .failed message :: _ => .error message

end Chunk

/-- Everything a parse produced. -/
structure Outcome where
  /-- Root of the tree, which may be partial if errors were counted. -/
  root : Option Tree
  diagnostics : List Diagnostic

namespace Outcome

/-- Number of counted errors. -/
def errorCount (outcome : Outcome) : Nat :=
  outcome.diagnostics.length

/-- Whether no error was counted. -/
def isClean (outcome : Outcome) : Bool :=
  outcome.diagnostics.isEmpty

end Outcome

/-- Why a parse was stopped. -/
inductive ParseFailure where
  | unreadable (message : String)
  | tree (error : TreeError)
deriving DecidableEq, Repr

/-- A parser reads chunks and returns an outcome or the reason why it stopped. -/
abbrev Parser := List Chunk → Logged (Except ParseFailure Outcome)

end SyntaxTree
