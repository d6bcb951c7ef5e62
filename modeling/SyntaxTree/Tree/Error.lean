import SyntaxTree.Tree.Symbol

/-!
# Tree errors

Why a tree could not be built or written.  The wording of all causes is one
function.
-/

namespace SyntaxTree

/-- Why a sink did not take what was written to it. -/
inductive SinkError where
  | full
  | flushFailed
deriving DecidableEq, Repr

/-- Wording of a sink error. -/
def SinkError.message : SinkError → String
  | .full => "sink full"
  | .flushFailed => "flush failed"

/-- Why a tree could not be built or written. -/
inductive TreeError where
  /-- A child, or nothing at all, was inserted below no parent. -/
  | missingParent (child : Option String)
  /-- Nothing was inserted below a parent. -/
  | missingChild (parent : String)
  /-- The kind of a node does not accept the variant of a payload. -/
  | payloadMismatch (name : String) (kind : Kind) (variant : String)
  /-- A value leaf was to be written before its payload was set. -/
  | missingPayload (name : String) (kind : Kind) (line : Nat)
  /-- There was no room for another child. -/
  | outOfMemory (parent : String) (requested : Nat)
  /-- The sink of a dump failed. -/
  | write (cause : SinkError)
deriving DecidableEq, Repr

namespace TreeError

/-- Wording of a tree error. -/
def message : TreeError → String
  | .missingParent child =>
    "insert error: parent node is missing (child '" ++ child.getD "<none>" ++ "')"
  | .missingChild parent =>
    "insert error: child node is missing (parent '" ++ parent ++ "')"
  | .payloadMismatch name kind variant =>
    "payload " ++ variant ++ " does not match node '" ++ name ++ "' of kind " ++ kind.tag
  | .missingPayload name kind line =>
    "node '" ++ name ++ "' (line " ++ toString line ++ ") of kind " ++ kind.tag ++
      " has no payload"
  | .outOfMemory parent requested =>
    "out of memory while appending to '" ++ parent ++ "' (" ++ toString requested ++
      " children)"
  | .write cause => "failed to write tree dump: " ++ cause.message

/-- Wording of the cause beneath an error, if it has one. -/
def cause? : TreeError → Option String
  | .write cause => some cause.message
  | _ => none

end TreeError
end SyntaxTree
