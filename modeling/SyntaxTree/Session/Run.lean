import SyntaxTree.Session.Files
import SyntaxTree.Tree.Dump
import SyntaxTree.Tree.Release
import SyntaxTree.Tree.Statistics

/-!
# Sessions

A session opens a file, parses it, dumps the tree if no error was counted,
shows it to an inspector and releases it.  Whatever tree the parser returned is
released, also if the session fails.
-/

namespace SyntaxTree
namespace Session

open Log

/-- Why a session failed. -/
inductive RunError where
  /-- The file could not be opened. -/
  | opening (path : String) (cause : OpenError)
  /-- The file could not be read. -/
  | reading (path : String) (cause : String)
  /-- The tree could not be built or dumped. -/
  | tree (error : TreeError)
  /-- The inspector failed. -/
  | inspecting (cause : String)
deriving DecidableEq, Repr

namespace RunError

/-- Wording of a failure. -/
def message : RunError → String
  | .opening path _ => "Could not open file " ++ path
  | .reading path cause => "Could not read file " ++ path ++ ": " ++ cause
  | .tree error => error.message
  | .inspecting cause => "tree viewer failed: " ++ cause

/-- Wording of the cause beneath a failure, if it has one. -/
def cause? : RunError → Option String
  | .opening _ cause => some cause.message
  | .reading _ cause => some cause
  | .tree error => error.cause?
  | .inspecting cause => some cause

end RunError

/-- What a session did. -/
structure Summary where
  diagnostics : List Diagnostic
  /-- Number of nodes visited by the dump. -/
  dumped : Nat
  /-- Number of nodes released at the end. -/
  released : Nat
  /-- Statistics of the tree of a clean parse. -/
  statistics : Option Statistics

/-- What an inspector saw and whether it failed. -/
structure Inspection (α : Type) where
  shown : α
  result : Except String Unit
  events : List Event := []

/-- An inspector looks at the tree of a clean parse. -/
abbrev Inspector (α : Type) := Tree → Inspection α

/-- Everything that a session shows. -/
structure RunReport (α : Type) where
  result : Except RunError Summary
  sink : Sink
  events : List Event
  /-- What the parser was given to read, if it was called. -/
  parsed : Option (List Chunk)
  /-- What the inspector saw, if it was called. -/
  inspected : Option α

/-- What was done with the tree of a clean parse. -/
structure Presentation (α : Type) where
  result : Except RunError (Nat × Option Statistics)
  sink : Sink
  events : List Event
  inspected : Option α

/-- Dumps the tree of a clean parse, counts it and shows it to the inspector. -/
def present
    (settings : DumpSettings)
    (sink : Sink)
    (inspector : Inspector α)
    (root : Option Tree) : Presentation α :=
  let dump := Tree.dump settings sink root
  match dump.result, root with
  | .error error, _ => ⟨.error (.tree error), dump.sink, dump.events, none⟩
  | .ok dumped, none => ⟨.ok (dumped, none), dump.sink, dump.events, none⟩
  | .ok dumped, some tree =>
    let statistics := tree.statistics
    let counted := .treeCounted statistics.nodes statistics.leaves statistics.depth
    let inspection := inspector tree
    let result := match inspection.result with
      | .ok () => .ok (dumped, some statistics)
      | .error cause => .error (.inspecting cause)
    ⟨result, dump.sink, dump.events ++ [counted] ++ inspection.events,
      some inspection.shown⟩

/-- Presents the tree of a clean parse; counted errors suppress that. -/
def presentOutcome
    (settings : DumpSettings)
    (sink : Sink)
    (inspector : Inspector α)
    (outcome : Outcome) : Presentation α :=
  if outcome.isClean then
    present settings sink inspector outcome.root
  else
    ⟨.ok (0, none), sink, [.dumpSkipped], none⟩

/-- Runs a session on the file at a path. -/
def run
    (parser : Parser)
    (settings : DumpSettings)
    (sink : Sink)
    (inspector : Inspector α)
    (files : FileSystem)
    (path : String) : RunReport α :=
  match files path with
  | .error cause => ⟨.error (.opening path cause), sink, [], none, none⟩
  | .ok chunks =>
    match parser chunks with
    | ⟨.error (.unreadable cause), events⟩ =>
      ⟨.error (.reading path cause), sink, events, some chunks, none⟩
    | ⟨.error (.tree error), events⟩ =>
      ⟨.error (.tree error), sink, events, some chunks, none⟩
    | ⟨.ok outcome, events⟩ =>
      let presentation := presentOutcome settings sink inspector outcome
      let release := Tree.release outcome.root
      let result := match presentation.result with
        | .error error => .error error
        | .ok (dumped, statistics) =>
          .ok ⟨outcome.diagnostics, dumped, release.value, statistics⟩
      ⟨result, presentation.sink,
        events ++ [.parseFinished path outcome.errorCount] ++ presentation.events ++
          release.events,
        some chunks, presentation.inspected⟩

end Session
end SyntaxTree
