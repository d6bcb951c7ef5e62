import SyntaxTree.Log.Event
import SyntaxTree.Tree.Line
import SyntaxTree.Tree.Preorder

/-!
# Dumping a tree

A dump writes the lines of all nodes in preorder to a sink and flushes it once
at the end.  The sink may have limited room and may fail to flush; it keeps
what it took before a failure.
-/

namespace SyntaxTree

open Log

/-- What and whether to dump. -/
structure DumpSettings where
  /-- Whether to dump at all. -/
  enabled : Bool
  /-- Whether to write symbols that derived the empty text. -/
  verbose : Bool
deriving DecidableEq, Repr

/-- A sink for octets. -/
structure Sink where
  /-- The octets taken so far. -/
  stored : ByteArray := .empty
  /-- How many octets the sink takes altogether, if there is a limit. -/
  limit : Option Nat := none
  /-- Whether flushing fails. -/
  flushFails : Bool := false

namespace Sink

/-- Writes octets; if they do not all fit, those that do are kept. -/
def write (sink : Sink) (octets : ByteArray) : Sink × Except SinkError Unit :=
  match sink.limit with
  | none => ({ sink with stored := sink.stored ++ octets }, .ok ())
  | some limit =>
    let room := limit - sink.stored.size
    if octets.size ≤ room then
      ({ sink with stored := sink.stored ++ octets }, .ok ())
    else
      ({ sink with stored := sink.stored ++ octets.extract 0 room }, .error .full)

/-- Flushes the sink. -/
def flush (sink : Sink) : Except SinkError Unit :=
  if sink.flushFails then .error .flushFailed else .ok ()

end Sink

namespace Visit

/-- Writes the line of a visited node, if it has one. -/
def print (verbose : Bool) (sink : Sink) (visit : Visit) : Sink × Except TreeError Unit :=
  match visit.symbol.line? verbose visit.depth with
  | .error error => (sink, .error error)
  | .ok none => (sink, .ok ())
  | .ok (some line) =>
    match sink.write (line ++ "\n").toUTF8 with
    | (sink, .ok ()) => (sink, .ok ())
    | (sink, .error cause) => (sink, .error (.write cause))

/-- Writes the lines of the visited nodes until one fails. -/
def printAll (verbose : Bool) (sink : Sink) : List Visit → Sink × Except TreeError Unit
  | [] => (sink, .ok ())
  | visit :: visits =>
    match visit.print verbose sink with
    | (sink, .ok ()) => printAll verbose sink visits
    | (sink, .error error) => (sink, .error error)

end Visit

/-- What a dump did. -/
structure DumpReport where
  sink : Sink
  /-- Number of visited nodes, written or not. -/
  result : Except TreeError Nat
  events : List Event

namespace Tree

/-- Dumps a tree to a sink.  A missing tree or a disabled dump leaves the sink
alone. -/
def dump (settings : DumpSettings) (sink : Sink) : Option Tree → DumpReport
  | none => ⟨sink, .ok 0, []⟩
  | some tree =>
    if settings.enabled then
      let visits := tree.preorder
      match Visit.printAll settings.verbose sink visits with
      | (sink, .error error) => ⟨sink, .error error, []⟩
      | (sink, .ok ()) =>
        match sink.flush with
        | .error cause => ⟨sink, .error (.write cause), []⟩
        | .ok () =>
          ⟨sink, .ok visits.length, [.treeDumped tree.symbol.name visits.length]⟩
    else
      ⟨sink, .ok 0, []⟩

end Tree
end SyntaxTree
