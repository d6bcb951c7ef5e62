import SyntaxTree.Text.Quoted
import SyntaxTree.Text.Separated

/-!
# Log events

Everything the program can log is an event with a level, the module it comes
from and a wording.  Operations return the events they cause; whether an event
is written is decided elsewhere.
-/

namespace SyntaxTree
namespace Log

open Text

/-- How important an event is. -/
inductive Level where
  | error
  | warn
  | info
  | debug
  | trace
deriving DecidableEq, Repr

namespace Level

/-- Rank of a level; larger ranks are more detailed. -/
def rank : Level → Nat
  | .error => 1
  | .warn => 2
  | .info => 3
  | .debug => 4
  | .trace => 5

/-- Name of a level, right-aligned to five characters. -/
def column : Level → String
  | .error => "ERROR"
  | .warn => " WARN"
  | .info => " INFO"
  | .debug => "DEBUG"
  | .trace => "TRACE"

end Level

/-- Something that happened. -/
inductive Event where
  | childAppended (parent child : String) (position : Nat)
  | parentMissing (child : String)
  | childMissing (parent : String)
  | bothMissing
  | treeDumped (root : String) (visited : Nat)
  | treeReleased (root : String) (released : Nat)
  | textParsed (tokens errors : Nat)
  | parseFinished (path : String) (errors : Nat)
  | dumpSkipped
  | treeCounted (nodes leaves depth : Nat)
  /-- The viewer starts to wait for a source of input. -/
  | inputRegistered (token : Nat)
  | runFailed (message : String) (cause : Option String)
deriving DecidableEq, Repr

namespace Event

/-- Level of an event. -/
def level : Event → Level
  | .childAppended .. => .trace
  | .parentMissing _ => .warn
  | .childMissing _ => .warn
  | .bothMissing => .warn
  | .treeDumped .. => .debug
  | .treeReleased .. => .debug
  | .textParsed .. => .debug
  | .parseFinished .. => .info
  | .dumpSkipped => .debug
  | .treeCounted .. => .debug
  | .inputRegistered _ => .trace
  | .runFailed .. => .debug

/-- Module path under which a filter knows an event. -/
def target : Event → String
  | .childAppended .. => "cmmtree::tree::builder"
  | .parentMissing _ => "cmmtree::tree::builder"
  | .childMissing _ => "cmmtree::tree::builder"
  | .bothMissing => "cmmtree::tree::builder"
  | .treeDumped .. => "cmmtree::tree::traverse"
  | .treeReleased .. => "cmmtree::tree::destroy"
  | .textParsed .. => "cmmtree::parser::token_stream"
  | .parseFinished .. => "cmmtree::driver"
  | .dumpSkipped => "cmmtree::driver"
  | .treeCounted .. => "cmmtree::driver"
  | .inputRegistered _ => "mio::poll"
  | .runFailed .. => "cmmtree"

/-- Wording of an event without its level. -/
def message : Event → String
  | .childAppended parent child position =>
    "append child parent=" ++ quoted parent ++ " child=" ++ quoted child ++
      " position=" ++ toString position
  | .parentMissing child => "insert without a parent child=" ++ quoted child
  | .childMissing parent => "insert without a child parent=" ++ quoted parent
  | .bothMissing => "insert without a parent or a child"
  | .treeDumped root visited =>
    "tree dumped root=" ++ quoted root ++ " visited=" ++ toString visited
  | .treeReleased root released =>
    "tree destroyed root=" ++ root ++ " released=" ++ toString released
  | .textParsed tokens errors =>
    "token stream parsed tokens=" ++ toString tokens ++ " errors=" ++ toString errors
  | .parseFinished path errors =>
    "parse finished path=" ++ path ++ " errors=" ++ toString errors
  | .dumpSkipped => "dump skipped, parse reported errors"
  | .treeCounted nodes leaves depth =>
    "tree stats nodes=" ++ toString nodes ++ " leaves=" ++ toString leaves ++
      " max_depth=" ++ toString depth
  | .inputRegistered token =>
    "registering event source with poller: token=Token(" ++ toString token ++
      "), interests=READABLE"
  | .runFailed message none => "run failed error=" ++ message
  | .runFailed message (some cause) =>
    "run failed error=" ++ message ++ "\n\nCaused by:\n    " ++ cause

/-- Names of the fields of an event.  Every event has a message. -/
def fields : Event → List String
  | .childAppended .. => ["message", "parent", "child", "position"]
  | .parentMissing _ => ["message", "child"]
  | .childMissing _ => ["message", "parent"]
  | .bothMissing => ["message"]
  | .treeDumped .. => ["message", "root", "visited"]
  | .treeReleased .. => ["message", "root", "released"]
  | .textParsed .. => ["message", "tokens", "errors"]
  | .parseFinished .. => ["message", "path", "errors"]
  | .dumpSkipped => ["message"]
  | .treeCounted .. => ["message", "nodes", "leaves", "max_depth"]
  | .inputRegistered _ =>
    ["message", "log.target", "log.module_path", "log.file", "log.line"]
  | .runFailed .. => ["message", "error"]

/-- Lines that an event writes. -/
def lines (event : Event) : List String :=
  Text.lines (event.level.column ++ " " ++ event.message)

end Event

/-- A result with the events that led to it. -/
structure Logged (α : Type) where
  value : α
  events : List Event

end Log
end SyntaxTree
