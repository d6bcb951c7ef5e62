import SyntaxTree.Log.Filter
import SyntaxTree.Parsing.TokenLines
import SyntaxTree.Session.CommandLine
import SyntaxTree.Session.Run
import SyntaxTree.Viewer.Keyboard
import SyntaxTree.Viewer.Panes

/-!
# Invocations

The whole program as a function from its surroundings to what it leaves behind:
the arguments, the log filters, the files and the terminal on one side, the
exit code, the output and the last screen on the other.
-/

namespace SyntaxTree

open Log

/-- A terminal with the keys that have been typed on it. -/
structure Terminal where
  width : Nat
  height : Nat
  typed : List Key

namespace Viewer

/-- Draws the screen, then reacts to the keys and draws after each, until one
quits.  Returns the last screen. -/
def browse (viewer : Viewer) (width height : Nat) : List Key → Screen.Area
  | [] => (viewer.draw width height).2
  | key :: keys =>
    let (drawn, screen) := viewer.draw width height
    if drawn.hasQuit then screen else (drawn.press key).browse width height keys

end Viewer

namespace Terminal

/-- The events of opening the viewer: it waits for the keyboard and for changes
of the terminal. -/
def opening : List Event :=
  [.inputRegistered 0, .inputRegistered 1]

/-- Browses the tree on the terminal, or fails if there is none. -/
def inspector
    (terminal : Except String Terminal)
    (showEpsilon : Bool) : Session.Inspector (Option Screen.Area) := fun tree =>
  match terminal with
  | .error cause => { shown := none, result := .error cause }
  | .ok terminal =>
    let viewer := Viewer.start tree showEpsilon
    let keys := Keyboard.keys terminal.typed
    { shown := some (viewer.browse terminal.width terminal.height keys)
      result := .ok ()
      events := opening }

end Terminal

/-- The surroundings of the program. -/
structure Surroundings where
  /-- The arguments behind the program name. -/
  arguments : List String
  /-- Filter for this program's own log events. -/
  ownFilter : Option String
  /-- Filter that programs share, used if there is no own one. -/
  sharedFilter : Option String
  files : FileSystem
  /-- The terminal, or why there is none. -/
  terminal : Except String Terminal

/-- What the program leaves behind. -/
structure Effect where
  code : Nat
  output : ByteArray := .empty
  /-- The usage error, reported in front of the error lines. -/
  usageError : Option CommandLine.UsageError := none
  errorLines : List String := []
  /-- The last screen, if the viewer was opened. -/
  screen : Option Screen.Area := none

namespace Surroundings

/-- The log filter asked for, if any. -/
def filter (surroundings : Surroundings) : Except FilterError (Option Filter) :=
  match surroundings.ownFilter, surroundings.sharedFilter with
  | some own, _ => some <$> Filter.read (Filter.confine own)
  | none, some shared => some <$> Filter.read shared
  | none, none => .ok none

/-- Lines that logging writes for some events. -/
def logLines (filter : Option Filter) (events : List Event) : List String :=
  match filter with
  | none => []
  | some filter =>
    (events.filter filter.passes).flatMap Event.lines

/-- Runs a session with the options. -/
def session (surroundings : Surroundings) (options : CommandLine.Options) :
    Session.RunReport (Option Screen.Area) :=
  let inspector := if options.view then
      Terminal.inspector surroundings.terminal options.verbose
    else
      fun _ => { shown := none, result := .ok () }
  Session.run TokenLines.parser options.dumpSettings {} inspector surroundings.files options.file

/-- The filter to log with, and a warning if the one asked for cannot be read. -/
def logging (surroundings : Surroundings) : Option Filter × List String :=
  match surroundings.filter with
  | .ok filter => (filter, [])
  | .error error => (none, ["Warning: logging disabled: " ++ error.message])

/-- Exit code of a session; counted errors are reported and no failure. -/
def exitCode : Except Session.RunError Session.Summary → Nat
  | .ok _ => 0
  | .error _ => 1

/-- Event of a failed session. -/
def failureEvents : Except Session.RunError Session.Summary → List Event
  | .ok _ => []
  | .error error => [.runFailed error.message error.cause?]

/-- Lines that tell how a session went: its diagnostics or its failure. -/
def resultLines : Except Session.RunError Session.Summary → List String
  | .ok summary => summary.diagnostics.map Diagnostic.text
  | .error error => ["Error: " ++ error.message]

/-- Runs the program with valid arguments. -/
def runOptions (surroundings : Surroundings) (options : CommandLine.Options) : Effect :=
  let (filter, warnings) := surroundings.logging
  let report := surroundings.session options
  { code := exitCode report.result
    output := report.sink.stored
    errorLines := warnings ++
      logLines filter (report.events ++ failureEvents report.result) ++
      (resultLines report.result).flatMap Text.lines
    screen := report.inspected.join }

/-- Runs the program. -/
def run (surroundings : Surroundings) : Effect :=
  match CommandLine.read surroundings.arguments with
  | .error .help => { code := 0, output := (CommandLine.helpText CommandLine.programName).toUTF8 }
  | .error .version => { code := 0, output := CommandLine.versionText.toUTF8 }
  | .error (.usage error) =>
    { code := 1
      usageError := some error
      errorLines := ["", CommandLine.usageReminder] }
  | .ok options => surroundings.runOptions options

end Surroundings
end SyntaxTree
