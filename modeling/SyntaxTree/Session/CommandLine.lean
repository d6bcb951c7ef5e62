import SyntaxTree.Text.Plain
import SyntaxTree.Text.Separated
import SyntaxTree.Tree.Dump

/-!
# Command line

The arguments are read from left to right.  The first fault, or the first
request for help or the version, ends the reading.
-/

namespace SyntaxTree
namespace CommandLine

open Text

/-- What the program is asked to do with a file. -/
structure Options where
  file : String
  quiet : Bool
  verbose : Bool
  view : Bool
deriving DecidableEq, Repr

/-- Dump settings of the options. -/
def Options.dumpSettings (options : Options) : DumpSettings where
  enabled := !options.quiet
  verbose := options.verbose

/-- Why arguments are refused. -/
inductive UsageError where
  /-- An unknown option or one positional argument too many. -/
  | unknownArgument
  /-- A value attached to a flag. -/
  | tooManyValues
  /-- A flag given twice. -/
  | argumentConflict
  /-- An empty file name. -/
  | invalidValue
  /-- No file name. -/
  | missingRequiredArgument
deriving DecidableEq, Repr

/-- Why the reading of arguments ends early. -/
inductive Stop where
  | usage (error : UsageError)
  | help
  | version
deriving DecidableEq, Repr

/-- The named options. -/
inductive Switch where
  | quiet
  | verbose
  | view
  | help
  | version
deriving DecidableEq, Repr

namespace Switch

/-- Switch of a letter behind a single dash. -/
def ofLetter? : Char → Option Switch
  | 'q' => some .quiet
  | 'v' => some .verbose
  | 'h' => some .help
  | 'V' => some .version
  | _ => none

/-- Switch of a name behind two dashes. -/
def ofName? : String → Option Switch
  | "quiet" => some .quiet
  | "verbose" => some .verbose
  | "view" => some .view
  | "help" => some .help
  | "version" => some .version
  | _ => none

end Switch

/-- What the arguments read so far have set. -/
structure Settings where
  file : Option String := none
  quiet : Bool := false
  verbose : Bool := false
  view : Bool := false
deriving DecidableEq, Repr

namespace Settings

/-- Sets a flag that is not set yet. -/
def setOnce (isSet : Bool) (settings : Settings) : Except Stop Settings :=
  if isSet then .error (.usage .argumentConflict) else .ok settings

/-- Reacts to a switch.  A file name read before it has to be valid. -/
def react (settings : Settings) (switch : Switch) : Except Stop Settings :=
  if settings.file = some "" then
    .error (.usage .invalidValue)
  else
    match switch with
    | .quiet => setOnce settings.quiet { settings with quiet := true }
    | .verbose => setOnce settings.verbose { settings with verbose := true }
    | .view => setOnce settings.view { settings with view := true }
    | .help => .error .help
    | .version => .error .version

/-- Takes a positional argument, of which there may be one. -/
def readPositional (settings : Settings) (value : String) : Except Stop Settings :=
  match settings.file with
  | some _ => .error (.usage .unknownArgument)
  | none => .ok { settings with file := some value }

/-- Reads the letters behind a single dash. -/
def readLetters (settings : Settings) : List Char → Except Stop Settings
  | [] => .ok settings
  | letter :: letters =>
    match Switch.ofLetter? letter with
    | none => .error (.usage .unknownArgument)
    | some switch =>
      match settings.react switch with
      | .error stop => .error stop
      | .ok settings => settings.readLetters letters

/-- Reads what stands behind two dashes. -/
def readName (settings : Settings) (text : List Char) : Except Stop Settings :=
  let (name, value) := text.span (· != '=')
  match Switch.ofName? (String.ofList name) with
  | none => .error (.usage .unknownArgument)
  | some switch =>
    if value.isEmpty then settings.react switch else .error (.usage .tooManyValues)

/-- Reads one argument in front of a lone double dash. -/
def readArgument (settings : Settings) (argument : String) : Except Stop Settings :=
  match argument.toList with
  | ['-'] => settings.readPositional argument
  | '-' :: '-' :: text => settings.readName text
  | '-' :: letters => settings.readLetters letters
  | _ => settings.readPositional argument

/-- Reads arguments from left to right; behind a lone double dash all are
positional. -/
def readArguments (settings : Settings) : List String → Except Stop Settings
  | [] => .ok settings
  | "--" :: arguments => arguments.foldlM readPositional settings
  | argument :: arguments =>
    match settings.readArgument argument with
    | .error stop => .error stop
    | .ok settings => settings.readArguments arguments

/-- The options, if a valid file name was given. -/
def finish (settings : Settings) : Except Stop Options :=
  match settings.file with
  | none => .error (.usage .missingRequiredArgument)
  | some "" => .error (.usage .invalidValue)
  | some file => .ok ⟨file, settings.quiet, settings.verbose, settings.view⟩

end Settings

/-- Reads the arguments behind the program name. -/
def read (arguments : List String) : Except Stop Options := do
  let settings ← Settings.readArguments {} arguments
  settings.finish

/-- Name of the program. -/
def programName : String := "cmmtree"

/-- Name of a program that was called by a path: the last component, unless that
is a step back.  The name is shown without control sequences. -/
def calledName (path : String) : String :=
  match ((parts '/' path).filter fun part => part ≠ "" && part ≠ ".").getLast? with
  | none => programName
  | some ".." => programName
  | some name => plain name

/-- Text printed on request for help, under the name that the program was called
by. -/
def helpText (name : String) : String :=
  "Build and dump the syntax tree of a C-- source file\n\n" ++
  "Usage: " ++ name ++ " [OPTIONS] <FILE>\n\n" ++
  "Arguments:\n" ++
  "  <FILE>  C-- source file to parse\n\n" ++
  "Options:\n" ++
  "  -q, --quiet    Do not print the syntax tree\n" ++
  "  -v, --verbose  Also print non-terminals that derived the empty string\n" ++
  "      --view     Browse the syntax tree interactively after parsing\n" ++
  "  -h, --help     Print help\n" ++
  "  -V, --version  Print version\n"

/-- Text printed on request for the version. -/
def versionText : String :=
  programName ++ " 0.1.0\n"

/-- Reminder printed below every usage error. -/
def usageReminder : String :=
  "Usage: cmmtree <filename>, e.g. cmmtree test.cmm"

end CommandLine
end SyntaxTree
