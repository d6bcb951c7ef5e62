import SyntaxTree.Session.Invocation

/-!
# Program

Collects the surroundings of the program, runs it and carries out its effect.
-/

namespace SyntaxTree

/-- Wording of a usage error on the terminal. -/
def CommandLine.UsageError.message : CommandLine.UsageError → String
  | .unknownArgument => "error: unexpected argument found"
  | .tooManyValues => "error: unexpected value for a flag found"
  | .argumentConflict => "error: a flag cannot be used multiple times"
  | .invalidValue => "error: a value is required for '<FILE>' but none was supplied"
  | .missingRequiredArgument =>
    "error: the following required arguments were not provided:\n  <FILE>"

/-- What opening and reading a path gives. -/
def openFile (path : String) : IO (Except OpenError (List Chunk)) := do
  try
    let content ← IO.FS.readBinFile path
    return .ok [.octets content.toList]
  catch
    | .noFileOrDirectory .. => return .error .notFound
    | .inappropriateType _ code _ =>
      return if code = 21 then .ok unreadableDirectory else .error .notDirectory
    | error => return .error (.other (toString error))

/-- The file system, of which only the path that will be opened is looked at. -/
def fileSystem (arguments : List String) : IO FileSystem := do
  match CommandLine.read arguments with
  | .ok options =>
    let opened ← openFile options.file
    return fun _ => opened
  | .error _ => return fun _ => .error .notFound

end SyntaxTree

open SyntaxTree in
/-- Runs the program. -/
def main (arguments : List String) : IO UInt32 := do
  let surroundings : Surroundings := {
    arguments := arguments
    ownFilter := ← IO.getEnv "CMMTREE_LOG"
    sharedFilter := ← IO.getEnv "RUST_LOG"
    files := ← fileSystem arguments
    terminal := .error "Inappropriate ioctl for device (os error 25)" }
  let effect := surroundings.run
  (← IO.getStdout).write effect.output
  (← IO.getStdout).flush
  for error in effect.usageError do
    IO.eprintln error.message
  for line in effect.errorLines do
    IO.eprintln line
  return effect.code.toUInt32
