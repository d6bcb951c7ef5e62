import SyntaxTree.Parsing.Outcome
import SyntaxTree.Text.Separated

/-!
# Files

Opening a path gives the chunks that reading it delivers.  A directory can be
opened and not read.  A path is followed component by component, so every name
in front of a step back has to be a directory.
-/

namespace SyntaxTree

open Text

/-- Why a path cannot be opened. -/
inductive OpenError where
  | notFound
  | notDirectory
  | nameTooLong
  | invalidName
  | other (message : String)
deriving DecidableEq, Repr

/-- Wording of an open error. -/
def OpenError.message : OpenError → String
  | .notFound => "No such file or directory (os error 2)"
  | .notDirectory => "Not a directory (os error 20)"
  | .nameTooLong => "File name too long (os error 36)"
  | .invalidName => "file name contained an unexpected NUL byte"
  | .other message => message

/-- Opens paths. -/
abbrev FileSystem := String → Except OpenError (List Chunk)

/-- What reading an opened directory delivers. -/
def unreadableDirectory : List Chunk :=
  [.failed "Is a directory (os error 21)"]

/-- Longest path in bytes. -/
def longestPath : Nat := 4095

/-- Longest component of a path in bytes. -/
def longestComponent : Nat := 255

/-- A directory with everything below it.  Names are component lists. -/
structure Directory where
  files : List (List String × List UInt8) := []
  directories : List (List String) := []

namespace Directory

/-- Components of a path, some of which may be empty. -/
def components (path : String) : List String :=
  parts '/' path

/-- Whether a component leads nowhere. -/
def staysInPlace (component : String) : Bool :=
  component = "" || component = "."

/-- Where a component leads from a place.  Nothing is above the root. -/
def stepFrom (place : List String) (component : String) : List String :=
  if staysInPlace component then place
  else if component = ".." then place.dropLast
  else place ++ [component]

/-- The place of a name. -/
def placeOf (name : String) : List String :=
  (components name).foldl stepFrom []

/-- A directory with the given files and directories. -/
def ofNames (files : List (String × List UInt8)) (directories : List String) : Directory where
  files := files.map fun (name, content) => (placeOf name, content)
  directories := directories.map placeOf

/-- A directory in which another one stands at a place. -/
def mount (outer : Directory) (place : List String) (inner : Directory) : Directory where
  files := outer.files ++ inner.files.map fun (name, content) => (place ++ name, content)
  directories := outer.directories ++ place :: inner.directories.map (place ++ ·)

/-- Whether a place is a directory: the directory itself, a given directory or
a place above some entry. -/
def isDirectory (directory : Directory) (place : List String) : Bool :=
  place.isEmpty || directory.directories.any (place.isPrefixOf ·) ||
    directory.files.any fun (name, _) => place.isPrefixOf name && place != name

/-- Follows the components of a path from a place that is a directory. -/
def follow (directory : Directory) (place : List String) :
    List String → Except OpenError (List Chunk)
  | [] => .ok unreadableDirectory
  | component :: rest =>
    if component.utf8ByteSize > longestComponent then
      .error .nameTooLong
    else
      let next := stepFrom place component
      if directory.isDirectory next then
        directory.follow next rest
      else
        match directory.files.lookup next, rest with
        | some content, [] => .ok [.octets content]
        | some _, _ :: _ => .error .notDirectory
        | none, _ => .error .notFound

/-- What every system has below its root. -/
def root : Directory :=
  ofNames [("dev/null", [])]
    ["bin", "boot", "dev/pts", "dev/shm", "etc", "home", "lib", "media", "mnt", "opt", "proc",
      "root", "run", "sbin", "srv", "sys", "tmp", "usr/bin", "usr/include", "usr/lib",
      "usr/local/bin", "usr/sbin", "usr/share", "var/cache", "var/lib", "var/log", "var/tmp"]

/-- The place of the working directory.  Its name has a slash, so that no path
can contain it. -/
def workplace : List String := ["tmp", "/"]

/-- The file system around a working directory. -/
def fileSystem (working : Directory) : FileSystem := fun path =>
  let system := root.mount workplace working
  if path.toList.contains '\x00' then
    .error .invalidName
  else if path.utf8ByteSize > longestPath then
    .error .nameTooLong
  else
    match path.toList with
    | [] => .error .notFound
    | '/' :: _ => system.follow [] (components path)
    | _ => system.follow workplace (components path)

end Directory
end SyntaxTree
