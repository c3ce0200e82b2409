import NeuralBackend.Fault

/-!
# Log files

A small file system, as far as opening a log file can meet it: a tree of directories with a working
directory, and files that hold lines.

* `LogPath` is a path as it is written; `LogPath.parent?` is the path of the directory it lies in.
* `Disk.createDirectories` makes a directory with everything above it, and `Disk.openFile` opens a
  file for appending, making it if it is not there.  Both fail as the operating system does, the
  first with what it had made by then still in place.
-/

namespace NeuralBackend

/-! ## Paths -/

/-- A path: what it starts with (`/` for an absolute path, `.` for one that starts at the working
directory by name, nothing otherwise), and the pieces between the slashes after that. -/
structure LogPath where
  head : String
  pieces : List String
  deriving DecidableEq, Repr, Inhabited

namespace LogPath

/-- A written path. -/
def parse (text : String) : LogPath :=
  let pieces := text.splitOn "/"
  match pieces with
  | [""] => ⟨"", []⟩
  | "" :: rest => ⟨"/", rest⟩
  | "." :: rest => ⟨".", if rest = [] then [] else "" :: rest⟩
  | pieces => ⟨"", pieces⟩

/-- The path as text. -/
def text (p : LogPath) : String := p.head ++ "/".intercalate p.pieces

/-- Whether nothing is written at all. -/
def isEmpty (p : LogPath) : Bool := p.head == "" && p.pieces == []

/-- The pieces without those at the end that name no new place: empty ones and `.`. -/
def strip (pieces : List String) : List String :=
  (pieces.reverse.dropWhile fun piece => piece == "" || piece == ".").reverse

/-- The path of the directory that holds the place a path names; the root and the empty path have
none. -/
def parent? (p : LogPath) : Option LogPath :=
  match strip p.pieces with
  | [] => if p.head = "." then some ⟨"", []⟩ else none
  | pieces => some ⟨p.head, strip pieces.dropLast⟩

/-- The steps of a path, each a name, `.` or `..`. -/
def steps (p : LogPath) : List String :=
  (if p.head = "." then ["."] else []) ++ p.pieces.filter (· ≠ "")

/-- What keeps a path from being looked up at all. -/
def problem? (p : LogPath) : Option SystemError :=
  if p.text.contains '\x00' then some .nulInPath
  else if p.isEmpty then some .notFound
  else if 4095 < p.text.utf8ByteSize then some .nameTooLong
  else none

/-- Whether the path ends in a slash. -/
def endsInSlash (p : LogPath) : Bool := p.pieces.getLast? == some ""

end LogPath

/-! ## The file system -/

/-- A place in the tree: the names from the root down. -/
abbrev Place := List String

/-- Directories and files; files hold lines of type `α`. -/
structure Disk (α : Type) where
  workingDirectory : Place
  directories : List Place
  files : List (Place × List α)
  deriving Repr

namespace Disk

variable {α : Type}

/-- A disk whose working directory is empty. -/
def blank : Disk α where
  workingDirectory := ["tmp", "work"]
  directories := [[], ["tmp"], ["tmp", "work"]]
  files := []

/-- Whether a directory is at a place. -/
def isDirectory (disk : Disk α) (place : Place) : Bool := disk.directories.contains place

/-- Whether a file is at a place. -/
def isFile (disk : Disk α) (place : Place) : Bool := disk.files.any (·.1 == place)

/-- The place that a step leads to from a directory. -/
def follow (place : Place) : String → Place
  | "." => place
  | ".." => place.dropLast
  | name => place ++ [name]

/-- Why nothing is found under a name. -/
def missing (name : String) : SystemError :=
  if 255 < name.utf8ByteSize then .nameTooLong else .notFound

/-- The directory that a list of steps leads to. -/
def walk (disk : Disk α) (place : Place) : List String → Except SystemError Place
  | [] => .ok place
  | step :: rest =>
      let next := follow place step
      if disk.isDirectory next then disk.walk next rest
      else if disk.isFile next then .error .notADirectory
      else .error (missing step)

/-- Where a path starts. -/
def start (disk : Disk α) (path : LogPath) : Place :=
  if path.head = "/" then [] else disk.workingDirectory

/-- The directory and the name that a path leads to; the path of a root has no name. -/
def locate (disk : Disk α) (path : LogPath) : Except SystemError (Place × Option String) :=
  match path.problem? with
  | some e => .error e
  | none => do
      let above ← disk.walk (disk.start path) path.steps.dropLast
      return (above, path.steps.getLast?)

/-- Makes one directory. -/
def makeDirectory (disk : Disk α) (path : LogPath) : Except SystemError (Disk α) := do
  match ← disk.locate path with
  | (_, none) => .error .fileExists
  | (above, some name) =>
      let place := follow above name
      if disk.isDirectory place || disk.isFile place then .error .fileExists
      else if 255 < name.utf8ByteSize then .error .nameTooLong
      else .ok { disk with directories := place :: disk.directories }

/-- Whether a path leads to a directory. -/
def leadsToDirectory (disk : Disk α) (path : LogPath) : Bool :=
  match path.problem?, disk.walk (disk.start path) path.steps with
  | none, .ok _ => true
  | _, _ => false

/-- Makes a directory; it is no error if it is already there. -/
def ensureDirectory (disk : Disk α) (path : LogPath) : Disk α × Option SystemError :=
  match disk.makeDirectory path with
  | .ok disk => (disk, none)
  | .error e => (disk, if disk.leadsToDirectory path then none else some e)

/-- Makes a directory and, where they are missing, the directories above it; `depth` bounds how
many.  What was made before an error stays. -/
def createDirectoriesTo (disk : Disk α) (path : LogPath) : (depth : Nat) →
    Disk α × Option SystemError
  | 0 => disk.ensureDirectory path
  | depth + 1 =>
      if path.isEmpty then (disk, none)
      else
        match disk.makeDirectory path, path.parent? with
        | .error .notFound, some parent =>
            match disk.createDirectoriesTo parent depth with
            | (disk, none) => disk.ensureDirectory path
            | (disk, some e) => (disk, some e)
        | _, _ => disk.ensureDirectory path

/-- Makes a directory and, where they are missing, the directories above it. -/
def createDirectories (disk : Disk α) (path : LogPath) : Disk α × Option SystemError :=
  disk.createDirectoriesTo path (path.pieces.length + 2)

/-- Opens a file for appending, making it if it is not there. -/
def openFile (disk : Disk α) (path : LogPath) : Except SystemError (Disk α × Place) := do
  match ← disk.locate path with
  | (_, none) => .error .isADirectory
  | (above, some name) =>
      let place := follow above name
      if path.endsInSlash || name == "." || name == ".." || disk.isDirectory place then
        .error .isADirectory
      else if disk.isFile place then .ok (disk, place)
      else if 255 < name.utf8ByteSize then .error .nameTooLong
      else .ok ({ disk with files := disk.files ++ [(place, [])] }, place)

/-- The disk after a file was emptied. -/
def clear (disk : Disk α) (place : Place) : Disk α :=
  { disk with files := disk.files.map fun file => if file.1 = place then (file.1, []) else file }

/-- The disk after a line was appended to a file. -/
def append (disk : Disk α) (place : Place) (line : α) : Disk α :=
  { disk with
    files := disk.files.map fun file =>
      if file.1 = place then (file.1, file.2 ++ [line]) else file }

/-- The files in and below the working directory, each with its path from there. -/
def listing (disk : Disk α) : List (String × List α) :=
  disk.files.filterMap fun file =>
    if disk.workingDirectory.isPrefixOf file.1 then
      some ("/".intercalate (file.1.drop disk.workingDirectory.length), file.2)
    else none

end Disk

end NeuralBackend
