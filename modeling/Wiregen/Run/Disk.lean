import Wiregen.Run.Path

/-!
# Directories and files

The file system as far as a run can see it: a tree of directories with files and devices in it, one
of the directories the working one. Directories are made, files are read and written. What stands in
the way is found from the left: a name is looked for only in a directory, and only there can it be
too long or missing.
-/

namespace Wiregen.Run

/-! ## Errors -/

/-- Why the file system refuses an operation. -/
inductive DiskError where
  | noSuchFile
  | fileExists
  | notADirectory
  | isADirectory
  | noSpace
  | nameTooLong
  | nullByte
  /-- A read that does not end. -/
  | outOfMemory
  deriving DecidableEq, Repr

/-- The text of an error of the file system. -/
def DiskError.message : DiskError → String
  | .noSuchFile => "No such file or directory (os error 2)"
  | .fileExists => "File exists (os error 17)"
  | .notADirectory => "Not a directory (os error 20)"
  | .isADirectory => "Is a directory (os error 21)"
  | .noSpace => "No space left on device (os error 28)"
  | .nameTooLong => "File name too long (os error 36)"
  | .nullByte => "file name contained an unexpected NUL byte"
  | .outOfMemory => "out of memory"

/-- The longest name of a file, in bytes. -/
def maxNameBytes : Nat := 255

/-- The longest path, in bytes. -/
def maxPathBytes : Nat := 4095

/-- The error of a path that is refused as it is written, wherever it leads. -/
def pathError? (path : String) : Option DiskError :=
  if path.toList.contains '\x00' then some .nullByte
  else if maxPathBytes < path.utf8ByteSize then some .nameTooLong
  else if path = "" then some .noSuchFile
  else none

/-- Passes a path that is not refused as it is written. -/
def checkPath (path : String) : Except DiskError Unit :=
  match pathError? path with
  | some error => .error error
  | none => .ok ()

/-! ## Devices -/

/-- The standard streams of the program. -/
inductive Stream where
  | input
  | output
  | errors
  deriving DecidableEq, Repr

/-- A file without a content of its own. -/
inductive Device where
  /-- Empty to a reader; drops what is written. -/
  | null
  /-- Endless to a reader; drops what is written. -/
  | zero
  /-- Endless to a reader; has no room for what is written. -/
  | full
  | stream (stream : Stream)
  deriving DecidableEq, Repr

/-- What a reader gets. The output streams never end while the program runs. -/
def Device.read (stdin : List UInt8) : Device → Except DiskError (List UInt8)
  | .null => .ok []
  | .stream .input => .ok stdin
  | .zero | .full | .stream .output | .stream .errors => .error .outOfMemory

/-- The stream that gets what is written, if it gets anywhere. -/
def Device.write : Device → Except DiskError (Option Stream)
  | .null | .zero | .stream .input => .ok none
  | .full => .error .noSpace
  | .stream receiver => .ok (some receiver)

/-! ## The tree -/

/-- What a name in a directory stands for. -/
inductive Node where
  | file (content : List UInt8)
  | device (device : Device)
  | directory (entries : List (String × Node))

/-- The names in a directory. -/
abbrev Entries := List (String × Node)

/-- The entries with one name standing for a node. -/
def Entries.put (entries : Entries) (name : String) (node : Node) : Entries :=
  (name, node) :: entries.filter fun entry => entry.1 ≠ name

mutual

/-- The files of a tree, each with the names that lead to it. -/
def Node.files : Node → List (List String × List UInt8)
  | .file content => [([], content)]
  | .device _ => []
  | .directory entries => filesOfEntries entries

/-- The files that the entries of a directory lead to. -/
def filesOfEntries : List (String × Node) → List (List String × List UInt8)
  | [] => []
  | (name, node) :: others =>
    (node.files.map fun file => (name :: file.1, file.2)) ++ filesOfEntries others

end

/-- A directory in its tree: its entries, and from it up to the root the entries of each directory
above, with the name that leads down. -/
structure Location where
  entries : Entries
  above : List (String × Entries) := []

namespace Location

/-- The directory above. The root is above itself. -/
def parent (location : Location) : Location :=
  match location.above with
  | [] => location
  | (_, entries) :: above => { entries, above }

/-- What a name stands for in the directory, if it stands for anything. -/
def find (location : Location) (name : String) : Except DiskError (Option Node) :=
  if name = ".." then .ok (some (.directory location.parent.entries))
  else if maxNameBytes < name.utf8ByteSize then .error .nameTooLong
  else .ok (location.entries.lookup name)

/-- The directory that a name leads to. -/
def enter (location : Location) (name : String) : Except DiskError Location :=
  if name = ".." then .ok location.parent
  else do
    match ← location.find name with
    | none => throw .noSuchFile
    | some (.directory entries) =>
      return { entries, above := (name, location.entries) :: location.above }
    | some _ => throw .notADirectory

/-- The entries of the root over a directory with the given entries. -/
def rootOver (entries : Entries) : List (String × Entries) → Entries
  | [] => entries
  | (name, outer) :: above => rootOver (outer.put name (.directory entries)) above

/-- The entries of the root once a name stands for a node in the directory. -/
def put (location : Location) (name : String) (node : Node) : Entries :=
  rootOver (location.entries.put name node) location.above

end Location

/-! ## The disk -/

/-- A tree of files and the names that lead from its root to the working directory. -/
structure Disk where
  root : Entries
  workingDirectory : List String

namespace Disk

/-- The standard streams as entries of a directory. -/
def numberedStreams : Entries :=
  [("0", .device (.stream .input)), ("1", .device (.stream .output)),
    ("2", .device (.stream .errors))]

/-- The devices that a system has. -/
def deviceEntries : Entries :=
  [("null", .device .null), ("zero", .device .zero), ("full", .device .full),
    ("stdin", .device (.stream .input)), ("stdout", .device (.stream .output)),
    ("stderr", .device (.stream .errors)), ("fd", .directory numberedStreams)]

/-- A disk with some files in the working directory, and apart from the devices nothing else. -/
def holding (files : List (String × List UInt8)) : Disk where
  root :=
    [("tmp", .directory [("run", .directory (files.map fun file => (file.1, .file file.2)))]),
      ("dev", .directory deviceEntries),
      ("proc", .directory [("self", .directory [("fd", .directory numberedStreams)])])]
  workingDirectory := ["tmp", "run"]

/-- The directory that names lead to, from where the path starts. -/
def locate (disk : Disk) (path : String) (names : List String) : Except DiskError Location :=
  ((if isRooted path then [] else disk.workingDirectory) ++ names).foldlM Location.enter
    { entries := disk.root }

/-- The files below a directory of the working directory, each with the names that lead to it. -/
def filesBelow (disk : Disk) (names : List String) : List (List String × List UInt8) :=
  match disk.locate "" names with
  | .ok location => filesOfEntries location.entries
  | .error _ => []

/-- Whether there is a directory at a path. -/
def isDirectory (disk : Disk) (path : String) : Bool :=
  (pathError? path).isNone && (disk.locate path (pathNames path)).toBool

/-- The content of the file at a path. -/
def read (disk : Disk) (stdin : List UInt8) (path : String) : Except DiskError (List UInt8) := do
  checkPath path
  match (pathNames path).reverse with
  | [] => throw .isADirectory
  | name :: above =>
    let location ← disk.locate path above.reverse
    match ← location.find name with
    | none => throw .noSuchFile
    | some (.directory _) => throw .isADirectory
    | some (.file content) => if endsAsDirectory path then throw .notADirectory else return content
    | some (.device device) =>
      if endsAsDirectory path then throw .notADirectory else device.read stdin

/-- The disk with a file at a path, in a directory that is there. Where the path leads to a stream,
the content goes there. -/
def write (disk : Disk) (path : String) (content : List UInt8) :
    Except DiskError (Disk × Option Stream) := do
  checkPath path
  match (pathNames path).reverse with
  | [] => throw .isADirectory
  | name :: above =>
    let location ← disk.locate path above.reverse
    if endsAsDirectory path then throw .isADirectory
    match ← location.find name with
    | some (.directory _) => throw .isADirectory
    | some (.device device) => return (disk, ← device.write)
    | _ => return ({ disk with root := location.put name (.file content) }, none)

/-- The disk with a new directory at a path, in a directory that is there. -/
def makeDirectory (disk : Disk) (path : String) : Except DiskError Disk := do
  checkPath path
  match (pathNames path).reverse with
  | [] => throw .fileExists
  | name :: above =>
    let location ← disk.locate path above.reverse
    match ← location.find name with
    | some _ => throw .fileExists
    | none => return { disk with root := location.put name (.directory []) }

/-- The disk with a directory at a path, new or not. -/
def ensureDirectory (disk : Disk) (path : String) : Except DiskError Disk :=
  match disk.makeDirectory path with
  | .ok disk => .ok disk
  | .error error => if disk.isDirectory path then .ok disk else .error error

/-- The disk with a directory at the first path. The other paths are those of the directories above
it, the nearest first, and get one as far as that is needed. -/
def ensureDirectories (disk : Disk) : List String → Except DiskError Disk
  | [] => .ok disk
  | path :: above =>
    match disk.makeDirectory path with
    | .error .noSuchFile => do (← disk.ensureDirectories above).ensureDirectory path
    | _ => disk.ensureDirectory path

/-- The disk with the directories above a path. -/
def makeParents (disk : Disk) (path : String) : Except DiskError Disk :=
  disk.ensureDirectories (parentPaths path)

end Disk

end Wiregen.Run
