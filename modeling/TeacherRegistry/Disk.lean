/-!
A disk: files and directories under one root, as far as reading and replacing whole files goes.
A path is followed from the root or from the working directory one component at a time, so a
component after a file, or after nothing, leads nowhere.
-/

namespace TeacherRegistry

/-- Where a file or directory is: the names on the way from the root. -/
abbrev Location := List String

inductive Disk.Node where
  | file (content : ByteArray)
  | directory (entries : List (String × Disk.Node))

structure Disk where
  /-- What the root directory holds. -/
  entries : List (String × Disk.Node)
  workingDirectory : Location

namespace Disk

namespace Node

/-- The directory that holds nothing. -/
def empty : Node := .directory []

/-- What a directory holds. A file holds nothing. -/
def entries : Node → List (String × Node)
  | .directory entries => entries
  | .file _ => []

/-- What is at a location below a node. -/
def at? : Node → Location → Option Node
  | node, [] => some node
  | node, name :: rest => (node.entries.lookup name).bind (at? · rest)

/-- A node with something at a location below it, in place of what was there. -/
def putAt (added : Node) : Node → Location → Node
  | _, [] => added
  | node, name :: rest =>
    let below := (node.entries.lookup name).getD empty
    .directory ((name, putAt added below rest) :: node.entries.filter fun entry => entry.1 ≠ name)

mutual

/-- The files below a node, each with its location there. -/
def files : Node → List (Location × ByteArray)
  | .file content => [([], content)]
  | .directory entries => filesOfEntries entries

def filesOfEntries : List (String × Node) → List (Location × ByteArray)
  | [] => []
  | (name, node) :: rest =>
    (files node).map (fun (location, content) => (name :: location, content))
      ++ filesOfEntries rest

end

end Node

/-- The root is always a directory. -/
def root (disk : Disk) : Node :=
  .directory disk.entries

/-- What is at a location. -/
def node? (disk : Disk) (location : Location) : Option Node :=
  disk.root.at? location

/-- Puts something at a location, in place of what was there. -/
def put (disk : Disk) (location : Location) (node : Node) : Disk :=
  { disk with entries := (Node.putAt node disk.root location).entries }

/-- The greatest number of bytes of a name. -/
def nameLimit : Nat := 255

/-- The number of bytes that a path must stay below. -/
def pathLimit : Nat := 4096

/-- The components of a path as written, empty ones included. -/
def pieces (path : String) : List String :=
  (path.toList.splitOn '/').map String.ofList

/-- Whether a path starts at the root. -/
def isAbsolute (path : String) : Bool :=
  path.toList.head? == some '/'

/-- Whether no file can have this path, whatever is on the disk. -/
def isUnusable (path : String) : Bool :=
  path.toList.contains '\x00' || pathLimit ≤ path.utf8ByteSize

/-- Where following a path ends. -/
inductive Arrival where
  | found (location : Location) (node : Node)
  /-- A name was not there, in a directory that was. -/
  | absent
  /-- A name came after a file, or is too long to be one. -/
  | blocked

/-- Goes to a location. -/
def arrive (disk : Disk) (location : Location) : Arrival :=
  match disk.node? location with
  | some node => .found location node
  | none => .absent

/-- Follows one component from a location. -/
def step (disk : Disk) (location : Location) (node : Node) (piece : String) : Arrival :=
  match node with
  | .file _ => .blocked
  | .directory entries =>
    if piece = "" ∨ piece = "." then .found location node
    else if piece = ".." then disk.arrive location.dropLast
    else if nameLimit < piece.utf8ByteSize then .blocked
    else match entries.lookup piece with
      | some node => .found (location ++ [piece]) node
      | none => .absent

/-- Follows components from where one has arrived. -/
def follow (disk : Disk) : Arrival → List String → Arrival
  | .found location node, piece :: rest => follow disk (disk.step location node piece) rest
  | arrival, _ => arrival

/-- The directory that paths of this kind start from. -/
def origin (disk : Disk) (path : String) : Location :=
  if isAbsolute path then [] else disk.workingDirectory

/-- Where a path leads. The empty path leads nowhere. -/
def resolve (disk : Disk) (path : String) : Arrival :=
  if path = "" then .absent
  else if isUnusable path then .blocked
  else disk.follow (disk.arrive (disk.origin path)) (pieces path)

/-- What comes of reading a file. -/
inductive Reading where
  | content (bytes : ByteArray)
  /-- There is nothing under the path. -/
  | missing
  | failed

/-- Reads the file under a path. -/
def read (disk : Disk) (path : String) : Reading :=
  match disk.resolve path with
  | .found _ (.file content) => .content content
  | .found _ (.directory _) => .failed
  | .absent => .missing
  | .blocked => .failed

/-- Follows components, making a directory where a name is not there. Gives where it ends, unless it
ends at a file. -/
def makeDirectories (disk : Disk) (location : Location) : List String → Option Location × Disk
  | [] => (some location, disk)
  | piece :: rest =>
    match disk.follow (disk.arrive location) [piece] with
    | .found location (.directory _) => makeDirectories disk location rest
    | .absent =>
      let location := location ++ [piece]
      makeDirectories (disk.put location .empty) location rest
    | _ => (none, disk)

/-- A disk on which there is nothing but the working directory. -/
def blank (workingDirectory : Location) : Disk :=
  (makeDirectories ⟨[], workingDirectory⟩ [] workingDirectory).2

/-- Adds a directory, with those on the way to it. -/
def addDirectory (disk : Disk) (location : Location) : Disk :=
  (disk.makeDirectories [] location).2

/-- Adds a file, with the directories on the way to it. -/
def addFile (disk : Disk) (location : Location) (content : ByteArray) : Disk :=
  (disk.addDirectory location.dropLast).put location (.file content)

/-- The components that say where a path leads: without empty ones and single dots. -/
def names (path : String) : List String :=
  (pieces path).filter fun piece => piece ≠ "" ∧ piece ≠ "."

/-- The name that a path gives to a file: its last component, unless that can only be a
directory. -/
def fileName? (path : String) : Option String :=
  (pieces path).getLast?.filter fun piece => piece ≠ "" ∧ piece ≠ "." ∧ piece ≠ ".."

/-- The components, as written, of the directory that the file under a path is in. -/
def directoryPieces (path : String) : List String :=
  let above := (pieces path).dropLast
  (above.reverse.dropWhile fun piece => piece = "" ∨ piece = ".").reverse

/-- The number of bytes of the name under which a file is written before it takes its place. -/
def draftNameSize : Nat := 10

/-- The number of bytes of the path from the root under which the file under a path is written
before it takes its place. -/
def draftPathSize (disk : Disk) (path : String) : Nat :=
  let directory := "/".intercalate (directoryPieces path)
  let above :=
    if isAbsolute path then directory
    else
      let inner := if directory = "" then "." else directory
      "/" ++ "/".intercalate (disk.workingDirectory ++ [inner])
  above.utf8ByteSize + 1 + draftNameSize

/-- Replaces the whole file under a path, making the directories on the way, and says whether that
succeeded. Directories stay even when the file cannot be written. The content is written beside the
file first, so there must be a path for that. -/
def write (disk : Disk) (path : String) (content : ByteArray) : Bool × Disk :=
  if isUnusable path then (false, disk)
  else
    match disk.makeDirectories (disk.origin path) (names path).dropLast with
    | (none, disk) => (false, disk)
    | (some directory, disk) =>
      match fileName? path with
      | none => (false, disk)
      | some name =>
        if pathLimit ≤ disk.draftPathSize path then (false, disk)
        else match disk.follow (disk.arrive directory) [name] with
          | .blocked | .found _ (.directory _) => (false, disk)
          | _ => (true, disk.put (directory ++ [name]) (.file content))

/-- The files of a disk. -/
def files (disk : Disk) : List (Location × ByteArray) :=
  disk.root.files

end Disk

end TeacherRegistry
