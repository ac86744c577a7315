import TaskLoop.Disk.Path
import TaskLoop.OrderedMap
import TaskLoop.Text.Utf8

/-!
Files and directories: what stands where, how a path is followed, and what reading gives.
-/

set_option autoImplicit false

namespace TaskLoop

/-- Why an operation on files fails. -/
inductive DiskError where
  | notFound
  | alreadyExists
  | notDirectory
  | isDirectory
  | nameTooLong
  | noSpace
  | notText
  deriving DecidableEq, Repr, Inhabited

/-- The words for a failed operation on files. -/
def DiskError.message : DiskError → String
  | notFound => "No such file or directory (os error 2)"
  | alreadyExists => "File exists (os error 17)"
  | notDirectory => "Not a directory (os error 20)"
  | isDirectory => "Is a directory (os error 21)"
  | nameTooLong => "File name too long (os error 36)"
  | noSpace => "No space left on device (os error 28)"
  | notText => "stream did not contain valid UTF-8"

/-- What stands at a place. -/
inductive Node where
  | directory
  | file (content : List UInt8)
  deriving DecidableEq, Repr, Inhabited

/-- A place: the names on the way to it from the root. -/
abbrev Place := List String

/-- All files and directories but the root, and the place that relative paths start from. -/
structure Disk where
  nodes : OrderedMap Place Node
  workingDir : Place
  deriving DecidableEq

namespace Disk

/-- What stands at a place; the root is a directory. -/
def node? (disk : Disk) (place : Place) : Option Node :=
  if place.isEmpty then some .directory else disk.nodes.find? place

/-- Fails unless a directory stands at the place. -/
def requireDirectory (disk : Disk) (place : Place) : Except DiskError Unit :=
  match disk.node? place with
  | some .directory => .ok ()
  | some (.file _) => .error .notDirectory
  | none => .error .notFound

/-- Follows names from a place. Every place a name is looked up in must be a directory. -/
def follow (disk : Disk) : Place → List String → Except DiskError Place
  | place, [] => .ok place
  | place, name :: rest =>
    match disk.requireDirectory place with
    | .error e => .error e
    | .ok () =>
      if name == ".." then disk.follow place.dropLast rest
      else if 255 < name.utf8ByteSize then .error .nameTooLong
      else disk.follow (place ++ [name]) rest

/-- The place a path leads to. The last name need not exist, unless a slash or a dot after it says
that it is a directory. -/
def locate (disk : Disk) (path : Path) : Except DiskError Place :=
  if path.text.isEmpty then .error .notFound
  else
    match disk.follow (if path.isAbsolute then [] else disk.workingDir) path.names with
    | .error e => .error e
    | .ok place =>
      match disk.node? place with
      | some (.file _) =>
        if path.trimmed == path.text.toList then .ok place else .error .notDirectory
      | _ => .ok place

/-- What a path leads to. -/
def at? (disk : Disk) (path : Path) : Option Node :=
  match disk.locate path with
  | .ok place => disk.node? place
  | .error _ => none

/-- Whether a path leads to anything. -/
def pathExists (disk : Disk) (path : Path) : Bool := (disk.at? path).isSome

/-- Whether a path leads to a directory. -/
def isDirectory (disk : Disk) (path : Path) : Bool := disk.at? path == some .directory

/-- Whether a path leads to a file. -/
def isFile (disk : Disk) (path : Path) : Bool :=
  match disk.at? path with
  | some (.file _) => true
  | _ => false

/-- The bytes of a file. -/
def read (disk : Disk) (path : Path) : Except DiskError (List UInt8) := do
  let place ← disk.locate path
  match disk.node? place with
  | some (.file content) => .ok content
  | some .directory => .error .isDirectory
  | none => .error .notFound

/-- The text of a file. -/
def readText (disk : Disk) (path : Path) : Except DiskError (List Char) := do
  match Text.Utf8.decode? (← disk.read path) with
  | some text => .ok text
  | none => .error .notText

/-- The names in a directory, ascending. -/
def namesIn (disk : Disk) (place : Place) : List String :=
  disk.nodes.keys.filterMap fun other =>
    if other.length == place.length + 1 && place.isPrefixOf other then other.getLast? else none

/-- The names in the directory a path leads to. -/
def list (disk : Disk) (path : Path) : Except DiskError (List String) := do
  let place ← disk.locate path
  disk.requireDirectory place
  return disk.namesIn place

/-- The disk with something put at a place. -/
def put (disk : Disk) (place : Place) (node : Node) : Disk :=
  { disk with nodes := disk.nodes.insert place node }

/-- The disk without what stood at a place. -/
def remove (disk : Disk) (place : Place) : Disk :=
  { disk with nodes := disk.nodes.erase place }

/-- The disk without what stood at a place and below it. -/
def removeTree (disk : Disk) (place : Place) : Disk :=
  { disk with nodes := disk.nodes.filter fun other _ => !place.isPrefixOf other }

/-- What stands below a place, by the names on the way from there. -/
def below (disk : Disk) (place : Place) : List (List String × Node) :=
  disk.nodes.entries.filterMap fun (other, node) =>
    if place.length < other.length && place.isPrefixOf other then
      some (other.drop place.length, node)
    else none

end Disk

end TaskLoop
