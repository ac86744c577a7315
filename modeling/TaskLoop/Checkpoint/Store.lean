import TaskLoop.Checkpoint.Basic
import TaskLoop.Store.File

/-!
Checkpoints in files, a directory for each session. A file is written once and never changed.
-/

set_option autoImplicit false

namespace TaskLoop.Checkpoint

/-- The directory of a session's checkpoints. -/
def directory (root : Path) (session : String) : Path := root.join session

/-- Writes a new checkpoint of a session and says what it is called. -/
def save (root : Path) (session : Session) (iteration : Option Iteration) (label : String) :
    Act CheckpointError CheckpointHandle := do
  let id ← Host.newId
  let now ← Host.now
  let checkpoint := new id ⟨session, iteration⟩ label now
  let path := (directory root session.id).join checkpoint.fileName
  (Store.writeJson path checkpoint.toJson).mapError .other
  return checkpoint.handle path

/-- Reads the checkpoint of a file and refuses a damaged one. -/
def loadFrom (disk : Disk) (path : Path) : Except CheckpointError Checkpoint :=
  match disk.readText path with
  | .error .notFound => .error (.notFound path.text)
  | .error e => .error (.disk path.text e.message)
  | .ok text =>
    match (Json.ofText? text).bind ofJson? with
    | none => .error (.corrupt path.text ("malformed JSON: " ++ Store.malformedText))
    | some checkpoint =>
      match checkpoint.flaw? with
      | some flaw => .error (.corrupt path.text flaw)
      | none => .ok checkpoint

/-- Reads the checkpoint of a file and refuses a damaged one. -/
def load (path : Path) : Act CheckpointError Checkpoint := Act.look fun disk => loadFrom disk path

/-- The names in a directory, none if it does not exist. -/
def namesIn (disk : Disk) (path : Path) : Except CheckpointError (List String) :=
  if disk.pathExists path then
    match disk.list path with
    | .ok names => .ok names
    | .error e => .error (.disk path.text e.message)
  else .ok []

/-- The checkpoint of a file in a session's directory, if it is an intact one. -/
def handleIn? (disk : Disk) (path : Path) : Option CheckpointHandle :=
  if path.extension? == some "json" then
    match loadFrom disk path with
    | .ok checkpoint => some (checkpoint.handle path)
    | .error _ => none
  else none

/-- Whether a checkpoint comes before or with another in a session's list: by time, then by
path. -/
def listedBefore (left right : CheckpointHandle) : Bool :=
  if left.createdAt == right.createdAt then compare left.path.names right.path.names != .gt
  else left.createdAt.le right.createdAt

/-- The checkpoints of one session, oldest first. Files that cannot be read are left out. -/
def listFrom (disk : Disk) (root : Path) (session : String) :
    Except CheckpointError (List CheckpointHandle) := do
  let directory := directory root session
  let names ← namesIn disk directory
  let found := names.filterMap fun name => handleIn? disk (directory.join name)
  return found.mergeSort listedBefore

/-- The sessions that have a directory, by name. -/
def sessionsFrom (disk : Disk) (root : Path) : Except CheckpointError (List String) := do
  let names ← namesIn disk root
  return names.filter fun name => disk.isDirectory (root.join name)

/-- The checkpoints of all sessions, oldest first. -/
def listAllFrom (disk : Disk) (root : Path) : Except CheckpointError (List CheckpointHandle) := do
  let sessions ← sessionsFrom disk root
  let all ← sessions.mapM (listFrom disk root)
  return all.flatten.mergeSort fun left right => left.createdAt.le right.createdAt

/-- The checkpoint a reference means: a file's path, the start of exactly one identifier, or a
label, of several the newest. -/
def resolveFrom (disk : Disk) (root : Path) (reference : String) :
    Except CheckpointError CheckpointHandle := do
  let path : Path := ⟨reference⟩
  if disk.isFile path then
    let checkpoint ← loadFrom disk path
    return checkpoint.handle path
  else
    let all ← listAllFrom disk root
    match all.filter fun handle => reference.toList.isPrefixOf handle.id.toList with
    | [handle] => return handle
    | _ =>
      match all.reverse.find? fun handle => handle.label == reference with
      | some handle => return handle
      | none => throw (.notFound reference)

/-- The checkpoints of one session, oldest first. -/
def list (root : Path) (session : String) : Act CheckpointError (List CheckpointHandle) :=
  Act.look fun disk => listFrom disk root session

/-- The sessions that have a directory, by name. -/
def sessions (root : Path) : Act CheckpointError (List String) :=
  Act.look fun disk => sessionsFrom disk root

/-- The checkpoints of all sessions, oldest first. -/
def listAll (root : Path) : Act CheckpointError (List CheckpointHandle) :=
  Act.look fun disk => listAllFrom disk root

/-- The checkpoint a reference means. -/
def resolve (root : Path) (reference : String) : Act CheckpointError CheckpointHandle :=
  Act.look fun disk => resolveFrom disk root reference

end TaskLoop.Checkpoint
