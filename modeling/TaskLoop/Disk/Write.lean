import TaskLoop.Host

/-!
Writing files: whole directories of a path, a file replaced in one step, and a line added behind
a torn one is cut off.
-/

set_option autoImplicit false

namespace TaskLoop.Disk

open Host (step writeBytes)

/-- Makes one directory. -/
def makeDirectory (path : Path) : Act DiskError Unit :=
  step fun disk => do
    let place ← disk.locate path
    match disk.node? place with
    | some _ => .error .alreadyExists
    | none => .ok (disk.put place .directory)

/-- Makes a directory and those above it; the first argument bounds how many. -/
def makeDirectoriesFrom : Nat → Path → Act DiskError Unit
  | 0, _ => throw .notFound
  | depth + 1, path => do
    if path.text.isEmpty then return
    let settle (e : DiskError) : Act DiskError Unit := do
      if (← Host.files).isDirectory path then pure () else throw e
    let first : Option DiskError ← tryCatch (do makeDirectory path; pure none) (pure ∘ some)
    match first with
    | none => pure ()
    | some .notFound =>
      match path.parent? with
      | none => throw .notFound
      | some parent =>
        makeDirectoriesFrom depth parent
        tryCatch (makeDirectory path) settle
    | some e => settle e

/-- Makes a directory and those above it that do not exist. -/
def makeDirectories (path : Path) : Act DiskError Unit :=
  makeDirectoriesFrom (path.text.length + 1) path

/-- Makes a file without content, or empties the one that is there, and says where it stands. -/
def createFile (path : Path) : Act DiskError Place := do
  let place ← Act.look fun disk => disk.locate path
  step fun disk =>
    match disk.node? place with
    | some .directory => .error .isDirectory
    | _ => .ok (disk.put place (.file []))
  return place

/-- Writes a file in place: it is emptied, then written. -/
def writeFile (path : Path) (bytes : List UInt8) : Act DiskError Unit := do
  let place ← createFile path
  writeBytes place bytes

/-- Puts a file under another path, in place of a file that is there. A path that says that it is
one of a directory is none for a file. -/
def renameFile (source : Place) (target : Path) : Act DiskError Unit :=
  step fun disk => do
    let place ← disk.locate target
    match disk.node? place, disk.node? source with
    | some .directory, _ => .error .isDirectory
    | _, some node =>
      if target.trimmed == target.text.toList then .ok ((disk.remove source).put place node)
      else .error .notDirectory
    | _, none => .error .notFound

/-- Replaces a file in one step: its new content is written beside it under another name, made
durable, and put in its place. -/
def writeAtomic (path : Path) (bytes : List UInt8) : Act Failure Unit := do
  let parent ← match path.parent? with
    | some parent => pure parent
    | none => throw (.root s!"Path has no parent directory: {path.text}")
  (makeDirectories parent).within s!"Failed to create directory: {parent.text}"
  let name ← match path.fileName? with
    | some name => pure name
    | none => throw (.root s!"Path has no file name: {path.text}")
  let processId := (← get).processId
  let temporary := parent.join s!".{name}.{processId}.tmp"
  let place ← (createFile temporary).within s!"Failed to create temp file: {temporary.text}"
  (writeBytes place bytes).within s!"Failed to write temp file: {temporary.text}"
  (step .ok).within s!"Failed to sync temp file: {temporary.text}"
  (renameFile place path).within s!"Failed to replace {path.text}"

/-- The content up to and with its last line feed. -/
def completeLines (content : List UInt8) : List UInt8 :=
  (content.reverse.dropWhile (· != 10)).reverse

/-- Opens a file to add to it, a new one if there is none, and says where it stands and what it
holds. -/
def openFile (path : Path) : Act DiskError (Place × List UInt8) := do
  let place ← Act.look fun disk => disk.locate path
  step fun disk =>
    match disk.node? place with
    | some .directory => .error .isDirectory
    | some (.file _) => .ok disk
    | none => .ok (disk.put place (.file []))
  match (← Host.files).node? place with
  | some (.file content) => return (place, content)
  | _ => throw .notFound

/-- Makes the directory of a path and those above it that do not exist. -/
def makeParent (path : Path) : Act Failure Unit :=
  match path.parent? with
  | some parent => (makeDirectories parent).within s!"Failed to create directory: {parent.text}"
  | none => pure ()

/-- Adds a line and its line feed in one write. What stands behind the last line feed is left of
a write that was cut short, and goes. -/
def appendLine (path : Path) (line : List UInt8) : Act Failure Unit := do
  makeParent path
  let (place, content) ← (openFile path).within s!"Failed to open {path.text}"
  if content.getLast?.any (· != 10) then
    (step fun disk => .ok (disk.put place (.file (completeLines content)))).within
      s!"Failed to truncate {path.text}"
  (writeBytes place (line ++ [10])).within s!"Failed to append to {path.text}"

end TaskLoop.Disk
