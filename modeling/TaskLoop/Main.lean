import Std.Time.DateTime.Timestamp
import TaskLoop.CommandLine.Execute
import TaskLoop.Identifier

/-!
The program. It takes the files a command may need into memory, runs the command on them, writes
back what the command changed, and prints what the command says. `CommandLine.execute` decides
everything else.
-/

set_option autoImplicit false

namespace TaskLoop.Program

/-- The variables of the environment that commands look up. -/
def environmentNames : List String :=
  ["HOME", "RELOOP_MAX_ITERATIONS", "RELOOP_MAX_RETRIES", "RELOOP_USE_MOCK",
    "RELOOP_GENERATOR_ENDPOINT"]

/-- The environment as it is when the program starts. -/
def readEnvironment : IO Environment := do
  let pairs ← environmentNames.mapM fun key => return (key, ← IO.getEnv key)
  return fun key => (pairs.lookup key).join

/-- The names of a path on the way from the root, a step up taken where it stands. -/
def placeOf (workingDir : Place) (path : Path) : Place :=
  path.names.foldl (fun place name => if name == ".." then place.dropLast else place ++ [name])
    (if path.isAbsolute then [] else workingDir)

/-- The absolute path of a place. -/
def textOf (place : Place) : String := "/" ++ "/".intercalate place

/-- Whether a directory is looked into. Of hidden ones only the state directory is. -/
def isOpen (name : String) : Bool := !name.startsWith "." || name == Project.stateDirName

/-- Reads what stands at a place, and what stands below it. Links are not followed. -/
partial def readTree (place : Place) (disk : Disk) : IO Disk := do
  let path := (← IO.currentDir) / textOf place
  if ← path.isDir then
    let mut disk := disk.put place .directory
    for entry in ← path.readDir do
      let metadata ← entry.path.symlinkMetadata
      if metadata.type == .file || (metadata.type == .dir && isOpen entry.fileName) then
        disk ← readTree (place ++ [entry.fileName]) disk
    return disk
  else if ← path.pathExists then
    return disk.put place (.file (← IO.FS.readBinFile path).toList)
  else return disk

/-- Reads the directories on the way to a place, and all that stands there. -/
def readPlace (disk : Disk) (place : Place) : IO Disk := do
  let here ← IO.currentDir
  let mut disk := disk
  for length in List.range place.length do
    let above := place.take length
    if !above.isEmpty && (← (here / textOf above).isDir) then disk := disk.put above .directory
  if place.isEmpty then return disk else readTree place disk

/-- The places a command may need: where it runs, what its arguments name, and where pattern
tables are exported to. -/
def neededPlaces (arguments : List String) (environment : Environment) (workingDir : Place) :
    List Place :=
  let values := arguments.map fun argument =>
    match Text.splitFirst? '=' argument.toList with
    | some (_, value) => String.ofList value
    | none => argument
  let exported := (CommandLine.exportPath environment "").bind Path.parent?
  workingDir :: ((values.map Path.mk) ++ exported.toList).map (placeOf workingDir)

/-- Puts a file in place of what stands there, in one step. -/
def writeWhole (place : Place) (bytes : List UInt8) : IO Unit := do
  let here ← IO.currentDir
  let temporary := here / (textOf place ++ ".new")
  IO.FS.writeBinFile temporary (ByteArray.mk bytes.toArray)
  IO.FS.rename temporary (here / textOf place)

/-- Writes what became different. Directories come before what stands in them. -/
def writeBack (before after : Disk) : IO Unit := do
  let here ← IO.currentDir
  for (place, node) in after.nodes.entries do
    if before.nodes.find? place != some node then
      match node with
      | .directory => IO.FS.createDirAll (here / textOf place)
      | .file bytes => writeWhole place bytes
  for (place, node) in before.nodes.entries.reverse do
    if (after.nodes.find? place).isNone then
      match node with
      | .directory => IO.FS.removeDir (here / textOf place)
      | .file _ => IO.FS.removeFile (here / textOf place)

/-- Locks the lock files that have been read. The answer is the locks taken, and the places of
those that another program holds. -/
def takeLocks (disk : Disk) : IO (List IO.FS.Handle × List Place) := do
  let here ← IO.currentDir
  let mut handles := []
  let mut held := []
  for place in disk.nodes.keys do
    if place.getLast? == some Project.lockName then
      let handle ← IO.FS.Handle.mk (here / textOf place) .append
      if ← handle.tryLock then handles := handle :: handles else held := place :: held
  return (handles, held)

/-- The time after a number of readings, which lie a microsecond apart. -/
def clockFrom (start : Int) (reading : Nat) : Timestamp :=
  let nanoseconds := start + 1000 * reading
  ⟨nanoseconds / 1000000000, (nanoseconds % 1000000000).toNat⟩

/-- Identifiers that differ in their first group of digits. -/
def freshFrom (seed n : Nat) : String :=
  Identifier.ofNumber (seed + n * 0x9E3779B1 * powerOfTwo 88)

/-- The host of a command: the files it may need, the time, and identifiers of its own. -/
def readHost (arguments : List String) (environment : Environment) : IO Host := do
  let workingDir := placeOf [] ⟨(← IO.currentDir).toString⟩
  let disk ← (neededPlaces arguments environment workingDir).foldlM readPlace
    { nodes := .empty, workingDir := workingDir }
  let start ← Std.Time.Timestamp.now
  let seed ← IO.getRandomBytes 15
  return Host.new disk (clockFrom start.toNanosecondsSinceUnixEpoch.val)
    (freshFrom (seed.foldl (fun n byte => 256 * n + byte.toNat) 0))

end TaskLoop.Program

open TaskLoop TaskLoop.Program in
/-- Runs the command that the arguments ask for. -/
def main (arguments : List String) : IO UInt32 := do
  let environment ← readEnvironment
  let host ← readHost arguments environment
  let (handles, held) ← takeLocks host.disk
  let (outcome, after) :=
    CommandLine.execute arguments environment { host with locked := held }
  writeBack host.disk after.disk
  for handle in handles do handle.unlock
  IO.print outcome.output
  if let some message := outcome.error then IO.eprintln message
  return UInt32.ofNat outcome.code
