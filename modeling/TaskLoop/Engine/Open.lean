import TaskLoop.Checkpoint.Store
import TaskLoop.Discovery
import TaskLoop.Engine.Basic
import TaskLoop.Store.Tables

/-!
The start of an engine: its settings are checked, its directory is locked, and what was learnt
before is read. Sessions are started anew or taken up from a checkpoint.
-/

set_option autoImplicit false

namespace TaskLoop

namespace Project

/-- Locks the project's state for one who changes it. -/
def lock (project : Project) : Act EngineError Place := do
  let taken ← (Host.lock project.lockFile).mapError fun e =>
    .persistence "open engine lock" (.root e.message)
  match taken with
  | some place => return place
  | none => throw (.locked project.lockFile.text)

/-- Work done under the project's lock, which is given back whatever comes of it. -/
def locking {β : Type} (project : Project) (act : Act EngineError β) : Act EngineError β := do
  let place ← project.lock
  let result : Except EngineError β ← tryCatch (Except.ok <$> act) (pure ∘ Except.error)
  Host.unlock place
  match result with
  | .ok value => return value
  | .error e => throw e

/-- How a threshold that is no share is reported. -/
def badThreshold (threshold : Float) : String := (SettingsError.threshold threshold).message

/-- Reads the project's error index. -/
def loadErrors (project : Project) : Act StoreError (ErrorIndex Float) :=
  ErrorIndex.load project.errorsFile project.settings.similarity.threshold badThreshold

/-- Reads the project's pattern table. -/
def loadPatterns (project : Project) : Act StoreError (Pattern.Table Float) :=
  Pattern.Table.load project.patternsFile

/-- Reads both stores. -/
def loadStores (project : Project) :
    Act EngineError (Pattern.Table Float × ErrorIndex Float) := do
  let table ← project.loadPatterns.mapError .store
  let index ← project.loadErrors.mapError .store
  return (table, index)

/-- Opens the project for an engine: the lock, and both stores. The lock is given back when a
store cannot be read. -/
def openStores (project : Project) :
    Act EngineError (Place × Pattern.Table Float × ErrorIndex Float) := do
  match project.settings.validate with
  | .error e => throw (.settings e)
  | .ok _ =>
    project.makeDirectories.mapError (.persistence "create state directories")
    let place ← project.lock
    let stores ← tryCatch project.loadStores fun e => do
      Host.unlock place
      throw e
    return (place, stores)

/-- Starts a session on a task, or on one that the annotations ask for. -/
def startSession {ε : Type} (project : Project) (annotations : List Annotation)
    (task : Option String) : Act ε Session := do
  let (task, context) := match task with
    | some task => (task, { project := some project.name })
    | none => Annotation.discoverTask annotations project.name
  let id ← Host.newId
  let now ← Host.now
  return .new id task context now

/-- Takes up the session of a checkpoint, with the iteration it was in if any. A session that was
stopped becomes active again; one that is complete is refused. -/
def resumeSession (project : Project) (reference : String) :
    Act EngineError (Session × Option Iteration) := do
  let handle ← (Checkpoint.resolve project.checkpointsDir reference).mapError .checkpoint
  let checkpoint ← (Checkpoint.load handle.path).mapError .checkpoint
  let session := checkpoint.payload.session
  match session.status with
  | .completed => throw (.inactive session.id)
  | _ => return ({ session with status := .active }, checkpoint.payload.iteration)

end Project

end TaskLoop
