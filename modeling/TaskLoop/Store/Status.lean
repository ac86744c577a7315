import TaskLoop.Phase
import TaskLoop.Session
import TaskLoop.Store.File

/-!
The status file: what a run is doing, for whoever looks.
-/

set_option autoImplicit false

namespace TaskLoop

/-- What a run is doing. -/
structure StatusSnapshot where
  iteration : Nat
  totalIterations : Nat
  phase : Phase
  progress : PhaseProgress
  attempts : Nat
  task : String
  updatedAt : Timestamp
  deriving DecidableEq

namespace StatusSnapshot

/-- A run that has not begun. -/
def new (task : String) (totalIterations : Nat) (now : Timestamp) : StatusSnapshot :=
  ⟨0, totalIterations, .exploration, .fresh, 0, task, now⟩

/-- The members of a snapshot in a file. -/
def toJson (snapshot : StatusSnapshot) : Json :=
  .object [("current_iteration", .ofNat snapshot.iteration),
    ("total_iterations", .ofNat snapshot.totalIterations),
    ("current_phase", .string snapshot.phase.name),
    ("phase_progress", .ofMap Phase.name (fun status => .string status.name) snapshot.progress),
    ("retry_count", .ofNat snapshot.attempts), ("task_description", .string snapshot.task),
    ("last_update", .ofTimestamp snapshot.updatedAt)]

/-- Reads a snapshot. -/
def ofJson? (json : Json) : Option StatusSnapshot := do
  let fields ← json.fields? ["current_iteration", "total_iterations", "current_phase",
    "phase_progress", "retry_count", "task_description", "last_update"]
  return {
    iteration := ← fields.required "current_iteration" Json.nat32?
    totalIterations := ← fields.required "total_iterations" Json.nat32?
    phase := ← fields.required "current_phase" (Json.choice? Phase.ofName?)
    progress := ← fields.required "phase_progress"
      (Json.map? Phase.ofName? (Json.choice? PhaseStatus.ofName?))
    attempts := ← fields.required "retry_count" Json.nat32?
    task := ← fields.required "task_description" Json.string?
    updatedAt := ← fields.required "last_update" Json.timestamp? }

/-- Replaces the status file. -/
def write (snapshot : StatusSnapshot) (path : Path) : Act Failure Unit :=
  (Store.writeJson path snapshot.toJson).mapError (·.within "Failed to write status file")

/-- Replaces the status file by the snapshot with the time of writing, and returns that. -/
def update (snapshot : StatusSnapshot) (path : Path) : Act Failure StatusSnapshot := do
  let snapshot := { snapshot with updatedAt := ← Host.now }
  snapshot.write path
  return snapshot

/-- Reads the status file; without one nothing runs. -/
def read (path : Path) : Act Failure (Option StatusSnapshot) :=
  Act.look fun disk =>
    match disk.readText path with
    | .error .notFound => .ok none
    | .error e =>
      .error ((Failure.root e.message).within s!"Failed to read status file: {path.text}")
    | .ok text =>
      match (Json.ofText? text).bind ofJson? with
      | some snapshot => .ok (some snapshot)
      | none => .error ((Failure.root Store.malformedText).within
          s!"Failed to parse status file: {path.text}")

end StatusSnapshot

end TaskLoop
