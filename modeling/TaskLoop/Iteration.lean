import TaskLoop.Session

/-!
One pass through the six phases: what became of each phase, how long it took, and the failures on
the way.
-/

set_option autoImplicit false

namespace TaskLoop

/-- A failed attempt: the phase it failed in and why. -/
structure FailedAttempt where
  phase : Phase
  attempt : Nat
  category : Category
  message : String
  deriving DecidableEq, Repr

namespace FailedAttempt

/-- The members of a failed attempt in a file. -/
def toJson (failure : FailedAttempt) : Json :=
  .object [("phase", .string failure.phase.name), ("attempt", .ofNat failure.attempt),
    ("category", .string failure.category.name), ("message", .string failure.message)]

/-- Reads a failed attempt. -/
def ofJson? (json : Json) : Option FailedAttempt := do
  let fields ← json.fields? ["phase", "attempt", "category", "message"]
  return {
    phase := ← fields.required "phase" (Json.choice? Phase.ofName?)
    attempt := ← fields.required "attempt" Json.nat32?
    category := ← fields.required "category" (Json.choice? Category.ofName?)
    message := ← fields.required "message" Json.string? }

end FailedAttempt

/-- One pass through the six phases. -/
structure Iteration where
  index : Nat
  task : String
  status : PhaseProgress
  durations : OrderedMap Phase Nat
  attempts : Nat
  success : Bool
  startedAt : Timestamp
  failures : List FailedAttempt
  deriving DecidableEq

namespace Iteration

/-- An iteration that has not begun. -/
def new (index : Nat) (task : String) (now : Timestamp) : Iteration :=
  ⟨index, task, .fresh, .empty, 0, false, now, []⟩

/-- Adds to the milliseconds spent in a phase. -/
def addDuration (iteration : Iteration) (phase : Phase) (milliseconds : Nat) : Iteration :=
  { iteration with
    durations := iteration.durations.insert phase
      ((iteration.durations.find? phase).getD 0 + milliseconds) }

/-- The milliseconds spent in all phases. -/
def totalDuration (iteration : Iteration) : Nat := iteration.durations.values.foldl (· + ·) 0

/-- The latest failed attempt. -/
def lastFailure? (iteration : Iteration) : Option FailedAttempt := iteration.failures.getLast?

/-- The members of an iteration in a file. -/
def members (iteration : Iteration) : List (String × Json) :=
  [("index", .ofNat iteration.index), ("task_description", .string iteration.task),
    ("phase_status", .ofMap Phase.name (fun status => .string status.name) iteration.status),
    ("phase_durations_ms", .ofMap Phase.name Json.ofNat iteration.durations),
    ("retry_count", .ofNat iteration.attempts), ("success", .bool iteration.success),
    ("started_at", .ofTimestamp iteration.startedAt),
    ("failures", .array (iteration.failures.map FailedAttempt.toJson))]

/-- The iteration as it stands in a file. -/
def toJson (iteration : Iteration) : Json := .object iteration.members

/-- The names of an iteration's members, in their order. -/
def fieldNames : List String := ["index", "task_description", "phase_status",
  "phase_durations_ms", "retry_count", "success", "started_at", "failures"]

/-- Reads an iteration from its fields. -/
def ofFields? (fields : Json.Fields) : Option Iteration := do
  return {
    index := ← fields.required "index" Json.nat32?
    task := ← fields.required "task_description" Json.string?
    status := ← fields.required "phase_status"
      (Json.map? Phase.ofName? (Json.choice? PhaseStatus.ofName?))
    durations := ← fields.orElse "phase_durations_ms" (Json.map? Phase.ofName? Json.nat64?) .empty
    attempts := ← fields.required "retry_count" Json.nat32?
    success := ← fields.required "success" Json.bool?
    startedAt := ← fields.required "started_at" Json.timestamp?
    failures := ← fields.orElse "failures" (Json.list? FailedAttempt.ofJson?) [] }

/-- Reads an iteration. -/
def ofJson? (json : Json) : Option Iteration := (json.fields? fieldNames).bind ofFields?

end Iteration

end TaskLoop
