import TaskLoop.Category
import TaskLoop.ErrorIndex
import TaskLoop.Failure
import TaskLoop.Json.Decode
import TaskLoop.Phase
import TaskLoop.Timestamp

/-!
One pursuit of a task: its context, how far it has come, and which annotations informed its
decisions.
-/

set_option autoImplicit false

namespace TaskLoop

/-- Whether a session is under way. -/
inductive SessionStatus where
  | active
  | completed
  | stopped
  deriving DecidableEq, Repr, Inhabited

namespace SessionStatus

/-- The name of a status in files and reports. -/
def name : SessionStatus → String
  | active => "active"
  | completed => "completed"
  | stopped => "stopped"

/-- The status of a name. -/
def ofName? (name : String) : Option SessionStatus :=
  [active, completed, stopped].find? fun status => status.name == name

end SessionStatus

/-- The rough size of a task. -/
inductive Complexity where
  | low
  | medium
  | high
  deriving DecidableEq, Repr, Inhabited

namespace Complexity

/-- The name of a complexity in files and reports. -/
def name : Complexity → String
  | low => "low"
  | medium => "medium"
  | high => "high"

/-- The complexity of a name. -/
def ofName? (name : String) : Option Complexity :=
  [low, medium, high].find? fun complexity => complexity.name == name

/-- The complexity of a word in any letter case; "simple" and "complex" are understood too. -/
def ofText? (text : String) : Option Complexity :=
  let word := String.ofList (Text.lower text.toList)
  if word == "simple" then some low
  else if word == "complex" then some high
  else ofName? word

/-- The complexity of a word, or why there is none. -/
def read (text : String) : Except Failure Complexity :=
  match ofText? text with
  | some complexity => .ok complexity
  | none => .error (.root ("Invalid complexity '" ++ text ++ "'. Valid values: low, medium, high"))

end Complexity

/-- What is known about a task, with free-form additions. -/
structure TaskContext where
  phaseTag : Option String := none
  statusTag : Option String := none
  project : Option String := none
  strategy : Option String := none
  complexity : Complexity := .medium
  extensions : OrderedMap String Json := .empty

instance : Inhabited TaskContext := ⟨{}⟩

namespace TaskContext

/-- The context as one map; an addition with the name of a fixed entry takes its place. -/
def toMap (context : TaskContext) : OrderedMap String Json :=
  let optional (name : String) (value : Option String) : List (String × Json) :=
    Json.optionalMember name Json.string value
  (OrderedMap.ofList (optional "phase_tag" context.phaseTag
    ++ optional "status_tag" context.statusTag ++ optional "project" context.project
    ++ optional "strategy" context.strategy
    ++ [("complexity", .string context.complexity.name)])).insertAll context.extensions

/-- The members of a context in a file. -/
def toJson (context : TaskContext) : Json :=
  .object (Json.optionalMember "phase_tag" .string context.phaseTag
    ++ Json.optionalMember "status_tag" .string context.statusTag
    ++ Json.optionalMember "project" .string context.project
    ++ Json.optionalMember "strategy" .string context.strategy
    ++ [("complexity", .string context.complexity.name),
      ("extensions", .ofMap id id context.extensions)])

/-- Reads a context that may nest `room` levels deep. -/
def ofJson? (room : Nat) (json : Json) : Option TaskContext := do
  let fields ← json.fields? ["phase_tag", "status_tag", "project", "strategy", "complexity",
    "extensions"]
  return {
    phaseTag := ← fields.optional "phase_tag" Json.string?
    statusTag := ← fields.optional "status_tag" Json.string?
    project := ← fields.optional "project" Json.string?
    strategy := ← fields.optional "strategy" Json.string?
    complexity := ← fields.orElse "complexity" (Json.choice? Complexity.ofName?) .medium
    extensions := ← fields.orElse "extensions" (Json.map? some (Json.settle? (room - 2))) .empty }

end TaskContext

/-- The decisions that annotations inform. -/
inductive Decision where
  | exploration
  | reasoning
  | generation
  | review
  deriving DecidableEq, Repr, Inhabited

namespace Decision

/-- The name of a decision in files. -/
def name : Decision → String
  | exploration => "exploration"
  | reasoning => "reasoning"
  | generation => "generation"
  | review => "review"

/-- The decision of a name. -/
def ofName? (name : String) : Option Decision :=
  [exploration, reasoning, generation, review].find? fun decision => decision.name == name

end Decision

/-- The annotations that informed a decision of an iteration. -/
structure Influence where
  iteration : Nat
  decision : Decision
  annotations : List String
  confidence : Float
  recordedAt : Timestamp

namespace Influence

/-- The members of an influence in a file. -/
def toJson (influence : Influence) : Json :=
  .object [("iteration", .ofNat influence.iteration), ("decision", .string influence.decision.name),
    ("annotation_ids", .array (influence.annotations.map Json.string)),
    ("confidence", .ofFloat influence.confidence),
    ("recorded_at", .ofTimestamp influence.recordedAt)]

/-- Reads an influence. -/
def ofJson? (json : Json) : Option Influence := do
  let fields ← json.fields? ["iteration", "decision", "annotation_ids", "confidence",
    "recorded_at"]
  return {
    iteration := ← fields.required "iteration" Json.nat32?
    decision := ← fields.required "decision" (Json.choice? Decision.ofName?)
    annotations := ← fields.required "annotation_ids" (Json.list? Json.string?)
    confidence := ← fields.required "confidence" Json.float?
    recordedAt := ← fields.required "recorded_at" Json.timestamp? }

end Influence

/-- One pursuit of a task. -/
structure Session where
  id : String
  task : String
  context : TaskContext
  createdAt : Timestamp
  status : SessionStatus
  completedIterations : Nat
  influences : List Influence

namespace Session

/-- A session that begins. -/
def new (id task : String) (context : TaskContext) (now : Timestamp) : Session :=
  ⟨id, task, context, now, .active, 0, []⟩

/-- Whether the session is under way. -/
def isActive (session : Session) : Bool := session.status == .active

/-- The session with its task done. -/
def complete (session : Session) : Session := { session with status := .completed }

/-- The session interrupted. -/
def stop (session : Session) : Session := { session with status := .stopped }

/-- A confidence moved into the range from nought to one. -/
def clampConfidence (confidence : Float) : Float :=
  if confidence < 0 then 0 else if 1 < confidence then 1 else confidence

/-- Adds an influence behind those recorded before. -/
def recordInfluence (session : Session) (iteration : Nat) (decision : Decision)
    (annotations : List String) (confidence : Float) (now : Timestamp) : Session :=
  { session with influences := session.influences ++
      [⟨iteration, decision, annotations, clampConfidence confidence, now⟩] }

/-- The members of a session in a file. -/
def toJson (session : Session) : Json :=
  .object [("id", .string session.id), ("task_description", .string session.task),
    ("context", session.context.toJson), ("created_at", .ofTimestamp session.createdAt),
    ("status", .string session.status.name),
    ("iterations_completed", .ofNat session.completedIterations),
    ("influences", .array (session.influences.map Influence.toJson))]

/-- Reads a session that may nest `room` levels deep. -/
def ofJson? (room : Nat) (json : Json) : Option Session := do
  let fields ← json.fields? ["id", "task_description", "context", "created_at", "status",
    "iterations_completed", "influences"]
  return {
    id := ← fields.required "id" Json.string?
    task := ← fields.required "task_description" Json.string?
    context := ← fields.orElse "context" (TaskContext.ofJson? (room - 1)) {}
    createdAt := ← fields.required "created_at" Json.timestamp?
    status := ← fields.orElse "status" (Json.choice? SessionStatus.ofName?) .active
    completedIterations := ← fields.orElse "iterations_completed" Json.nat32? 0
    influences := ← fields.orElse "influences" (Json.list? Influence.ofJson?) [] }

end Session

end TaskLoop
