import TaskLoop.Annotation
import TaskLoop.Failure
import TaskLoop.Session
import TaskLoop.Window

/-!
What generators of artifacts are asked and what they answer. A generator keeps a state of its own
from call to call, so that any sequence of answers is some generator's.
-/

set_option autoImplicit false

namespace TaskLoop

/-- What is known about a task before it is planned. -/
structure Exploration where
  query : String := ""
  insights : String := ""
  annotations : List String := []
  deriving DecidableEq, Repr, Inhabited

namespace Exploration

/-- Whether nothing but blanks is known. -/
def isEmpty (exploration : Exploration) : Bool :=
  (Text.trim exploration.insights.toList).isEmpty

/-- The members of an exploration in an answer. -/
def toJson (exploration : Exploration) : Json :=
  .object [("query", .string exploration.query), ("insights", .string exploration.insights),
    ("annotation_ids", .array (exploration.annotations.map Json.string))]

/-- Reads an exploration. -/
def ofJson? (json : Json) : Option Exploration := do
  let fields ← json.fields? ["query", "insights", "annotation_ids"]
  return ⟨← fields.required "query" Json.string?, ← fields.required "insights" Json.string?,
    ← fields.required "annotation_ids" (Json.list? Json.string?)⟩

end Exploration

/-- A plan for a task. -/
structure Strategy where
  summary : String := ""
  steps : List String := []
  confidence : Float := 0

instance : Inhabited Strategy := ⟨{}⟩

namespace Strategy

/-- Whether the plan says nothing. -/
def isEmpty (strategy : Strategy) : Bool :=
  (Text.trim strategy.summary.toList).isEmpty && strategy.steps.isEmpty

/-- The members of a plan in an answer. -/
def toJson (strategy : Strategy) : Json :=
  .object [("summary", .string strategy.summary),
    ("steps", .array (strategy.steps.map Json.string)),
    ("confidence", .ofFloat strategy.confidence)]

/-- Reads a plan. -/
def ofJson? (json : Json) : Option Strategy := do
  let fields ← json.fields? ["summary", "steps", "confidence"]
  return ⟨← fields.required "summary" Json.string?,
    ← fields.required "steps" (Json.list? Json.string?),
    ← fields.required "confidence" Json.float?⟩

end Strategy

/-- Everything an attempt at an artifact needs. -/
structure GenerationRequest where
  task : String := ""
  context : TaskContext := {}
  exploration : Exploration := {}
  strategy : Strategy := {}
  attempt : Nat := 0
  failures : List String := []
  suggestions : List String := []

/-- How many earlier failures a prompt repeats. -/
def failureWindow : Nat := 3

namespace GenerationRequest

/-- Reads a request in which only the task must be given; the attempt is one unless it is said. -/
def ofJson? (json : Json) : Option GenerationRequest := do
  let fields ← json.fields? ["task", "context", "exploration", "strategy", "attempt", "failures",
    "suggestions"]
  return {
    task := ← fields.required "task" Json.string?
    context := (← fields.optional "context" (TaskContext.ofJson? 127)).getD {}
    exploration := (← fields.optional "exploration" Exploration.ofJson?).getD {}
    strategy := (← fields.optional "strategy" Strategy.ofJson?).getD {}
    attempt := ← fields.orElse "attempt" Json.nat32? 1
    failures := ← fields.orElse "failures" (Json.list? Json.string?) []
    suggestions := ← fields.orElse "suggestions" (Json.list? Json.string?) [] }

/-- A line of a list in a prompt. -/
def bullet (text : String) : String := "- " ++ String.ofList (Text.trim text.toList) ++ "\n"

/-- The steps of a plan, numbered from one. -/
def numbered (steps : List String) : List String :=
  (steps.zipIdx 1).map fun (step, number) => s!"{number}. {step}\n"

/-- The request as a prompt: the task and its tags, what is known, the plan, the latest failures
and the fixes of failures like them. -/
def prompt (request : GenerationRequest) : String :=
  let tag (name : String) (value : Option String) : List String :=
    match value with
    | some value => [name ++ ": " ++ value ++ "\n"]
    | none => []
  let known :=
    if request.exploration.isEmpty then []
    else ["\nContext:\n" ++ String.ofList (Text.trim request.exploration.insights.toList) ++ "\n"]
  let plan :=
    if request.strategy.isEmpty then []
    else ("\nStrategy: " ++ request.strategy.summary ++ "\n") :: numbered request.strategy.steps
  let failures :=
    if request.failures.isEmpty then []
    else "\nPrevious attempts failed with:\n"
      :: (lastItems failureWindow request.failures).map bullet
  let fixes :=
    if request.suggestions.isEmpty then []
    else "\nFixes that worked for similar errors:\n" :: request.suggestions.map bullet
  String.join (("Task: " ++ request.task ++ "\n") :: tag "Phase" request.context.phaseTag
    ++ tag "Status" request.context.statusTag ++ known ++ plan ++ failures ++ fixes)

end GenerationRequest

/-- What an attempt produced. -/
structure Artifact where
  content : String := ""
  attempt : Nat := 0
  deriving DecidableEq, Repr, Inhabited

/-- The verdict of a review. -/
structure Findings where
  passed : Bool
  issues : List String := []
  deriving DecidableEq, Repr, Inhabited

namespace Findings

/-- A verdict without issues. -/
def pass : Findings := ⟨true, []⟩

/-- A rejection for one issue. -/
def fail (issue : String) : Findings := ⟨false, [issue]⟩

/-- All issues in one line. -/
def summary (findings : Findings) : String :=
  if findings.issues.isEmpty then "review rejected the artifact"
  else "; ".intercalate findings.issues

/-- The members of a verdict in a reply. -/
def toJson (findings : Findings) : Json :=
  .object [("passed", .bool findings.passed),
    ("issues", .array (findings.issues.map Json.string))]

/-- Reads a verdict. -/
def ofJson? (json : Json) : Option Findings := do
  let fields ← json.fields? ["passed", "issues"]
  return ⟨← fields.required "passed" Json.bool?,
    ← fields.orElse "issues" (Json.list? Json.string?) []⟩

end Findings

/-- A source of explorations, plans, artifacts and reviews with a state of its own. -/
structure Generator (σ : Type) where
  name : String
  explore : String → List Annotation → σ → Except Failure Exploration × σ
  reason : String → TaskContext → Exploration → σ → Except Failure Strategy × σ
  generate : GenerationRequest → σ → Except Failure Artifact × σ
  review : Artifact → String → σ → Except Failure Findings × σ

end TaskLoop
