import TaskLoop.Generator.Basic
import TaskLoop.Json.Extract
import TaskLoop.Json.Printer
import TaskLoop.Json.Reader
import TaskLoop.Text.Utf8

/-!
A generator that asks a language model on a local server: a prompt for each question, and the
reading of its replies.
-/

set_option autoImplicit false

namespace TaskLoop.Generator.Model

/-- A reply of the server: a status code and a body. -/
structure Reply where
  status : Nat
  body : List UInt8

/-- The address prompts are sent to. -/
def address (endpoint : String) : String :=
  String.ofList (endpoint.toList.reverse.dropWhile (· == '/')).reverse ++ "/api/generate"

/-- The body of a request. -/
def requestBody (model prompt : String) : Json :=
  .object [("model", .string model), ("prompt", .string prompt), ("stream", .bool false)]

/-- Why a prompt cannot be sent to a server at which nobody listens. -/
def unreachable (endpoint : String) : Failure :=
  let url := address endpoint
  ⟨s!"Failed to reach inference server at {url}", [s!"error sending request for url ({url})",
    "client error (Connect)", "tcp connect error", "Connection refused (os error 111)"]⟩

/-- The text of a reply. -/
def readReply (reply : Reply) : Except Failure String :=
  if 400 ≤ reply.status then .error (.root "Inference server returned error status")
  else
    let text := do
      let json ← Json.ofText? (← Text.Utf8.decode? reply.body)
      (← json.fields? ["response"]).required "response" Json.string?
    match text with
    | some text => .ok text
    | none => .error (.root "Failed to parse inference server response")

/-- The prompt for what is known about a query. -/
def explorePrompt (query : String) (annotations : List Annotation) : String :=
  let line (mark : Annotation) : String :=
    let status := mark.status.getD "?"
    s!"- {mark.file}:{mark.line} [{status}] "
      ++ String.ofList (Text.truncate 200 mark.text.toList) ++ "\n"
  String.join (s!"Summarize what is known about '{query}' in this codebase.\nAnnotations:\n"
    :: (annotations.take 20).map line)

/-- The prompt for a plan. -/
def reasonPrompt (task : String) (context : TaskContext) (exploration : Exploration) : String :=
  let phase := context.phaseTag.getD "unknown"
  s!"Task: {task}\nPhase: {phase}\nContext:\n"
    ++ exploration.insights ++ "\n\nReply with a one-line strategy, then numbered steps."

/-- The prompt for a review. -/
def reviewPrompt (content task : String) : String :=
  s!"Review this code for the task '{task}'. Reply only with JSON "
    ++ "\x7b\"passed\": bool, \"issues\": [string]\x7d.\n\n" ++ content

/-- Whether a text is the number of a step: digits with an optional plus sign, below 2^32. -/
def isStepNumber (text : List Char) : Bool :=
  match text with
  | '+' :: digits => (Decimal.natBelow? (powerOfTwo 32) digits).isSome
  | digits => (Decimal.natBelow? (powerOfTwo 32) digits).isSome

/-- The step on a line that begins with its number and a full stop. -/
def readStep? (line : List Char) : Option (List Char) :=
  match Text.splitFirst? '.' line with
  | some (number, step) =>
    if isStepNumber (Text.trim number) then some (Text.trim step) else none
  | none => none

/-- Reads a plan: the first line that is not blank, then the numbered lines. -/
def readPlan (reply : String) : Strategy :=
  let lines := ((Text.lines reply.toList).map Text.trim).filter fun line => !line.isEmpty
  { summary := String.ofList (lines.head?.getD [])
    steps := ((lines.drop 1).filterMap readStep?).map String.ofList
    confidence := 0.7 }

/-- Reads the verdict of a review. A reply without one accepts the artifact. -/
def readVerdict (reply : String) : Findings :=
  let found := do
    let block ← Json.extractObject? reply.toList
    Findings.ofJson? (← Json.ofText? block)
  found.getD .pass

section

variable {σ : Type} (complete : String → σ → Except Failure String × σ)

/-- Sends a prompt and reads the reply. -/
def ask {α : Type} (prompt : String) (read : String → α) (state : σ) : Except Failure α × σ :=
  let (reply, state) := complete prompt state
  (reply.map read, state)

/-- The verdict on an artifact; one without content is rejected unasked. -/
def review (artifact : Artifact) (task : String) (state : σ) : Except Failure Findings × σ :=
  if (Text.trim artifact.content.toList).isEmpty then (.ok (.fail "no code generated"), state)
  else ask complete (reviewPrompt artifact.content task) readVerdict state

/-- The generator that sends its prompts to a model of a given name. -/
def generator (name : String) : Generator σ where
  name := name
  explore query annotations :=
    ask complete (explorePrompt query annotations) fun reply =>
      { query := query, insights := reply, annotations := annotations.map (·.id) }
  reason task context exploration :=
    ask complete (reasonPrompt task context exploration) readPlan
  generate request :=
    ask complete request.prompt fun reply => ⟨reply, request.attempt⟩
  review := review complete

end

end TaskLoop.Generator.Model
