import TaskLoop.Engine.Basic

/-!
The phases of an iteration but the last: exploration and reasoning, which may fail without harm,
and an attempt at an artifact: generation, review and compilation.
-/

set_option autoImplicit false

namespace TaskLoop

/-- Why an attempt failed, and in which phase. -/
structure AttemptFailure where
  phase : Phase
  message : String
  deriving DecidableEq, Repr

/-- How sure an exploration is: a fifth for each annotation it rests on, within bounds; nothing if
it says nothing. -/
def Exploration.confidence (exploration : Exploration) : Float :=
  if exploration.isEmpty then 0
  else
    let share : Float := Arithmetic.ofNat exploration.annotations.length / Arithmetic.ofNat 5
    if share < 0.2 then 0.2 else if 1 < share then 1 else share

namespace Engine

variable {σ α : Type}

/-- The first reply that is no failure, of at most a number of calls. -/
def firstReply {β : Type} (call : Step σ α (Except Failure β)) : Nat → Step σ α (Option β)
  | 0 => return none
  | attempts + 1 => do
    match ← call with
    | .ok reply => return some reply
    | .error _ => firstReply call attempts

variable (engine : Engine σ)

/-- The annotations an exploration of a context starts from: those of its phase if it names one,
else all. -/
def relevantAnnotations (context : TaskContext) : List Annotation :=
  match context.phaseTag with
  | some tag => Annotation.find engine.annotations (.phase tag)
  | none => engine.annotations

/-- Gathers what is known about the task. -/
def explore : Step σ α Exploration := do
  let started ← engine.enter .exploration
  let session := (← get).session
  let call := engine.generator.explore session.task (engine.relevantAnnotations session.context)
  match ← firstReply (Step.ask call) engine.project.settings.engine.contextAttempts with
  | some exploration =>
    Step.recordInfluence .exploration exploration.annotations exploration.confidence
    engine.leave .exploration .completed started
    return exploration
  | none =>
    engine.leave .exploration .failed started
    return {}

/-- The session with a plan's summary as its strategy, unless the summary is blank. -/
def adoptStrategy (strategy : Strategy) (session : Session) : Session :=
  if isBlankText strategy.summary then session
  else { session with context := { session.context with strategy := some strategy.summary } }

/-- Makes a plan. -/
def reason (exploration : Exploration) : Step σ α Strategy := do
  let started ← engine.enter .reasoning
  let session := (← get).session
  let call := engine.generator.reason session.task session.context exploration
  match ← firstReply (Step.ask call) engine.project.settings.engine.contextAttempts with
  | some strategy =>
    Step.changeSession (adoptStrategy strategy)
    Step.recordInfluence .reasoning exploration.annotations strategy.confidence
    engine.leave .reasoning .completed started
    return strategy
  | none =>
    engine.leave .reasoning .failed started
    return {}

/-- Generates an artifact. -/
def generate (request : GenerationRequest) : Step σ α (Except AttemptFailure Artifact) := do
  let started ← engine.enter .generation
  match ← Step.ask (engine.generator.generate request) with
  | .ok artifact =>
    Step.recordInfluence .generation request.exploration.annotations request.strategy.confidence
    engine.leave .generation .completed started
    return .ok artifact
  | .error failure =>
    engine.leave .generation .failed started
    return .error ⟨.generation, failure.line⟩

/-- Reviews an artifact; the answer is why it was rejected. -/
def review (request : GenerationRequest) (artifact : Artifact) :
    Step σ α (Option AttemptFailure) := do
  let started ← engine.enter .review
  let rejection ← match ← Step.ask (engine.generator.review artifact request.task) with
    | .ok findings => do
      Step.recordInfluence .review request.exploration.annotations
        (if findings.passed then 1 else 0)
      pure (if findings.passed then none else some findings.summary)
    | .error failure => pure (some failure.line)
  match rejection with
  | some message =>
    engine.leave .review .failed started
    return some ⟨.review, message⟩
  | none =>
    engine.leave .review .completed started
    return none

/-- Builds an artifact; the answer is why the build failed. -/
def compile (artifact : Artifact) : Step σ α (Option AttemptFailure) := do
  let started ← engine.enter .compilation
  let failure := match ← Step.askBuilder (engine.builder.build artifact) with
    | .ok outcome => if outcome.success then none else some outcome.errorText
    | .error failure => some failure.line
  engine.leave .compilation (if failure.isSome then .failed else .completed) started
  return failure.map fun message => ⟨.compilation, message⟩

/-- One attempt at an artifact; the answer is why it failed. -/
def attempt (request : GenerationRequest) : Step σ α (Option AttemptFailure) := do
  match ← engine.generate request with
  | .error failure => return some failure
  | .ok artifact =>
    match ← engine.review request artifact with
    | some failure => return some failure
    | none => engine.compile artifact

end Engine

end TaskLoop
