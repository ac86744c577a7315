import TaskLoop.Engine.Attempt
import TaskLoop.Store.History
import TaskLoop.Store.Tables

/-!
One iteration: exploration and reasoning, attempts until one passes or their budget is spent, and
learning from what happened.
-/

set_option autoImplicit false

namespace TaskLoop

/-- What came of an iteration, and its last failure unless it succeeded. -/
structure IterationResult where
  iteration : Iteration
  lastFailure : Option FailedAttempt

/-- The result of a finished iteration. -/
def IterationResult.of (iteration : Iteration) : IterationResult :=
  ⟨iteration, if iteration.success then none else iteration.lastFailure?⟩

namespace Engine

variable {σ α : Type} [Arithmetic α] (engine : Engine σ)

/-- The phases an attempt consists of. -/
def attemptPhases : List Phase := [.generation, .review, .compilation]

/-- The iteration at the start of an attempt. -/
def beginAttempt (attempt : Nat) (iteration : Iteration) : Iteration :=
  { iteration with
    attempts := attempt
    status := attemptPhases.foldl (fun status phase => status.insert phase .pending)
      iteration.status }

/-- The iteration with the failure of an attempt. -/
def addFailure (attempt : Nat) (failure : AttemptFailure) (iteration : Iteration) : Iteration :=
  { iteration with
    failures := iteration.failures ++
      [⟨failure.phase, attempt, Category.classify failure.message, failure.message⟩] }

/-- Attempts under a cap until one passes or the budget of the latest failure is spent; the answer
is whether one passed. The first number bounds the attempts still to come. -/
def attempts (cap : Nat) (exploration : Exploration) (strategy : Strategy) :
    Nat → Nat → List String → List String → Step σ α Bool
  | 0, _, _, _ => return false
  | remaining + 1, attempt, failures, suggestions => do
    Step.changeIteration (beginAttempt attempt)
    let session := (← get).session
    let failed ← engine.attempt {
      task := session.task
      context := session.context
      exploration := exploration
      strategy := strategy
      attempt := attempt
      failures := failures
      suggestions := suggestions }
    match failed with
    | none => return true
    | some failure =>
      Step.changeIteration (addFailure attempt failure)
      let category := Category.classify failure.message
      if engine.project.settings.retryPolicy.budgetCapped category cap ≤ attempt then return false
      else
        let index := (← get).index
        attempts cap exploration strategy remaining (attempt + 1) (failures ++ [failure.message])
          (index.suggest failure.message engine.project.settings.similarity.top)

/-- Records failures, and returns their hashes. -/
def recordFailures : List FailedAttempt → Step σ α (List String)
  | [] => return []
  | failure :: rest => do
    let now ← Step.now
    let (record, index) := (← get).index.recordError failure.message now
    modify fun state => { state with index := index }
    return record.hash :: (← recordFailures rest)

/-- The note on a failure that was overcome in an iteration. -/
def resolutionNote (iteration : Iteration) (strategy : Strategy) : String :=
  let overcome := s!"Resolved in iteration {iteration.index} on attempt {iteration.attempts}"
  if isBlankText strategy.summary then overcome else overcome ++ ": " ++ strategy.summary

/-- Marks the records of hashes as overcome unless they are already. -/
def resolveAll (note : String) : List String → Step σ α Unit
  | [] => return ()
  | hash :: rest => do
    let index := (← get).index
    if (index.records.find? hash).any fun record => !record.resolved then
      match index.markResolved hash note with
      | .ok (_, index) => modify fun state => { state with index := index }
      | .error e => throw (.store e)
    resolveAll note rest

/-- The outcome of a phase, if it was reached. -/
def phaseOutcome? (iteration : Iteration) (phase : Phase) : Option Outcome :=
  match (iteration.status.find? phase).getD .pending with
  | .pending => none
  | status => some {
      success := status == .completed
      duration := .ofMilliseconds ((iteration.durations.find? phase).getD 0)
      retries := if phase.isRetried then iteration.attempts else 0 }

/-- The phases that outcomes are learnt of. -/
def learntPhases : List Phase := Phase.all.filter fun phase => phase != .learning

/-- Takes the outcomes of phases into the pattern table. -/
def recordOutcomes (iteration : Iteration) (complexity : Complexity) :
    List Phase → Step σ α Unit
  | [] => return ()
  | phase :: rest => do
    match phaseOutcome? iteration phase with
    | none => pure ()
    | some outcome =>
      let now ← Step.now
      let after ← Step.now
      modify fun state => { state with
        table := Pattern.Table.recordOutcome state.table phase.patternId (some complexity) outcome
          now after }
    recordOutcomes iteration complexity rest

/-- Learns from an iteration: its failures, which of them were overcome, and the outcome of each
phase. Both stores are written. -/
def learn (strategy : Strategy) : Step σ α Unit := do
  let started ← engine.enter .learning
  let iteration := (← get).iteration
  let hashes ← recordFailures iteration.failures
  if iteration.success then
    resolveAll (resolutionNote iteration strategy)
      (OrderedMap.ofList (hashes.map fun hash => (hash, ()))).keys
  recordOutcomes iteration (← get).session.context.complexity learntPhases
  let state ← get
  Step.onHost .store (state.index.save engine.project.errorsFile)
  Step.onHost .store (Pattern.Table.save state.table engine.project.patternsFile)
  engine.leave .learning .completed started

/-- Begins the next iteration of the session. -/
def beginIteration : Step σ α Unit := do
  let started ← Step.now
  let shown ← Step.now
  modify fun state =>
    let index := state.session.completedIterations + 1
    { state with
      iteration := .new index state.session.task started
      snapshot := { StatusSnapshot.new state.session.task
          engine.project.settings.engine.maxIterations shown with iteration := index } }

/-- Adds the finished iteration to the history and counts it. -/
def finishIteration : Step σ α Unit := do
  let state ← get
  Step.onHost (.persistence "append history")
    (History.append engine.project.historyFile ⟨state.session.id, state.iteration⟩)
  Step.changeSession fun session =>
    { session with completedIterations := state.iteration.index }
  modify fun state => { state with snapshot := { state.snapshot with phase := .learning } }
  engine.writeStatus

/-- Runs one iteration with at most `cap` attempts. -/
def iterate (cap : Nat) : Step σ α IterationResult := do
  match engine.project.settings.retryPolicy.checkCap cap with
  | .error e => throw (.settings e)
  | .ok () =>
    engine.beginIteration
    let exploration ← engine.explore
    let strategy ← engine.reason exploration
    let success ← engine.attempts cap exploration strategy cap 1 [] []
    Step.changeIteration fun iteration => { iteration with success := success }
    engine.learn strategy
    engine.finishIteration
    return .of (← get).iteration

end Engine

end TaskLoop
