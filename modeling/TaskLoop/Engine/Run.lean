import TaskLoop.Checkpoint.Store
import TaskLoop.Engine.Iterate

/-!
A run: iterations until the condition of the settings is met, none is left, or someone asks to
stop.
-/

set_option autoImplicit false

namespace TaskLoop

/-- Why a run ended. -/
inductive StopReason where
  | completed
  | maxIterations
  | cancelled
  deriving DecidableEq, Repr

/-- The words for the end of a run. -/
def StopReason.message : StopReason → String
  | completed => "completion condition met"
  | maxIterations => "max iterations reached"
  | cancelled => "cancelled"

/-- What came of a run. -/
structure RunSummary where
  session : String
  reason : StopReason
  results : List IterationResult
  finalCheckpoint : CheckpointHandle

/-- How many iterations of a run succeeded. -/
def RunSummary.successes (summary : RunSummary) : Nat :=
  summary.results.countP fun result => result.iteration.success

namespace Engine

variable {σ α : Type} [Arithmetic α] (engine : Engine σ)

/-- Saves a checkpoint of the session. -/
def checkpoint (iteration : Option Iteration) (label : String) : Step σ α CheckpointHandle := do
  let session := (← get).session
  Step.onHost .checkpoint
    (Checkpoint.save engine.project.checkpointsDir session iteration label)

/-- Saves a checkpoint after every so many iterations. -/
def checkpointPeriodically (iteration : Iteration) : Step σ α Unit := do
  let completed := (← get).session.completedIterations
  let interval := engine.project.settings.engine.checkpointInterval
  if 0 < interval && completed % interval == 0 then
    let _ ← engine.checkpoint (some iteration) s!"iteration_{completed}"

/-- Whether an iteration meets the condition for the end of a run. -/
def isFinal (iteration : Iteration) : Bool :=
  iteration.success && engine.project.settings.engine.completion == .firstSuccess

/-- Runs at most a number of iterations, behind those already run. -/
def runIterations : Nat → List IterationResult → Step σ α (StopReason × List IterationResult)
  | remaining, results => do
    if engine.cancelled (← get).agents then return (.cancelled, results)
    match remaining with
    | 0 => return (.maxIterations, results)
    | remaining + 1 =>
      let result ← engine.iterate engine.project.settings.engine.maxRetries
      engine.checkpointPeriodically result.iteration
      if engine.isFinal result.iteration then return (.completed, results ++ [result])
      else runIterations remaining (results ++ [result])

/-- The session at the end of a run. -/
def settleSession (reason : StopReason) (session : Session) : Session :=
  match reason, engine.project.settings.engine.completion with
  | .cancelled, _ => session.stop
  | .completed, _ | _, .allIterations => session.complete
  | _, _ => session.stop

/-- The label of the checkpoint at the end of a run. -/
def finalLabel : StopReason → String
  | .cancelled => "cancelled"
  | _ => "final"

/-- Runs the session to its end. -/
def run : Step σ α RunSummary := do
  let session := (← get).session
  if !session.isActive then throw (.inactive session.id)
  let remaining := engine.project.settings.engine.maxIterations - session.completedIterations
  let (reason, results) ← engine.runIterations remaining []
  Step.changeSession (engine.settleSession reason)
  let handle ← engine.checkpoint none (finalLabel reason)
  return ⟨session.id, reason, results, handle⟩

end Engine

end TaskLoop
