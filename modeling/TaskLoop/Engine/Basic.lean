import TaskLoop.Builder
import TaskLoop.Iteration
import TaskLoop.Pattern.Table
import TaskLoop.Project
import TaskLoop.Store.Status

/-!
An engine: what it works with, what it changes, and the steps all its work is made of. A step that
fails leaves everything as it had come to be.
-/

set_option autoImplicit false

namespace TaskLoop

/-- What an engine works with. The generator and the builder keep their state in `σ`, which also
tells whether someone has asked to stop. -/
structure Engine (σ : Type) where
  project : Project
  generator : Generator σ
  builder : Builder σ
  annotations : List Annotation
  cancelled : σ → Bool

/-- What an engine changes: the host, the state of generator and builder, what it has learnt, the
session with its current iteration, and the status last shown. `written` holds the snapshots
written to the status file so far. -/
structure EngineState (σ α : Type) where
  host : Host
  agents : σ
  table : Pattern.Table α
  index : ErrorIndex α
  session : Session
  iteration : Iteration
  snapshot : StatusSnapshot
  written : List StatusSnapshot

/-- A piece of an engine's work. -/
abbrev Step (σ α : Type) := EStateM EngineError (EngineState σ α)

namespace EngineState

/-- The state in which work on a session begins. -/
def new {σ α : Type} (host : Host) (agents : σ) (table : Pattern.Table α) (index : ErrorIndex α)
    (session : Session) : EngineState σ α where
  host := host
  agents := agents
  table := table
  index := index
  session := session
  iteration := .new session.completedIterations session.task session.createdAt
  snapshot := .new session.task 0 session.createdAt
  written := []

end EngineState

namespace Step

variable {σ α : Type}

/-- Work on the host, its errors seen as an engine's. -/
def onHost {ε β : Type} (asError : ε → EngineError) (act : Act ε β) : Step σ α β := fun state =>
  match act state.host with
  | .ok value host => .ok value { state with host := host }
  | .error e host => .error (asError e) { state with host := host }

/-- Reads the clock. -/
def now : Step σ α Timestamp := onHost id Host.now

/-- A call to the generator. -/
def ask {β : Type} (call : σ → Except Failure β × σ) : Step σ α (Except Failure β) := fun state =>
  let (reply, agents) := call state.agents
  .ok reply { state with agents := agents }

/-- A call to the builder. -/
def askBuilder (call : σ → Host → (Except Failure BuildOutcome × σ) × Host) :
    Step σ α (Except Failure BuildOutcome) := fun state =>
  let ((reply, agents), host) := call state.agents state.host
  .ok reply { state with agents := agents, host := host }

/-- Changes the session. -/
def changeSession (change : Session → Session) : Step σ α Unit :=
  modify fun state => { state with session := change state.session }

/-- Changes the current iteration. -/
def changeIteration (change : Iteration → Iteration) : Step σ α Unit :=
  modify fun state => { state with iteration := change state.iteration }

/-- Notes which annotations informed a decision of the current iteration. -/
def recordInfluence (decision : Decision) (annotations : List String) (confidence : Float) :
    Step σ α Unit := do
  let now ← now
  modify fun state => { state with
    session := state.session.recordInfluence state.iteration.index decision annotations confidence
      now }

end Step

namespace Engine

variable {σ α : Type} (engine : Engine σ)

/-- Shows the progress of the current iteration in the status file. -/
def writeStatus : Step σ α Unit := do
  modify fun state => { state with
    snapshot := { state.snapshot with
      progress := state.iteration.status
      attempts := state.iteration.attempts } }
  let state ← get
  let snapshot ← Step.onHost (.persistence "write status")
    (state.snapshot.update engine.project.statusFile)
  modify fun state => { state with
    snapshot := snapshot
    written := state.written ++ [snapshot] }

/-- Enters a phase and says when. -/
def enter (phase : Phase) : Step σ α Timestamp := do
  Step.changeIteration fun iteration =>
    { iteration with status := iteration.status.insert phase .running }
  modify fun state => { state with snapshot := { state.snapshot with phase := phase } }
  engine.writeStatus
  Step.now

/-- Leaves a phase that was entered at a time. -/
def leave (phase : Phase) (status : PhaseStatus) (started : Timestamp) : Step σ α Unit := do
  let now ← Step.now
  Step.changeIteration fun iteration =>
    { iteration with status := iteration.status.insert phase status }.addDuration phase
      (now.millisecondsSince started)
  engine.writeStatus

end Engine

end TaskLoop
