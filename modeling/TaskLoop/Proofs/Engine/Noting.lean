import TaskLoop.Proofs.Engine.Frame

/-!
A generator that notes what it is asked for. An engine with such a generator does what it does
without the notes: when they are forgotten each piece of its work comes to the same.
-/

set_option autoImplicit false

namespace TaskLoop

/-- A state of the agents with the requests for an artifact made so far. -/
abbrev Noted (σ : Type) := σ × List GenerationRequest

variable {σ α β γ : Type}

/-- A call beside the notes. -/
def besideNotes (call : σ → β × σ) (noted : Noted σ) : β × Noted σ :=
  ((call noted.1).1, (call noted.1).2, noted.2)

/-- The generator with a note of each request for an artifact. -/
def Generator.noting (generator : Generator σ) : Generator (Noted σ) where
  name := generator.name
  explore query marks := besideNotes (generator.explore query marks)
  reason task context exploration := besideNotes (generator.reason task context exploration)
  generate request := fun noted =>
    ((generator.generate request noted.1).1, (generator.generate request noted.1).2,
      noted.2 ++ [request])
  review artifact task := besideNotes (generator.review artifact task)

/-- The builder beside the notes. -/
def Builder.noting (builder : Builder σ) : Builder (Noted σ) where
  build artifact := fun noted host =>
    (((builder.build artifact noted.1 host).1.1, (builder.build artifact noted.1 host).1.2,
      noted.2), (builder.build artifact noted.1 host).2)

/-- The engine with a note of each request for an artifact. -/
def Engine.noting (engine : Engine σ) : Engine (Noted σ) where
  project := engine.project
  generator := engine.generator.noting
  builder := engine.builder.noting
  annotations := engine.annotations
  cancelled noted := engine.cancelled noted.1

namespace EngineState

/-- The state with nothing noted. -/
def noting (state : EngineState σ α) : EngineState (Noted σ) α :=
  { state with agents := (state.agents, []) }

/-- The state without the notes. -/
def forget (state : EngineState (Noted σ) α) : EngineState σ α :=
  { state with agents := state.agents.1 }

theorem forget_noting (state : EngineState σ α) : state.noting.forget = state := rfl

end EngineState

namespace Step

/-- What work came to without the notes. -/
def forget : EStateM.Result EngineError (EngineState (Noted σ) α) β →
    EStateM.Result EngineError (EngineState σ α) β
  | .ok value after => .ok value after.forget
  | .error e after => .error e after.forget

/-- Work that comes to the same as other work when the notes are forgotten. -/
def Forgets (noting : Step (Noted σ) α β) (plain : Step σ α β) : Prop :=
  ∀ before, forget (noting before) = plain before.forget

namespace Forgets

theorem pure (value : β) :
    Forgets (Pure.pure value : Step (Noted σ) α β) (Pure.pure value) := fun _ => rfl

theorem throw (e : EngineError) :
    Forgets (MonadExcept.throw e : Step (Noted σ) α β) (MonadExcept.throw e) := fun _ => rfl

theorem bind {first : Step (Noted σ) α β} {plain : Step σ α β} {next : β → Step (Noted σ) α γ}
    {plainNext : β → Step σ α γ} (start : Forgets first plain)
    (rest : ∀ value, Forgets (next value) (plainNext value)) :
    Forgets (first >>= next) (plain >>= plainNext) := by
  intro before
  have same := start before
  cases ran : first before with
  | ok value between =>
    rw [ran] at same
    rw [bind_of_ok next ran, bind_of_ok plainNext same.symm]
    exact rest value between
  | error e between =>
    rw [ran] at same
    rw [bind_of_error next ran, bind_of_error plainNext same.symm]
    rfl

/-- Work that begins with a look at the state. -/
theorem look {next : EngineState (Noted σ) α → Step (Noted σ) α β}
    {plainNext : EngineState σ α → Step σ α β}
    (rest : ∀ state, Forgets (next state) (plainNext state.forget)) :
    Forgets (MonadState.get >>= next) (MonadState.get >>= plainNext) :=
  fun before => rest before before

theorem modify {change : EngineState (Noted σ) α → EngineState (Noted σ) α}
    {plain : EngineState σ α → EngineState σ α}
    (same : ∀ state, (change state).forget = plain state.forget) :
    Forgets (modify change : Step (Noted σ) α Unit) (modify plain) := fun before =>
  congrArg (EStateM.Result.ok ()) (same before)

theorem changeSession (change : Session → Session) :
    Forgets (Step.changeSession change : Step (Noted σ) α Unit) (Step.changeSession change) :=
  modify fun _ => rfl

theorem changeIteration (change : Iteration → Iteration) :
    Forgets (Step.changeIteration change : Step (Noted σ) α Unit) (Step.changeIteration change) :=
  modify fun _ => rfl

theorem onHost {ε : Type} (asError : ε → EngineError) (act : Act ε β) :
    Forgets (Step.onHost asError act : Step (Noted σ) α β) (Step.onHost asError act) := by
  intro before
  simp only [Step.onHost]
  have same : before.forget.host = before.host := rfl
  rw [same]
  cases act before.host <;> rfl

theorem now : Forgets (Step.now : Step (Noted σ) α Timestamp) Step.now := onHost _ _

theorem besideNotes (call : σ → Except Failure β × σ) :
    Forgets (Step.ask (TaskLoop.besideNotes call) : Step (Noted σ) α (Except Failure β))
      (Step.ask call) := fun _ => rfl

theorem generate (generator : Generator σ) (request : GenerationRequest) :
    Forgets (Step.ask (generator.noting.generate request) :
      Step (Noted σ) α (Except Failure Artifact)) (Step.ask (generator.generate request)) :=
  fun _ => rfl

theorem build (builder : Builder σ) (artifact : Artifact) :
    Forgets (Step.askBuilder (builder.noting.build artifact) :
      Step (Noted σ) α (Except Failure BuildOutcome)) (Step.askBuilder (builder.build artifact)) :=
  fun _ => rfl

theorem recordInfluence (decision : Decision) (annotations : List String) (confidence : Float) :
    Forgets (Step.recordInfluence decision annotations confidence : Step (Noted σ) α Unit)
      (Step.recordInfluence decision annotations confidence) :=
  bind now fun _ => modify fun _ => rfl

end Forgets

end Step

namespace Engine

open Step (Forgets)

variable (engine : Engine σ)

/-! ### The phases -/

theorem noting_writeStatus :
    Forgets (engine.noting.writeStatus : Step (Noted σ) α Unit) engine.writeStatus := by
  refine Forgets.bind (Forgets.modify fun _ => rfl) fun _ => Forgets.look fun state => ?_
  exact Forgets.bind (Forgets.onHost _ _) fun _ => Forgets.modify fun _ => rfl

theorem noting_enter (phase : Phase) :
    Forgets (engine.noting.enter phase : Step (Noted σ) α Timestamp) (engine.enter phase) := by
  refine Forgets.bind (Forgets.changeIteration _) fun _ => ?_
  refine Forgets.bind (Forgets.modify fun _ => rfl) fun _ => ?_
  exact Forgets.bind (noting_writeStatus engine) fun _ => Forgets.now

theorem noting_leave (phase : Phase) (status : PhaseStatus) (started : Timestamp) :
    Forgets (engine.noting.leave phase status started : Step (Noted σ) α Unit)
      (engine.leave phase status started) := by
  refine Forgets.bind Forgets.now fun _ => Forgets.bind (Forgets.changeIteration _) fun _ => ?_
  exact noting_writeStatus engine

/-- A phase is left, and the answer given. -/
theorem noting_left (phase : Phase) (status : PhaseStatus) (started : Timestamp) (answer : β) :
    Forgets (engine.noting.leave phase status started >>= fun _ => pure answer :
        Step (Noted σ) α β)
      (engine.leave phase status started >>= fun _ => pure answer) :=
  Forgets.bind (noting_leave engine phase status started) fun _ => Forgets.pure answer

theorem noting_firstReply {call : Step (Noted σ) α (Except Failure β)}
    {plain : Step σ α (Except Failure β)} (same : Forgets call plain) (attempts : Nat) :
    Forgets (firstReply call attempts) (firstReply plain attempts) := by
  induction attempts with
  | zero => exact Forgets.pure none
  | succ attempts ih =>
    refine Forgets.bind same fun reply => ?_
    cases reply with
    | ok reply => exact Forgets.pure (some reply)
    | error _ => exact ih

theorem noting_explore :
    Forgets (engine.noting.explore : Step (Noted σ) α Exploration) engine.explore := by
  refine Forgets.bind (noting_enter engine _) fun started => Forgets.look fun state => ?_
  refine Forgets.bind (noting_firstReply (Forgets.besideNotes _) _) fun reply => ?_
  cases reply with
  | some exploration =>
    exact Forgets.bind (Forgets.recordInfluence _ _ _) fun _ => noting_left engine _ _ _ _
  | none => exact noting_left engine _ _ _ _

theorem noting_reason (exploration : Exploration) :
    Forgets (engine.noting.reason exploration : Step (Noted σ) α Strategy)
      (engine.reason exploration) := by
  refine Forgets.bind (noting_enter engine _) fun started => Forgets.look fun state => ?_
  refine Forgets.bind (noting_firstReply (Forgets.besideNotes _) _) fun reply => ?_
  cases reply with
  | some strategy =>
    refine Forgets.bind (Forgets.changeSession _) fun _ => ?_
    exact Forgets.bind (Forgets.recordInfluence _ _ _) fun _ => noting_left engine _ _ _ _
  | none => exact noting_left engine _ _ _ _

theorem noting_generate (request : GenerationRequest) :
    Forgets (engine.noting.generate request : Step (Noted σ) α (Except AttemptFailure Artifact))
      (engine.generate request) := by
  refine Forgets.bind (noting_enter engine _) fun started => ?_
  refine Forgets.bind (Forgets.generate _ _) fun reply => ?_
  cases reply with
  | ok artifact =>
    exact Forgets.bind (Forgets.recordInfluence _ _ _) fun _ => noting_left engine _ _ _ _
  | error failure => exact noting_left engine _ _ _ _

theorem noting_review (request : GenerationRequest) (artifact : Artifact) :
    Forgets (engine.noting.review request artifact : Step (Noted σ) α (Option AttemptFailure))
      (engine.review request artifact) := by
  have settled (rejection : Option String) (started : Timestamp) :
      Forgets (engine.noting.endReview started rejection :
        Step (Noted σ) α (Option AttemptFailure)) (engine.endReview started rejection) := by
    cases rejection with
    | some message => exact noting_left engine _ _ _ _
    | none => exact noting_left engine _ _ _ _
  refine Forgets.bind (noting_enter engine _) fun started => ?_
  refine Forgets.bind (Forgets.besideNotes _) fun reply => ?_
  cases reply with
  | ok findings =>
    refine Forgets.bind (Forgets.recordInfluence _ _ _) fun _ => ?_
    exact Forgets.bind (Forgets.pure _) fun rejection => settled rejection started
  | error failure =>
    exact Forgets.bind (Forgets.pure _) fun rejection => settled rejection started

theorem noting_compile (artifact : Artifact) :
    Forgets (engine.noting.compile artifact : Step (Noted σ) α (Option AttemptFailure))
      (engine.compile artifact) := by
  refine Forgets.bind (noting_enter engine _) fun started => ?_
  exact Forgets.bind (Forgets.build _ _) fun reply => noting_left engine _ _ _ _

theorem noting_attempt (request : GenerationRequest) :
    Forgets (engine.noting.attempt request : Step (Noted σ) α (Option AttemptFailure))
      (engine.attempt request) := by
  refine Forgets.bind (noting_generate engine request) fun generated => ?_
  cases generated with
  | error failure => exact Forgets.pure _
  | ok artifact =>
    refine Forgets.bind (noting_review engine request artifact) fun reviewed => ?_
    cases reviewed with
    | some failure => exact Forgets.pure _
    | none => exact noting_compile engine artifact

/-! ### An iteration -/

theorem noting_recordFailures (failures : List FailedAttempt) :
    Forgets (recordFailures failures : Step (Noted σ) α (List String))
      (recordFailures failures) := by
  induction failures with
  | nil => exact Forgets.pure []
  | cons failure rest ih =>
    refine Forgets.bind Forgets.now fun _ => Forgets.look fun _ => ?_
    refine Forgets.bind (Forgets.modify fun _ => rfl) fun _ => ?_
    exact Forgets.bind ih fun _ => Forgets.pure _

theorem noting_resolveAll (note : String) (hashes : List String) :
    Forgets (resolveAll note hashes : Step (Noted σ) α Unit) (resolveAll note hashes) := by
  induction hashes with
  | nil => exact Forgets.pure ()
  | cons hash rest ih =>
    refine Forgets.look fun state => ?_
    have same : state.forget.index = state.index := rfl
    dsimp only
    rw [same]
    split
    · split
      · exact Forgets.bind (Forgets.modify fun _ => rfl) fun _ => ih
      · exact Forgets.bind (Forgets.throw _) fun _ => ih
    · exact ih

variable [Arithmetic α]

theorem noting_attempts (cap : Nat) (exploration : Exploration) (strategy : Strategy)
    (remaining number : Nat) (failures suggestions : List String) :
    Forgets (engine.noting.attempts cap exploration strategy remaining number failures
        suggestions : Step (Noted σ) α Bool)
      (engine.attempts cap exploration strategy remaining number failures suggestions) := by
  induction remaining generalizing number failures suggestions with
  | zero => exact Forgets.pure false
  | succ remaining ih =>
    refine Forgets.bind (Forgets.changeIteration _) fun _ => Forgets.look fun state => ?_
    refine Forgets.bind (noting_attempt engine _) fun failed => ?_
    cases failed with
    | none => exact Forgets.pure true
    | some failure =>
      refine Forgets.bind (Forgets.changeIteration _) fun _ => ?_
      dsimp only
      have project : engine.noting.project = engine.project := rfl
      rw [project]
      split
      · exact Forgets.pure false
      · exact Forgets.look fun _ => ih _ _ _

theorem noting_recordOutcomes (iteration : Iteration) (complexity : Complexity)
    (phases : List Phase) :
    Forgets (recordOutcomes iteration complexity phases : Step (Noted σ) α Unit)
      (recordOutcomes iteration complexity phases) := by
  induction phases with
  | nil => exact Forgets.pure ()
  | cons phase rest ih =>
    simp only [recordOutcomes]
    split
    · exact ih
    · refine Forgets.bind Forgets.now fun _ => Forgets.bind Forgets.now fun _ => ?_
      exact Forgets.bind (Forgets.modify fun _ => rfl) fun _ => ih

theorem noting_learn (strategy : Strategy) :
    Forgets (engine.noting.learn strategy : Step (Noted σ) α Unit) (engine.learn strategy) := by
  rw [learn_eq, learn_eq]
  refine Forgets.bind (noting_enter engine _) fun started => Forgets.look fun state => ?_
  have same : state.forget.iteration = state.iteration := rfl
  rw [same]
  refine Forgets.bind (noting_recordFailures _) fun hashes => Forgets.bind ?_ fun _ => ?_
  · split
    · exact noting_resolveAll _ _
    · exact Forgets.pure ()
  · refine Forgets.look fun _ => Forgets.bind (noting_recordOutcomes _ _ _) fun _ => ?_
    refine Forgets.look fun _ => Forgets.bind (Forgets.onHost _ _) fun _ => ?_
    exact Forgets.bind (Forgets.onHost _ _) fun _ => noting_leave engine _ _ _

omit [Arithmetic α] in
theorem noting_beginIteration :
    Forgets (engine.noting.beginIteration : Step (Noted σ) α Unit) engine.beginIteration := by
  refine Forgets.bind Forgets.now fun _ => Forgets.bind Forgets.now fun _ => ?_
  exact Forgets.modify fun _ => rfl

omit [Arithmetic α] in
theorem noting_finishIteration :
    Forgets (engine.noting.finishIteration : Step (Noted σ) α Unit) engine.finishIteration := by
  refine Forgets.look fun state => Forgets.bind (Forgets.onHost _ _) fun _ => ?_
  refine Forgets.bind (Forgets.changeSession _) fun _ => ?_
  exact Forgets.bind (Forgets.modify fun _ => rfl) fun _ => noting_writeStatus engine

/-- The notes change nothing about an iteration. -/
theorem noting_iterate (cap : Nat) :
    Forgets (engine.noting.iterate cap : Step (Noted σ) α IterationResult)
      (engine.iterate cap) := by
  have project : engine.noting.project = engine.project := rfl
  unfold iterate
  rw [project]
  split
  · exact Forgets.throw _
  · refine Forgets.bind (noting_beginIteration engine) fun _ => ?_
    refine Forgets.bind (noting_explore engine) fun exploration => ?_
    refine Forgets.bind (noting_reason engine exploration) fun strategy => ?_
    refine Forgets.bind (noting_attempts engine _ _ _ _ _ _ _) fun success => ?_
    refine Forgets.bind (Forgets.changeIteration _) fun _ => ?_
    refine Forgets.bind (noting_learn engine strategy) fun _ => ?_
    refine Forgets.bind (noting_finishIteration engine) fun _ => ?_
    exact Forgets.look fun state => Forgets.pure _

end Engine

end TaskLoop
