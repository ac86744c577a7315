import TaskLoop.Engine.Run

/-!
What pieces of an engine's work leave as it was. A view of the state that each step of a piece of
work keeps is kept by the whole, whether it comes to its end or fails on the way.
-/

set_option autoImplicit false

namespace TaskLoop

namespace Step

variable {σ α β γ δ : Type}

/-- The state a piece of work ends in, well or not. -/
def final (step : Step σ α β) (before : EngineState σ α) : EngineState σ α :=
  match step before with
  | .ok _ after => after
  | .error _ after => after

/-- The work leaves a view of the state as it was. -/
def Keeps (view : EngineState σ α → δ) (step : Step σ α β) : Prop :=
  ∀ before, view (step.final before) = view before

theorem final_of_ok {step : Step σ α β} {before after : EngineState σ α} {value : β}
    (done : step before = .ok value after) : step.final before = after := by
  simp only [final, done]

theorem final_of_error {step : Step σ α β} {before after : EngineState σ α} {e : EngineError}
    (failed : step before = .error e after) : step.final before = after := by
  simp only [final, failed]

theorem bind_of_ok {step : Step σ α β} (next : β → Step σ α γ) {before after : EngineState σ α}
    {value : β} (done : step before = .ok value after) :
    (step >>= next) before = next value after := by
  simp only [bind, EStateM.bind, done]

theorem bind_of_error {step : Step σ α β} (next : β → Step σ α γ)
    {before after : EngineState σ α} {e : EngineError} (failed : step before = .error e after) :
    (step >>= next) before = .error e after := by
  simp only [bind, EStateM.bind, failed]

/-- Work in two parts comes to its end when both do. -/
theorem bind_eq_ok {step : Step σ α β} {next : β → Step σ α γ} {before after : EngineState σ α}
    {value : γ} :
    (step >>= next) before = .ok value after ↔
      ∃ first between, step before = .ok first between ∧ next first between = .ok value after := by
  constructor
  · intro done
    cases first : step before with
    | ok value' between =>
      rw [bind_of_ok next first] at done
      exact ⟨value', between, rfl, done⟩
    | error e between =>
      rw [bind_of_error next first] at done
      cases done
  · rintro ⟨first, between, ran, done⟩
    rw [bind_of_ok next ran, done]

/-- Work on the host changes the host alone. -/
theorem onHost_eq_ok {ε : Type} {asError : ε → EngineError} {act : Act ε β}
    {before after : EngineState σ α} {value : β} :
    (onHost asError act : Step σ α β) before = .ok value after ↔
      ∃ host, act before.host = .ok value host ∧ after = { before with host := host } := by
  simp only [onHost]
  constructor
  · intro done
    split at done
    · rename_i host ran
      cases done
      exact ⟨host, ran, rfl⟩
    · cases done
  · rintro ⟨host, ran, rfl⟩
    rw [ran]

/-- Whether the work comes to its end. -/
def succeeds (step : Step σ α β) (before : EngineState σ α) : Bool :=
  match step before with
  | .ok _ _ => true
  | .error _ _ => false

theorem succeeds_eq_true {step : Step σ α β} {before : EngineState σ α} :
    step.succeeds before = true ↔ ∃ value after, step before = .ok value after := by
  unfold succeeds
  cases step before with
  | ok value after => exact ⟨fun _ => ⟨value, after, rfl⟩, fun _ => rfl⟩
  | error e after =>
    refine ⟨Bool.noConfusion, ?_⟩
    rintro ⟨_, _, done⟩
    cases done

namespace Keeps

variable {view : EngineState σ α → δ}

theorem of_ok {step : Step σ α β} (keeps : Keeps view step) {before after : EngineState σ α}
    {value : β} (done : step before = .ok value after) : view after = view before := by
  rw [← final_of_ok done]
  exact keeps before

theorem pure (value : β) : Keeps view (Pure.pure value : Step σ α β) := fun _ => rfl

theorem get : Keeps view (MonadState.get : Step σ α (EngineState σ α)) := fun _ => rfl

theorem throw (e : EngineError) : Keeps view (MonadExcept.throw e : Step σ α β) := fun _ => rfl

theorem bind {step : Step σ α β} {next : β → Step σ α γ} (first : Keeps view step)
    (rest : ∀ value, Keeps view (next value)) : Keeps view (step >>= next) := by
  intro before
  cases ran : step before with
  | ok value between =>
    have same : view between = view before := first.of_ok ran
    have after := rest value between
    rw [same] at after
    simpa only [final, bind_of_ok next ran] using after
  | error e between =>
    have same := first before
    rw [final_of_error ran] at same
    simpa only [final, bind_of_error next ran] using same

/-- Two views that are kept are kept together. -/
theorem prod {view' : EngineState σ α → γ} {step : Step σ α β} (first : Keeps view step)
    (second : Keeps view' step) : Keeps (fun state => (view state, view' state)) step :=
  fun before => Prod.ext (first before) (second before)

theorem modify {change : EngineState σ α → EngineState σ α}
    (keeps : ∀ state, view (change state) = view state) :
    Keeps view (modify change : Step σ α Unit) := keeps

theorem changeSession {change : Session → Session}
    (keeps : ∀ state : EngineState σ α,
      view { state with session := change state.session } = view state) :
    Keeps view (Step.changeSession change : Step σ α Unit) := keeps

theorem changeIteration {change : Iteration → Iteration}
    (keeps : ∀ state : EngineState σ α,
      view { state with iteration := change state.iteration } = view state) :
    Keeps view (Step.changeIteration change : Step σ α Unit) := keeps

theorem onHost {ε : Type} (asError : ε → EngineError) (act : Act ε β)
    (keeps : ∀ (state : EngineState σ α) (host : Host),
      view { state with host := host } = view state) :
    Keeps view (Step.onHost asError act : Step σ α β) := by
  intro before
  simp only [final, Step.onHost]
  cases act before.host with
  | ok value host => exact keeps before host
  | error e host => exact keeps before host

theorem ask (call : σ → Except Failure β × σ)
    (keeps : ∀ (state : EngineState σ α) (agents : σ),
      view { state with agents := agents } = view state) :
    Keeps view (Step.ask call : Step σ α (Except Failure β)) := fun before =>
  keeps before (call before.agents).2

theorem askBuilder (call : σ → Host → (Except Failure BuildOutcome × σ) × Host)
    (keeps : ∀ (state : EngineState σ α) (agents : σ) (host : Host),
      view { state with agents := agents, host := host } = view state) :
    Keeps view (Step.askBuilder call : Step σ α (Except Failure BuildOutcome)) := fun before =>
  keeps before (call before.agents before.host).1.2 (call before.agents before.host).2

end Keeps

end Step

namespace Engine

open Step (Keeps)

variable {σ α β δ : Type} {view : EngineState σ α → δ}

/-- A view of what the engine has learnt and of the current iteration: the host, the agents, the
session and the status shown do not enter into it. -/
def Aside (view : EngineState σ α → δ) : Prop :=
  ∀ (state : EngineState σ α) (host : Host) (agents : σ) (session : Session)
    (snapshot : StatusSnapshot) (written : List StatusSnapshot),
    view { state with
      host := host
      agents := agents
      session := session
      snapshot := snapshot
      written := written } = view state

/-- A view that what becomes of the phases of the iteration does not enter into either. -/
structure Unmoved (view : EngineState σ α → δ) : Prop where
  aside : Aside view
  progress : ∀ (state : EngineState σ α) (status : PhaseProgress) (durations : OrderedMap Phase Nat),
    view { state with iteration := { state.iteration with
      status := status
      durations := durations } } = view state

section Steps

variable (engine : Engine σ)

theorem onHost_keeps {ε : Type} (aside : Aside view) (asError : ε → EngineError) (act : Act ε β) :
    Keeps view (Step.onHost asError act : Step σ α β) :=
  Keeps.onHost _ _ fun state host => aside state host _ _ _ _

theorem now_keeps (aside : Aside view) : Keeps view (Step.now : Step σ α Timestamp) :=
  onHost_keeps aside _ _

theorem recordInfluence_keeps (aside : Aside view) (decision : Decision)
    (annotations : List String) (confidence : Float) :
    Keeps view (Step.recordInfluence decision annotations confidence : Step σ α Unit) :=
  Keeps.bind (now_keeps aside) fun _ => Keeps.modify fun state => aside state _ _ _ _ _

theorem writeStatus_keeps (aside : Aside view) :
    Keeps view (engine.writeStatus : Step σ α Unit) := by
  refine Keeps.bind (Keeps.modify fun state => aside state _ _ _ _ _) fun _ => ?_
  refine Keeps.bind Keeps.get fun _ => ?_
  refine Keeps.bind (onHost_keeps aside _ _) fun _ => ?_
  exact Keeps.modify fun state => aside state _ _ _ _ _

theorem writeStatus_keeps_session :
    Keeps (fun state => state.session) (engine.writeStatus : Step σ α Unit) := by
  refine Keeps.bind (Keeps.modify fun _ => rfl) fun _ => ?_
  refine Keeps.bind Keeps.get fun _ => ?_
  refine Keeps.bind (Keeps.onHost _ _ fun _ _ => rfl) fun _ => ?_
  exact Keeps.modify fun _ => rfl

theorem enter_keeps_session (phase : Phase) :
    Keeps (fun state => state.session) (engine.enter phase : Step σ α Timestamp) := by
  refine Keeps.bind (Keeps.changeIteration fun _ => rfl) fun _ => ?_
  refine Keeps.bind (Keeps.modify fun _ => rfl) fun _ => ?_
  refine Keeps.bind (writeStatus_keeps_session engine) fun _ => ?_
  exact Keeps.onHost _ _ fun _ _ => rfl

theorem leave_keeps_session (phase : Phase) (status : PhaseStatus) (started : Timestamp) :
    Keeps (fun state => state.session)
      (engine.leave phase status started : Step σ α Unit) := by
  refine Keeps.bind (Keeps.onHost _ _ fun _ _ => rfl) fun _ => ?_
  exact Keeps.bind (Keeps.changeIteration fun _ => rfl) fun _ => writeStatus_keeps_session engine

theorem ask_keeps (aside : Aside view) (call : σ → Except Failure β × σ) :
    Keeps view (Step.ask call : Step σ α (Except Failure β)) :=
  Keeps.ask call fun state _ => aside state _ _ _ _ _

theorem askBuilder_keeps (aside : Aside view)
    (call : σ → Host → (Except Failure BuildOutcome × σ) × Host) :
    Keeps view (Step.askBuilder call : Step σ α (Except Failure BuildOutcome)) :=
  Keeps.askBuilder call fun state _ _ => aside state _ _ _ _ _

theorem firstReply_keeps {call : Step σ α (Except Failure β)} (keeps : Keeps view call)
    (attempts : Nat) : Keeps view (firstReply call attempts) := by
  induction attempts with
  | zero => exact Keeps.pure none
  | succ attempts ih =>
    refine Keeps.bind keeps fun reply => ?_
    cases reply with
    | ok reply => exact Keeps.pure (some reply)
    | error _ => exact ih

end Steps

section Phases

variable (engine : Engine σ) (unmoved : Unmoved view)

include unmoved

theorem enter_keeps (phase : Phase) : Keeps view (engine.enter phase : Step σ α Timestamp) := by
  refine Keeps.bind (Keeps.changeIteration fun state => unmoved.progress state _ _) fun _ => ?_
  refine Keeps.bind (Keeps.modify fun state => unmoved.aside state _ _ _ _ _) fun _ => ?_
  exact Keeps.bind (writeStatus_keeps engine unmoved.aside) fun _ => now_keeps unmoved.aside

theorem leave_keeps (phase : Phase) (status : PhaseStatus) (started : Timestamp) :
    Keeps view (engine.leave phase status started : Step σ α Unit) := by
  refine Keeps.bind (now_keeps unmoved.aside) fun _ => ?_
  refine Keeps.bind (Keeps.changeIteration fun state => unmoved.progress state _ _) fun _ => ?_
  exact writeStatus_keeps engine unmoved.aside

theorem explore_keeps : Keeps view (engine.explore : Step σ α Exploration) := by
  refine Keeps.bind (enter_keeps engine unmoved _) fun _ => ?_
  refine Keeps.bind Keeps.get fun _ => ?_
  refine Keeps.bind (firstReply_keeps (ask_keeps unmoved.aside _) _) fun reply => ?_
  cases reply with
  | some exploration =>
    refine Keeps.bind (recordInfluence_keeps unmoved.aside _ _ _) fun _ => ?_
    exact Keeps.bind (leave_keeps engine unmoved _ _ _) fun _ => Keeps.pure _
  | none => exact Keeps.bind (leave_keeps engine unmoved _ _ _) fun _ => Keeps.pure _

theorem reason_keeps (exploration : Exploration) :
    Keeps view (engine.reason exploration : Step σ α Strategy) := by
  refine Keeps.bind (enter_keeps engine unmoved _) fun _ => ?_
  refine Keeps.bind Keeps.get fun _ => ?_
  refine Keeps.bind (firstReply_keeps (ask_keeps unmoved.aside _) _) fun reply => ?_
  cases reply with
  | some strategy =>
    refine Keeps.bind (Keeps.changeSession fun state => unmoved.aside state _ _ _ _ _) fun _ => ?_
    refine Keeps.bind (recordInfluence_keeps unmoved.aside _ _ _) fun _ => ?_
    exact Keeps.bind (leave_keeps engine unmoved _ _ _) fun _ => Keeps.pure _
  | none => exact Keeps.bind (leave_keeps engine unmoved _ _ _) fun _ => Keeps.pure _

theorem generate_keeps (request : GenerationRequest) :
    Keeps view (engine.generate request : Step σ α (Except AttemptFailure Artifact)) := by
  refine Keeps.bind (enter_keeps engine unmoved _) fun _ => ?_
  refine Keeps.bind (ask_keeps unmoved.aside _) fun reply => ?_
  cases reply with
  | ok artifact =>
    refine Keeps.bind (recordInfluence_keeps unmoved.aside _ _ _) fun _ => ?_
    exact Keeps.bind (leave_keeps engine unmoved _ _ _) fun _ => Keeps.pure _
  | error failure => exact Keeps.bind (leave_keeps engine unmoved _ _ _) fun _ => Keeps.pure _

/-- How a review ends that has found why the artifact is rejected, if it is. -/
def endReview (started : Timestamp) : Option String → Step σ α (Option AttemptFailure)
  | some message => do
    engine.leave .review .failed started
    return some ⟨.review, message⟩
  | none => do
    engine.leave .review .completed started
    return none

theorem review_keeps (request : GenerationRequest) (artifact : Artifact) :
    Keeps view (engine.review request artifact : Step σ α (Option AttemptFailure)) := by
  have settled (rejection : Option String) (started : Timestamp) :
      Keeps view (engine.endReview started rejection) := by
    cases rejection with
    | some message => exact Keeps.bind (leave_keeps engine unmoved _ _ _) fun _ => Keeps.pure _
    | none => exact Keeps.bind (leave_keeps engine unmoved _ _ _) fun _ => Keeps.pure _
  refine Keeps.bind (enter_keeps engine unmoved _) fun started => ?_
  refine Keeps.bind (ask_keeps unmoved.aside _) fun reply => ?_
  cases reply with
  | ok findings =>
    refine Keeps.bind (recordInfluence_keeps unmoved.aside _ _ _) fun _ => ?_
    exact Keeps.bind (Keeps.pure _) fun rejection => settled rejection started
  | error failure => exact Keeps.bind (Keeps.pure _) fun rejection => settled rejection started

theorem compile_keeps (artifact : Artifact) :
    Keeps view (engine.compile artifact : Step σ α (Option AttemptFailure)) := by
  refine Keeps.bind (enter_keeps engine unmoved _) fun _ => ?_
  refine Keeps.bind (askBuilder_keeps unmoved.aside _) fun _ => ?_
  exact Keeps.bind (leave_keeps engine unmoved _ _ _) fun _ => Keeps.pure _

/-- An attempt changes of the iteration only what became of its phases. -/
theorem attempt_keeps (request : GenerationRequest) :
    Keeps view (engine.attempt request : Step σ α (Option AttemptFailure)) := by
  refine Keeps.bind (generate_keeps engine unmoved request) fun generated => ?_
  cases generated with
  | error failure => exact Keeps.pure _
  | ok artifact =>
    refine Keeps.bind (review_keeps engine unmoved request artifact) fun reviewed => ?_
    cases reviewed with
    | some failure => exact Keeps.pure _
    | none => exact compile_keeps engine unmoved artifact

variable [Arithmetic α]

/-- The attempts change of the iteration also how many they are and how they failed. -/
theorem attempts_keeps
    (tally : ∀ (state : EngineState σ α) (attempts : Nat) (failures : List FailedAttempt),
      view { state with iteration := { state.iteration with
        attempts := attempts
        failures := failures } } = view state)
    (cap : Nat) (exploration : Exploration) (strategy : Strategy) (remaining attempt : Nat)
    (failures suggestions : List String) :
    Keeps view
      (engine.attempts cap exploration strategy remaining attempt failures suggestions :
        Step σ α Bool) := by
  induction remaining generalizing attempt failures suggestions with
  | zero => exact Keeps.pure false
  | succ remaining ih =>
    unfold attempts
    refine Keeps.bind (Keeps.changeIteration fun state => ?_) fun _ => ?_
    · exact (unmoved.progress { state with
        iteration := { state.iteration with attempts := attempt } } _ _).trans (tally state _ _)
    refine Keeps.bind Keeps.get fun _ => ?_
    refine Keeps.bind (attempt_keeps engine unmoved _) fun failed => ?_
    cases failed with
    | none => exact Keeps.pure true
    | some failure =>
      refine Keeps.bind (Keeps.changeIteration fun state => tally state _ _) fun _ => ?_
      dsimp only
      split
      · exact Keeps.pure false
      · exact Keeps.bind Keeps.get fun _ => ih _ _ _

end Phases

section Learning

variable (engine : Engine σ)

theorem recordFailures_keeps (timed : Keeps view (Step.now : Step σ α Timestamp))
    (reindexed : ∀ (state : EngineState σ α) (index : ErrorIndex α),
      view { state with index := index } = view state) (failures : List FailedAttempt) :
    Keeps view (recordFailures failures : Step σ α (List String)) := by
  induction failures with
  | nil => exact Keeps.pure []
  | cons failure rest ih =>
    refine Keeps.bind timed fun _ => ?_
    refine Keeps.bind Keeps.get fun _ => ?_
    refine Keeps.bind (Keeps.modify fun state => reindexed state _) fun _ => ?_
    exact Keeps.bind ih fun _ => Keeps.pure _

theorem resolveAll_keeps
    (reindexed : ∀ (state : EngineState σ α) (index : ErrorIndex α),
      view { state with index := index } = view state) (note : String) (hashes : List String) :
    Keeps view (resolveAll note hashes : Step σ α Unit) := by
  induction hashes with
  | nil => exact Keeps.pure ()
  | cons hash rest ih =>
    refine Keeps.bind Keeps.get fun state => ?_
    dsimp only
    split
    · split
      · exact Keeps.bind (Keeps.modify fun state => reindexed state _) fun _ => ih
      · exact Keeps.bind (Keeps.throw _) fun _ => ih
    · exact ih

variable [Arithmetic α]

theorem recordOutcomes_keeps (timed : Keeps view (Step.now : Step σ α Timestamp))
    (retabled : ∀ (state : EngineState σ α) (table : Pattern.Table α),
      view { state with table := table } = view state) (iteration : Iteration)
    (complexity : Complexity) (phases : List Phase) :
    Keeps view (recordOutcomes iteration complexity phases : Step σ α Unit) := by
  induction phases with
  | nil => exact Keeps.pure ()
  | cons phase rest ih =>
    simp only [recordOutcomes]
    split
    · exact ih
    · refine Keeps.bind timed fun _ => ?_
      refine Keeps.bind timed fun _ => ?_
      exact Keeps.bind (Keeps.modify fun state => retabled state _) fun _ => ih

/-- The end of learning: the outcomes are taken in, the stores are written, and the phase is
left. -/
def storeLearnt (iteration : Iteration) (started : Timestamp) : Step σ α Unit := do
  recordOutcomes iteration (← get).session.context.complexity learntPhases
  let state ← get
  Step.onHost .store (state.index.save engine.project.errorsFile)
  Step.onHost .store (Pattern.Table.save state.table engine.project.patternsFile)
  engine.leave .learning .completed started

/-- Learning records the failures, marks them after a success, and comes to its end. -/
theorem learn_eq (strategy : Strategy) : (engine.learn strategy : Step σ α Unit) =
    engine.enter .learning >>= fun started => get >>= fun state =>
      recordFailures state.iteration.failures >>= fun hashes =>
        (if state.iteration.success then
          resolveAll (resolutionNote state.iteration strategy)
            (OrderedMap.ofList (hashes.map fun hash => (hash, ()))).keys
        else pure ()) >>= fun _ => engine.storeLearnt state.iteration started := by
  unfold learn storeLearnt
  congr 1
  funext started
  congr 1
  funext state
  dsimp only
  congr 1
  funext hashes
  split
  · rfl
  · rw [pure_bind]

/-- Learning leaves what neither the stores nor the phase of learning enter into. -/
theorem learn_keeps
    (hosted : ∀ (state : EngineState σ α) (host : Host), view { state with host := host } = view state)
    (reindexed : ∀ (state : EngineState σ α) (index : ErrorIndex α),
      view { state with index := index } = view state)
    (retabled : ∀ (state : EngineState σ α) (table : Pattern.Table α),
      view { state with table := table } = view state)
    (entered : Keeps view (engine.enter .learning))
    (left : ∀ started, Keeps view (engine.leave .learning .completed started))
    (strategy : Strategy) : Keeps view (engine.learn strategy : Step σ α Unit) := by
  rw [learn_eq]
  refine Keeps.bind entered fun started => ?_
  refine Keeps.bind Keeps.get fun state => ?_
  refine Keeps.bind (recordFailures_keeps (Keeps.onHost _ _ hosted) reindexed _) fun hashes => ?_
  refine Keeps.bind ?_ fun _ => ?_
  · split
    · exact resolveAll_keeps reindexed _ _
    · exact Keeps.pure ()
  · refine Keeps.bind Keeps.get fun _ => ?_
    refine Keeps.bind (recordOutcomes_keeps (Keeps.onHost _ _ hosted) retabled _ _ _) fun _ => ?_
    refine Keeps.bind Keeps.get fun _ => ?_
    refine Keeps.bind (Keeps.onHost _ _ hosted) fun _ => ?_
    exact Keeps.bind (Keeps.onHost _ _ hosted) fun _ => left _

omit [Arithmetic α] in
theorem finishIteration_keeps (aside : Aside view) :
    Keeps view (engine.finishIteration : Step σ α Unit) := by
  refine Keeps.bind Keeps.get fun state => ?_
  refine Keeps.bind (onHost_keeps aside _ _) fun _ => ?_
  refine Keeps.bind (Keeps.changeSession fun state => aside state _ _ _ _ _) fun _ => ?_
  exact Keeps.bind (Keeps.modify fun state => aside state _ _ _ _ _) fun _ =>
    writeStatus_keeps engine aside

omit [Arithmetic α] in
/-- An iteration that is finished has been added to the history, and is counted and shown then. -/
theorem finishIteration_eq_ok {engine : Engine σ} {before after : EngineState σ α}
    (finished : engine.finishIteration before = .ok () after) : ∃ host,
    History.append engine.project.historyFile ⟨before.session.id, before.iteration⟩ before.host =
      .ok () host ∧
    engine.writeStatus { before with
      host := host
      session := { before.session with completedIterations := before.iteration.index }
      snapshot := { before.snapshot with phase := .learning } } = .ok () after := by
  obtain ⟨_, _, got, finished⟩ := Step.bind_eq_ok.1 finished
  cases got
  obtain ⟨_, _, appending, finished⟩ := Step.bind_eq_ok.1 finished
  obtain ⟨host, appended, rfl⟩ := Step.onHost_eq_ok.1 appending
  obtain ⟨_, _, counted, finished⟩ := Step.bind_eq_ok.1 finished
  cases counted
  obtain ⟨_, _, snapshot, shown⟩ := Step.bind_eq_ok.1 finished
  cases snapshot
  exact ⟨host, appended, shown⟩

omit [Arithmetic α] in
theorem finishIteration_iteration {engine : Engine σ} {before after : EngineState σ α}
    (finished : engine.finishIteration before = .ok () after) :
    after.iteration = before.iteration := by
  have keeps : Keeps EngineState.iteration (engine.finishIteration : Step σ α Unit) :=
    finishIteration_keeps engine fun _ _ _ _ _ _ => rfl
  exact keeps.of_ok finished

end Learning

end Engine

/-- The iteration without what became of its phases: what only the loop of attempts and the end of
the iteration change. -/
def Iteration.bare (iteration : Iteration) : Iteration :=
  { iteration with status := .empty, durations := .empty }

namespace Engine

open Step (Keeps)

variable {σ α : Type} (engine : Engine σ)

/-- A view of the current iteration without what became of its phases. -/
abbrev bareIteration (state : EngineState σ α) : Iteration := state.iteration.bare

theorem unmoved_bare : Unmoved (bareIteration : EngineState σ α → Iteration) :=
  ⟨fun _ _ _ _ _ _ => rfl, fun _ _ _ => rfl⟩

/-- Learning changes of the iteration only what became of its phases. -/
theorem learn_keeps_bare [Arithmetic α] (strategy : Strategy) :
    Keeps bareIteration (engine.learn strategy : Step σ α Unit) :=
  learn_keeps engine (fun _ _ => rfl) (fun _ _ => rfl) (fun _ _ => rfl)
    (enter_keeps engine unmoved_bare _) (leave_keeps engine unmoved_bare _ _) strategy

/-- Learning leaves the session as it is. -/
theorem learn_keeps_session [Arithmetic α] (strategy : Strategy) :
    Keeps (fun state => state.session) (engine.learn strategy : Step σ α Unit) :=
  learn_keeps engine (fun _ _ => rfl) (fun _ _ => rfl) (fun _ _ => rfl)
    (enter_keeps_session engine _) (leave_keeps_session engine _ _) strategy

end Engine

end TaskLoop
