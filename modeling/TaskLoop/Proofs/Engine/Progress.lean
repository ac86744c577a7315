import TaskLoop.Proofs.Engine.Attempts

/-!
A phase that is entered is left before the next one begins. What holds between phases, and comes
back when a phase is left, holds when the attempts of an iteration are over: no phase is under way
then, and the host still is as it was asked to be.
-/

set_option autoImplicit false

namespace TaskLoop

namespace PhaseProgress

/-- No phase but one is under way. -/
def IdleBut (phase : Phase) (status : PhaseProgress) : Prop :=
  ∀ other, status.find? other = some .running → other = phase

/-- No phase is under way. -/
def Idle (status : PhaseProgress) : Prop := ∀ phase, status.find? phase ≠ some .running

variable {status : PhaseProgress} {phase : Phase}

theorem Idle.insert_running (idle : status.Idle) (phase : Phase) :
    IdleBut phase (status.insert phase .running) := by
  intro other under
  by_cases same : other = phase
  · exact same
  · rw [OrderedMap.find?_insert_of_ne _ _ same] at under
    exact absurd under (idle other)

theorem IdleBut.insert {reached : PhaseStatus} (idle : IdleBut phase status)
    (ended : reached ≠ .running) : Idle (status.insert phase reached) := by
  intro other under
  by_cases same : other = phase
  · subst same
    rw [OrderedMap.find?_insert_self] at under
    exact ended (Option.some.inj under)
  · rw [OrderedMap.find?_insert_of_ne _ _ same] at under
    exact same (idle other under)

theorem Idle.insert {reached : PhaseStatus} (idle : status.Idle) (phase : Phase)
    (ended : reached ≠ .running) : Idle (status.insert phase reached) := by
  refine IdleBut.insert (fun other under => ?_) ended
  exact absurd under (idle other)

theorem idle_fresh : Idle fresh := by
  intro phase
  cases phase <;> decide

end PhaseProgress

namespace Step

variable {σ α β γ δ : Type}

/-- Work that comes to its end leads from states of one kind to states of another. -/
def Leads (start finish : EngineState σ α → Prop) (step : Step σ α β) : Prop :=
  ∀ before value after, step before = .ok value after → start before → finish after

namespace Leads

variable {start middle finish : EngineState σ α → Prop}

theorem bind {step : Step σ α β} {next : β → Step σ α γ} (first : Leads start middle step)
    (rest : ∀ value, Leads middle finish (next value)) : Leads start finish (step >>= next) := by
  intro before value after done holds
  obtain ⟨answer, between, ran, done⟩ := Step.bind_eq_ok.1 done
  exact rest answer between value after done (first before answer between ran holds)

/-- Work in two parts, when something is known of what the first part answers. -/
theorem bind_told {told : β → Prop} {step : Step σ α β} {next : β → Step σ α γ}
    (first : Leads start middle step)
    (tells : ∀ before value after, step before = .ok value after → told value)
    (rest : ∀ value, told value → Leads middle finish (next value)) :
    Leads start finish (step >>= next) := by
  intro before value after done holds
  obtain ⟨answer, between, ran, done⟩ := Step.bind_eq_ok.1 done
  have reached := first before answer between ran holds
  exact rest answer (tells _ _ _ ran) between value after done reached

theorem pure (value : β) : Leads start start (Pure.pure value : Step σ α β) := by
  intro before value after done holds
  cases done
  exact holds

theorem get : Leads start start (MonadState.get : Step σ α (EngineState σ α)) := by
  intro before value after done holds
  cases done
  exact holds

/-- What can be told from a view that is kept goes on to hold. -/
theorem of_keeps {view : EngineState σ α → δ} {step : Step σ α β} (keeps : Keeps view step)
    (holds : δ → Prop) :
    Leads (fun state => holds (view state)) (fun state => holds (view state)) step := by
  intro before value after done held
  rwa [keeps.of_ok done]

theorem modify {change : EngineState σ α → EngineState σ α}
    (leads : ∀ state, start state → finish (change state)) :
    Leads start finish (modify change : Step σ α Unit) := by
  intro before value after done holds
  cases done
  exact leads _ holds

/-- Work on the host, by what it does to it. -/
theorem onHost {ε : Type} {asError : ε → EngineError} {act : Act ε β} {start finish : Host → Prop}
    (leads : ∀ host value after, act host = .ok value after → start host → finish after) :
    Leads (fun state => start state.host) (fun state => finish state.host)
      (Step.onHost asError act : Step σ α β) := by
  intro before value after done held
  obtain ⟨host, ran, rfl⟩ := onHost_eq_ok.1 done
  exact leads _ _ _ ran held

end Leads

end Step

namespace Engine

open Step (Keeps Leads)
open PhaseProgress (Idle IdleBut)

variable {σ α β : Type} {engine : Engine σ}

/-! ### Confidences -/

/-- All confidences an engine notes are of a kind: those it forms of explorations, those of the
plans it is given, and those of verdicts. -/
structure Trusts (engine : Engine σ) (sure : Float → Prop) : Prop where
  exploration : ∀ exploration : Exploration, sure exploration.confidence
  strategy : ∀ task context exploration agents strategy,
    (engine.generator.reason task context exploration agents).1 = .ok strategy →
      sure strategy.confidence
  nought : sure 0
  one : sure 1

/-- Any confidence. -/
def anyConfidence : Float → Prop := fun _ => True

theorem trusts_any : engine.Trusts anyConfidence :=
  ⟨fun _ => trivial, fun _ _ _ _ _ _ => trivial, trivial, trivial⟩

/-- A first reply is the reply to one of the calls. -/
theorem firstReply_eq_some {call : σ → Except Failure β × σ} {attempts : Nat}
    {before after : EngineState σ α} {reply : β}
    (replied : firstReply (Step.ask call) attempts before = .ok (some reply) after) :
    ∃ agents, (call agents).1 = .ok reply := by
  induction attempts generalizing before with
  | zero => cases replied
  | succ attempts ih =>
    obtain ⟨answer, between, asked, replied⟩ := Step.bind_eq_ok.1 replied
    cases asked
    cases answered : (call before.agents).1 with
    | ok value =>
      simp only [answered] at replied
      cases replied
      exact ⟨before.agents, answered⟩
    | error e =>
      simp only [answered] at replied
      exact ih replied

namespace Trusts

variable {sure : Float → Prop} (trusts : engine.Trusts sure)

include trusts

/-- A plan that is made is one the generator gave, or none. -/
theorem reason {exploration : Exploration} {before after : EngineState σ α} {strategy : Strategy}
    (planned : engine.reason exploration before = .ok strategy after) :
    sure strategy.confidence := by
  obtain ⟨_, _, _, planned⟩ := Step.bind_eq_ok.1 planned
  obtain ⟨_, _, _, planned⟩ := Step.bind_eq_ok.1 planned
  obtain ⟨reply, _, replied, planned⟩ := Step.bind_eq_ok.1 planned
  cases reply with
  | some given =>
    obtain ⟨_, answered⟩ := firstReply_eq_some replied
    obtain ⟨_, _, _, planned⟩ := Step.bind_eq_ok.1 planned
    obtain ⟨_, _, _, planned⟩ := Step.bind_eq_ok.1 planned
    obtain ⟨_, _, _, planned⟩ := Step.bind_eq_ok.1 planned
    cases planned
    exact trusts.strategy _ _ _ _ _ answered
  | none =>
    obtain ⟨_, _, _, planned⟩ := Step.bind_eq_ok.1 planned
    cases planned
    exact trusts.nought

theorem prepare {before after : EngineState σ α} {plan : Exploration × Strategy}
    (prepared : engine.prepare before = .ok plan after) : sure plan.2.confidence := by
  obtain ⟨_, _, _, prepared⟩ := Step.bind_eq_ok.1 prepared
  obtain ⟨_, _, _, prepared⟩ := Step.bind_eq_ok.1 prepared
  obtain ⟨_, _, planned, prepared⟩ := Step.bind_eq_ok.1 prepared
  cases prepared
  exact trusts.reason planned

end Trusts

/-! ### Phases -/

/-- A condition between phases and one while each of them is under way, such that entering a phase
leads from the first to the second, leaving it leads back, and nothing else breaks them as long as
the confidences noted are of a kind. -/
structure Phased (engine : Engine σ) (sure : Float → Prop) (rest : EngineState σ α → Prop)
    (under : Phase → EngineState σ α → Prop) : Prop where
  enter : ∀ phase, Leads rest (under phase) (engine.enter phase)
  leave : ∀ phase status started, status ≠ .running →
    Leads (under phase) rest (engine.leave phase status started)
  ask : ∀ phase (β : Type) (call : σ → Except Failure β × σ),
    Leads (under phase) (under phase) (Step.ask call)
  build : ∀ phase artifact,
    Leads (under phase) (under phase) (Step.askBuilder (engine.builder.build artifact))
  influence : ∀ phase decision annotations confidence, sure confidence →
    Leads (under phase) (under phase) (Step.recordInfluence decision annotations confidence)
  adopt : ∀ phase strategy,
    Leads (under phase) (under phase) (Step.changeSession (adoptStrategy strategy))
  begin : ∀ attempt, Leads rest rest (Step.changeIteration (beginAttempt attempt))
  note : ∀ attempt failure, Leads rest rest (Step.changeIteration (addFailure attempt failure))

namespace Phased

variable {sure : Float → Prop} {rest : EngineState σ α → Prop}
  {under : Phase → EngineState σ α → Prop} (phased : engine.Phased sure rest under)

include phased

/-- A phase is left, and the answer given. -/
theorem left (phase : Phase) {status : PhaseStatus} (ended : status ≠ .running)
    (started : Timestamp) (answer : β) :
    Leads (under phase) rest (do
      engine.leave phase status started
      return answer : Step σ α β) :=
  Leads.bind (phased.leave phase status started ended) fun _ => Leads.pure _

theorem firstReply (phase : Phase) (call : σ → Except Failure β × σ) (attempts : Nat) :
    Leads (under phase) (under phase) (firstReply (Step.ask call) attempts) := by
  induction attempts with
  | zero => exact Leads.pure none
  | succ attempts ih =>
    refine Leads.bind (phased.ask phase β call) fun reply => ?_
    cases reply with
    | ok reply => exact Leads.pure (some reply)
    | error _ => exact ih

variable (trusts : engine.Trusts sure)

include trusts

theorem explore : Leads rest rest (engine.explore : Step σ α Exploration) := by
  refine Leads.bind (phased.enter _) fun started => Leads.bind Leads.get fun _ => ?_
  refine Leads.bind (phased.firstReply _ _ _) fun reply => ?_
  cases reply with
  | some exploration =>
    refine Leads.bind (phased.influence _ _ _ _ (trusts.exploration _)) fun _ => ?_
    exact phased.left _ PhaseStatus.noConfusion _ _
  | none => exact phased.left _ PhaseStatus.noConfusion _ _

theorem reason (exploration : Exploration) :
    Leads rest rest (engine.reason exploration : Step σ α Strategy) := by
  refine Leads.bind (phased.enter _) fun started => Leads.bind Leads.get fun state => ?_
  refine Leads.bind_told (phased.firstReply _ _ _)
    (fun _ reply _ replied => (?_ : ∀ strategy ∈ reply, sure strategy.confidence))
    fun reply told => ?_
  · rintro strategy rfl
    obtain ⟨_, answered⟩ := firstReply_eq_some replied
    exact trusts.strategy _ _ _ _ _ answered
  cases reply with
  | some strategy =>
    refine Leads.bind (phased.adopt _ _) fun _ => ?_
    refine Leads.bind (phased.influence _ _ _ _ (told strategy rfl)) fun _ => ?_
    exact phased.left _ PhaseStatus.noConfusion _ _
  | none => exact phased.left _ PhaseStatus.noConfusion _ _

omit trusts in
theorem generate (request : GenerationRequest) (plan : sure request.strategy.confidence) :
    Leads rest rest (engine.generate request : Step σ α (Except AttemptFailure Artifact)) := by
  refine Leads.bind (phased.enter _) fun started => ?_
  refine Leads.bind (phased.ask _ _ _) fun reply => ?_
  cases reply with
  | ok artifact =>
    refine Leads.bind (phased.influence _ _ _ _ plan) fun _ => ?_
    exact phased.left _ PhaseStatus.noConfusion _ _
  | error failure => exact phased.left _ PhaseStatus.noConfusion _ _

theorem review (request : GenerationRequest) (artifact : Artifact) :
    Leads rest rest (engine.review request artifact : Step σ α (Option AttemptFailure)) := by
  have settled (rejection : Option String) (started : Timestamp) :
      Leads (under .review) rest (engine.endReview started rejection) := by
    cases rejection with
    | some message => exact phased.left _ PhaseStatus.noConfusion _ _
    | none => exact phased.left _ PhaseStatus.noConfusion _ _
  refine Leads.bind (phased.enter _) fun started => ?_
  refine Leads.bind (phased.ask _ _ _) fun reply => ?_
  cases reply with
  | ok findings =>
    have verdict : sure (if findings.passed then 1 else 0) := by
      split
      · exact trusts.one
      · exact trusts.nought
    refine Leads.bind (phased.influence _ _ _ _ verdict) fun _ => ?_
    exact Leads.bind (Leads.pure _) fun rejection => settled rejection started
  | error failure => exact Leads.bind (Leads.pure _) fun rejection => settled rejection started

omit trusts in
theorem compile (artifact : Artifact) :
    Leads rest rest (engine.compile artifact : Step σ α (Option AttemptFailure)) := by
  have ended (failed : Bool) : (if failed then PhaseStatus.failed else .completed) ≠ .running := by
    cases failed <;> exact PhaseStatus.noConfusion
  refine Leads.bind (phased.enter _) fun started => ?_
  exact Leads.bind (phased.build _ artifact) fun built => phased.left _ (ended _) _ _

theorem attempt (request : GenerationRequest) (plan : sure request.strategy.confidence) :
    Leads rest rest (engine.attempt request : Step σ α (Option AttemptFailure)) := by
  refine Leads.bind (phased.generate request plan) fun generated => ?_
  cases generated with
  | error failure => exact Leads.pure _
  | ok artifact =>
    refine Leads.bind (phased.review trusts request artifact) fun reviewed => ?_
    cases reviewed with
    | some failure => exact Leads.pure _
    | none => exact phased.compile artifact

theorem attempts [Arithmetic α] (cap : Nat) (exploration : Exploration) (strategy : Strategy)
    (remaining attempt : Nat) (failures suggestions : List String)
    (plan : sure strategy.confidence) :
    Leads rest rest (engine.attempts cap exploration strategy remaining attempt failures
      suggestions : Step σ α Bool) := by
  induction remaining generalizing attempt failures suggestions with
  | zero => exact Leads.pure false
  | succ remaining ih =>
    unfold Engine.attempts
    refine Leads.bind (phased.begin attempt) fun _ => Leads.bind Leads.get fun _ => ?_
    refine Leads.bind (phased.attempt trusts _ plan) fun failed => ?_
    cases failed with
    | none => exact Leads.pure true
    | some failure =>
      refine Leads.bind (phased.note attempt failure) fun _ => ?_
      dsimp only
      split
      · exact Leads.pure false
      · exact Leads.bind Leads.get fun _ => ih _ _ _

/-- The preparation, once the iteration is begun. -/
theorem prepare {start : EngineState σ α → Prop}
    (begun : Leads start rest (engine.beginIteration : Step σ α Unit)) :
    Leads start rest (engine.prepare : Step σ α (Exploration × Strategy)) := by
  refine Leads.bind begun fun _ => Leads.bind (phased.explore trusts) fun exploration => ?_
  exact Leads.bind (phased.reason trusts exploration) fun _ => Leads.pure _

end Phased

/-! ### Progress -/

theorem aside_status : Aside fun state : EngineState σ α => state.iteration.status :=
  fun _ _ _ _ _ _ => rfl

/-- No phase of the current iteration is under way. -/
def AtRest (state : EngineState σ α) : Prop := state.iteration.status.Idle

/-- No phase of the current iteration but one is under way. -/
def Underway (phase : Phase) (state : EngineState σ α) : Prop :=
  IdleBut phase state.iteration.status

/-- Between phases none is under way. -/
theorem phased_idle :
    engine.Phased anyConfidence (AtRest : EngineState σ α → Prop) Underway where
  enter phase := by
    have entered : Leads AtRest (Underway phase) (Step.changeIteration fun iteration =>
        { iteration with status := iteration.status.insert phase .running } : Step σ α Unit) :=
      Leads.modify fun _ idle => idle.insert_running phase
    refine Leads.bind entered fun _ => ?_
    have shown : Leads (Underway phase) (Underway phase) (modify fun state =>
        { state with snapshot := { state.snapshot with phase := phase } } : Step σ α Unit) :=
      Leads.modify fun _ held => held
    refine Leads.bind shown fun _ => ?_
    refine Leads.bind (Leads.of_keeps (writeStatus_keeps engine aside_status) _) fun _ => ?_
    exact Leads.of_keeps (now_keeps aside_status) _
  leave phase status started ended := by
    refine Leads.bind (Leads.of_keeps (now_keeps aside_status) _) fun now => ?_
    have left : Leads (Underway phase) AtRest (Step.changeIteration fun iteration =>
        { iteration with status := iteration.status.insert phase status }.addDuration phase
          (now.millisecondsSince started) : Step σ α Unit) :=
      Leads.modify fun _ idle => idle.insert ended
    exact Leads.bind left fun _ => Leads.of_keeps (writeStatus_keeps engine aside_status) _
  ask phase β call := Leads.of_keeps (ask_keeps aside_status call) _
  build phase artifact := Leads.of_keeps (askBuilder_keeps aside_status _) _
  influence phase decision annotations confidence _ :=
    Leads.of_keeps (recordInfluence_keeps aside_status _ _ _) _
  adopt phase strategy := Leads.modify fun _ => id
  begin attempt := Leads.modify fun _ idle =>
    ((idle.insert .generation PhaseStatus.noConfusion).insert .review
      PhaseStatus.noConfusion).insert .compilation PhaseStatus.noConfusion
  note attempt failure := Leads.modify fun _ => id

/-- The time a phase took is noted of each phase that has come to its end. -/
def Timed (state : EngineState σ α) : Prop :=
  ∀ phase, (state.iteration.status.find? phase).any PhaseStatus.isTerminal = true →
    ∃ milliseconds, state.iteration.durations.find? phase = some milliseconds

theorem aside_progress :
    Aside fun state : EngineState σ α => (state.iteration.status, state.iteration.durations) :=
  fun _ _ _ _ _ _ => rfl

theorem timed_of_keeps {step : Step σ α β}
    (keeps : Keeps (fun state => (state.iteration.status, state.iteration.durations)) step) :
    Leads Timed Timed step :=
  Leads.of_keeps keeps fun progress : PhaseProgress × OrderedMap Phase Nat =>
    ∀ phase, (progress.1.find? phase).any PhaseStatus.isTerminal = true →
      ∃ milliseconds, progress.2.find? phase = some milliseconds

/-- A phase goes on without having come to its end. -/
theorem Timed.insert {state : EngineState σ α} (timed : Timed state) (phase : Phase)
    {status : PhaseStatus} (unfinished : status.isTerminal = false) :
    Timed { state with iteration := { state.iteration with
      status := state.iteration.status.insert phase status } } := by
  intro other ended
  by_cases same : other = phase
  · subst same
    rw [OrderedMap.find?_insert_self, Option.any_some, unfinished] at ended
    cases ended
  · rw [OrderedMap.find?_insert_of_ne _ _ same] at ended
    exact timed other ended

/-- When a phase is left the time it took is noted. -/
theorem phased_timed :
    engine.Phased anyConfidence (Timed : EngineState σ α → Prop) fun _ => Timed where
  enter phase := by
    have entered : Leads Timed Timed (Step.changeIteration fun iteration =>
        { iteration with status := iteration.status.insert phase .running } : Step σ α Unit) :=
      Leads.modify fun _ timed => timed.insert phase rfl
    refine Leads.bind entered fun _ => ?_
    refine Leads.bind (timed_of_keeps fun _ => rfl) fun _ => ?_
    refine Leads.bind (timed_of_keeps (writeStatus_keeps engine aside_progress)) fun _ => ?_
    exact timed_of_keeps (now_keeps aside_progress)
  leave phase status started _ := by
    refine Leads.bind (timed_of_keeps (now_keeps aside_progress)) fun now => ?_
    have left : Leads Timed Timed (Step.changeIteration fun iteration =>
        { iteration with status := iteration.status.insert phase status }.addDuration phase
          (now.millisecondsSince started) : Step σ α Unit) := by
      refine Leads.modify fun state timed other ended => ?_
      by_cases same : other = phase
      · subst same
        exact ⟨_, OrderedMap.find?_insert_self _ _ _⟩
      · simp only [Iteration.addDuration, OrderedMap.find?_insert_of_ne _ _ same] at ended ⊢
        exact timed other ended
    refine Leads.bind left fun _ => timed_of_keeps (writeStatus_keeps engine aside_progress)
  ask phase β call := timed_of_keeps (ask_keeps aside_progress call)
  build phase artifact := timed_of_keeps (askBuilder_keeps aside_progress _)
  influence phase decision annotations confidence _ :=
    timed_of_keeps (recordInfluence_keeps aside_progress _ _ _)
  adopt phase strategy := timed_of_keeps fun _ => rfl
  begin attempt := Leads.modify fun _ timed =>
    ((timed.insert .generation rfl).insert .review rfl).insert .compilation rfl
  note attempt failure := timed_of_keeps fun _ => rfl

/-- An iteration is begun with every phase pending. -/
theorem beginIteration_fresh {before after : EngineState σ α}
    (begun : engine.beginIteration before = .ok () after) : after.iteration.status = .fresh := by
  cases begun
  rfl

theorem beginIteration_idle : Leads (fun _ => True) AtRest
    (engine.beginIteration : Step σ α Unit) := by
  intro before _ after begun _
  rw [AtRest, beginIteration_fresh begun]
  exact PhaseProgress.idle_fresh

theorem beginIteration_timed : Leads (fun _ => True) Timed
    (engine.beginIteration : Step σ α Unit) := by
  intro before _ after begun _ phase ended
  have pending : (PhaseProgress.fresh.find? phase).any PhaseStatus.isTerminal = false := by
    cases phase <;> decide
  rw [beginIteration_fresh begun, pending] at ended
  cases ended

end Engine

end TaskLoop
