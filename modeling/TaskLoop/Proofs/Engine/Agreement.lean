import TaskLoop.Proofs.Engine.Timeless
import TaskLoop.Proofs.Engine.Frame

/-!
Two engines whose generators and builders answer alike do the same work on states that differ in
points in time, spans of time and hosts alone. Each piece of work of one is set beside the same
piece of work of the other.
-/

set_option autoImplicit false

namespace TaskLoop

/-- The error of an operation on files. -/
def EngineError.OfDisk : EngineError → Prop
  | .persistence _ _ => True
  | .checkpoint (.other _) => True
  | .store (.other _) => True
  | _ => False

/-- Two states that agree on all an engine works from: session, iteration and stores, times
apart. -/
structure EngineState.Alike {σ τ α : Type} [Arithmetic α] (first : EngineState σ α)
    (second : EngineState τ α) : Prop where
  session : first.session.timeless = second.session.timeless
  iteration : first.iteration.timeless = second.iteration.timeless
  table : Pattern.Table.timeless first.table = Pattern.Table.timeless second.table
  index : first.index.timeless = second.index.timeless

namespace EngineState.Alike

variable {σ τ α : Type} [Arithmetic α] {first : EngineState σ α} {second : EngineState τ α}
  (alike : first.Alike second)

include alike

theorem task : first.session.task = second.session.task := by
  simpa only [Session.timeless] using congrArg Session.task alike.session

theorem context : first.session.context = second.session.context := by
  simpa only [Session.timeless] using congrArg Session.context alike.session

theorem status : first.session.status = second.session.status := by
  simpa only [Session.timeless] using congrArg Session.status alike.session

theorem completedIterations :
    first.session.completedIterations = second.session.completedIterations := by
  simpa only [Session.timeless] using congrArg Session.completedIterations alike.session

theorem iterationIndex : first.iteration.index = second.iteration.index := by
  simpa only [Iteration.timeless] using congrArg Iteration.index alike.iteration

theorem suggest (text : String) (top : Nat) :
    first.index.suggest text top = second.index.suggest text top := by
  rw [← ErrorIndex.timeless_suggest, alike.index, ErrorIndex.timeless_suggest]

end EngineState.Alike

/-- Two engines of one project whose generators and builders answer alike whatever their
states. -/
structure Engine.Alike {σ τ : Type} (first : Engine σ) (second : Engine τ) : Prop where
  project : second.project = first.project
  annotations : second.annotations = first.annotations
  explore : ∀ query marks state state', (first.generator.explore query marks state).1 =
    (second.generator.explore query marks state').1
  reason : ∀ task context exploration state state',
    (first.generator.reason task context exploration state).1 =
      (second.generator.reason task context exploration state').1
  generate : ∀ request state state', (first.generator.generate request state).1 =
    (second.generator.generate request state').1
  review : ∀ artifact task state state', (first.generator.review artifact task state).1 =
    (second.generator.review artifact task state').1
  build : ∀ artifact state host state' host', (first.builder.build artifact state host).1.1 =
    (second.builder.build artifact state' host').1.1

namespace Step

variable {σ τ α β β' γ γ' : Type} [Arithmetic α]

/-- What two pieces of work came to: when both came to their end, related values and states that
agree; and the second came to its end if the first did, unless its disk failed. -/
def Matches (related : β → β' → Prop) : EStateM.Result EngineError (EngineState σ α) β →
    EStateM.Result EngineError (EngineState τ α) β' → Prop
  | .ok value after, .ok value' after' => related value value' ∧ after.Alike after'
  | .ok _ _, .error e _ => e.OfDisk
  | .error _ _, _ => True

/-- Two pieces of work that come to the same from states that agree. -/
structure Agrees (related : β → β' → Prop) (first : Step σ α β) (second : Step τ α β') : Prop where
  come : ∀ before before', before.Alike before' → Matches related (first before) (second before')

/-- Answers that need not be compared. -/
abbrev Whatever : β → β' → Prop := fun _ _ => True

namespace Agrees

variable {related : β → β' → Prop} {related' : γ → γ' → Prop}

theorem bind {first : Step σ α β} {second : Step τ α β'} {next : β → Step σ α γ}
    {next' : β' → Step τ α γ'} (start : Agrees related first second)
    (rest : ∀ value value', related value value' →
      Agrees related' (next value) (next' value')) :
    Agrees related' (first >>= next) (second >>= next') := by
  refine ⟨fun before before' alike => ?_⟩
  have come := start.come before before' alike
  cases ran : first before with
  | error e after =>
    rw [bind_of_error next ran]
    exact trivial
  | ok value after =>
    rw [bind_of_ok next ran]
    rw [ran] at come
    cases ran' : second before' with
    | ok value' after' =>
      rw [ran'] at come
      rw [bind_of_ok next' ran']
      exact (rest value value' come.1).come after after' come.2
    | error e after' =>
      rw [ran'] at come
      rw [bind_of_error next' ran']
      cases next value after with
      | ok _ _ => exact come
      | error _ _ => exact trivial

theorem weaken {weaker : β → β' → Prop} {first : Step σ α β} {second : Step τ α β'}
    (agrees : Agrees related first second)
    (weaken : ∀ value value', related value value' → weaker value value') :
    Agrees weaker first second := by
  refine ⟨fun before before' alike => ?_⟩
  have come := agrees.come before before' alike
  revert come
  cases first before with
  | error _ _ => exact fun _ => trivial
  | ok value _ =>
    cases second before' with
    | error _ _ => exact id
    | ok value' _ => exact fun come => ⟨weaken value value' come.1, come.2⟩

theorem pure {value : β} {value' : β'} (same : related value value') :
    Agrees related (Pure.pure value : Step σ α β) (Pure.pure value' : Step τ α β') :=
  ⟨fun _ _ alike => ⟨same, alike⟩⟩

theorem get : Agrees EngineState.Alike (MonadState.get : Step σ α (EngineState σ α))
    (MonadState.get : Step τ α (EngineState τ α)) :=
  ⟨fun _ _ alike => ⟨alike, alike⟩⟩

theorem throw (e : EngineError) {second : Step τ α β'} :
    Agrees related (MonadExcept.throw e : Step σ α β) second :=
  ⟨fun _ _ _ => trivial⟩

theorem modify {change : EngineState σ α → EngineState σ α}
    {change' : EngineState τ α → EngineState τ α}
    (keeps : ∀ state state', state.Alike state' → (change state).Alike (change' state')) :
    Agrees Whatever (modify change : Step σ α Unit) (modify change' : Step τ α Unit) :=
  ⟨fun _ _ alike => ⟨trivial, keeps _ _ alike⟩⟩

theorem changeSession {change change' : Session → Session}
    (keeps : ∀ session session', session.timeless = session'.timeless →
      (change session).timeless = (change' session').timeless) :
    Agrees Whatever (Step.changeSession change : Step σ α Unit)
      (Step.changeSession change' : Step τ α Unit) :=
  modify fun _ _ alike => ⟨keeps _ _ alike.session, alike.iteration, alike.table, alike.index⟩

theorem changeIteration {change change' : Iteration → Iteration}
    (keeps : ∀ iteration iteration', iteration.timeless = iteration'.timeless →
      (change iteration).timeless = (change' iteration').timeless) :
    Agrees Whatever (Step.changeIteration change : Step σ α Unit)
      (Step.changeIteration change' : Step τ α Unit) :=
  modify fun _ _ alike => ⟨alike.session, keeps _ _ alike.iteration, alike.table, alike.index⟩

/-- Work on two hosts has nothing in common but that only the disk makes it fail. -/
theorem onHost {ε ε' : Type} (asError : ε → EngineError) {asError' : ε' → EngineError}
    {act : Act ε β} {act' : Act ε' β'}
    (ofDisk : ∀ host e after, act' host = .error e after → (asError' e).OfDisk) :
    Agrees Whatever (Step.onHost asError act : Step σ α β)
      (Step.onHost asError' act' : Step τ α β') := by
  refine ⟨fun before before' alike => ?_⟩
  simp only [Step.onHost]
  cases act before.host with
  | error e host => exact trivial
  | ok value host =>
    cases ran : act' before'.host with
    | error e host' => exact ofDisk _ _ _ ran
    | ok value' host' =>
      exact ⟨trivial, alike.session, alike.iteration, alike.table, alike.index⟩

theorem now : Agrees Whatever (Step.now : Step σ α Timestamp) (Step.now : Step τ α Timestamp) := by
  refine onHost id fun host e after failed => ?_
  simp only [Host.now] at failed
  cases failed

theorem ask {δ : Type} {call : σ → Except Failure δ × σ} {call' : τ → Except Failure δ × τ}
    (same : ∀ state state', (call state).1 = (call' state').1) :
    Agrees Eq (Step.ask call : Step σ α (Except Failure δ))
      (Step.ask call' : Step τ α (Except Failure δ)) :=
  ⟨fun _ _ alike => ⟨same _ _, alike.session, alike.iteration, alike.table, alike.index⟩⟩

theorem askBuilder {call : σ → Host → (Except Failure BuildOutcome × σ) × Host}
    {call' : τ → Host → (Except Failure BuildOutcome × τ) × Host}
    (same : ∀ state host state' host', (call state host).1.1 = (call' state' host').1.1) :
    Agrees Eq (Step.askBuilder call : Step σ α (Except Failure BuildOutcome))
      (Step.askBuilder call' : Step τ α (Except Failure BuildOutcome)) :=
  ⟨fun _ _ alike => ⟨same _ _ _ _, alike.session, alike.iteration, alike.table, alike.index⟩⟩

theorem recordInfluence (decision : Decision) (annotations : List String) (confidence : Float) :
    Agrees Whatever (Step.recordInfluence decision annotations confidence : Step σ α Unit)
      (Step.recordInfluence decision annotations confidence : Step τ α Unit) := by
  refine bind now fun now now' _ => modify fun state state' alike => ?_
  refine ⟨?_, alike.iteration, alike.table, alike.index⟩
  simp only [alike.iterationIndex]
  exact Session.timeless_recordInfluence alike.session _ _ _ _ _ _

end Agrees

end Step

/-! ### The phases -/

namespace Engine

open Step (Agrees Whatever)

variable {σ τ α : Type} [Arithmetic α] {engine : Engine σ} {other : Engine τ}

theorem agrees_writeStatus :
    Agrees Whatever (engine.writeStatus : Step σ α Unit) (other.writeStatus : Step τ α Unit) := by
  refine Agrees.bind (Agrees.modify fun _ _ alike =>
    ⟨alike.session, alike.iteration, alike.table, alike.index⟩) fun _ _ _ => ?_
  refine Agrees.bind Agrees.get fun _ _ _ => ?_
  refine Agrees.bind (Agrees.onHost _ fun _ _ _ _ => trivial) fun _ _ _ => ?_
  exact Agrees.modify fun _ _ alike =>
    ⟨alike.session, alike.iteration, alike.table, alike.index⟩

theorem agrees_enter (phase : Phase) :
    Agrees Whatever (engine.enter phase : Step σ α Timestamp)
      (other.enter phase : Step τ α Timestamp) := by
  refine Agrees.bind (Agrees.changeIteration fun _ _ same => ?_) fun _ _ _ => ?_
  · simp only [Iteration.timeless, Iteration.mk.injEq] at same ⊢
    simp only [same, and_self]
  refine Agrees.bind (Agrees.modify fun _ _ alike =>
    ⟨alike.session, alike.iteration, alike.table, alike.index⟩) fun _ _ _ => ?_
  exact Agrees.bind agrees_writeStatus fun _ _ _ => Agrees.now

theorem agrees_leave (phase : Phase) (status : PhaseStatus) (started started' : Timestamp) :
    Agrees Whatever (engine.leave phase status started : Step σ α Unit)
      (other.leave phase status started' : Step τ α Unit) := by
  refine Agrees.bind Agrees.now fun _ _ _ => ?_
  refine Agrees.bind (Agrees.changeIteration fun _ _ same => ?_) fun _ _ _ => ?_
  · simp only [Iteration.timeless, Iteration.addDuration, Iteration.mk.injEq] at same ⊢
    simp only [same, and_self]
  exact agrees_writeStatus

/-- A phase that is left last answers what it answered. -/
theorem agrees_left {β : Type} (phase : Phase) (status : PhaseStatus) (started started' : Timestamp)
    (value : β) :
    Agrees Eq (engine.leave phase status started >>= fun _ => pure value : Step σ α β)
      (other.leave phase status started' >>= fun _ => pure value : Step τ α β) := by
  refine Agrees.bind (agrees_leave phase status started started') ?_
  intro _ _ _
  exact Agrees.pure rfl

theorem agrees_firstReply {β : Type} {call : Step σ α (Except Failure β)}
    {call' : Step τ α (Except Failure β)} (same : Agrees Eq call call') (attempts : Nat) :
    Agrees Eq (firstReply call attempts) (firstReply call' attempts) := by
  induction attempts with
  | zero => exact Agrees.pure rfl
  | succ attempts ih =>
    refine Agrees.bind same ?_
    rintro reply _ rfl
    cases reply with
    | ok reply => exact Agrees.pure rfl
    | error _ => exact ih

section Phases

variable (pair : engine.Alike other)

include pair

theorem agrees_explore :
    Agrees Eq (engine.explore : Step σ α Exploration) (other.explore : Step τ α Exploration) := by
  unfold explore
  refine Agrees.bind (agrees_enter _) fun started started' _ => ?_
  refine Agrees.bind Agrees.get fun state state' alike => ?_
  have marks : other.relevantAnnotations = engine.relevantAnnotations := by
    funext context
    simp only [relevantAnnotations, pair.annotations]
  dsimp only
  rw [pair.project, marks, alike.task, alike.context]
  refine Agrees.bind (agrees_firstReply (Agrees.ask fun _ _ => pair.explore _ _ _ _) _) ?_
  rintro reply _ rfl
  cases reply with
  | some exploration =>
    refine Agrees.bind (Agrees.recordInfluence _ _ _) fun _ _ _ => ?_
    exact agrees_left _ _ _ _ _
  | none =>
    exact agrees_left _ _ _ _ _

theorem agrees_reason (exploration : Exploration) :
    Agrees Eq (engine.reason exploration : Step σ α Strategy)
      (other.reason exploration : Step τ α Strategy) := by
  unfold reason
  refine Agrees.bind (agrees_enter _) fun started started' _ => ?_
  refine Agrees.bind Agrees.get fun state state' alike => ?_
  dsimp only
  rw [pair.project, alike.task, alike.context]
  refine Agrees.bind (agrees_firstReply (Agrees.ask fun _ _ => pair.reason _ _ _ _ _) _) ?_
  rintro reply _ rfl
  cases reply with
  | some strategy =>
    refine Agrees.bind (Agrees.changeSession fun _ _ same =>
      Session.timeless_adoptStrategy same strategy) fun _ _ _ => ?_
    refine Agrees.bind (Agrees.recordInfluence _ _ _) fun _ _ _ => ?_
    exact agrees_left _ _ _ _ _
  | none =>
    exact agrees_left _ _ _ _ _

theorem agrees_generate (request : GenerationRequest) :
    Agrees Eq (engine.generate request : Step σ α (Except AttemptFailure Artifact))
      (other.generate request : Step τ α (Except AttemptFailure Artifact)) := by
  unfold generate
  refine Agrees.bind (agrees_enter _) fun started started' _ => ?_
  refine Agrees.bind (Agrees.ask fun _ _ => pair.generate _ _ _) ?_
  rintro reply _ rfl
  cases reply with
  | ok artifact =>
    refine Agrees.bind (Agrees.recordInfluence _ _ _) fun _ _ _ => ?_
    exact agrees_left _ _ _ _ _
  | error failure =>
    exact agrees_left _ _ _ _ _

theorem agrees_review (request : GenerationRequest) (artifact : Artifact) :
    Agrees Eq (engine.review request artifact : Step σ α (Option AttemptFailure))
      (other.review request artifact : Step τ α (Option AttemptFailure)) := by
  have settled (rejection : Option String) (started started' : Timestamp) :
      Agrees Eq (engine.endReview started rejection : Step σ α (Option AttemptFailure))
        (other.endReview started' rejection : Step τ α (Option AttemptFailure)) := by
    cases rejection with
    | some message => exact agrees_left _ _ _ _ _
    | none => exact agrees_left _ _ _ _ _
  unfold review
  refine Agrees.bind (agrees_enter _) fun started started' _ => ?_
  refine Agrees.bind (Agrees.ask fun _ _ => pair.review _ _ _ _) ?_
  rintro reply _ rfl
  cases reply with
  | ok findings =>
    refine Agrees.bind (Agrees.recordInfluence _ _ _) fun _ _ _ => ?_
    refine Agrees.bind (Agrees.pure rfl) ?_
    rintro rejection _ rfl
    exact settled rejection started started'
  | error failure =>
    dsimp only
    refine Agrees.bind (Agrees.pure rfl) ?_
    rintro rejection _ rfl
    exact settled rejection started started'

theorem agrees_compile (artifact : Artifact) :
    Agrees Eq (engine.compile artifact : Step σ α (Option AttemptFailure))
      (other.compile artifact : Step τ α (Option AttemptFailure)) := by
  unfold compile
  refine Agrees.bind (agrees_enter _) fun started started' _ => ?_
  refine Agrees.bind (Agrees.askBuilder fun _ _ _ _ => pair.build _ _ _ _ _) ?_
  rintro reply _ rfl
  exact agrees_left _ _ _ _ _

/-- An attempt fails or passes alike. -/
theorem agrees_attempt (request : GenerationRequest) :
    Agrees Eq (engine.attempt request : Step σ α (Option AttemptFailure))
      (other.attempt request : Step τ α (Option AttemptFailure)) := by
  unfold attempt
  refine Agrees.bind (agrees_generate pair request) ?_
  rintro generated _ rfl
  cases generated with
  | error failure => exact Agrees.pure rfl
  | ok artifact =>
    refine Agrees.bind (agrees_review pair request artifact) ?_
    rintro reviewed _ rfl
    cases reviewed with
    | some failure => exact Agrees.pure rfl
    | none => exact agrees_compile pair artifact

/-- The loop of attempts ends alike: what an attempt is told of earlier failures is suggested by
indices that agree. -/
theorem agrees_attempts (cap : Nat) (exploration : Exploration) (strategy : Strategy)
    (remaining attempt : Nat) (failures suggestions : List String) :
    Agrees Eq
      (engine.attempts cap exploration strategy remaining attempt failures suggestions :
        Step σ α Bool)
      (other.attempts cap exploration strategy remaining attempt failures suggestions :
        Step τ α Bool) := by
  induction remaining generalizing attempt failures suggestions with
  | zero => exact Agrees.pure rfl
  | succ remaining ih =>
    unfold attempts
    refine Agrees.bind (Agrees.changeIteration fun _ _ same =>
      Iteration.timeless_beginAttempt same attempt) fun _ _ _ => ?_
    refine Agrees.bind Agrees.get fun state state' alike => ?_
    dsimp only
    rw [pair.project, alike.task, alike.context]
    refine Agrees.bind (agrees_attempt pair _) ?_
    rintro failed _ rfl
    cases failed with
    | none => exact Agrees.pure rfl
    | some failure =>
      refine Agrees.bind (Agrees.changeIteration fun _ _ same =>
        Iteration.timeless_addFailure same attempt failure) fun _ _ _ => ?_
      split
      · exact Agrees.pure rfl
      · refine Agrees.bind Agrees.get fun state state' alike => ?_
        rw [alike.suggest]
        exact ih _ _ _

end Phases

/-! ### Learning -/

theorem agrees_recordFailures (failures : List FailedAttempt) :
    Agrees Eq (recordFailures failures : Step σ α (List String))
      (recordFailures failures : Step τ α (List String)) := by
  induction failures with
  | nil => exact Agrees.pure rfl
  | cons failure rest ih =>
    unfold recordFailures
    refine Agrees.bind Agrees.now fun now now' _ => ?_
    refine Agrees.bind Agrees.get fun state state' alike => ?_
    have recorded := state.index.timeless_recordError failure.message now
    have recorded' := state'.index.timeless_recordError failure.message now'
    rw [alike.index] at recorded
    have hash : (state.index.recordError failure.message now).1.hash =
        (state'.index.recordError failure.message now').1.hash := by
      simpa only [ErrorRecord.timeless] using
        congrArg ErrorRecord.hash (recorded.1.trans recorded'.1.symm)
    refine Agrees.bind (Agrees.modify fun _ _ alike => ⟨alike.session, alike.iteration,
      alike.table, recorded.2.trans recorded'.2.symm⟩) fun _ _ _ => ?_
    refine Agrees.bind ih ?_
    rintro hashes _ rfl
    exact Agrees.pure (congrArg (· :: hashes) hash)

theorem agrees_resolveAll (note : String) (hashes : List String) :
    Agrees Whatever (resolveAll note hashes : Step σ α Unit)
      (resolveAll note hashes : Step τ α Unit) := by
  induction hashes with
  | nil => exact Agrees.pure trivial
  | cons hash rest ih =>
    unfold resolveAll
    refine Agrees.bind Agrees.get fun state state' alike => ?_
    have marked := state.index.timeless_markResolved hash note
    rw [alike.index, ErrorIndex.timeless_markResolved] at marked
    dsimp only
    rw [← ErrorIndex.timeless_unresolved state.index, alike.index, ErrorIndex.timeless_unresolved]
    split
    · cases found : state.index.markResolved hash note with
      | error e => exact ⟨fun _ _ _ => trivial⟩
      | ok resolved =>
        rw [found] at marked
        cases found' : state'.index.markResolved hash note with
        | error e =>
          rw [found'] at marked
          cases marked
        | ok resolved' =>
          rw [found'] at marked
          simp only [Except.map, Except.ok.injEq, Prod.mk.injEq] at marked
          refine Agrees.bind (Agrees.modify fun _ _ alike => ⟨alike.session, alike.iteration,
            alike.table, marked.2.symm⟩) fun _ _ _ => ?_
          exact ih
    · exact ih

theorem agrees_recordOutcomes {iteration iteration' : Iteration}
    (same : iteration.timeless = iteration'.timeless) (complexity : Complexity)
    (phases : List Phase) :
    Agrees Whatever (recordOutcomes iteration complexity phases : Step σ α Unit)
      (recordOutcomes iteration' complexity phases : Step τ α Unit) := by
  induction phases with
  | nil => exact Agrees.pure trivial
  | cons phase rest ih =>
    unfold recordOutcomes
    have outcomes := Iteration.timeless_phaseOutcome? same phase
    cases reached : phaseOutcome? iteration phase with
    | none =>
      rw [reached] at outcomes
      have reached' := Option.map_eq_none_iff.mp outcomes.symm
      rw [reached']
      exact ih
    | some outcome =>
      rw [reached] at outcomes
      obtain ⟨outcome', reached', alike⟩ := Option.map_eq_some_iff.mp outcomes.symm
      rw [reached']
      refine Agrees.bind Agrees.now fun now now' _ => ?_
      refine Agrees.bind Agrees.now fun after after' _ => ?_
      refine Agrees.bind (Agrees.modify fun _ _ state => ⟨state.session, state.iteration,
        Pattern.Table.timeless_recordOutcome state.table _ _ alike.symm _ _ _ _,
        state.index⟩) fun _ _ _ => ?_
      exact ih

theorem agrees_saveErrors (index index' : ErrorIndex α) :
    Agrees Whatever (Step.onHost .store (index.save engine.project.errorsFile) : Step σ α Unit)
      (Step.onHost .store (index'.save other.project.errorsFile) : Step τ α Unit) := by
  refine Agrees.onHost _ fun host e after failed => ?_
  simp only [ErrorIndex.save, Act.mapError] at failed
  split at failed
  · cases failed
  · cases failed
    exact trivial

theorem agrees_savePatterns (table table' : Pattern.Table α) :
    Agrees Whatever
      (Step.onHost .store (Pattern.Table.save table engine.project.patternsFile) : Step σ α Unit)
      (Step.onHost .store (Pattern.Table.save table' other.project.patternsFile) :
        Step τ α Unit) := by
  refine Agrees.onHost _ fun host e after failed => ?_
  simp only [Pattern.Table.save, Act.mapError] at failed
  split at failed
  · cases failed
  · cases failed
    exact trivial

theorem agrees_storeLearnt {iteration iteration' : Iteration}
    (same : iteration.timeless = iteration'.timeless) (started started' : Timestamp) :
    Agrees Whatever (engine.storeLearnt iteration started : Step σ α Unit)
      (other.storeLearnt iteration' started' : Step τ α Unit) := by
  refine Agrees.bind Agrees.get fun state state' alike => ?_
  rw [alike.context]
  refine Agrees.bind (agrees_recordOutcomes same _ _) fun _ _ _ => ?_
  refine Agrees.bind Agrees.get fun _ _ _ => ?_
  refine Agrees.bind (agrees_saveErrors _ _) fun _ _ _ => ?_
  refine Agrees.bind (agrees_savePatterns _ _) fun _ _ _ => ?_
  exact agrees_leave _ _ _ _

theorem agrees_learn (strategy : Strategy) :
    Agrees Whatever (engine.learn strategy : Step σ α Unit)
      (other.learn strategy : Step τ α Unit) := by
  rw [learn_eq, learn_eq]
  refine Agrees.bind (agrees_enter _) fun started started' _ => ?_
  refine Agrees.bind Agrees.get fun state state' alike => ?_
  have failures : state.iteration.failures = state'.iteration.failures := by
    simpa only [Iteration.timeless] using congrArg Iteration.failures alike.iteration
  have success : state.iteration.success = state'.iteration.success := by
    simpa only [Iteration.timeless] using congrArg Iteration.success alike.iteration
  have attempts : state.iteration.attempts = state'.iteration.attempts := by
    simpa only [Iteration.timeless] using congrArg Iteration.attempts alike.iteration
  have note : resolutionNote state.iteration strategy = resolutionNote state'.iteration strategy := by
    simp only [resolutionNote, alike.iterationIndex, attempts]
  rw [failures, success, note]
  refine Agrees.bind (agrees_recordFailures _) ?_
  rintro hashes _ rfl
  refine Agrees.bind (?_ : Agrees Whatever _ _) fun _ _ _ =>
    agrees_storeLearnt alike.iteration started started'
  split
  · exact agrees_resolveAll _ _
  · exact Agrees.pure trivial

theorem agrees_beginIteration :
    Agrees Whatever (engine.beginIteration : Step σ α Unit)
      (other.beginIteration : Step τ α Unit) := by
  unfold beginIteration
  refine Agrees.bind Agrees.now fun _ _ _ => ?_
  refine Agrees.bind Agrees.now fun _ _ _ => ?_
  refine Agrees.modify fun state state' alike => ⟨alike.session, ?_, alike.table, alike.index⟩
  simp only [Iteration.timeless, Iteration.new, alike.completedIterations, alike.task]

theorem agrees_finishIteration :
    Agrees Whatever (engine.finishIteration : Step σ α Unit)
      (other.finishIteration : Step τ α Unit) := by
  unfold finishIteration
  refine Agrees.bind Agrees.get fun state state' alike => ?_
  refine Agrees.bind (Agrees.onHost _ fun _ _ _ _ => trivial) fun _ _ _ => ?_
  refine Agrees.bind (Agrees.changeSession fun session session' same => ?_) fun _ _ _ => ?_
  · simp only [Session.timeless, Session.mk.injEq] at same ⊢
    simp only [same, alike.iterationIndex, and_self]
  refine Agrees.bind (Agrees.modify fun _ _ alike =>
    ⟨alike.session, alike.iteration, alike.table, alike.index⟩) fun _ _ _ => ?_
  exact agrees_writeStatus

/-- An iteration has the same result, times apart. -/
theorem agrees_iterate (pair : engine.Alike other) (cap : Nat) :
    Agrees (fun result result' => result.timeless = result'.timeless)
      (engine.iterate cap : Step σ α IterationResult)
      (other.iterate cap : Step τ α IterationResult) := by
  unfold iterate
  rw [pair.project]
  split
  · exact Agrees.throw _
  · refine Agrees.bind (agrees_beginIteration) fun _ _ _ => ?_
    refine Agrees.bind (agrees_explore pair) ?_
    rintro exploration _ rfl
    refine Agrees.bind (agrees_reason pair exploration) ?_
    rintro strategy _ rfl
    refine Agrees.bind (agrees_attempts pair cap exploration strategy cap 1 [] []) ?_
    rintro success _ rfl
    refine Agrees.bind (Agrees.changeIteration fun iteration iteration' same => ?_)
      fun _ _ _ => ?_
    · simp only [Iteration.timeless, Iteration.mk.injEq] at same ⊢
      simp only [same, and_self]
    refine Agrees.bind (agrees_learn strategy) fun _ _ _ => ?_
    refine Agrees.bind (agrees_finishIteration) fun _ _ _ => ?_
    refine Agrees.bind Agrees.get fun state state' alike => ?_
    exact Agrees.pure (Iteration.timeless_result alike.iteration)

end Engine

end TaskLoop
