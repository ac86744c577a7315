import TaskLoop.Proofs.Engine.Progress
import TaskLoop.Proofs.ErrorIndex
import TaskLoop.Proofs.Pattern.Table

/-!
What an iteration leaves in the stores: the index counts its failures, and the table takes in the
outcome of each phase but learning that it reached. Nothing else changes them.
-/

set_option autoImplicit false

namespace TaskLoop.Engine

open Step (Keeps)

variable {σ α : Type} {before after : EngineState σ α} {messages : List String}
  {outcomes : Phase → List Outcome}

/-- The outcome of a phase other than learning, if it was reached, as a list. -/
def learntOutcomes (iteration : Iteration) (phase : Phase) : List Outcome :=
  if phase = .learning then [] else (phaseOutcome? iteration phase).toList

theorem mem_learntPhases (phase : Phase) : phase ∈ learntPhases ↔ phase ≠ .learning := by
  cases phase <;> decide

/-- What can be told of an index from the messages it was given, and of a table from the outcomes,
goes on with each that is added; and of an index it goes on when a failure was overcome. -/
structure Telling [Arithmetic α] (counts : ErrorIndex α → List String → Prop)
    (reports : Pattern.Table α → (Phase → List Outcome) → Prop) : Prop where
  record : ∀ {index messages}, counts index messages → ∀ message now,
    counts (index.recordError message now).2 (messages ++ [message])
  resolve : ∀ {index messages hash note record other}, counts index messages →
    index.markResolved hash note = .ok (record, other) → counts other messages
  observe : ∀ {table outcomes}, reports table outcomes →
    ∀ (phase : Phase) complexity outcome now later,
      reports (table.recordOutcome phase.patternId (some complexity) outcome now later)
        fun asked => outcomes asked ++ if asked = phase then [outcome] else []

/-- How many there are of each, and what the averages are. -/
theorem telling_counts [Arithmetic α] :
    Telling (α := α) ErrorIndex.Counts Pattern.Table.Reports where
  record counts := counts.recordError
  resolve counts := counts.markResolved
  observe reports := reports.recordOutcome

/-- One failure is recorded, and then the rest. -/
theorem recordFailures_cons_eq_ok {failure : FailedAttempt} {rest : List FailedAttempt}
    {hashes : List String} (recorded : recordFailures (failure :: rest) before = .ok hashes after) :
    ∃ now host others,
      recordFailures rest { before with
          host := host
          index := (before.index.recordError failure.message now).2 } = .ok others after ∧
        hashes = (before.index.recordError failure.message now).1.hash :: others := by
  obtain ⟨now, timed, looked, recorded⟩ := Step.bind_eq_ok.1 recorded
  cases looked
  obtain ⟨_, _, got, recorded⟩ := Step.bind_eq_ok.1 recorded
  cases got
  obtain ⟨_, _, changed, recorded⟩ := Step.bind_eq_ok.1 recorded
  cases changed
  obtain ⟨others, _, counted, recorded⟩ := Step.bind_eq_ok.1 recorded
  cases recorded
  exact ⟨_, _, others, counted, rfl⟩

/-- A failure that is not overcome yet is marked, another one is passed over, and then come the
rest. -/
theorem resolveAll_cons_eq_ok {note hash : String} {rest : List String}
    (resolved : resolveAll note (hash :: rest) before = .ok () after) :
    (((before.index.records.find? hash).any fun record => !record.resolved) = false ∧
      resolveAll note rest before = .ok () after) ∨
    ((before.index.records.find? hash).any fun record => !record.resolved) = true ∧
      ∃ record index, before.index.markResolved hash note = .ok (record, index) ∧
        resolveAll note rest { before with index := index } = .ok () after := by
  obtain ⟨_, _, got, resolved⟩ := Step.bind_eq_ok.1 resolved
  cases got
  dsimp only at resolved
  split at resolved
  · rename_i due
    refine .inr ⟨due, ?_⟩
    cases marked : before.index.markResolved hash note with
    | ok answer =>
      simp only [marked] at resolved
      obtain ⟨_, _, changed, resolved⟩ := Step.bind_eq_ok.1 resolved
      cases changed
      exact ⟨_, _, rfl, resolved⟩
    | error e =>
      simp only [marked] at resolved
      obtain ⟨_, _, thrown, -⟩ := Step.bind_eq_ok.1 resolved
      cases thrown
  · rename_i closed
    exact .inl ⟨Bool.not_eq_true _ ▸ closed, resolved⟩

/-- The outcome of a phase is taken in if the phase was reached, and then come the rest. -/
theorem recordOutcomes_cons_eq_ok [Arithmetic α] {iteration : Iteration} {complexity : Complexity}
    {phase : Phase} {rest : List Phase}
    (recorded : recordOutcomes iteration complexity (phase :: rest) before = .ok () after) :
    (phaseOutcome? iteration phase = none ∧
      recordOutcomes iteration complexity rest before = .ok () after) ∨
    ∃ outcome host now later, phaseOutcome? iteration phase = some outcome ∧
      recordOutcomes iteration complexity rest { before with
        host := host
        table := Pattern.Table.recordOutcome before.table phase.patternId (some complexity) outcome
          now later } = .ok () after := by
  simp only [recordOutcomes] at recorded
  cases found : phaseOutcome? iteration phase with
  | none =>
    simp only [found] at recorded
    exact .inl ⟨rfl, recorded⟩
  | some outcome =>
    simp only [found] at recorded
    obtain ⟨now, _, looked, recorded⟩ := Step.bind_eq_ok.1 recorded
    cases looked
    obtain ⟨later, _, looked, recorded⟩ := Step.bind_eq_ok.1 recorded
    cases looked
    obtain ⟨_, _, changed, recorded⟩ := Step.bind_eq_ok.1 recorded
    cases changed
    exact .inr ⟨outcome, _, _, _, rfl, recorded⟩

theorem recordFailures_counts {counts : ErrorIndex α → List String → Prop}
    (record : ∀ {index messages}, counts index messages → ∀ message now,
      counts (index.recordError message now).2 (messages ++ [message]))
    {failures : List FailedAttempt} {hashes : List String}
    (recorded : recordFailures failures before = .ok hashes after)
    (held : counts before.index messages) :
    counts after.index (messages ++ failures.map FailedAttempt.message) := by
  induction failures generalizing before messages hashes with
  | nil =>
    cases recorded
    rwa [List.map_nil, List.append_nil]
  | cons failure rest ih =>
    obtain ⟨now, host, _, others, -⟩ := recordFailures_cons_eq_ok recorded
    have counted := ih others (record held failure.message now)
    rwa [List.append_assoc, List.singleton_append] at counted

theorem recordFailures_threshold {failures : List FailedAttempt} {hashes : List String}
    (recorded : recordFailures failures before = .ok hashes after) :
    after.index.threshold = before.index.threshold := by
  induction failures generalizing before hashes with
  | nil =>
    cases recorded
    rfl
  | cons failure rest ih =>
    obtain ⟨now, host, _, others, -⟩ := recordFailures_cons_eq_ok recorded
    exact (ih others :)

theorem recordFailures_table {failures : List FailedAttempt} {hashes : List String}
    (recorded : recordFailures failures before = .ok hashes after) : after.table = before.table := by
  have keeps : Keeps EngineState.table (recordFailures failures : Step σ α (List String)) :=
    recordFailures_keeps (fun _ => rfl) (fun _ _ => rfl) _
  exact keeps.of_ok recorded

theorem resolveAll_table {note : String} {hashes : List String}
    (resolved : resolveAll note hashes before = .ok () after) : after.table = before.table := by
  have keeps : Keeps EngineState.table (resolveAll note hashes : Step σ α Unit) :=
    resolveAll_keeps (fun _ _ => rfl) _ _
  exact keeps.of_ok resolved

/-- What marking one failure as overcome leaves is left by marking them all. -/
theorem resolveAll_index {note : String} {hashes : List String} {holds : ErrorIndex α → Prop}
    (marks : ∀ index hash record marked, index.markResolved hash note = .ok (record, marked) →
      holds index → holds marked)
    (resolved : resolveAll note hashes before = .ok () after) (held : holds before.index) :
    holds after.index := by
  induction hashes generalizing before with
  | nil =>
    cases resolved
    exact held
  | cons hash rest ih =>
    rcases resolveAll_cons_eq_ok resolved with ⟨-, resolved⟩ | ⟨-, _, _, marked, resolved⟩
    · exact ih resolved held
    · exact ih resolved (marks _ _ _ _ marked held)

theorem unmoved_stores : Unmoved fun state : EngineState σ α => (state.table, state.index) :=
  ⟨fun _ _ _ _ _ _ => rfl, fun _ _ _ => rfl⟩

theorem prepare_keeps_stores (engine : Engine σ) :
    Keeps (fun state => (state.table, state.index))
      (engine.prepare : Step σ α (Exploration × Strategy)) := by
  refine Keeps.bind (fun _ => rfl) fun _ => ?_
  refine Keeps.bind (explore_keeps engine unmoved_stores) fun _ => ?_
  exact Keeps.bind (reason_keeps engine unmoved_stores _) fun _ => Keeps.pure _

variable [Arithmetic α]

/-- Up to the end of the attempts the stores are as they were. -/
theorem tried_stores {engine : Engine σ} {cap : Nat} {start finish : EngineState σ α}
    {plan : Exploration × Strategy} {success : Bool}
    (prepared : engine.prepare before = .ok plan start)
    (attempted : engine.attempts cap plan.1 plan.2 cap 1 [] [] start = .ok success finish) :
    finish.table = before.table ∧ finish.index = before.index := by
  have same : (finish.table, finish.index) = (before.table, before.index) :=
    ((attempts_keeps engine unmoved_stores (fun _ _ _ => rfl) _ _ _ _ _ _ _).of_ok attempted).trans
      ((prepare_keeps_stores engine).of_ok prepared)
  exact Prod.mk.inj same

theorem recordOutcomes_reports {counts : ErrorIndex α → List String → Prop}
    {reports : Pattern.Table α → (Phase → List Outcome) → Prop} (telling : Telling counts reports)
    {iteration : Iteration} {complexity : Complexity} {phases : List Phase} (once : phases.Nodup)
    (recorded : recordOutcomes iteration complexity phases before = .ok () after)
    (held : reports before.table outcomes) :
    reports after.table fun phase =>
      outcomes phase ++ if phase ∈ phases then (phaseOutcome? iteration phase).toList else [] := by
  induction phases generalizing before outcomes with
  | nil =>
    cases recorded
    simpa only [List.not_mem_nil, ↓reduceIte, List.append_nil] using held
  | cons phase rest ih =>
    obtain ⟨fresh, once⟩ := List.nodup_cons.1 once
    -- What the rest adds goes behind what this phase adds, and is nothing for this phase.
    have assembled (added : List Outcome) (found : (phaseOutcome? iteration phase).toList = added) :
        (fun asked => (outcomes asked ++ if asked = phase then added else []) ++
          if asked ∈ rest then (phaseOutcome? iteration asked).toList else []) =
        fun asked => outcomes asked ++
          if asked ∈ phase :: rest then (phaseOutcome? iteration asked).toList else [] := by
      funext asked
      by_cases same : asked = phase
      · subst same
        simp only [fresh, ↓reduceIte, List.append_nil, List.mem_cons_self, found]
      · simp only [same, ↓reduceIte, List.append_nil, List.mem_cons, false_or]
    rcases recordOutcomes_cons_eq_ok recorded with
      ⟨found, recorded⟩ | ⟨outcome, _, _, _, found, recorded⟩
    · rw [← assembled [] (by rw [found]; rfl)]
      simpa only [ite_self, List.append_nil] using ih once recorded held
    · rw [← assembled [outcome] (by rw [found]; rfl)]
      exact ih once recorded (telling.observe held phase complexity outcome _ _)

theorem recordOutcomes_index {iteration : Iteration} {complexity : Complexity}
    {phases : List Phase} (recorded : recordOutcomes iteration complexity phases before = .ok () after) :
    after.index = before.index := by
  have keeps : Keeps EngineState.index
      (recordOutcomes iteration complexity phases : Step σ α Unit) :=
    recordOutcomes_keeps (fun _ => rfl) (fun _ _ => rfl) _ _ _
  exact keeps.of_ok recorded

/-! ### Learning -/

section

variable (engine : Engine σ)

theorem phaseOutcome?_congr {iteration other : Iteration} {phase : Phase}
    (attempts : iteration.attempts = other.attempts)
    (status : iteration.status.find? phase = other.status.find? phase)
    (duration : iteration.durations.find? phase = other.durations.find? phase) :
    phaseOutcome? iteration phase = phaseOutcome? other phase := by
  simp only [phaseOutcome?, attempts, status, duration]

/-- What becomes of a phase. -/
abbrev phaseView (phase : Phase) (state : EngineState σ α) : Option PhaseStatus × Option Nat :=
  (state.iteration.status.find? phase, state.iteration.durations.find? phase)

omit [Arithmetic α] in
theorem aside_phaseView (phase : Phase) : Aside (phaseView phase : EngineState σ α → _) :=
  fun _ _ _ _ _ _ => rfl

omit [Arithmetic α] in
theorem enter_keeps_phase {phase other : Phase} (apart : phase ≠ other) :
    Keeps (phaseView phase) (engine.enter other : Step σ α Timestamp) := by
  have aside := aside_phaseView (σ := σ) (α := α) phase
  refine Keeps.bind (Keeps.changeIteration fun state => ?_) fun _ => ?_
  · simp only [phaseView, OrderedMap.find?_insert_of_ne _ _ apart]
  · refine Keeps.bind (Keeps.modify fun _ => rfl) fun _ => ?_
    exact Keeps.bind (writeStatus_keeps engine aside) fun _ => now_keeps aside

/-- Learning leaves what became of the other phases. -/
theorem learn_keeps_phase {phase : Phase} (apart : phase ≠ .learning) (strategy : Strategy) :
    Keeps (phaseView phase) (engine.learn strategy : Step σ α Unit) := by
  have aside := aside_phaseView (σ := σ) (α := α) phase
  refine learn_keeps engine (fun _ _ => rfl) (fun _ _ => rfl) (fun _ _ => rfl)
    (enter_keeps_phase engine apart) (fun started => ?_) strategy
  refine Keeps.bind (now_keeps aside) fun _ => ?_
  refine Keeps.bind (Keeps.changeIteration fun state => ?_) fun _ => writeStatus_keeps engine aside
  simp only [phaseView, Iteration.addDuration, OrderedMap.find?_insert_of_ne _ _ apart]

end

/-- The states that learning comes through from the one it begins in to its end: the phase is
entered, the failures are recorded, those overcome are marked, the outcomes are taken in, and the
two stores are written. -/
structure Learns (engine : Engine σ) (strategy : Strategy) (before entered recorded resolved tabled
    saved stored after : EngineState σ α) : Prop where
  around : ∃ started, engine.enter .learning before = .ok started entered ∧
    engine.leave .learning .completed started stored = .ok () after
  failing : ∃ hashes, recordFailures entered.iteration.failures entered = .ok hashes recorded ∧
    if entered.iteration.success then
      resolveAll (resolutionNote entered.iteration strategy)
        (OrderedMap.ofList (hashes.map fun hash => (hash, ()))).keys recorded = .ok () resolved
    else resolved = recorded
  tabling : recordOutcomes entered.iteration resolved.session.context.complexity learntPhases
    resolved = .ok () tabled
  saving : Step.onHost .store (tabled.index.save engine.project.errorsFile) tabled = .ok () saved
  storing : Step.onHost .store (Pattern.Table.save saved.table engine.project.patternsFile) saved =
    .ok () stored

theorem learn_eq_ok {engine : Engine σ} {strategy : Strategy}
    (learnt : engine.learn strategy before = .ok () after) :
    ∃ entered recorded resolved tabled saved stored,
      engine.Learns strategy before entered recorded resolved tabled saved stored after := by
  rw [learn_eq] at learnt
  obtain ⟨started, entered, entering, learnt⟩ := Step.bind_eq_ok.1 learnt
  obtain ⟨_, _, got, learnt⟩ := Step.bind_eq_ok.1 learnt
  cases got
  obtain ⟨hashes, recorded, recording, learnt⟩ := Step.bind_eq_ok.1 learnt
  obtain ⟨_, resolved, resolving, rest⟩ := Step.bind_eq_ok.1 learnt
  obtain ⟨_, _, got, rest⟩ := Step.bind_eq_ok.1 rest
  cases got
  obtain ⟨_, tabled, tabling, rest⟩ := Step.bind_eq_ok.1 rest
  obtain ⟨_, _, got, rest⟩ := Step.bind_eq_ok.1 rest
  cases got
  obtain ⟨_, saved, saving, rest⟩ := Step.bind_eq_ok.1 rest
  obtain ⟨_, stored, storing, leaving⟩ := Step.bind_eq_ok.1 rest
  have how : if entered.iteration.success then
      resolveAll (resolutionNote entered.iteration strategy)
        (OrderedMap.ofList (hashes.map fun hash => (hash, ()))).keys recorded = .ok () resolved
      else resolved = recorded := by
    split at resolving
    · rename_i succeeded
      rwa [if_pos succeeded]
    · rename_i failed
      cases resolving
      rw [if_neg failed]
  have kept : saved.table = tabled.table := by
    obtain ⟨host, -, rfl⟩ := Step.onHost_eq_ok.1 saving
    rfl
  rw [← kept] at storing
  exact ⟨entered, recorded, resolved, tabled, saved, stored, ⟨started, entering, leaving⟩,
    ⟨hashes, recording, how⟩, tabling, saving, storing⟩

namespace Learns

variable {engine : Engine σ} {strategy : Strategy}
  {entered recorded resolved tabled saved stored : EngineState σ α}
  (learns : engine.Learns strategy before entered recorded resolved tabled saved stored after)

include learns

theorem recording :
    ∃ hashes, recordFailures entered.iteration.failures entered = .ok hashes recorded := by
  obtain ⟨hashes, recording, -⟩ := learns.failing
  exact ⟨hashes, recording⟩

theorem resolving : resolved = recorded ∨
    ∃ note hashes, resolveAll note hashes recorded = .ok () resolved := by
  obtain ⟨hashes, -, resolving⟩ := learns.failing
  split at resolving
  · exact .inr ⟨_, _, resolving⟩
  · exact .inl resolving

/-- The stores are those that are written. -/
theorem same_stores : after.table = tabled.table ∧ after.index = tabled.index := by
  obtain ⟨started, -, leaving⟩ := learns.around
  have same : (after.table, after.index) = (tabled.table, tabled.index) :=
    ((leave_keeps engine unmoved_stores _ _ _).of_ok leaving).trans
      (((onHost_keeps unmoved_stores.aside _ _).of_ok learns.storing).trans
        ((onHost_keeps unmoved_stores.aside _ _).of_ok learns.saving))
  exact Prod.mk.inj same

/-- Until the outcomes are taken in the session is as it was. -/
theorem resolved_session : resolved.session = before.session := by
  obtain ⟨started, entering, -⟩ := learns.around
  obtain ⟨hashes, recording⟩ := learns.recording
  have begun := (enter_keeps_session engine _).of_ok entering
  have counted : recorded.session = entered.session :=
    (recordFailures_keeps (fun _ => rfl) (fun _ _ => rfl) _).of_ok recording
  rcases learns.resolving with rfl | ⟨note, hashes, resolving⟩
  · exact counted.trans begun
  · have marked : resolved.session = recorded.session :=
      (resolveAll_keeps (fun _ _ => rfl) _ _).of_ok resolving
    exact marked.trans (counted.trans begun)

/-- Until the outcomes are taken in the table is as it was. -/
theorem resolved_table : resolved.table = before.table := by
  obtain ⟨started, entering, -⟩ := learns.around
  obtain ⟨hashes, recording⟩ := learns.recording
  have begun : entered.table = before.table :=
    (Prod.mk.inj ((enter_keeps engine unmoved_stores _).of_ok entering)).1
  have recordedTable : recorded.table = entered.table := recordFailures_table recording
  rcases learns.resolving with rfl | ⟨note, hashes, resolving⟩
  · exact recordedTable.trans begun
  · have resolvedTable : resolved.table = recorded.table := resolveAll_table resolving
    exact resolvedTable.trans (recordedTable.trans begun)

theorem threshold : after.index.threshold = before.index.threshold := by
  obtain ⟨started, entering, -⟩ := learns.around
  obtain ⟨hashes, recording⟩ := learns.recording
  have begun : entered.index = before.index :=
    (Prod.mk.inj ((enter_keeps engine unmoved_stores _).of_ok entering)).2
  have recordedThreshold := recordFailures_threshold recording
  have tabledIndex : tabled.index = resolved.index := recordOutcomes_index learns.tabling
  rw [learns.same_stores.2, tabledIndex, ← begun, ← recordedThreshold]
  rcases learns.resolving with rfl | ⟨note, hashes, resolving⟩
  · rfl
  · have marks (index : ErrorIndex α) (hash : String) (record : ErrorRecord)
        (marked : ErrorIndex α) (done : index.markResolved hash note = .ok (record, marked))
        (same : index.threshold = recorded.index.threshold) :
        marked.threshold = recorded.index.threshold := by
      rw [ErrorIndex.markResolved] at done
      split at done
      · cases done
      · split at done
        · cases done
        · cases done
          exact same
    exact resolveAll_index marks resolving rfl

end Learns

/-- Learning counts the failures of the iteration and takes in the outcomes of its phases. -/
theorem learn_stores {counts : ErrorIndex α → List String → Prop}
    {reports : Pattern.Table α → (Phase → List Outcome) → Prop} (telling : Telling counts reports)
    {engine : Engine σ} {strategy : Strategy}
    (learnt : engine.learn strategy before = .ok () after)
    (counted : counts before.index messages) (reported : reports before.table outcomes) :
    counts after.index (messages ++ after.iteration.failures.map FailedAttempt.message) ∧
      reports after.table fun phase =>
        outcomes phase ++ learntOutcomes after.iteration phase := by
  obtain ⟨entered, recorded, resolved, tabled, saved, stored, learns⟩ := learn_eq_ok learnt
  obtain ⟨started, entering, leaving⟩ := learns.around
  obtain ⟨hashes, recording⟩ := learns.recording
  obtain ⟨table, index⟩ := learns.same_stores
  have begunIndex : entered.index = before.index :=
    (Prod.mk.inj ((enter_keeps engine unmoved_stores _).of_ok entering)).2
  have bare : after.iteration.bare = entered.iteration.bare :=
    ((learn_keeps_bare engine strategy).of_ok learnt).trans
      ((enter_keeps engine unmoved_bare _).of_ok entering).symm
  refine ⟨?_, ?_⟩
  · have failures : after.iteration.failures = entered.iteration.failures :=
      (congrArg Iteration.failures bare :)
    have kept : tabled.index = resolved.index := recordOutcomes_index learns.tabling
    have more : counts recorded.index
        (messages ++ entered.iteration.failures.map FailedAttempt.message) :=
      recordFailures_counts telling.record recording (begunIndex ▸ counted)
    rw [index, kept, failures]
    rcases learns.resolving with rfl | ⟨note, hashes, resolving⟩
    · exact more
    · exact resolveAll_index (fun _ _ _ _ marked held => telling.resolve held marked) resolving more
  · have kept := learns.resolved_table
    have all := recordOutcomes_reports telling (by decide) learns.tabling (kept ▸ reported)
    have added (phase : Phase) : learntOutcomes after.iteration phase =
        if phase ∈ learntPhases then (phaseOutcome? entered.iteration phase).toList else [] := by
      by_cases learning : phase = .learning
      · rw [learntOutcomes, if_pos learning, if_neg]
        exact fun member => (mem_learntPhases phase).1 member learning
      · have view : phaseView phase after = phaseView phase entered :=
          ((learn_keeps_phase engine learning strategy).of_ok learnt).trans
            ((enter_keeps_phase engine learning).of_ok entering).symm
        obtain ⟨status, duration⟩ := Prod.mk.inj view
        have attempts : after.iteration.attempts = entered.iteration.attempts :=
          (congrArg Iteration.attempts bare :)
        rw [learntOutcomes, if_neg learning, if_pos ((mem_learntPhases phase).2 learning),
          phaseOutcome?_congr attempts status duration]
    rw [table]
    simpa only [added] using all

end TaskLoop.Engine
