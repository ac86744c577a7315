import TaskLoop.Proofs.Engine.Learning
import TaskLoop.Proofs.Engine.Endings
import TaskLoop.Proofs.Engine.Replay

/-!
What the phases of a finished iteration tell. As long as attempts are made the phases before the
current one are as this attempt left them and those behind it wait, whatever an earlier attempt had
come to; so that in the end they tell how the last attempt came out.
-/

set_option autoImplicit false

namespace TaskLoop

namespace Phase

variable {phase next : Phase} {status : PhaseStatus}

theorem mem_attemptPhases : phase ∈ Engine.attemptPhases ↔ phase.isRetried = true := by
  cases phase <;> decide

theorem ne_learning_of_isRetried (retried : phase.isRetried = true) : phase ≠ .learning := by
  rintro rfl
  cases retried

/-- A phase is entered behind the one that was left. -/
theorem Follows.index_lt (follows : phase.Follows status next) : phase.index < next.index := by
  by_cases learning : next = .learning
  · subst learning
    exact index_lt_learning follows.of_learning.1
  · rw [follows.index learning]
    exact Nat.lt_succ_self _

/-- Within an attempt a phase is entered only when the one before it was completed. -/
theorem Follows.completed (follows : phase.Follows status next) (within : next ≠ .learning)
    (retried : phase.isRetried = true) : status = .completed := by
  cases follows with
  | planned => cases retried
  | generated => rfl
  | reviewed => rfl
  | passed => rfl
  | failed => exact absurd rfl within

end Phase

namespace PhaseProgress

variable {phase next : Phase} {status reached : PhaseStatus} {progress : PhaseProgress}

/-- A phase has come to a status. Those before it have come to their end, the ones of an attempt
well, and those behind it wait. Before learning the phases are as the attempts left them. -/
structure Trail (phase : Phase) (status : PhaseStatus) (progress : PhaseProgress) : Prop where
  current : progress.find? phase = some status
  earlier : phase ≠ .learning → ∀ other, other.index < phase.index →
    ∃ reached, progress.find? other = some reached ∧ reached.isTerminal = true ∧
      (other.isRetried = true → reached = .completed)
  later : ∀ other, phase.index < other.index → progress.find? other = some .pending

theorem trail_fresh : Trail .exploration .pending fresh where
  current := rfl
  earlier _ other before := absurd before (Nat.not_lt_zero _)
  later other _ := by cases other <;> rfl

namespace Trail

/-- The current phase comes to another status. -/
theorem set (trail : Trail phase status progress) (reached : PhaseStatus) :
    Trail phase reached (progress.insert phase reached) where
  current := OrderedMap.find?_insert_self _ _ _
  earlier other asked before := by
    have apart : asked ≠ phase := fun same => Nat.lt_irrefl _ (same ▸ before)
    rw [OrderedMap.find?_insert_of_ne _ _ apart]
    exact trail.earlier other asked before
  later asked behind := by
    have apart : asked ≠ phase := fun same => Nat.lt_irrefl _ (same ▸ behind)
    rw [OrderedMap.find?_insert_of_ne _ _ apart]
    exact trail.later asked behind

/-- The next phase is about to be entered. -/
theorem follow (trail : Trail phase status progress) (follows : phase.Follows status next) :
    Trail next .pending progress where
  current := trail.later next follows.index_lt
  earlier within other before := by
    rw [follows.index within] at before
    rcases Nat.lt_or_eq_of_le (Nat.lt_succ_iff.mp before) with less | same
    · refine trail.earlier (fun learning => ?_) other less
      have past := Phase.index_lt_learning within
      rw [follows.index within, learning] at past
      exact absurd past Nat.not_succ_lt_self
    · obtain rfl := Phase.index_injective same
      exact ⟨status, trail.current, follows.ended, follows.completed within⟩
  later other behind := trail.later other (Nat.lt_trans follows.index_lt behind)

/-- Another attempt is about to begin: nothing is left of the one before. -/
theorem again (trail : Trail phase status progress) (retries : phase.Retries status) :
    Trail .generation .pending progress.again where
  current := find?_again _ _
  earlier _ other before := by
    have planned : other.isRetried = false := by
      revert before
      cases other <;> decide
    have kept : progress.again.find? other = progress.find? other := by
      rw [find?_again, planned, if_neg Bool.false_ne_true]
    obtain ⟨within, reasoned⟩ := retries.past
    rw [kept]
    rcases Nat.lt_or_eq_of_le (Nat.le_trans (Nat.le_of_lt_succ before) reasoned) with less | same
    · exact trail.earlier within other less
    · obtain rfl := Phase.index_injective same
      refine ⟨status, trail.current, retries.ended, fun retried => ?_⟩
      rw [planned] at retried
      cases retried
  later other behind := by
    rw [find?_again]
    split
    · rfl
    · rename_i outside
      obtain rfl : other = .learning := by
        revert behind outside
        cases other <;> decide
      exact trail.later .learning (Phase.index_lt_learning retries.past.1)

/-- Every phase has a status. -/
theorem known (trail : Trail phase status progress) (within : phase ≠ .learning) (other : Phase) :
    ∃ reached, progress.find? other = some reached := by
  rcases Nat.lt_trichotomy other.index phase.index with before | same | behind
  · obtain ⟨reached, found, -⟩ := trail.earlier within other before
    exact ⟨reached, found⟩
  · rw [Phase.index_injective same]
    exact ⟨status, trail.current⟩
  · exact ⟨.pending, trail.later other behind⟩

end Trail

/-- With a status of each phase there are six of them. -/
theorem keys_of_known (known : ∀ phase, ∃ status, progress.find? phase = some status) :
    progress.keys = Phase.all := by
  have alike : (progress.mapValues fun _ _ => ()) = fresh.mapValues fun _ _ => () := by
    refine OrderedMap.ext_find? fun phase => ?_
    obtain ⟨status, found⟩ := known phase
    rw [OrderedMap.find?_mapValues fun _ => (), OrderedMap.find?_mapValues fun _ => (), found]
    cases phase <;> rfl
  have keys (map : PhaseProgress) : (map.mapValues fun _ _ => ()).keys = map.keys := by
    simp only [OrderedMap.keys, OrderedMap.mapValues, List.map_map]
    rfl
  rw [← keys, alike, keys]
  rfl

end PhaseProgress

/-- The phases of a finished iteration tell how it came out. Each has a status and none is under
way; the planning came to an end, and the iteration was learnt from. If it succeeded the attempt at
its end was completed, and if not the phase of the last failure has failed, with what comes before
it in an attempt completed and what comes behind it waiting. -/
structure Iteration.PhasesTell (iteration : Iteration) : Prop where
  keys : iteration.status.keys = Phase.all
  idle : ∀ phase, iteration.status.find? phase ≠ some .running
  planned : ∀ phase ∈ [Phase.exploration, .reasoning],
    iteration.status.find? phase = some .completed ∨ iteration.status.find? phase = some .failed
  learnt : iteration.status.find? .learning = some .completed
  succeeded : iteration.success = true → ∀ phase ∈ Engine.attemptPhases,
    iteration.status.find? phase = some .completed
  failed : iteration.success = false → ∃ last, iteration.lastFailure? = some last ∧
    last.phase ∈ Engine.attemptPhases ∧ iteration.status.find? last.phase = some .failed ∧
    ∀ phase ∈ Engine.attemptPhases,
      (phase.index < last.phase.index → iteration.status.find? phase = some .completed) ∧
      (last.phase.index < phase.index → iteration.status.find? phase = some .pending)

/-- Phases that were left as an attempt left them tell of it once the iteration was learnt from. -/
theorem PhaseProgress.Trail.phasesTell {phase : Phase} {status : PhaseStatus}
    {progress : PhaseProgress} {iteration : Iteration} (trail : Trail phase status progress)
    (retried : phase.isRetried = true) (left : status.isTerminal = true)
    (kept : ∀ other, other ≠ .learning → iteration.status.find? other = progress.find? other)
    (learnt : iteration.status.find? .learning = some .completed)
    (succeeded : iteration.success = true → phase = .compilation ∧ status = .completed)
    (failed : iteration.success = false → status = .failed ∧
      ∃ last, iteration.lastFailure? = some last ∧ last.phase = phase) :
    iteration.PhasesTell := by
  have within := Phase.ne_learning_of_isRetried retried
  have before {other : Phase} (less : other.index < phase.index) : ∃ reached,
      iteration.status.find? other = some reached ∧ reached.isTerminal = true ∧
        (other.isRetried = true → reached = .completed) := by
    have inside : other ≠ .learning := by
      rintro rfl
      exact absurd (Nat.lt_trans less (Phase.index_lt_learning within)) (Nat.lt_irrefl _)
    rw [kept other inside]
    exact trail.earlier within other less
  have current : iteration.status.find? phase = some status := by
    rw [kept phase within]
    exact trail.current
  refine ⟨PhaseProgress.keys_of_known fun other => ?_, fun other under => ?_,
    fun other member => ?_, learnt, fun success other member => ?_, fun failure => ?_⟩
  · by_cases learning : other = .learning
    · exact ⟨_, learning ▸ learnt⟩
    · rw [kept other learning]
      exact trail.known within other
  · by_cases learning : other = .learning
    · rw [learning, learnt] at under
      cases under
    · rcases Nat.lt_trichotomy other.index phase.index with less | same | more
      · obtain ⟨reached, found, ended, -⟩ := before less
        rw [found] at under
        cases under
        cases ended
      · rw [Phase.index_injective same, current] at under
        cases under
        cases left
      · rw [kept other learning, trail.later other more] at under
        cases under
  · have less : other.index < phase.index := by
      revert member retried
      cases other <;> cases phase <;> decide
    obtain ⟨reached, found, ended, -⟩ := before less
    rw [found]
    cases reached with
    | pending => cases ended
    | running => cases ended
    | completed => exact .inl rfl
    | failed => exact .inr rfl
  · obtain ⟨rfl, rfl⟩ := succeeded success
    have isRetried := Phase.mem_attemptPhases.mp member
    by_cases last : other = .compilation
    · rw [last]
      exact current
    · have less : other.index < Phase.compilation.index := by
        revert isRetried last
        cases other <;> decide
      obtain ⟨reached, found, -, well⟩ := before less
      rw [found, well isRetried]
  · obtain ⟨rfl, last, isLast, rfl⟩ := failed failure
    refine ⟨last, isLast, Phase.mem_attemptPhases.mpr retried, current, fun other member => ?_⟩
    have isRetried := Phase.mem_attemptPhases.mp member
    refine ⟨fun less => ?_, fun more => ?_⟩
    · obtain ⟨reached, found, -, well⟩ := before less
      rw [found, well isRetried]
    · rw [kept other (Phase.ne_learning_of_isRetried isRetried)]
      exact trail.later other more

namespace Engine

open History (Entry Stands)
open PhaseProgress (Trail)
open Step (Ends Keeps)

variable {σ α : Type} {engine : Engine σ} {before after : EngineState σ α}

/-- The phases of the current iteration up to one that has come to a status. -/
def OnTrail (phase : Phase) (status : PhaseStatus) (state : EngineState σ α) : Prop :=
  Trail phase status state.iteration.status

theorem ends_onTrail_of_keeps {β : Type} {step : Step σ α β} {phase : Phase} {status : PhaseStatus}
    (keeps : Keeps (fun state => state.iteration.status) step) :
    Ends (OnTrail phase status) (fun _ => OnTrail phase status) (fun _ => True) step :=
  Ends.of_keeps keeps (Trail phase status) fun _ _ => trivial

/-- A phase that is entered or left comes to another status. -/
theorem machine_onTrail (engine : Engine σ) (cap : Nat) :
    engine.Machine cap (fun phase => (OnTrail phase .pending : EngineState σ α → Prop)) OnTrail
      fun _ => True where
  enter phase := by
    have entered : Ends (OnTrail phase .pending) (fun _ => OnTrail phase .running)
        (fun _ => True) (Step.changeIteration fun iteration =>
          { iteration with status := iteration.status.insert phase .running } : Step σ α Unit) :=
      Ends.modify fun _ trail => trail.set .running
    refine Ends.bind entered fun _ => ?_
    refine Ends.bind (ends_onTrail_of_keeps (Keeps.modify fun _ => rfl)) fun _ => ?_
    refine Ends.bind (ends_onTrail_of_keeps (writeStatus_keeps engine aside_status)) fun _ => ?_
    exact ends_onTrail_of_keeps (now_keeps aside_status)
  leave phase status started _ _ := by
    refine Ends.bind (ends_onTrail_of_keeps (now_keeps aside_status)) fun now => ?_
    have left : Ends (OnTrail phase .running) (fun _ => OnTrail phase status) (fun _ => True)
        (Step.changeIteration fun iteration =>
          { iteration with status := iteration.status.insert phase status }.addDuration phase
            (now.millisecondsSince started) : Step σ α Unit) :=
      Ends.modify fun _ trail => trail.set status
    exact Ends.bind left fun _ => ends_onTrail_of_keeps (writeStatus_keeps engine aside_status)
  ask phase β call := ends_onTrail_of_keeps (ask_keeps aside_status call)
  build phase artifact := ends_onTrail_of_keeps (askBuilder_keeps aside_status _)
  influence phase decision annotations confidence :=
    ends_onTrail_of_keeps (recordInfluence_keeps aside_status _ _ _)
  adopt phase strategy state := id
  follow follows state trail := trail.follow follows
  begin retries number _ state trail _ := trail.again retries
  note phase status number failure state := id

theorem beginIteration_onTrail : Ends (fun _ => True) (fun _ => OnTrail .exploration .pending)
    (fun _ => True) (engine.beginIteration : Step σ α Unit) := by
  refine ⟨fun before _ => ?_⟩
  cases begun : engine.beginIteration before with
  | ok _ after =>
    refine .ok ?_
    rw [OnTrail, beginIteration_fresh begun]
    exact PhaseProgress.trail_fresh
  | error e after => exact .error trivial

variable [Arithmetic α]

/-- Learning is completed when it has come to its end. -/
theorem learn_completes {strategy : Strategy}
    (learnt : engine.learn strategy before = .ok () after) :
    after.iteration.status.find? .learning = some .completed := by
  obtain ⟨_, _, _, _, _, _, learns⟩ := learn_eq_ok learnt
  obtain ⟨started, -, leaving⟩ := learns.around
  obtain ⟨now, _, looked, leaving⟩ := Step.bind_eq_ok.1 leaving
  obtain ⟨_, left, changed, leaving⟩ := Step.bind_eq_ok.1 leaving
  cases changed
  rw [(writeStatus_keeps engine aside_status).of_ok leaving]
  exact OrderedMap.find?_insert_self _ _ _

/-- The phases of an iteration that comes to its end tell how it came out, whatever generator,
builder and annotations do and whatever its earlier attempts had come to, and it is this iteration
that stands behind the others in the history, as long as the builder leaves the files of the
project alone. -/
theorem iterate_phases_tell {cap : Nat} {result : IterationResult}
    (finished : engine.iterate cap before = .ok result after) :
    result.iteration.PhasesTell ∧
      ∀ root node entries, engine.builder.Spares engine.project →
        engine.Keeping root "history.jsonl" node before → Stands entries node →
        engine.Keeping root "history.jsonl" (some (.file ((entries ++
          [(⟨after.session.id, result.iteration⟩ : Entry)]).flatMap Entry.record))) after := by
  refine ⟨?_, fun root node entries spares => iterate_history spares finished⟩
  have positive := RetryPolicy.pos_of_checkCap (checkCap_of_iterate finished)
  obtain ⟨plan, start, success, finish, prepared, attempted, concluded⟩ := iterate_eq_ok finished
  obtain ⟨learnt, learning, finishing, rfl⟩ := conclude_eq_ok concluded
  -- The attempts leave the phases as the last of them did.
  have machine := machine_onTrail (α := α) engine cap
  have allowed : 1 ≤ max cap 1 := Nat.le_max_right _ _
  obtain ⟨outcomes, run⟩ := engine.attempting_attempts plan.1 plan.2 cap 1 [] [] start allowed
    (by omega)
  rw [attempted] at run
  have ready : Before OnTrail 1 start :=
    ⟨(machine.prepare beginIteration_onTrail).of_ok trivial prepared, by
      rw [(prepare_tally prepared).1]⟩
  obtain ⟨last, isLast, judged⟩ : ∃ last, outcomes.getLast? = some last ∧
      Judged OnTrail .compilation last finish := by
    cases machine.attempting_judged run allowed ready with
    | ok judged => exact judged
  obtain ⟨other, found, passed⟩ := run.getLast?_eq rfl
  obtain rfl : last = other := Option.some.inj (isLast.symm.trans found)
  have recorded := (run.tally rfl).2
  rw [(prepare_tally prepared).2, List.nil_append] at recorded
  -- Learning adds its own phase, and the count nothing.
  have iteration : after.iteration = learnt.iteration := finishIteration_iteration finishing
  have kept (phase : Phase) (within : phase ≠ .learning) :
      learnt.iteration.status.find? phase = finish.iteration.status.find? phase :=
    (Prod.mk.inj ((learn_keeps_phase engine within plan.2).of_ok learning)).1
  have bare := (learn_keeps_bare engine plan.2).of_ok learning
  have failures : learnt.iteration.failures = failureRecords 1 outcomes :=
    (congrArg Iteration.failures bare :).trans recorded
  have success' : learnt.iteration.success = last.isNone :=
    (congrArg Iteration.success bare :).trans passed.symm
  rw [IterationResult.of, iteration]
  cases last with
  | none =>
    refine Trail.phasesTell judged rfl rfl kept (learn_completes learning) (fun _ => ⟨rfl, rfl⟩)
      fun failed => ?_
    rw [success'] at failed
    cases failed
  | some failure =>
    have record : learnt.iteration.lastFailure? =
        some (failureRecord (1 + outcomes.length - 1) failure) := by
      rw [Iteration.lastFailure?, failures]
      exact failureRecords_getLast? isLast
    refine Trail.phasesTell judged.2 judged.1 rfl kept (learn_completes learning)
      (fun success => ?_) fun _ => ⟨rfl, _, record, rfl⟩
    rw [success'] at success
    cases success

end Engine

end TaskLoop

namespace TaskLoop.Sample

/-- An engine whose first attempt is generated and reviewed but does not build, and whose second
comes to nothing at once. -/
def receding : Engine Nat := { engine with
  generator := { stumbling with
    generate := fun request calls =>
      if request.attempt == 1 then (.ok ⟨"int main;", request.attempt⟩, calls)
      else (.error (.root "parse error"), calls) }
  builder := ⟨fun _ calls host => ((.error (.root "parse error"), calls), host)⟩ }

theorem receding_phases_tell : ∃ result after,
    receding.iterate 2 fractionalStart = .ok result after ∧
      result.iteration.failures.map FailedAttempt.phase = [.compilation, .generation] ∧
      result.iteration.status.find? .generation = some .failed ∧
      result.iteration.status.find? .review = some .pending ∧
      result.iteration.status.find? .compilation = some .pending ∧
      receding.Keeping [".reloop"] "history.jsonl" (some (.file
        (History.Entry.record ⟨"s", result.iteration⟩))) after := by
  have finishes : (match receding.iterate 2 fractionalStart with
    | .ok result after => decide (after.session.id = "s" ∧ result.iteration.success = false ∧
        result.iteration.failures.map FailedAttempt.phase = [.compilation, .generation])
    | .error _ _ => false) = true := by decide +kernel
  split at finishes
  · rename_i result after finished
    obtain ⟨id, failed, failures⟩ := of_decide_eq_true finishes
    obtain ⟨tell, history⟩ := Engine.iterate_phases_tell finished
    obtain ⟨last, isLast, -, stopped, others⟩ := tell.failed failed
    have phase : last.phase = .generation := by
      have latest := congrArg List.getLast? failures
      rw [List.getLast?_map, ← Iteration.lastFailure?, isLast] at latest
      exact Option.some.inj latest
    rw [phase] at stopped others
    have spares : receding.builder.Spares receding.project := fun _ _ _ _ _ _ keeping => keeping
    have stands := history _ _ [] spares stateHost_keeping (.inr ⟨rfl, rfl⟩)
    rw [id, List.nil_append, List.flatMap_singleton] at stands
    exact ⟨result, after, finished, failures, stopped, (others .review (by decide)).2 (by decide),
      (others .compilation (by decide)).2 (by decide), stands⟩
  · cases finishes

end TaskLoop.Sample
