import TaskLoop.Proofs.Engine.Bounds
import TaskLoop.Proofs.Engine.Endings
import TaskLoop.Proofs.Engine.Resumption

/-!
A session whose run met its condition, taken up again. The last checkpoint of the run is of a
session that is complete, and is refused. The one that was saved after the turn that met the
condition is of a session still under way: it is taken up, and iterations follow as long as there
are any left.
-/

set_option autoImplicit false

namespace TaskLoop

/-- What of a session an iteration leaves as it was: which it is, whether it is under way and what
was added to its context. -/
def Session.core (session : Session) : String × SessionStatus × OrderedMap String Json :=
  (session.id, session.status, session.context.extensions)

namespace Checkpoint

/-- Of the file of a checkpoint the session is loaded that was saved, as far as it had come. -/
theorem Stands.session_of_loadFrom {payload : CheckpointPayload} {handle : CheckpointHandle}
    {host : Host} {disk : Disk} {found : Checkpoint} (stands : Stands payload handle host)
    (typed : payload.session.context.Typed)
    (same : disk.readText handle.path = host.disk.readText handle.path)
    (loaded : loadFrom disk handle.path = .ok found) :
    found.payload.session.id = payload.session.id ∧
      found.payload.session.status = payload.session.status ∧
      found.payload.session.completedIterations = payload.session.completedIterations := by
  obtain ⟨checkpoint, rfl, -, -, content⟩ := stands
  obtain ⟨text, present, decoded, -⟩ := loadFrom_eq_ok.mp loaded
  cases (same.trans content).symm.trans present
  rw [Json.ofText?_fileText (printable_toJson typed), Option.bind_some] at decoded
  obtain ⟨id, -, -, status, completed, -⟩ := Session.members_ofJson? (session_of_ofJson? decoded)
  exact ⟨id, status, completed⟩

end Checkpoint

namespace Engine

variable {σ τ α β : Type} [Arithmetic α] {engine : Engine σ} {before after : EngineState σ α}

theorem iterate_core {cap : Nat} {result : IterationResult}
    (finished : engine.iterate cap before = .ok result after) :
    after.session.core = before.session.core := by
  have steady : engine.Steady (α := α) fun state => state.session.core = before.session.core :=
    steady_session (fun session => session.core = before.session.core)
      (fun held _ _ _ _ _ => held) fun held _ => held
  have checked := checkCap_of_iterate finished
  rw [iterate_eq_perform checked] at finished
  obtain ⟨_, learnt, performed, finished⟩ := Step.bind_eq_ok.1 finished
  obtain ⟨_, _, finishing, answered⟩ := Step.bind_eq_ok.1 finished
  cases answered
  rw [finishIteration_session finishing]
  exact ((steady.learner cap).perform (RetryPolicy.pos_of_checkCap checked)
    steady.beginIteration).of_ok rfl performed

/-- A state has one turn. -/
theorem Makes.unique {turn other : Turn σ α} (makes : engine.Makes before turn)
    (makes' : engine.Makes before other) : turn = other := by
  obtain ⟨result, counted, saved, after⟩ := turn
  obtain ⟨result', counted', saved', after'⟩ := other
  cases makes.iterated.symm.trans makes'.iterated
  have saves := makes.saves
  have saves' := makes'.saves
  dsimp only at saves saves'
  cases saves with
  | due time saving =>
    cases saves' with
    | due _ saving' =>
      cases saving.symm.trans saving'
      rfl
    | between early => exact absurd time early
  | between early =>
    cases saves' with
    | due time _ => exact absurd time early
    | between _ => rfl

/-- No turn of a run changes what the session is. -/
theorem Makes.core {turn : Turn σ α} (makes : engine.Makes before turn) :
    turn.after.session.core = before.session.core := by
  have same := (checkpointPeriodically_keeps_session _).of_ok
    (checkpointPeriodically_eq_ok.mpr ⟨_, makes.saves⟩)
  rw [same, iterate_core makes.iterated]

namespace Running

variable {left : Nat} {turns : List (Turn σ α)} {reason : StopReason}

theorem core (running : engine.Running left before turns reason after) :
    after.session.core = before.session.core := by
  induction running with
  | cancelled | exhausted => rfl
  | completed makes => exact makes.core
  | again makes _ _ ih => rw [ih, makes.core]

/-- A run makes no turn when it is stopped at once or no iteration is left. -/
theorem eq_nil_iff (running : engine.Running left before turns reason after) :
    turns = [] ↔ engine.cancelled before.agents = true ∨ left = 0 := by
  cases running with
  | cancelled stop => exact iff_of_true rfl (.inl stop)
  | exhausted => exact iff_of_true rfl (.inr rfl)
  | completed makes | again makes =>
    refine iff_of_false (List.cons_ne_nil _ _) ?_
    rw [makes.going]
    rintro (stop | none)
    · cases stop
    · cases none

/-- A run that met the condition did so in its last turn, and left what that turn left. -/
theorem last_of_completed (running : engine.Running left before turns .completed after) :
    ∃ earlier turn, turns = earlier ++ [turn] ∧
      engine.isFinal turn.result.iteration = true ∧ turn.after = after := by
  generalize same : StopReason.completed = reason at running
  induction running with
  | cancelled | exhausted => cases same
  | @completed _ _ turn makes final => exact ⟨[], turn, rfl, final, rfl⟩
  | @again _ _ _ turn _ _ _ _ _ ih =>
    obtain ⟨earlier, last, rfl, final, left⟩ := ih same
    exact ⟨turn :: earlier, last, rfl, final, left⟩

/-- A run whose first turn meets the condition makes no other. -/
theorem eq_singleton {turn : Turn σ α}
    (running : engine.Running left before turns .completed after)
    (makes : engine.Makes before turn)
    (final : engine.isFinal turn.result.iteration = true) : turns = [turn] := by
  cases running with
  | completed makes' _ => rw [makes.unique makes']
  | again makes' goesOn _ =>
    rw [makes.unique makes', goesOn] at final
    cases final

end Running

variable [Arithmetic β] {second : Engine τ} {state last : EngineState τ β} {rest : RunSummary}

/-- A run that comes to its end does no iteration when it is stopped at once or none is left. -/
theorem results_eq_nil_iff (finished : second.run state = .ok rest last) :
    rest.results = [] ↔ second.cancelled state.agents = true ∨
      second.project.settings.engine.maxIterations ≤ state.session.completedIterations := by
  obtain ⟨-, ⟨reason, results⟩, stopped, ran, -, same, -⟩ := run_eq_ok finished
  obtain ⟨turns, running, listed⟩ := runIterations_eq_ok.mp ran
  rw [List.nil_append] at listed
  rw [same, listed, List.map_eq_nil_iff, running.eq_nil_iff, Nat.sub_eq_zero_iff_le]

omit [Arithmetic α] in
theorem settleSession_completed (engine : Engine σ) (session : Session) :
    engine.settleSession .completed session = session.complete := by
  simp only [settleSession]

/-- A condition that a run has met does not hold for every checkpoint of the run. The last one is of
a session that is complete and is refused. After the turn that met the condition another was saved
if it was due, of a session still under way: that one is taken up, active and behind that turn, and
a run of it does further iterations unless it is stopped at once or none is left. -/
theorem resume_after_completion {summary : RunSummary} (second : Engine τ)
    (finished : engine.run before = .ok summary after) (completed : summary.reason = .completed)
    (typed : before.session.context.Typed) :
    (∀ reread reference handle,
      Checkpoint.resolveFrom reread.disk engine.project.checkpointsDir reference = .ok handle →
      handle.path = summary.finalCheckpoint.path →
      reread.disk.readText handle.path = after.host.disk.readText handle.path →
      engine.project.resumeSession reference reread =
        .error (.inactive before.session.id) reread) ∧
    ∃ earlier turn stopped, engine.Running (engine.project.settings.engine.maxIterations -
        before.session.completedIterations) before (earlier ++ [turn]) .completed stopped ∧
      summary.results = (earlier ++ [turn]).map Turn.result ∧
      turn.result.iteration.success = true ∧
      turn.result.iteration.index = after.session.completedIterations ∧
      (turn.saved.isSome = true ↔ engine.Due after.session.completedIterations) ∧
      ∀ saved ∈ turn.saved, ∀ reread reference handle,
        Checkpoint.resolveFrom reread.disk engine.project.checkpointsDir reference = .ok handle →
        handle.path = saved.path →
        reread.disk.readText handle.path = turn.after.host.disk.readText handle.path →
        ∃ session current,
          engine.project.resumeSession reference reread = .ok (session, current) reread ∧
          session.id = before.session.id ∧ session.isActive = true ∧
          session.completedIterations = after.session.completedIterations ∧
          ∀ (state : EngineState τ β) rest last, state.session = session →
            second.run state = .ok rest last →
            (rest.results = [] ↔ second.cancelled state.agents = true ∨
              second.project.settings.engine.maxIterations ≤
                after.session.completedIterations) := by
  obtain ⟨active, ⟨reason, results⟩, stopped, ran, sameReason, sameResults, saved⟩ :=
    run_eq_ok finished
  obtain rfl : reason = .completed := sameReason.symm.trans completed
  obtain ⟨turns, running, listed⟩ := runIterations_eq_ok.mp ran
  rw [List.nil_append] at listed
  obtain ⟨earlier, turn, rfl, final, left⟩ := running.last_of_completed
  subst left
  obtain ⟨-, success⟩ := (isFinal_eq_true _ _).mp final
  obtain ⟨id, rest⟩ := Prod.mk.inj running.core
  obtain ⟨status, extensions⟩ := Prod.mk.inj rest
  have typedThen : turn.after.session.context.Typed := by
    rw [TaskContext.Typed, extensions]
    exact typed
  obtain ⟨sameSession, stands⟩ := checkpoint_stands saved
  have settled : after.session = turn.after.session.complete :=
    sameSession.trans (settleSession_completed engine turn.after.session)
  refine ⟨?_, earlier, turn, turn.after, running, sameResults.trans listed, success, ?_⟩
  · intro reread reference handle found samePath same
    obtain ⟨checkpoint, loaded⟩ := Checkpoint.loadFrom_of_resolveFrom found
    have there := loaded
    rw [samePath] at same there
    rw [settled] at stands
    obtain ⟨sameId, complete, -⟩ := stands.session_of_loadFrom typedThen same there
    rw [Project.resumeSession_of_completed found loaded complete, sameId]
    exact congrArg (fun id => EStateM.Result.error (EngineError.inactive id) reread) id
  · obtain ⟨state, makes⟩ := running.made turn (List.mem_append_right _ List.mem_cons_self)
    have count : after.session.completedIterations = turn.result.iteration.index := by
      rw [settled, makes.index.1, ← makes.index.2.2]
      rfl
    rw [count]
    refine ⟨rfl, makes.saved.1, ?_⟩
    intro saved isSaved reread reference handle found samePath same
    obtain ⟨checkpoint, loaded⟩ := Checkpoint.loadFrom_of_resolveFrom found
    obtain ⟨-, stands⟩ := makes.saved.2 saved isSaved
    have there := loaded
    rw [samePath] at same there
    obtain ⟨sameId, underWay, sameCount⟩ := stands.session_of_loadFrom typedThen same there
    have isActive : turn.after.session.status = .active := by
      rw [status]
      exact beq_iff_eq.mp active
    have unfinished : checkpoint.payload.session.status ≠ .completed := by
      rw [underWay, isActive]
      exact SessionStatus.noConfusion
    have counted : checkpoint.payload.session.completedIterations =
        turn.result.iteration.index := by
      rw [sameCount, makes.index.1, ← makes.index.2.2]
    refine ⟨_, _, Project.resumeSession_of_found found loaded unfinished, sameId.trans id, rfl,
      counted, fun state rest last taken ran => ?_⟩
    rw [results_eq_nil_iff ran, taken]
    exact or_congr_right (by rw [← counted])

end Engine

namespace Sample

/-- The checkpoint of a turn of which nothing gets lost is loaded. -/
theorem loads_kept {iteration : Iteration} {session : Session} {handle : CheckpointHandle}
    {host : Host} (stands : Checkpoint.Stands ⟨session, some iteration⟩ handle host)
    (created : handle.createdAt = ⟨0, 0⟩) (whole : keepsWhole iteration session = true)
    (index : iteration.index < powerOfTwo 32)
    (completed : session.completedIterations < powerOfTwo 32)
    (plain : session.context.extensions = .empty) :
    ∃ checkpoint, Checkpoint.loadFrom host.disk handle.path = .ok checkpoint ∧
      checkpoint.payload = ⟨session, some iteration⟩ ∧
      host.disk.isFile handle.path = true := by
  obtain ⟨checkpoint, payload, intact, same, content⟩ := stands
  obtain ⟨durations, attempts, started, failures, begun, influences⟩ := of_decide_eq_true whole
  have fits : iteration.Fits :=
    ⟨index, attempts, durations, started ▸ shown_epoch, by rw [failures]; exact List.forall_mem_nil _⟩
  have typed : session.Typed :=
    ⟨TaskContext.of_plain plain _, begun ▸ shown_epoch, completed, fun influence member =>
      ⟨(influences influence member).2.1, (influences influence member).2.2 ▸ shown_epoch⟩⟩
  have kept : session.Kept :=
    ⟨fun influence member => (influences influence member).1, TaskContext.of_plain plain _⟩
  have checkpointTyped : checkpoint.Typed := by
    refine ⟨?_, ?_, ?_⟩
    · rw [(Checkpoint.flaw?_eq_none.mp intact).1]
      decide
    · have shown : checkpoint.createdAt = handle.createdAt :=
        congrArg CheckpointHandle.createdAt same
      rw [shown, created]
      exact shown_epoch
    · rw [payload]
      refine ⟨typed, fun current found => ?_⟩
      cases found
      exact fits
  have keptWhole : checkpoint.payload.session.Kept := payload ▸ kept
  obtain ⟨_, held, -⟩ := Disk.readText_eq_ok.mp content
  refine ⟨checkpoint, Checkpoint.loadFrom_eq_ok.mpr ⟨_, content, ?_, intact⟩, payload,
    Disk.isFile_of_read held⟩
  rw [Json.ofText?_fileText (Checkpoint.printable_toJson checkpointTyped.payload.session.context),
    Option.bind_some, Checkpoint.ofJson?_toJson checkpointTyped keptWhole]

/-- The run ends as its first iteration succeeds. The checkpoint of that iteration is taken up, and
another iteration is run; the last checkpoint is refused wherever its file is as it was. -/
theorem direct_goes_on_after_completion : ∃ (summary rest : RunSummary)
    (after last : EngineState Nat Float) (reread : Host) (reference : String) (session : Session)
    (current : Option Iteration),
    direct.run (taken fresh) = .ok summary after ∧ summary.reason = .completed ∧
      after.session.completedIterations = 1 ∧
      direct.project.resumeSession reference reread = .ok (session, current) reread ∧
      session.id = "s" ∧ session.isActive = true ∧
      fruitless.run (taken session) = .ok rest last ∧ rest.results ≠ [] := by
  obtain ⟨result, counted, handle, next, summary, after, rest, last, iterated, saved, success,
    created, whole, finished, completed, continued, one⟩ := direct_runs
  have counts := Engine.iterate_completed iterated
  have due : direct.Due counted.session.completedIterations := ⟨Nat.one_pos, Nat.one_dvd _⟩
  have makes : direct.Makes (taken fresh) ⟨result, counted, some handle, next⟩ :=
    ⟨rfl, iterated, .due due saved⟩
  have final : direct.isFinal result.iteration = true :=
    (Engine.isFinal_eq_true _ _).mpr ⟨rfl, success⟩
  obtain ⟨-, earlier, turn, stopped, running, -, -, number, -, goesOn⟩ :=
    Engine.resume_after_completion (β := Float) fruitless finished completed
      (TaskContext.of_plain rfl _ : fresh.context.Typed)
  -- The turn that met the condition is the only one.
  have only : some turn = some ⟨result, counted, some handle, next⟩ := by
    rw [← List.getLast?_concat (l := earlier), running.eq_singleton makes final]
    rfl
  cases only
  have index : result.iteration.index = 1 := makes.index.1
  have completedOne : next.session.completedIterations = 1 := makes.index.2.2
  obtain ⟨id, others⟩ := Prod.mk.inj makes.core
  obtain ⟨status, plain⟩ := Prod.mk.inj others
  have small : 1 < powerOfTwo 32 := by decide
  obtain ⟨checkpoint, loaded, payload, isFile⟩ := loads_kept (makes.saved.2 handle rfl).2 created
    whole (index ▸ small) (completedOne ▸ small) plain
  have found := Checkpoint.resolveFrom_path direct.project.checkpointsDir isFile loaded
  have same : ({ next.session with status := .active } : Session) = next.session := by
    rw [← show next.session.status = .active from status]
  have unfinished : checkpoint.payload.session.status ≠ .completed := by
    rw [payload, show next.session.status = .active from status]
    exact SessionStatus.noConfusion
  have resumed := Project.resumeSession_of_found found loaded unfinished
  obtain ⟨session, current, resumed', own, active, -, onward⟩ :=
    goesOn handle rfl next.host handle.path.text _ found rfl rfl
  cases resumed.symm.trans resumed'
  rw [payload] at resumed own active onward
  rw [same] at resumed own active onward
  have further := onward (taken next.session) rest last rfl continued
  refine ⟨summary, rest, after, last, next.host, handle.path.text, next.session, _, finished,
    completed, number.symm.trans index, resumed, own, active, continued, ?_⟩
  rintro none
  rcases further.mp none with stop | exhausted
  · cases stop
  · rw [← number, index] at exhausted
    exact absurd exhausted (by decide)

end Sample

end TaskLoop
