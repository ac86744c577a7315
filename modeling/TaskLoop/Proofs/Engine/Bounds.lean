import TaskLoop.Proofs.Checkpoint.Store
import TaskLoop.Proofs.Engine.Interruption

/-!
The course of a run. Its turns follow one another until someone stops it, none is left, or one meets
the condition; from them come the results, the reason, the status of the session and the
checkpoints.
-/

set_option autoImplicit false

namespace TaskLoop

/-- One iteration of a run: its result and what it left, the checkpoint that was saved then, if any,
and what that left. -/
structure Turn (σ α : Type) where
  result : IterationResult
  counted : EngineState σ α
  saved : Option CheckpointHandle
  after : EngineState σ α

namespace Engine

open Step (Keeps)

variable {σ α : Type} [Arithmetic α] {engine : Engine σ} {before after : EngineState σ α}

/-- A checkpoint is due after so many iterations. -/
def Due (engine : Engine σ) (count : Nat) : Prop :=
  0 < engine.project.settings.engine.checkpointInterval ∧
    engine.project.settings.engine.checkpointInterval ∣ count

/-- What a run does between two iterations: it saves a checkpoint when one is due. -/
inductive Saves (engine : Engine σ) (iteration : Iteration) (before : EngineState σ α) :
    Option CheckpointHandle → EngineState σ α → Prop
  | due {handle : CheckpointHandle} {after : EngineState σ α}
      (time : engine.Due before.session.completedIterations)
      (saved : engine.checkpoint (some iteration)
        s!"iteration_{before.session.completedIterations}" before = .ok handle after) :
      Saves engine iteration before (some handle) after
  | between (early : ¬ engine.Due before.session.completedIterations) :
      Saves engine iteration before none before

omit [Arithmetic α] in
theorem checkpointPeriodically_eq_ok {iteration : Iteration} :
    engine.checkpointPeriodically iteration before = .ok () after ↔
      ∃ saved, engine.Saves iteration before saved after := by
  have due : (0 < engine.project.settings.engine.checkpointInterval &&
      before.session.completedIterations %
        engine.project.settings.engine.checkpointInterval == 0) = true ↔
      engine.Due before.session.completedIterations := by
    rw [Bool.and_eq_true, decide_eq_true_eq, beq_iff_eq, Due, Nat.dvd_iff_mod_eq_zero]
  constructor
  · intro done
    obtain ⟨_, _, got, done⟩ := Step.bind_eq_ok.1 done
    cases got
    split at done
    · rename_i time
      obtain ⟨handle, _, saved, done⟩ := Step.bind_eq_ok.1 done
      cases done
      exact ⟨some handle, .due (due.mp time) saved⟩
    · rename_i early
      cases done
      exact ⟨none, .between fun time => early (due.mpr time)⟩
  · rintro ⟨saved, saves⟩
    refine Step.bind_eq_ok.2 ⟨before, before, rfl, ?_⟩
    cases saves with
    | due time saved =>
      rw [if_pos (due.mpr time)]
      exact Step.bind_eq_ok.2 ⟨_, _, saved, rfl⟩
    | between early =>
      rw [if_neg fun time => early (due.mp time)]
      rfl

omit [Arithmetic α] in
/-- A checkpoint of the session and the iteration is saved exactly when one is due. -/
theorem Saves.stands {iteration : Iteration} {saved : Option CheckpointHandle}
    (saves : engine.Saves iteration before saved after) :
    (saved.isSome = true ↔ engine.Due before.session.completedIterations) ∧
      ∀ handle ∈ saved,
        handle.label =
          Checkpoint.settleLabel s!"iteration_{before.session.completedIterations}" ∧
        Checkpoint.Stands ⟨after.session, some iteration⟩ handle after.host := by
  cases saves with
  | between early => exact ⟨iff_of_false Bool.false_ne_true early, fun _ none => by cases none⟩
  | due time saved =>
    obtain ⟨host, rfl, saving⟩ := checkpoint_eq_ok saved
    obtain ⟨stands, label⟩ := Checkpoint.save_stands saving
    refine ⟨iff_of_true rfl time, fun other isHandle => ?_⟩
    cases isHandle
    exact ⟨label, stands⟩

/-- A turn of a run from a state. -/
structure Makes (engine : Engine σ) (before : EngineState σ α) (turn : Turn σ α) : Prop where
  going : engine.cancelled before.agents = false
  iterated : engine.iterate engine.project.settings.engine.maxRetries before =
    .ok turn.result turn.counted
  saves : engine.Saves turn.result.iteration turn.counted turn.saved turn.after

/-- The course of a run with so many iterations left: its turns, why it ends and what it leaves. -/
inductive Running (engine : Engine σ) :
    Nat → EngineState σ α → List (Turn σ α) → StopReason → EngineState σ α → Prop
  | cancelled {left : Nat} {state : EngineState σ α}
      (stop : engine.cancelled state.agents = true) : Running engine left state [] .cancelled state
  | exhausted {state : EngineState σ α} (going : engine.cancelled state.agents = false) :
      Running engine 0 state [] .maxIterations state
  | completed {left : Nat} {before : EngineState σ α} {turn : Turn σ α}
      (makes : engine.Makes before turn) (final : engine.isFinal turn.result.iteration = true) :
      Running engine (left + 1) before [turn] .completed turn.after
  | again {left : Nat} {before after : EngineState σ α} {turn : Turn σ α}
      {turns : List (Turn σ α)} {reason : StopReason} (makes : engine.Makes before turn)
      (goesOn : engine.isFinal turn.result.iteration = false)
      (rest : Running engine left turn.after turns reason after) :
      Running engine (left + 1) before (turn :: turns) reason after

theorem turn_eq_ok {result : IterationResult} (going : engine.cancelled before.agents = false) :
    engine.turn before = .ok result after ↔
      ∃ turn, engine.Makes before turn ∧ turn.result = result ∧ turn.after = after := by
  constructor
  · intro turned
    obtain ⟨_, counted, iterated, turned⟩ := Step.bind_eq_ok.1 turned
    obtain ⟨_, _, saving, turned⟩ := Step.bind_eq_ok.1 turned
    cases turned
    obtain ⟨saved, saves⟩ := checkpointPeriodically_eq_ok.mp saving
    exact ⟨⟨result, counted, saved, after⟩, ⟨going, iterated, saves⟩, rfl, rfl⟩
  · rintro ⟨turn, makes, rfl, rfl⟩
    refine Step.bind_eq_ok.2 ⟨_, _, makes.iterated, ?_⟩
    exact Step.bind_eq_ok.2
      ⟨(), _, checkpointPeriodically_eq_ok.mpr ⟨_, makes.saves⟩, rfl⟩

/-- What a run comes to that comes to its end, and what its course can be, are the same. -/
theorem runIterations_eq_ok {left : Nat} {earlier results : List IterationResult}
    {reason : StopReason} :
    engine.runIterations left earlier before = .ok (reason, results) after ↔
      ∃ turns, engine.Running left before turns reason after ∧
        results = earlier ++ turns.map Turn.result := by
  constructor
  · intro ran
    induction left generalizing earlier before with
    | zero =>
      cases going : engine.cancelled before.agents with
      | true =>
        cases (runIterations_of_cancelled going).symm.trans ran
        exact ⟨[], .cancelled going, (List.append_nil _).symm⟩
      | false =>
        cases (runIterations_zero going).symm.trans ran
        exact ⟨[], .exhausted going, (List.append_nil _).symm⟩
    | succ left ih =>
      cases going : engine.cancelled before.agents with
      | true =>
        cases (runIterations_of_cancelled going).symm.trans ran
        exact ⟨[], .cancelled going, (List.append_nil _).symm⟩
      | false =>
        rw [runIterations_succ going] at ran
        obtain ⟨result, next, turned, ran⟩ := Step.bind_eq_ok.1 ran
        obtain ⟨turn, makes, rfl, rfl⟩ := (turn_eq_ok going).mp turned
        split at ran
        · rename_i final
          cases ran
          exact ⟨[turn], .completed makes final, rfl⟩
        · rename_i goesOn
          obtain ⟨turns, running, rfl⟩ := ih ran
          refine ⟨turn :: turns, .again makes (Bool.not_eq_true _ ▸ goesOn) running, ?_⟩
          rw [List.map_cons, List.append_assoc, List.singleton_append]
  · rintro ⟨turns, running, rfl⟩
    induction running generalizing earlier with
    | cancelled stop => rw [runIterations_of_cancelled stop, List.map_nil, List.append_nil]
    | exhausted going => rw [runIterations_zero going, List.map_nil, List.append_nil]
    | completed makes final =>
      rw [runIterations_succ makes.going]
      refine Step.bind_eq_ok.2 ⟨_, _, (turn_eq_ok makes.going).mpr ⟨_, makes, rfl, rfl⟩, ?_⟩
      rw [if_pos final]
      rfl
    | @again left before after turn turns reason makes goesOn rest ih =>
      rw [runIterations_succ makes.going]
      refine Step.bind_eq_ok.2 ⟨_, _, (turn_eq_ok makes.going).mpr ⟨_, makes, rfl, rfl⟩, ?_⟩
      have others := @ih (earlier ++ [turn.result])
      rw [List.append_assoc, List.singleton_append] at others
      rwa [if_neg (Bool.not_eq_true _ ▸ goesOn)]

/-! ### What the course tells -/

/-- A turn has the number behind those that are counted, and is counted then. -/
theorem Makes.index {turn : Turn σ α} (makes : engine.Makes before turn) :
    turn.result.iteration.index = before.session.completedIterations + 1 ∧
      turn.counted.session.completedIterations = before.session.completedIterations + 1 ∧
      turn.after.session.completedIterations = before.session.completedIterations + 1 := by
  have counted := iterate_completed makes.iterated
  have after : turn.after.session = turn.counted.session :=
    (checkpointPeriodically_keeps_session _).of_ok
      (checkpointPeriodically_eq_ok.mpr ⟨_, makes.saves⟩)
  refine ⟨?_, counted, by rw [after, counted]⟩
  obtain ⟨plan, start, success, finish, prepared, attempted, concluded⟩ :=
    iterate_eq_ok makes.iterated
  obtain ⟨learnt, learning, finishing, same⟩ := conclude_eq_ok concluded
  rw [same, ← counted, finishIteration_completed finishing, ← finishIteration_iteration finishing]
  rfl

/-- A turn saves a checkpoint of the session it leaves exactly when one is due. -/
theorem Makes.saved {turn : Turn σ α} (makes : engine.Makes before turn) :
    (turn.saved.isSome = true ↔ engine.Due turn.result.iteration.index) ∧
      ∀ handle ∈ turn.saved,
        handle.label = Checkpoint.settleLabel s!"iteration_{turn.result.iteration.index}" ∧
        Checkpoint.Stands ⟨turn.after.session, some turn.result.iteration⟩ handle
          turn.after.host := by
  obtain ⟨index, number, -⟩ := makes.index
  have same : turn.result.iteration.index = turn.counted.session.completedIterations :=
    index.trans number.symm
  rw [same]
  exact makes.saves.stands

namespace Running

variable {left : Nat} {turns : List (Turn σ α)} {reason : StopReason}

/-- The turns are numbered one after the other. -/
theorem indices (running : engine.Running left before turns reason after) :
    turns.map (·.result.iteration.index) =
      List.range' (before.session.completedIterations + 1) turns.length := by
  induction running with
  | cancelled | exhausted => rfl
  | completed makes =>
    rw [List.map_singleton, makes.index.1]
    rfl
  | again makes _ _ ih =>
    rw [List.map_cons, ih, makes.index.1, makes.index.2.2]
    rfl

theorem completedIterations (running : engine.Running left before turns reason after) :
    after.session.completedIterations =
      before.session.completedIterations + turns.length := by
  induction running with
  | cancelled | exhausted => rfl
  | completed makes => exact makes.index.2.2
  | again makes _ _ ih =>
    rw [ih, makes.index.2.2, List.length_cons, Nat.add_right_comm, Nat.add_assoc]

theorem length_le (running : engine.Running left before turns reason after) :
    turns.length ≤ left := by
  induction running with
  | cancelled | exhausted => exact Nat.zero_le _
  | completed => exact Nat.succ_le_succ (Nat.zero_le _)
  | again _ _ _ ih => exact Nat.succ_le_succ ih

/-- A turn before the last does not meet the condition. -/
theorem not_isFinal (running : engine.Running left before turns reason after) :
    ∀ turn ∈ turns.dropLast, engine.isFinal turn.result.iteration = false := by
  induction running with
  | cancelled | exhausted | completed => exact List.forall_mem_nil _
  | @again left before after turn turns reason makes goesOn rest ih =>
    cases turns with
    | nil => exact List.forall_mem_nil _
    | cons next others => exact List.forall_mem_cons.mpr ⟨goesOn, ih⟩

/-- A run ends as complete exactly when its last turn meets the condition. -/
theorem completed_iff (running : engine.Running left before turns reason after) :
    reason = .completed ↔
      ∃ turn ∈ turns.getLast?, engine.isFinal turn.result.iteration = true := by
  induction running with
  | cancelled | exhausted =>
    refine iff_of_false StopReason.noConfusion ?_
    rintro ⟨turn, last, -⟩
    cases last
  | completed makes final => exact iff_of_true rfl ⟨_, rfl, final⟩
  | @again left before after turn turns reason makes goesOn rest ih =>
    rw [ih]
    cases turns with
    | nil =>
      refine iff_of_false ?_ ?_
      · rintro ⟨turn, last, -⟩
        cases last
      · rintro ⟨only, last, final⟩
        rw [List.getLast?_singleton, Option.mem_some] at last
        rw [← last, goesOn] at final
        cases final
    | cons next others => rw [List.getLast?_cons_cons]

/-- Every turn was made. -/
theorem made (running : engine.Running left before turns reason after) :
    ∀ turn ∈ turns, ∃ state, engine.Makes state turn := by
  induction running with
  | cancelled | exhausted => exact List.forall_mem_nil _
  | completed makes => exact List.forall_mem_cons.mpr ⟨⟨_, makes⟩, List.forall_mem_nil _⟩
  | again makes _ _ ih => exact List.forall_mem_cons.mpr ⟨⟨_, makes⟩, ih⟩

end Running

/-! ### The end of a run -/

/-- Saved at the end -/
theorem settleSession_status (engine : Engine σ) (reason : StopReason) (session : Session) :
    (engine.settleSession reason session).status =
      if reason = .completed ∨ reason = .maxIterations ∧
          engine.project.settings.engine.completion = .allIterations then .completed
      else .stopped := by
  cases reason <;> cases mode : engine.project.settings.engine.completion <;>
    simp only [settleSession, mode] <;> rfl

omit [Arithmetic α] in
/-- A turn meets the condition when it is to end with the first success and succeeds. -/
theorem isFinal_eq_true (engine : Engine σ) (iteration : Iteration) :
    engine.isFinal iteration = true ↔
      engine.project.settings.engine.completion = .firstSuccess ∧ iteration.success = true := by
  rw [isFinal, Bool.and_eq_true, beq_iff_eq, and_comm]

omit [Arithmetic α] in
/-- The file of the last checkpoint holds the session that a run leaves. -/
theorem checkpoint_stands {label : String} {iteration : Option Iteration}
    {handle : CheckpointHandle} (saved : engine.checkpoint iteration label before = .ok handle after) :
    after.session = before.session ∧
      Checkpoint.Stands ⟨after.session, iteration⟩ handle after.host := by
  obtain ⟨host, rfl, saving⟩ := checkpoint_eq_ok saved
  exact ⟨rfl, (Checkpoint.save_stands saving).1⟩

/-- A run that comes to its end keeps to its bounds and leaves the session and the checkpoints that
go with why it ended. A session that is not active is not run. -/
theorem run_stays_in_bounds (engine : Engine σ) (before : EngineState σ α) :
    (before.session.isActive = false →
      engine.run before = .error (.inactive before.session.id) before) ∧
    ∀ summary after, engine.run before = .ok summary after → ∃ turns stopped,
      engine.Running (engine.project.settings.engine.maxIterations -
        before.session.completedIterations) before turns summary.reason stopped ∧
      summary.results = turns.map Turn.result ∧
      summary.results.map (·.iteration.index) =
        List.range' (before.session.completedIterations + 1) summary.results.length ∧
      summary.results.length ≤ engine.project.settings.engine.maxIterations -
        before.session.completedIterations ∧
      (engine.project.settings.engine.completion = .firstSuccess →
        ∀ result ∈ summary.results.dropLast, result.iteration.success = false) ∧
      (summary.reason = .completed ↔
        engine.project.settings.engine.completion = .firstSuccess ∧
          ∃ last ∈ summary.results.getLast?, last.iteration.success = true) ∧
      after.session.status = (if summary.reason = .completed ∨ summary.reason = .maxIterations ∧
          engine.project.settings.engine.completion = .allIterations then .completed
        else .stopped) ∧
      (∀ turn ∈ turns, (turn.saved.isSome = true ↔ engine.Due turn.result.iteration.index) ∧
        ∀ handle ∈ turn.saved,
          handle.label = Checkpoint.settleLabel s!"iteration_{turn.result.iteration.index}" ∧
          Checkpoint.Stands ⟨turn.after.session, some turn.result.iteration⟩ handle
            turn.after.host) ∧
      engine.checkpoint none (finalLabel summary.reason)
        { stopped with session := after.session } = .ok summary.finalCheckpoint after ∧
      Checkpoint.Stands ⟨after.session, none⟩ summary.finalCheckpoint after.host := by
  refine ⟨fun inactive => ?_, fun summary after finished => ?_⟩
  · simp only [run, bind, EStateM.bind, get, getThe, MonadStateOf.get, EStateM.get, inactive]
    rfl
  · obtain ⟨-, ⟨reason, results⟩, stopped, ran, sameReason, sameResults, saved⟩ :=
      run_eq_ok finished
    dsimp only at sameReason sameResults saved
    subst sameReason sameResults
    obtain ⟨turns, running, listed⟩ := runIterations_eq_ok.mp ran
    rw [List.nil_append] at listed
    obtain ⟨same, stands⟩ := checkpoint_stands saved
    have session : after.session = engine.settleSession summary.reason stopped.session := same
    refine ⟨turns, stopped, running, listed, ?_, ?_, ?_, ?_, ?_, ?_, ?_, stands⟩
    · rw [listed, List.map_map, List.length_map]
      exact running.indices
    · rw [listed, List.length_map]
      exact running.length_le
    · intro mode result member
      rw [listed, ← List.map_dropLast] at member
      obtain ⟨turn, among, rfl⟩ := List.mem_map.mp member
      have goesOn := running.not_isFinal turn among
      rw [← Bool.not_eq_true, isFinal_eq_true] at goesOn
      exact Bool.eq_false_iff.mpr fun success => goesOn ⟨mode, success⟩
    · rw [running.completed_iff, listed, List.getLast?_map]
      constructor
      · rintro ⟨turn, last, final⟩
        obtain ⟨mode, success⟩ := (isFinal_eq_true _ _).mp final
        exact ⟨mode, turn.result, Option.mem_map_of_mem _ last, success⟩
      · rintro ⟨mode, _, last, success⟩
        obtain ⟨turn, isLast, rfl⟩ := Option.mem_map.mp last
        exact ⟨turn, isLast, (isFinal_eq_true _ _).mpr ⟨mode, success⟩⟩
    · rw [session, settleSession_status]
    · intro turn member
      obtain ⟨state, makes⟩ := running.made turn member
      exact makes.saved
    · rw [session]
      exact saved

end Engine

namespace Sample

/-- An engine of two iterations with one attempt each that saves a checkpoint after every one. Its
first attempt passes. -/
def direct : Engine Nat where
  project := .ofSettings ⟨""⟩ { engine := {
    maxIterations := 2, maxRetries := 1, checkpointInterval := 1 } }
  generator := { stumbling with
    generate := fun request calls => (.ok ⟨"int main;", request.attempt⟩, calls) }
  builder := counting
  annotations := []
  cancelled _ := false

/-- The same for which nothing is generated and no checkpoint is due. -/
def fruitless : Engine Nat where
  project := .ofSettings ⟨""⟩ { engine := {
    maxIterations := 2, maxRetries := 1, checkpointInterval := 0 } }
  generator := { stumbling with generate := fun _ calls => (.error (.root "parse error"), calls) }
  builder := counting
  annotations := []
  cancelled _ := false

/-- A session that has just begun. -/
def fresh : Session := .new "s" "t" {} ⟨0, 0⟩

/-- The state at the start of a run of a session on a host with nothing but the directory of a
project's state, on which no time passes. -/
def taken (session : Session) : EngineState Nat Float :=
  .new (.new ⟨OrderedMap.empty.insert [".reloop"] .directory, []⟩ (fun _ => ⟨0, 0⟩)
    fun number => String.ofList (List.replicate (number + 8) '1')) 0 .empty
    (.empty ErrorIndex.defaultThreshold) session

/-- Whether nothing gets lost of what a turn leaves when it is saved, as far as numbers and times
go. -/
def keepsWhole (iteration : Iteration) (session : Session) : Bool :=
  decide ((∀ duration ∈ iteration.durations.values, duration < powerOfTwo 64) ∧
    iteration.attempts < powerOfTwo 32 ∧ iteration.startedAt = ⟨0, 0⟩ ∧
    iteration.failures = [] ∧ session.createdAt = ⟨0, 0⟩ ∧
    ∀ influence ∈ session.influences, Decimal.isFinite influence.confidence = true ∧
      influence.iteration < powerOfTwo 32 ∧ influence.recordedAt = ⟨0, 0⟩)

/-- What comes of the first turn, of the whole run, and of another run of the session that the turn
left. -/
theorem direct_runs : ∃ result counted handle next summary after rest last,
    direct.iterate 1 (taken fresh) = .ok result counted ∧
    direct.checkpoint (some result.iteration)
      s!"iteration_{counted.session.completedIterations}" counted = .ok handle next ∧
    result.iteration.success = true ∧ handle.createdAt = ⟨0, 0⟩ ∧
    keepsWhole result.iteration next.session = true ∧
    direct.run (taken fresh) = .ok summary after ∧ summary.reason = .completed ∧
    fruitless.run (taken next.session) = .ok rest last ∧ rest.results.length = 1 := by
  have runs : (match direct.iterate 1 (taken fresh) with
    | .error _ _ => false
    | .ok result counted =>
      match direct.checkpoint (some result.iteration)
          s!"iteration_{counted.session.completedIterations}" counted with
      | .error _ _ => false
      | .ok handle next => result.iteration.success && decide (handle.createdAt = ⟨0, 0⟩) &&
        keepsWhole result.iteration next.session &&
        (match direct.run (taken fresh) with
        | .error _ _ => false
        | .ok summary _ => decide (summary.reason = .completed)) &&
        match fruitless.run (taken next.session) with
        | .error _ _ => false
        | .ok rest _ => decide (rest.results.length = 1)) = true := by
    decide +kernel
  split at runs
  · cases runs
  rename_i result counted iterated
  split at runs
  · cases runs
  rename_i handle next saved
  obtain ⟨runs, again⟩ := (Bool.and_eq_true _ _).mp runs
  obtain ⟨runs, through⟩ := (Bool.and_eq_true _ _).mp runs
  obtain ⟨runs, whole⟩ := (Bool.and_eq_true _ _).mp runs
  obtain ⟨success, created⟩ := (Bool.and_eq_true _ _).mp runs
  split at through
  · cases through
  rename_i summary after finished
  split at again
  · cases again
  rename_i rest last continued
  exact ⟨result, counted, handle, next, summary, after, rest, last, iterated, saved, success,
    of_decide_eq_true created, whole, finished, of_decide_eq_true through, continued,
    of_decide_eq_true again⟩

/-- The run ends with the iteration that succeeds, whose checkpoint is saved, and with a session that
is complete. A session that was stopped is not run. -/
theorem direct_stays_in_bounds : ∃ (summary : RunSummary) (after : EngineState Nat Float)
    (turn : Turn Nat Float) (last : IterationResult),
    direct.run (taken fresh) = .ok summary after ∧
      summary.results.map (·.iteration.index) = List.range' 1 summary.results.length ∧
      summary.results.getLast? = some last ∧ last.iteration.success = true ∧
      turn.result = last ∧ turn.saved.isSome = true ∧ after.session.status = .completed ∧
      Checkpoint.Stands ⟨after.session, none⟩ summary.finalCheckpoint after.host ∧
      direct.run (taken fresh.stop) = .error (.inactive "s") (taken fresh.stop) := by
  obtain ⟨_, _, _, _, summary, after, _, _, -, -, -, -, -, finished, completed, -, -⟩ := direct_runs
  have inactive := (Engine.run_stays_in_bounds direct (taken fresh.stop)).1 rfl
  obtain ⟨turns, stopped, -, results, indices, -, -, reason, status, saves, -, stands⟩ :=
    (Engine.run_stays_in_bounds direct (taken fresh)).2 summary after finished
  obtain ⟨-, last, isLast, success⟩ := reason.mp completed
  rw [completed] at status
  rw [results] at isLast
  obtain ⟨turn, among, same⟩ := List.mem_map.mp (List.mem_of_getLast? isLast)
  have due : direct.Due turn.result.iteration.index := ⟨Nat.one_pos, Nat.one_dvd _⟩
  exact ⟨summary, after, turn, last, finished, indices, results ▸ isLast, success, same,
    (saves turn among).1.mpr due, status, stands, inactive⟩

end Sample

end TaskLoop
