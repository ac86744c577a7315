import TaskLoop.Proofs.Engine.Agreement
import TaskLoop.Proofs.Engine.Attempts

/-!
A run beside one that no one stops. As long as no one stops the first they do the same; where it
is stopped, the other is at the same point and still has to do the iterations the first leaves
out.
-/

set_option autoImplicit false

namespace TaskLoop

namespace Engine

open Step (Agrees Whatever Keeps)

/-- No one stops a run of the engine. -/
def Unstopped {σ : Type} (engine : Engine σ) : Prop := ∀ agents, engine.cancelled agents = false

/-! ### Counting iterations -/

section Counting

variable {σ α : Type} (engine : Engine σ)

theorem attempts_keeps_index (cap : Nat) (exploration : Exploration) (strategy : Strategy)
    (remaining attempt : Nat) (failures suggestions : List String) [Arithmetic α] :
    Keeps (fun state => state.iteration.index)
      (engine.attempts cap exploration strategy remaining attempt failures suggestions :
        Step σ α Bool) :=
  attempts_keeps engine ⟨fun _ _ _ _ _ _ => rfl, fun _ _ _ => rfl⟩ (fun _ _ _ => rfl) _ _ _ _ _ _ _

variable {engine}

/-- The preparation begins the iteration behind those that are counted. -/
theorem prepare_index {before after : EngineState σ α} {plan : Exploration × Strategy}
    (prepared : engine.prepare before = .ok plan after) :
    after.iteration.index = before.session.completedIterations + 1 := by
  obtain ⟨started, same⟩ := prepare_bare prepared
  exact (congrArg Iteration.index same :)

/-- The end of an iteration counts the session up to it. -/
theorem finishIteration_session {before after : EngineState σ α}
    (finished : engine.finishIteration before = .ok () after) :
    after.session = { before.session with completedIterations := before.iteration.index } := by
  obtain ⟨host, -, shown⟩ := finishIteration_eq_ok finished
  exact (writeStatus_keeps_session engine).of_ok shown

theorem finishIteration_completed {before after : EngineState σ α}
    (finished : engine.finishIteration before = .ok () after) :
    after.session.completedIterations = before.iteration.index :=
  congrArg Session.completedIterations (finishIteration_session finished)

theorem checkpointPeriodically_keeps_session (iteration : Iteration) :
    Keeps (fun state => state.session)
      (engine.checkpointPeriodically iteration : Step σ α Unit) := by
  unfold checkpointPeriodically
  refine Keeps.bind Keeps.get fun state => ?_
  dsimp only
  split
  · refine Keeps.bind ?_ fun _ => Keeps.pure ()
    exact Keeps.bind Keeps.get fun _ => Keeps.onHost _ _ fun _ _ => rfl
  · exact Keeps.pure ()

variable [Arithmetic α]

/-- An iteration that comes to its end is counted once. -/
theorem iterate_completed {cap : Nat} {before after : EngineState σ α} {result : IterationResult}
    (finished : engine.iterate cap before = .ok result after) :
    after.session.completedIterations = before.session.completedIterations + 1 := by
  obtain ⟨plan, start, success, finish, prepared, attempted, concluded⟩ := iterate_eq_ok finished
  obtain ⟨learnt, learning, finishing, -⟩ := conclude_eq_ok concluded
  have learntIndex := congrArg Iteration.index ((learn_keeps_bare engine plan.2).of_ok learning)
  have attemptedIndex := (attempts_keeps_index engine cap plan.1 plan.2 cap 1 [] []).of_ok attempted
  exact (finishIteration_completed finishing).trans
    (learntIndex.trans (attemptedIndex.trans (prepare_index prepared)))

end Counting

/-! ### Runs -/

variable {σ τ α : Type} [Arithmetic α] {engine : Engine σ} {other : Engine τ}

theorem save_ofDisk {root : Path} {session : Session} {iteration : Option Iteration}
    {label : String} {host after : Host} {e : CheckpointError}
    (failed : Checkpoint.save root session iteration label host = .error e after) :
    (EngineError.checkpoint e).OfDisk := by
  simp only [Checkpoint.save, bind, EStateM.bind, Host.newId, Host.now, Act.mapError] at failed
  split at failed
  · cases failed
  · rename_i ran
    split at ran
    · cases ran
    · cases ran
      cases failed
      exact trivial

theorem agrees_checkpoint (iteration iteration' : Option Iteration) (label label' : String) :
    Agrees Whatever (engine.checkpoint iteration label : Step σ α CheckpointHandle)
      (other.checkpoint iteration' label' : Step τ α CheckpointHandle) := by
  refine Agrees.bind Agrees.get fun _ _ _ => ?_
  exact Agrees.onHost _ fun _ _ _ failed => save_ofDisk failed

theorem agrees_checkpointPeriodically (pair : engine.Alike other)
    (iteration iteration' : Iteration) :
    Agrees Whatever (engine.checkpointPeriodically iteration : Step σ α Unit)
      (other.checkpointPeriodically iteration' : Step τ α Unit) := by
  unfold checkpointPeriodically
  rw [pair.project]
  refine Agrees.bind Agrees.get fun state state' alike => ?_
  dsimp only
  rw [alike.completedIterations]
  split
  · exact Agrees.bind (agrees_checkpoint _ _ _ _) fun _ _ _ => Agrees.pure trivial
  · exact Agrees.pure trivial

/-- One iteration of a run with its checkpoint. -/
def turn (engine : Engine σ) : Step σ α IterationResult := do
  let result ← engine.iterate engine.project.settings.engine.maxRetries
  engine.checkpointPeriodically result.iteration
  return result

theorem agrees_turn (pair : engine.Alike other) :
    Agrees (fun result result' => result.timeless = result'.timeless)
      (engine.turn : Step σ α IterationResult) (other.turn : Step τ α IterationResult) := by
  unfold turn
  rw [pair.project]
  refine Agrees.bind (agrees_iterate pair _) fun result result' same => ?_
  refine Agrees.bind (agrees_checkpointPeriodically pair _ _) fun _ _ _ => ?_
  exact Agrees.pure same

theorem turn_completed {before after : EngineState σ α} {result : IterationResult}
    (turned : engine.turn before = .ok result after) :
    after.session.completedIterations = before.session.completedIterations + 1 := by
  obtain ⟨_, iterated, ran, turned⟩ := Step.bind_eq_ok.1 turned
  obtain ⟨_, saved, saving, turned⟩ := Step.bind_eq_ok.1 turned
  cases turned
  rw [(checkpointPeriodically_keeps_session _).of_ok saving, iterate_completed ran]

/-- A run is over when someone stops it, when no iteration is left, or after the turn that meets
its condition. -/
theorem runIterations_eq (engine : Engine σ) (remaining : Nat) (results : List IterationResult) :
    (engine.runIterations remaining results : Step σ α (StopReason × List IterationResult)) =
      get >>= fun state =>
        if engine.cancelled state.agents then pure (.cancelled, results)
        else match remaining with
          | 0 => pure (.maxIterations, results)
          | remaining + 1 => engine.turn >>= fun result =>
            if engine.isFinal result.iteration then pure (.completed, results ++ [result])
            else engine.runIterations remaining (results ++ [result]) := by
  cases remaining with
  | zero => rfl
  | succ remaining =>
    rw [runIterations]
    congr 1
    funext state
    split
    · rfl
    · simp only [turn, bind_assoc, pure_bind]

section Loop

variable {state : EngineState σ α} {remaining : Nat} {results : List IterationResult}

theorem runIterations_of_cancelled (stop : engine.cancelled state.agents = true) :
    engine.runIterations remaining results state = .ok (.cancelled, results) state := by
  rw [runIterations_eq]
  exact congrFun (if_pos stop) state

theorem runIterations_zero (going : engine.cancelled state.agents = false) :
    engine.runIterations 0 results state = .ok (.maxIterations, results) state := by
  rw [runIterations_eq]
  exact congrFun (if_neg (Bool.not_eq_true _ ▸ going)) state

theorem runIterations_succ (going : engine.cancelled state.agents = false) :
    engine.runIterations (remaining + 1) results state =
      (engine.turn >>= fun result =>
        if engine.isFinal result.iteration then pure (.completed, results ++ [result])
        else engine.runIterations remaining (results ++ [result])) state := by
  rw [runIterations_eq]
  exact congrFun (if_neg (Bool.not_eq_true _ ▸ going)) state

end Loop

theorem isFinal_congr (pair : engine.Alike other) {result result' : IterationResult}
    (same : result.timeless = result'.timeless) :
    other.isFinal result'.iteration = engine.isFinal result.iteration := by
  have success : result.iteration.success = result'.iteration.success := by
    simpa only [IterationResult.timeless, Iteration.timeless] using
      congrArg (fun result => result.iteration.success) same
  simp only [isFinal, pair.project, success]

/-- What two runs come to behind earlier results: the same end, and results that agree. -/
def SameEnd (earlier earlier' : List IterationResult)
    (come come' : StopReason × List IterationResult) : Prop :=
  come.1 = come'.1 ∧ ∃ more more', come.2 = earlier ++ more ∧ come'.2 = earlier' ++ more' ∧
    more.map IterationResult.timeless = more'.map IterationResult.timeless

theorem SameEnd.none (reason : StopReason) (earlier earlier' : List IterationResult) :
    SameEnd earlier earlier' (reason, earlier) (reason, earlier') :=
  ⟨rfl, [], [], (List.append_nil _).symm, (List.append_nil _).symm, rfl⟩

theorem SameEnd.cons {earlier earlier' : List IterationResult} {result result' : IterationResult}
    {come come' : StopReason × List IterationResult}
    (same : result.timeless = result'.timeless)
    (rest : SameEnd (earlier ++ [result]) (earlier' ++ [result']) come come') :
    SameEnd earlier earlier' come come' := by
  obtain ⟨reason, more, more', found, found', alike⟩ := rest
  refine ⟨reason, result :: more, result' :: more', ?_, ?_, ?_⟩
  · rw [found, List.append_assoc, List.singleton_append]
  · rw [found', List.append_assoc, List.singleton_append]
  · rw [List.map_cons, List.map_cons, same, alike]

/-- Two runs that no one stops end alike. -/
theorem agrees_runIterations (pair : engine.Alike other) (unstopped : engine.Unstopped)
    (unstopped' : other.Unstopped) (remaining : Nat) (earlier earlier' : List IterationResult) :
    Agrees (SameEnd earlier earlier')
      (engine.runIterations remaining earlier : Step σ α (StopReason × List IterationResult))
      (other.runIterations remaining earlier') := by
  induction remaining generalizing earlier earlier' with
  | zero =>
    rw [runIterations_eq, runIterations_eq]
    refine Agrees.bind Agrees.get fun state state' _ => ?_
    simp only [unstopped state.agents, unstopped' state'.agents, Bool.false_eq_true, ↓reduceIte]
    exact Agrees.pure (SameEnd.none _ _ _)
  | succ remaining ih =>
    rw [runIterations_eq, runIterations_eq]
    refine Agrees.bind Agrees.get fun state state' _ => ?_
    simp only [unstopped state.agents, unstopped' state'.agents, Bool.false_eq_true, ↓reduceIte]
    refine Agrees.bind (agrees_turn pair) fun result result' same => ?_
    rw [isFinal_congr pair same]
    split
    · exact Agrees.pure (SameEnd.cons same (SameEnd.none _ _ _))
    · exact (ih _ _).weaken fun _ _ rest => SameEnd.cons same rest

/-- A run that is stopped has done the first iterations of the run that no one stops: the same
results, and a state that agrees with the one from which the other goes on. -/
theorem runIterations_stopped (pair : engine.Alike other) (unstopped : other.Unstopped)
    {remaining : Nat} {earlier earlier' results : List IterationResult}
    {come : StopReason × List IterationResult} {before after : EngineState σ α}
    {before' end' : EngineState τ α} (alike : before.Alike before')
    (stopped : engine.runIterations remaining earlier before = .ok (.cancelled, results) after)
    (finished : other.runIterations remaining earlier' before' = .ok come end') :
    ∃ left more more' after', results = earlier ++ more ∧
      more.map IterationResult.timeless = more'.map IterationResult.timeless ∧
      after.session.completedIterations + left =
        before.session.completedIterations + remaining ∧
      after.Alike after' ∧
      other.runIterations left (earlier' ++ more') after' = .ok come end' := by
  induction remaining generalizing earlier earlier' before before' with
  | zero =>
    cases going : engine.cancelled before.agents with
    | true =>
      cases (runIterations_of_cancelled going).symm.trans stopped
      refine ⟨0, [], [], before', (List.append_nil _).symm, rfl, rfl, alike, ?_⟩
      rw [List.append_nil]
      exact finished
    | false => cases (runIterations_zero going).symm.trans stopped
  | succ remaining ih =>
    cases going : engine.cancelled before.agents with
    | true =>
      cases (runIterations_of_cancelled going).symm.trans stopped
      refine ⟨remaining + 1, [], [], before', (List.append_nil _).symm, rfl, rfl, alike, ?_⟩
      rw [List.append_nil]
      exact finished
    | false =>
      rw [runIterations_succ going] at stopped
      rw [runIterations_succ (unstopped before'.agents)] at finished
      obtain ⟨result, next, turned, stopped⟩ := Step.bind_eq_ok.1 stopped
      obtain ⟨result', next', turned', finished⟩ := Step.bind_eq_ok.1 finished
      have same := (agrees_turn pair).come before before' alike
      rw [turned, turned'] at same
      rw [isFinal_congr pair same.1] at finished
      split at stopped
      · cases stopped
      · rename_i notFinal
        rw [if_neg notFinal] at finished
        obtain ⟨left, more, more', after', found, agree, counted, reached, goesOn⟩ :=
          ih same.2 stopped finished
        refine ⟨left, result :: more, result' :: more', after', ?_, ?_, ?_, reached, ?_⟩
        · rw [found, List.append_assoc, List.singleton_append]
        · rw [List.map_cons, List.map_cons, same.1, agree]
        · rw [turn_completed turned] at counted
          omega
        · rw [← goesOn, List.append_assoc, List.singleton_append]

/-! ### Taking a run up again -/

/-- An iteration does not look at the one before. -/
theorem iterate_anew {cap : Nat} {before after : EngineState σ α} {result : IterationResult}
    (finished : engine.iterate cap before = .ok result after) (iteration : Iteration) :
    engine.iterate cap { before with iteration := iteration } = .ok result after := by
  have checked := checkCap_of_iterate finished
  rw [iterate_eq checked] at finished ⊢
  exact finished

/-- A run that still has an iteration to do does not look at the one before. -/
theorem runIterations_anew (unstopped : engine.Unstopped) {remaining : Nat}
    {earlier : List IterationResult} {come : StopReason × List IterationResult}
    {before after : EngineState σ α}
    (finished : engine.runIterations (remaining + 1) earlier before = .ok come after)
    (iteration : Iteration) :
    engine.runIterations (remaining + 1) earlier { before with iteration := iteration } =
      .ok come after := by
  rw [runIterations_succ (unstopped _)] at finished ⊢
  obtain ⟨result, next, turned, finished⟩ := Step.bind_eq_ok.1 finished
  obtain ⟨_, iterated, ran, turned⟩ := Step.bind_eq_ok.1 turned
  refine Step.bind_eq_ok.2 ⟨result, next, ?_, finished⟩
  exact Step.bind_eq_ok.2 ⟨_, _, iterate_anew ran iteration, turned⟩

/-- What a run that comes to its end consists of. -/
theorem run_eq_ok {before after : EngineState σ α} {summary : RunSummary}
    (finished : engine.run before = .ok summary after) :
    before.session.isActive = true ∧ ∃ come stopped,
      engine.runIterations
          (engine.project.settings.engine.maxIterations - before.session.completedIterations) []
          before = .ok come stopped ∧
      summary.reason = come.1 ∧ summary.results = come.2 ∧
      engine.checkpoint none (finalLabel come.1)
          { stopped with session := engine.settleSession come.1 stopped.session } =
        .ok summary.finalCheckpoint after := by
  obtain ⟨_, _, got, finished⟩ := Step.bind_eq_ok.1 finished
  cases got
  dsimp only at finished
  split at finished
  · cases finished
  · rename_i active
    obtain ⟨come, stopped, ran, finished⟩ := Step.bind_eq_ok.1 finished
    obtain ⟨_, _, settled, finished⟩ := Step.bind_eq_ok.1 finished
    cases settled
    obtain ⟨handle, saved, saving, finished⟩ := Step.bind_eq_ok.1 finished
    cases finished
    exact ⟨by simpa using active, come, stopped, ran, rfl, rfl, saving⟩

omit [Arithmetic α] in
/-- Saving a checkpoint changes the host alone. -/
theorem checkpoint_eq_ok {iteration : Option Iteration} {label : String}
    {before after : EngineState σ α} {handle : CheckpointHandle}
    (saved : engine.checkpoint iteration label before = .ok handle after) :
    ∃ host, after = { before with host := host } ∧
      Checkpoint.save engine.project.checkpointsDir before.session iteration label before.host =
        .ok handle host := by
  obtain ⟨_, _, got, saved⟩ := Step.bind_eq_ok.1 saved
  cases got
  obtain ⟨host, ran, same⟩ := Step.onHost_eq_ok.1 saved
  exact ⟨host, same, ran⟩

theorem timeless_settleSession (pair : engine.Alike other) (reason : StopReason)
    {session session' : Session} (same : session.timeless = session'.timeless) :
    (engine.settleSession reason session).timeless =
      (other.settleSession reason session').timeless := by
  have stop : session.stop.timeless = session'.stop.timeless := by
    simp only [Session.timeless, Session.stop, Session.mk.injEq] at same ⊢
    simp only [same, and_self]
  have complete : session.complete.timeless = session'.complete.timeless := by
    simp only [Session.timeless, Session.complete, Session.mk.injEq] at same ⊢
    simp only [same, and_self]
  simp only [settleSession, pair.project]
  cases reason <;> cases engine.project.settings.engine.completion <;> first
    | exact stop
    | exact complete

end Engine

end TaskLoop
