import TaskLoop.Identifier
import TaskLoop.Proofs.Engine.Frame
import TaskLoop.Proofs.Settings.Validation

/-!
The loop of attempts of an iteration. As it is meant it has no bound: attempts follow each other
until one passes or the budget of the latest failure is spent. The budgets bound it nevertheless,
so that `attempts`, which counts what is left, is that loop.
-/

set_option autoImplicit false

namespace TaskLoop

namespace Engine

variable {σ α : Type} (engine : Engine σ)

/-- What comes before the attempts of an iteration: it is begun, the task is explored and a plan
is made. -/
def prepare : Step σ α (Exploration × Strategy) := do
  engine.beginIteration
  let exploration ← engine.explore
  let strategy ← engine.reason exploration
  return (exploration, strategy)

/-- The attempt of a number, with the messages of the failures before it and the notes on
failures like the latest. -/
def tryOnce (exploration : Exploration) (strategy : Strategy) (number : Nat)
    (failures suggestions : List String) : Step σ α (Option AttemptFailure) := do
  Step.changeIteration (beginAttempt number)
  let session := (← get).session
  engine.attempt {
    task := session.task
    context := session.context
    exploration := exploration
    strategy := strategy
    attempt := number
    failures := failures
    suggestions := suggestions }

/-- What comes after the attempts: how they came out is noted, and the iteration is learnt from
and counted. -/
def conclude [Arithmetic α] (strategy : Strategy) (success : Bool) : Step σ α IterationResult := do
  Step.changeIteration fun iteration => { iteration with success := success }
  engine.learn strategy
  engine.finishIteration
  return .of (← get).iteration

/-- The attempts that a failure leaves to an iteration under a cap. -/
def budget (cap : Nat) (failure : AttemptFailure) : Nat :=
  engine.project.settings.retryPolicy.budgetCapped (Category.classify failure.message) cap

/-- Whether the attempt of a number is the last, by how it failed if it did. -/
def EndsAttempts (cap number : Nat) : Option AttemptFailure → Prop
  | none => True
  | some failure => engine.budget cap failure ≤ number

/-- The record of the failure of an attempt. -/
def failureRecord (number : Nat) (failure : AttemptFailure) : FailedAttempt :=
  ⟨failure.phase, number, Category.classify failure.message, failure.message⟩

/-- The records of the failures among attempts numbered from a start. -/
def failureRecords : Nat → List (Option AttemptFailure) → List FailedAttempt
  | _, [] => []
  | number, none :: rest => failureRecords (number + 1) rest
  | number, some failure :: rest => failureRecord number failure :: failureRecords (number + 1) rest

/-- The state with the failure of an attempt in its iteration. -/
def noteFailure (number : Nat) (failure : AttemptFailure) (state : EngineState σ α) :
    EngineState σ α :=
  { state with iteration := addFailure number failure state.iteration }

/-- The loop of attempts without a count of what is left. From the attempt of a number it makes
attempts that come out as listed (how they failed, or nothing if they passed), and ends with
whether one passed, or with the error of an attempt that could not be made. -/
inductive Attempting [Arithmetic α] (cap : Nat) (exploration : Exploration) (strategy : Strategy) :
    Nat → List String → List String → EngineState σ α → List (Option AttemptFailure) →
      EStateM.Result EngineError (EngineState σ α) Bool → Prop
  | broken {number : Nat} {failures suggestions : List String} {before after : EngineState σ α}
      {e : EngineError}
      (tried : engine.tryOnce exploration strategy number failures suggestions before
        = .error e after) :
      Attempting cap exploration strategy number failures suggestions before [] (.error e after)
  | passed {number : Nat} {failures suggestions : List String} {before after : EngineState σ α}
      (tried : engine.tryOnce exploration strategy number failures suggestions before
        = .ok none after) :
      Attempting cap exploration strategy number failures suggestions before [none]
        (.ok true after)
  | spent {number : Nat} {failures suggestions : List String} {before after : EngineState σ α}
      {failure : AttemptFailure}
      (tried : engine.tryOnce exploration strategy number failures suggestions before
        = .ok (some failure) after)
      (exhausted : engine.budget cap failure ≤ number) :
      Attempting cap exploration strategy number failures suggestions before [some failure]
        (.ok false (noteFailure number failure after))
  | again {number : Nat} {failures suggestions : List String} {before after : EngineState σ α}
      {failure : AttemptFailure} {rest : List (Option AttemptFailure)}
      {ending : EStateM.Result EngineError (EngineState σ α) Bool}
      (tried : engine.tryOnce exploration strategy number failures suggestions before
        = .ok (some failure) after)
      (left : number < engine.budget cap failure)
      (others : Attempting cap exploration strategy (number + 1) (failures ++ [failure.message])
        (after.index.suggest failure.message engine.project.settings.similarity.top)
        (noteFailure number failure after) rest ending) :
      Attempting cap exploration strategy number failures suggestions before
        (some failure :: rest) ending

variable {engine}

theorem budget_le (cap : Nat) (failure : AttemptFailure) : engine.budget cap failure ≤ max cap 1 :=
  RetryPolicy.budgetCapped_le _ _ _

/-- An attempt counts itself and leaves the records of failures alone. -/
theorem tryOnce_tally {exploration : Exploration} {strategy : Strategy} {number : Nat}
    {failures suggestions : List String} {before after : EngineState σ α}
    {outcome : Option AttemptFailure}
    (tried : engine.tryOnce exploration strategy number failures suggestions before
      = .ok outcome after) :
    after.iteration.attempts = number ∧ after.iteration.failures = before.iteration.failures := by
  obtain ⟨_, begun, started, tried⟩ := Step.bind_eq_ok.1 tried
  obtain ⟨state, between, got, tried⟩ := Step.bind_eq_ok.1 tried
  cases started
  cases got
  have same : after.iteration.bare = (beginAttempt number before.iteration).bare :=
    (attempt_keeps engine unmoved_bare _).of_ok tried
  refine ⟨?_, ?_⟩
  · simpa only [Iteration.bare, beginAttempt] using congrArg Iteration.attempts same
  · simpa only [Iteration.bare, beginAttempt] using congrArg Iteration.failures same

/-- What comes before the attempts leaves a new iteration, what became of its phases apart. -/
theorem prepare_bare {before after : EngineState σ α} {plan : Exploration × Strategy}
    (prepared : engine.prepare before = .ok plan after) :
    ∃ started, after.iteration.bare = (Iteration.new (before.session.completedIterations + 1)
      before.session.task started).bare := by
  obtain ⟨_, begun, started, prepared⟩ := Step.bind_eq_ok.1 prepared
  obtain ⟨exploration, explored, ran, prepared⟩ := Step.bind_eq_ok.1 prepared
  obtain ⟨strategy, reasoned, planned, prepared⟩ := Step.bind_eq_ok.1 prepared
  cases prepared
  cases started
  exact ⟨_, ((reason_keeps engine unmoved_bare exploration).of_ok planned).trans
    ((explore_keeps engine unmoved_bare).of_ok ran)⟩

/-- What comes before the attempts leaves an iteration without attempts and failures. -/
theorem prepare_tally {before after : EngineState σ α} {plan : Exploration × Strategy}
    (prepared : engine.prepare before = .ok plan after) :
    after.iteration.attempts = 0 ∧ after.iteration.failures = [] := by
  obtain ⟨started, same⟩ := prepare_bare prepared
  exact ⟨(congrArg Iteration.attempts same :), (congrArg Iteration.failures same :)⟩

variable [Arithmetic α]

/-- The counted loop makes one attempt and goes by how it came out. -/
theorem attempts_succ (cap : Nat) (exploration : Exploration) (strategy : Strategy)
    (remaining number : Nat) (failures suggestions : List String) (before : EngineState σ α) :
    engine.attempts cap exploration strategy (remaining + 1) number failures suggestions before =
      match engine.tryOnce exploration strategy number failures suggestions before with
      | .error e after => .error e after
      | .ok none after => .ok true after
      | .ok (some failure) after =>
        if engine.budget cap failure ≤ number then .ok false (noteFailure number failure after)
        else engine.attempts cap exploration strategy remaining (number + 1)
          (failures ++ [failure.message])
          (after.index.suggest failure.message engine.project.settings.similarity.top)
          (noteFailure number failure after) := by
  have parted : engine.attempts cap exploration strategy (remaining + 1) number failures suggestions
      = engine.tryOnce exploration strategy number failures suggestions >>= (fun failed =>
        match failed with
        | none => return true
        | some failure => do
          Step.changeIteration (addFailure number failure)
          if engine.budget cap failure ≤ number then return false
          else
            let state : EngineState σ α ← get
            engine.attempts cap exploration strategy remaining (number + 1)
              (failures ++ [failure.message])
              (state.index.suggest failure.message engine.project.settings.similarity.top)) := by
    simp only [attempts, tryOnce, bind_assoc]
    rfl
  rw [parted]
  cases tried : engine.tryOnce exploration strategy number failures suggestions before with
  | error e after => rw [Step.bind_of_error _ tried]
  | ok outcome after =>
    rw [Step.bind_of_ok _ tried]
    cases outcome with
    | none => rfl
    | some failure =>
      by_cases exhausted : engine.budget cap failure ≤ number
      · simp only [exhausted, ↓reduceIte]
        rfl
      · simp only [exhausted, ↓reduceIte]
        rfl

/-- As long as the count covers the attempts a cap allows it does not matter: the counted loop
is the loop without a count. -/
theorem attempting_attempts {cap : Nat} (exploration : Exploration) (strategy : Strategy)
    (remaining number : Nat) (failures suggestions : List String)
    (before : EngineState σ α) (allowed : number ≤ max cap 1)
    (covered : max cap 1 < number + remaining) :
    ∃ outcomes, engine.Attempting cap exploration strategy number failures suggestions before
      outcomes (engine.attempts cap exploration strategy remaining number failures suggestions
        before) := by
  induction remaining generalizing number failures suggestions before with
  | zero => omega
  | succ remaining ih =>
    rw [attempts_succ]
    cases tried : engine.tryOnce exploration strategy number failures suggestions before with
    | error e after => exact ⟨[], .broken tried⟩
    | ok outcome after =>
      cases outcome with
      | none => exact ⟨[none], .passed tried⟩
      | some failure =>
        by_cases exhausted : engine.budget cap failure ≤ number
        · simp only [exhausted, ↓reduceIte]
          exact ⟨[some failure], .spent tried exhausted⟩
        · have left : number < engine.budget cap failure := by omega
          have bound : engine.budget cap failure ≤ max cap 1 := budget_le cap failure
          obtain ⟨rest, others⟩ := ih (number + 1) (failures ++ [failure.message])
            (after.index.suggest failure.message engine.project.settings.similarity.top)
            (noteFailure number failure after) (by omega) (by omega)
          simp only [exhausted, ↓reduceIte]
          exact ⟨some failure :: rest, .again tried left others⟩

namespace Attempting

variable {cap : Nat} {exploration : Exploration} {strategy : Strategy} {number : Nat}
  {failures suggestions : List String} {before after : EngineState σ α}
  {outcomes : List (Option AttemptFailure)} {passes : Bool}

/-- The loop has one way to go. -/
theorem unique {ending ending' : EStateM.Result EngineError (EngineState σ α) Bool}
    {outcomes' : List (Option AttemptFailure)}
    (run : engine.Attempting cap exploration strategy number failures suggestions before outcomes
      ending)
    (other : engine.Attempting cap exploration strategy number failures suggestions before outcomes'
      ending') : outcomes' = outcomes ∧ ending' = ending := by
  induction run generalizing outcomes' ending' with
  | broken tried =>
    cases other with
    | broken tried' => rw [tried] at tried'; cases tried'; exact ⟨rfl, rfl⟩
    | passed tried' => rw [tried] at tried'; cases tried'
    | spent tried' _ => rw [tried] at tried'; cases tried'
    | again tried' _ _ => rw [tried] at tried'; cases tried'
  | passed tried =>
    cases other with
    | broken tried' => rw [tried] at tried'; cases tried'
    | passed tried' => rw [tried] at tried'; cases tried'; exact ⟨rfl, rfl⟩
    | spent tried' _ => rw [tried] at tried'; cases tried'
    | again tried' _ _ => rw [tried] at tried'; cases tried'
  | spent tried exhausted =>
    cases other with
    | broken tried' => rw [tried] at tried'; cases tried'
    | passed tried' => rw [tried] at tried'; cases tried'
    | spent tried' _ => rw [tried] at tried'; cases tried'; exact ⟨rfl, rfl⟩
    | again tried' left _ => rw [tried] at tried'; cases tried'; omega
  | again tried left _ ih =>
    cases other with
    | broken tried' => rw [tried] at tried'; cases tried'
    | passed tried' => rw [tried] at tried'; cases tried'
    | spent tried' exhausted => rw [tried] at tried'; cases tried'; omega
    | again tried' _ others =>
      rw [tried] at tried'
      cases tried'
      obtain ⟨rfl, rfl⟩ := ih others
      exact ⟨rfl, rfl⟩

/-- A run that comes to its end ends with the first attempt that is the last by how it came out. -/
theorem ends_first {ending : EStateM.Result EngineError (EngineState σ α) Bool}
    (run : engine.Attempting cap exploration strategy number failures suggestions before outcomes
      ending) (done : ending = .ok passes after) (index : Nat) (within : index < outcomes.length) :
    engine.EndsAttempts cap (number + index) outcomes[index] ↔ index + 1 = outcomes.length := by
  induction run generalizing index with
  | broken _ => cases done
  | passed _ =>
    obtain rfl : index = 0 := by simpa only [List.length_singleton, Nat.lt_one_iff] using within
    simp only [List.getElem_cons_zero, EndsAttempts, List.length_singleton, Nat.zero_add]
  | spent _ exhausted =>
    obtain rfl : index = 0 := by simpa only [List.length_singleton, Nat.lt_one_iff] using within
    simp only [List.getElem_cons_zero, EndsAttempts, List.length_singleton, Nat.zero_add,
      Nat.add_zero, exhausted]
  | @again number _ _ _ _ failure rest _ _ left others ih =>
    cases index with
    | zero =>
      have more : rest.length ≠ 0 := by
        cases others with
        | broken _ => cases done
        | _ => simp only [List.length_cons, ne_eq, Nat.add_one_ne_zero, not_false_eq_true]
      simp only [List.getElem_cons_zero, EndsAttempts, List.length_cons, Nat.add_zero]
      omega
    | succ index =>
      have step := ih done index (by simpa only [List.length_cons, Nat.add_lt_add_iff_right]
        using within)
      rw [show number + 1 + index = number + (index + 1) by omega] at step
      simpa only [List.getElem_cons_succ, List.length_cons, Nat.add_right_cancel_iff] using step

/-- No attempt has a number past the cap. -/
theorem within_cap {ending : EStateM.Result EngineError (EngineState σ α) Bool}
    (run : engine.Attempting cap exploration strategy number failures suggestions before outcomes
      ending) (allowed : number ≤ max cap 1) : number + outcomes.length ≤ max cap 1 + 1 := by
  induction run with
  | broken _ => simp only [List.length_nil]; omega
  | passed _ => simp only [List.length_singleton]; omega
  | spent _ _ => simp only [List.length_singleton]; omega
  | @again number _ _ _ _ failure rest _ _ left _ ih =>
    have bound : engine.budget cap failure ≤ max cap 1 := budget_le cap failure
    have later := ih (by omega)
    simp only [List.length_cons]
    omega

/-- A run that comes to its end has made an attempt, the last of which passed if one did. -/
theorem getLast?_eq {ending : EStateM.Result EngineError (EngineState σ α) Bool}
    (run : engine.Attempting cap exploration strategy number failures suggestions before outcomes
      ending) (done : ending = .ok passes after) :
    ∃ last, outcomes.getLast? = some last ∧ last.isNone = passes := by
  induction run with
  | broken _ => cases done
  | passed _ => cases done; exact ⟨none, rfl, rfl⟩
  | @spent _ _ _ _ _ failure _ _ => cases done; exact ⟨some failure, rfl, rfl⟩
  | again _ _ _ ih =>
    obtain ⟨last, found, passed⟩ := ih done
    exact ⟨last, by rw [List.getLast?_cons, found]; rfl, passed⟩

/-- All attempts but one that passed leave a record. -/
theorem failureRecords_length {ending : EStateM.Result EngineError (EngineState σ α) Bool}
    (run : engine.Attempting cap exploration strategy number failures suggestions before outcomes
      ending) (done : ending = .ok passes after) :
    (failureRecords number outcomes).length + passes.toNat = outcomes.length := by
  induction run with
  | broken _ => cases done
  | passed _ => cases done; rfl
  | spent _ _ => cases done; rfl
  | again _ _ _ ih =>
    simp only [failureRecords, List.length_cons, ← ih done]
    omega

/-- At its end the iteration counts the attempts and holds a record of each failure. -/
theorem tally {ending : EStateM.Result EngineError (EngineState σ α) Bool}
    (run : engine.Attempting cap exploration strategy number failures suggestions before outcomes
      ending) (done : ending = .ok passes after) :
    after.iteration.attempts + 1 = number + outcomes.length ∧
      after.iteration.failures = before.iteration.failures ++ failureRecords number outcomes := by
  induction run with
  | broken _ => cases done
  | passed tried =>
    cases done
    obtain ⟨counted, kept⟩ := tryOnce_tally tried
    exact ⟨by rw [counted]; rfl, by rw [kept]; simp only [failureRecords, List.append_nil]⟩
  | spent tried _ =>
    cases done
    obtain ⟨counted, kept⟩ := tryOnce_tally tried
    refine ⟨?_, ?_⟩
    · simp only [noteFailure, addFailure, counted, List.length_singleton]
    · simp only [noteFailure, addFailure, kept, failureRecords, failureRecord]
  | again tried _ _ ih =>
    obtain ⟨-, kept⟩ := tryOnce_tally tried
    obtain ⟨counted, recorded⟩ := ih done
    refine ⟨by simp only [List.length_cons]; omega, ?_⟩
    rw [recorded]
    simp only [noteFailure, addFailure, kept, failureRecords, failureRecord, List.append_assoc,
      List.cons_append, List.nil_append]

end Attempting

/-- When the last attempt failed its record is the last, with the number of the attempt. -/
theorem failureRecords_getLast? {number : Nat} {outcomes : List (Option AttemptFailure)}
    {failure : AttemptFailure} (last : outcomes.getLast? = some (some failure)) :
    (failureRecords number outcomes).getLast? =
      some (failureRecord (number + outcomes.length - 1) failure) := by
  induction outcomes generalizing number with
  | nil => cases last
  | cons outcome rest ih =>
    cases rest with
    | nil =>
      obtain rfl : outcome = some failure := by simpa only [List.getLast?_singleton,
        Option.some.injEq] using last
      rfl
    | cons next others =>
      have found := @ih (number + 1) (by simpa only [List.getLast?_cons_cons] using last)
      have place : number + 1 + (next :: others).length - 1
          = number + (outcome :: next :: others).length - 1 := by
        simp only [List.length_cons]
        omega
      rw [place] at found
      cases outcome with
      | none => exact found
      | some earlier =>
        rw [failureRecords, List.getLast?_cons, found]
        rfl

/-- Under a cap that is refused nothing is done. -/
theorem iterate_of_refused (engine : Engine σ) (cap : Nat) (before : EngineState σ α)
    {e : SettingsError} (refused : engine.project.settings.retryPolicy.checkCap cap = .error e) :
    engine.iterate cap before = .error (.settings e) before := by
  simp only [iterate, refused]
  rfl

/-- An iteration that comes to its end was admitted. -/
theorem checkCap_of_iterate {cap : Nat} {before after : EngineState σ α} {result : IterationResult}
    (finished : engine.iterate cap before = .ok result after) :
    engine.project.settings.retryPolicy.checkCap cap = .ok () := by
  cases checked : engine.project.settings.retryPolicy.checkCap cap with
  | ok _ => rfl
  | error e =>
    rw [iterate_of_refused engine cap before checked] at finished
    cases finished

/-- Under an admitted cap an iteration is its preparation, its attempts and its conclusion. -/
theorem iterate_eq {cap : Nat}
    (checked : engine.project.settings.retryPolicy.checkCap cap = .ok ()) :
    (engine.iterate cap : Step σ α IterationResult) = engine.prepare >>= fun plan =>
      engine.attempts cap plan.1 plan.2 cap 1 [] [] >>= engine.conclude plan.2 := by
  simp only [iterate, checked, prepare, bind_assoc, pure_bind]
  rfl

/-- An iteration that comes to its end has come through each of these. -/
theorem iterate_eq_ok {cap : Nat} {before after : EngineState σ α} {result : IterationResult}
    (finished : engine.iterate cap before = .ok result after) :
    ∃ plan start success finish, engine.prepare before = .ok plan start ∧
      engine.attempts cap plan.1 plan.2 cap 1 [] [] start = .ok success finish ∧
      engine.conclude plan.2 success finish = .ok result after := by
  rw [iterate_eq (checkCap_of_iterate finished)] at finished
  obtain ⟨plan, start, prepared, finished⟩ := Step.bind_eq_ok.1 finished
  obtain ⟨success, finish, attempted, concluded⟩ := Step.bind_eq_ok.1 finished
  exact ⟨plan, start, success, finish, prepared, attempted, concluded⟩

/-- The conclusion learns from the iteration with how it came out, and counts it. -/
theorem conclude_eq_ok {strategy : Strategy} {success : Bool} {before after : EngineState σ α}
    {result : IterationResult}
    (concluded : engine.conclude strategy success before = .ok result after) :
    ∃ learnt,
      engine.learn strategy { before with iteration := { before.iteration with success := success } }
        = .ok () learnt ∧
      engine.finishIteration learnt = .ok () after ∧ result = .of after.iteration := by
  obtain ⟨_, noted, changed, concluded⟩ := Step.bind_eq_ok.1 concluded
  obtain ⟨_, learnt, learning, concluded⟩ := Step.bind_eq_ok.1 concluded
  obtain ⟨_, finished, finishing, concluded⟩ := Step.bind_eq_ok.1 concluded
  cases concluded
  cases changed
  exact ⟨learnt, learning, finishing, rfl⟩

/-- The conclusion notes how the attempts came out and leaves their count and the records of
their failures alone. -/
theorem conclude_tally {strategy : Strategy} {success : Bool} {before after : EngineState σ α}
    {result : IterationResult}
    (concluded : engine.conclude strategy success before = .ok result after) :
    result.iteration.success = success ∧
      result.iteration.attempts = before.iteration.attempts ∧
      result.iteration.failures = before.iteration.failures ∧
      result.lastFailure = if success then none else before.iteration.failures.getLast? := by
  obtain ⟨learnt, learning, finishing, rfl⟩ := conclude_eq_ok concluded
  have same : after.iteration.bare = ({ before.iteration with success := success } : Iteration).bare :=
    ((finishIteration_keeps engine unmoved_bare.aside).of_ok finishing).trans
      ((learn_keeps_bare engine strategy).of_ok learning)
  have passed : after.iteration.success = success := by
    simpa only [Iteration.bare] using congrArg Iteration.success same
  have counted : after.iteration.attempts = before.iteration.attempts := by
    simpa only [Iteration.bare] using congrArg Iteration.attempts same
  have recorded : after.iteration.failures = before.iteration.failures := by
    simpa only [Iteration.bare] using congrArg Iteration.failures same
  refine ⟨passed, counted, recorded, ?_⟩
  simp only [IterationResult.of, Iteration.lastFailure?, passed, recorded]

/-- The loop of attempts comes to an end in one way whatever generator and builder do, and an
iteration that comes to its end has made the attempts of that loop: at least one and at most as
many as the cap allows, of which the last is the first that passes or leaves nothing of its
budget. The result counts them and holds a record of each failure by its number; it is a success
when the last attempt passed, and else names the failure of the last. -/
theorem iterate_runs_attempts {cap : Nat} {warnings : List SettingsWarning}
    (validated : engine.project.settings.validate = .ok warnings) (least : 1 ≤ cap)
    (most : cap ≤ engine.project.settings.engine.maxRetries) :
    (∀ (exploration : Exploration) (strategy : Strategy) (start : EngineState σ α),
      ∃ outcomes, engine.Attempting cap exploration strategy 1 [] [] start outcomes
          (engine.attempts cap exploration strategy cap 1 [] [] start) ∧
        ∀ others ending, engine.Attempting cap exploration strategy 1 [] [] start others ending →
          others = outcomes ∧ ending = engine.attempts cap exploration strategy cap 1 [] [] start) ∧
    ∀ (before after : EngineState σ α) (result : IterationResult),
      engine.iterate cap before = .ok result after →
      ∃ plan start finish outcomes,
        engine.prepare before = .ok plan start ∧
        engine.Attempting cap plan.1 plan.2 1 [] [] start outcomes
          (.ok result.iteration.success finish) ∧
        engine.conclude plan.2 result.iteration.success finish = .ok result after ∧
        1 ≤ outcomes.length ∧ outcomes.length ≤ cap ∧
        (∀ index (within : index < outcomes.length),
          engine.EndsAttempts cap (index + 1) outcomes[index] ↔ index + 1 = outcomes.length) ∧
        result.iteration.attempts = outcomes.length ∧
        result.iteration.failures = failureRecords 1 outcomes ∧
        (result.iteration.success = true ↔ outcomes.getLast? = some none) ∧
        result.iteration.failures.length + result.iteration.success.toNat = outcomes.length ∧
        (result.iteration.success = true → result.lastFailure = none) ∧
        ∀ failure, outcomes.getLast? = some (some failure) →
          result.lastFailure = some (failureRecord outcomes.length failure) := by
  have valid := Settings.retryPolicy_isValid validated
  have allowed : 1 ≤ max cap 1 := by omega
  have covered : max cap 1 < 1 + cap := by omega
  refine ⟨?_, ?_⟩
  · intro exploration strategy start
    obtain ⟨outcomes, run⟩ := engine.attempting_attempts exploration strategy cap 1 [] [] start
      allowed covered
    exact ⟨outcomes, run, fun others ending other => run.unique other⟩
  · intro before after result finished
    rw [iterate_eq (RetryPolicy.checkCap_of_le valid least most)] at finished
    obtain ⟨plan, start, prepared, finished⟩ := Step.bind_eq_ok.1 finished
    obtain ⟨success, finish, attempted, concluded⟩ := Step.bind_eq_ok.1 finished
    obtain ⟨outcomes, run⟩ := engine.attempting_attempts plan.1 plan.2 cap 1 [] [] start
      allowed covered
    rw [attempted] at run
    obtain ⟨last, found, passed⟩ := run.getLast?_eq rfl
    obtain ⟨counted, recorded⟩ := run.tally rfl
    obtain ⟨rfl, kept, failed, named⟩ := conclude_tally concluded
    have bound := run.within_cap allowed
    have some_ : outcomes.length ≠ 0 := fun none => by
      rw [List.length_eq_zero_iff.1 none] at found
      cases found
    rw [(prepare_tally prepared).2, List.nil_append] at recorded
    refine ⟨plan, start, finish, outcomes, prepared, run, concluded, by omega, by omega,
      fun index within => ?_, by omega, by rw [failed, recorded], ?_, ?_, ?_, ?_⟩
    · have ends := run.ends_first rfl index within
      rwa [Nat.add_comm 1 index] at ends
    · rw [found, ← passed]
      simp only [Option.isNone_iff_eq_none, Option.some.injEq]
    · rw [failed, recorded]
      exact run.failureRecords_length rfl
    · intro success
      rw [named, if_pos success]
    · intro failure lastFailed
      rw [found] at lastFailed
      cases lastFailed
      have record : (failureRecords 1 outcomes).getLast? =
          some (failureRecord (1 + outcomes.length - 1) failure) := failureRecords_getLast? found
      rw [named, recorded, ← passed, record]
      simp only [Option.isNone_some, Bool.false_eq_true, ↓reduceIte, Nat.add_sub_cancel_left]

end Engine

/-! ### An engine at hand -/

namespace Sample

/-- A generator whose first attempt does not parse and whose second is accepted. -/
def stumbling : Generator Nat where
  name := "stumbling"
  explore _ _ calls := (.ok {}, calls)
  reason _ _ _ calls := (.ok {}, calls)
  generate request calls :=
    if request.attempt == 1 then (.error (.root "parse error"), calls)
    else (.ok ⟨"int main;", request.attempt⟩, calls)
  review _ _ calls := (.ok .pass, calls)

/-- A builder that counts the artifacts it accepts. -/
def counting : Builder Nat where
  build _ calls host := ((.ok .passed, calls + 1), host)

/-- An engine with default settings in the directory it is started from. -/
def engine : Engine Nat where
  project := .ofSettings ⟨""⟩ {}
  generator := stumbling
  builder := counting
  annotations := []
  cancelled _ := false

/-- A host without files on which each look at the clock takes a second. -/
def host : Host := .new ⟨.empty, []⟩ (fun reading => ⟨reading, 0⟩) Identifier.ofNumber

/-- The state at the start of a session. -/
def start : EngineState Nat Float :=
  .new host 0 .empty (.empty ErrorIndex.defaultThreshold) (.new "s" "t" {} ⟨0, 0⟩)

theorem validated : ∃ warnings, engine.project.settings.validate = .ok warnings := by
  have accepted : engine.project.settings.validate.isOk = true := by decide +kernel
  cases checked : engine.project.settings.validate with
  | ok warnings => exact ⟨warnings, rfl⟩
  | error e =>
    rw [checked] at accepted
    cases accepted

theorem stumbling_iterate_runs_attempts :
    ∃ result after outcomes, engine.iterate 2 start = .ok result after ∧
      outcomes.length ≤ 2 ∧ result.iteration.attempts = outcomes.length ∧
      result.iteration.failures = Engine.failureRecords 1 outcomes := by
  obtain ⟨warnings, validated⟩ := validated
  have finishes : (engine.iterate 2).succeeds start = true := by decide +kernel
  obtain ⟨result, after, finished⟩ := Step.succeeds_eq_true.1 finishes
  obtain ⟨_, _, _, outcomes, _, _, _, _, within, _, counted, recorded, _⟩ :=
    (Engine.iterate_runs_attempts validated (by decide : 1 ≤ 2) (by decide)).2 start after result
      finished
  exact ⟨result, after, outcomes, finished, within, counted, recorded⟩

end Sample

end TaskLoop
