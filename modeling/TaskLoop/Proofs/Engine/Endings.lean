import TaskLoop.Proofs.Disk.Append
import TaskLoop.Proofs.Engine.Attempts
import TaskLoop.Proofs.Phase

/-!
What work comes to whether it comes to its end or breaks off. Conditions on a state that go along
with the phases, one before a phase is entered and one for each status it has, are followed through
an iteration up to any step that fails.
-/

set_option autoImplicit false

namespace TaskLoop

namespace Step

variable {σ α β γ δ : Type} {start : EngineState σ α → Prop}
  {between : β → EngineState σ α → Prop} {done : γ → EngineState σ α → Prop}
  {broken : EngineState σ α → Prop}

/-- What work has come to is as asked for, one thing of its end and another of a failure. -/
inductive Came (done : β → EngineState σ α → Prop) (broken : EngineState σ α → Prop) :
    EStateM.Result EngineError (EngineState σ α) β → Prop
  | ok {value : β} {after : EngineState σ α} (held : done value after) :
      Came done broken (.ok value after)
  | error {e : EngineError} {after : EngineState σ α} (held : broken after) :
      Came done broken (.error e after)

theorem Came.and {done' : β → EngineState σ α → Prop} {broken' : EngineState σ α → Prop}
    {done : β → EngineState σ α → Prop}
    {result : EStateM.Result EngineError (EngineState σ α) β} (first : Came done broken result)
    (second : Came done' broken' result) : Came (fun value after => done value after ∧
      done' value after) (fun after => broken after ∧ broken' after) result := by
  cases first with
  | ok held =>
    cases second with
    | ok held' => exact .ok ⟨held, held'⟩
  | error held =>
    cases second with
    | error held' => exact .error ⟨held, held'⟩

/-- Work that begins in states of one kind ends in such as go with its answer, or breaks off in
such as are asked for then. -/
structure Ends (start : EngineState σ α → Prop) (done : β → EngineState σ α → Prop)
    (broken : EngineState σ α → Prop) (step : Step σ α β) : Prop where
  come : ∀ before, start before → Came done broken (step before)

namespace Ends

theorem of_ok {step : Step σ α β} (ends : Ends start between broken step)
    {before after : EngineState σ α} {value : β} (held : start before)
    (ran : step before = .ok value after) : between value after := by
  have came := ends.come before held
  rw [ran] at came
  cases came with
  | ok held => exact held

theorem of_error {step : Step σ α β} (ends : Ends start between broken step)
    {before after : EngineState σ α} {e : EngineError} (held : start before)
    (failed : step before = .error e after) : broken after := by
  have came := ends.come before held
  rw [failed] at came
  cases came with
  | error held => exact held

/-- What both endings lead to. -/
theorem final {step : Step σ α β} {holds : EngineState σ α → Prop}
    (ends : Ends start (fun _ => holds) holds step) {before : EngineState σ α}
    (held : start before) : holds (step.final before) := by
  cases ran : step before with
  | ok value after =>
    rw [final_of_ok ran]
    exact ends.of_ok held ran
  | error e after =>
    rw [final_of_error ran]
    exact ends.of_error held ran

theorem pure {value : γ} (leads : ∀ state, start state → done value state) :
    Ends start done broken (Pure.pure value : Step σ α γ) :=
  ⟨fun state held => .ok (leads state held)⟩

theorem get : Ends start (fun _ => start) broken (MonadState.get : Step σ α (EngineState σ α)) :=
  ⟨fun _ held => .ok held⟩

/-- Work that begins with a look at the state. -/
theorem look {next : EngineState σ α → Step σ α γ}
    (goes : ∀ state, start state → Came done broken (next state state)) :
    Ends start done broken (MonadState.get >>= next) := ⟨goes⟩

theorem bind {step : Step σ α β} {next : β → Step σ α γ} (first : Ends start between broken step)
    (rest : ∀ value, Ends (between value) done broken (next value)) :
    Ends start done broken (step >>= next) := by
  refine ⟨fun before held => ?_⟩
  cases ran : step before with
  | ok value middle =>
    rw [bind_of_ok next ran]
    exact (rest value).come middle (first.of_ok held ran)
  | error e after =>
    rw [bind_of_error next ran]
    exact .error (first.of_error held ran)

theorem mono {step : Step σ α β} {start' broken' : EngineState σ α → Prop}
    {between' : β → EngineState σ α → Prop} (ends : Ends start between broken step)
    (starts : ∀ state, start' state → start state)
    (good : ∀ value state, between value state → between' value state)
    (bad : ∀ state, broken state → broken' state) : Ends start' between' broken' step := by
  refine ⟨fun before held => ?_⟩
  cases ran : step before with
  | ok value after => exact .ok (good value after (ends.of_ok (starts _ held) ran))
  | error e after => exact .error (bad after (ends.of_error (starts _ held) ran))

/-- Work that begins with a change of the state. -/
theorem change {change : EngineState σ α → EngineState σ α} {next : Unit → Step σ α γ}
    (middle : EngineState σ α → Prop) (leads : ∀ state, start state → middle (change state))
    (rest : Ends middle done broken (next ())) :
    Ends start done broken ((modify change : Step σ α Unit) >>= next) :=
  ⟨fun state held => rest.come (change state) (leads state held)⟩

theorem modify {change : EngineState σ α → EngineState σ α} {finish : EngineState σ α → Prop}
    (leads : ∀ state, start state → finish (change state)) :
    Ends start (fun _ => finish) broken (modify change : Step σ α Unit) :=
  ⟨fun state held => .ok (leads state held)⟩

/-- What can be told from a view that is kept goes on to hold. -/
theorem of_keeps {view : EngineState σ α → δ} {step : Step σ α β} (keeps : Keeps view step)
    (holds : δ → Prop) (bad : ∀ state, holds (view state) → broken state) :
    Ends (fun state => holds (view state)) (fun _ state => holds (view state)) broken step := by
  refine ⟨fun before held => ?_⟩
  have same := keeps before
  cases ran : step before with
  | ok value after =>
    rw [final_of_ok ran] at same
    exact .ok (same ▸ held)
  | error e after =>
    rw [final_of_error ran] at same
    exact .error (bad after (same ▸ held))

/-- What work comes to by two accounts. -/
theorem and {step : Step σ α β} {start' broken' : EngineState σ α → Prop}
    {between' : β → EngineState σ α → Prop} (first : Ends start between broken step)
    (second : Ends start' between' broken' step) :
    Ends (fun state => start state ∧ start' state)
      (fun value state => between value state ∧ between' value state)
      (fun state => broken state ∧ broken' state) step :=
  ⟨fun before both => (first.come before both.1).and (second.come before both.2)⟩

/-- Work on the host, by what it comes to there. -/
theorem onHost {ε : Type} {asError : ε → EngineError} {act : Act ε β}
    (ends : ∀ state : EngineState σ α, start state →
      act.Ends state.host (fun value host => between value { state with host := host })
        fun _ host => broken { state with host := host }) :
    Ends start between broken (Step.onHost asError act : Step σ α β) := by
  refine ⟨fun before held => ?_⟩
  have came := ends before held
  simp only [Step.onHost]
  cases ran : act before.host with
  | ok value host => exact .ok (came.of_ok ran)
  | error e host => exact .error (came.of_error ran)

end Ends

end Step

namespace Engine

open Step (Came Ends)
open Phase (Follows Retries)

variable {σ α β : Type}

/-- Conditions that go along with the phases: a phase can be entered, a phase has come to a
status, and work has broken off. -/
structure Machine (engine : Engine σ) (cap : Nat) (ready : Phase → EngineState σ α → Prop)
    (stands : Phase → PhaseStatus → EngineState σ α → Prop) (broken : EngineState σ α → Prop) :
    Prop where
  enter : ∀ phase, Ends (ready phase) (fun _ => stands phase .running) broken (engine.enter phase)
  leave : ∀ phase status started, status.isTerminal = true →
    (phase = .learning → status = .completed) →
    Ends (stands phase .running) (fun _ => stands phase status) broken
      (engine.leave phase status started)
  ask : ∀ phase (β : Type) (call : σ → Except Failure β × σ),
    Ends (stands phase .running) (fun _ => stands phase .running) broken (Step.ask call)
  build : ∀ phase artifact, Ends (stands phase .running) (fun _ => stands phase .running) broken
    (Step.askBuilder (engine.builder.build artifact))
  influence : ∀ phase decision annotations confidence,
    Ends (stands phase .running) (fun _ => stands phase .running) broken
      (Step.recordInfluence decision annotations confidence)
  adopt : ∀ phase strategy state, stands phase .running state →
    stands phase .running { state with session := adoptStrategy strategy state.session }
  follow : ∀ {phase status next}, phase.Follows status next → ∀ state, stands phase status state →
    ready next state
  begin : ∀ {phase status}, phase.Retries status → ∀ number, number ≤ max cap 1 → ∀ state,
    stands phase status state → state.iteration.attempts + 1 = number →
    ready .generation { state with iteration := beginAttempt number state.iteration }
  note : ∀ phase status number failure state, stands phase status state →
    stands phase status (noteFailure number failure state)

/-- The phase an attempt failed in was left so, or the last one was completed. -/
def Judged (stands : Phase → PhaseStatus → EngineState σ α → Prop) (last : Phase) :
    Option AttemptFailure → EngineState σ α → Prop
  | none => stands last .completed
  | some failure => fun state =>
    failure.phase.isRetried = true ∧ stands failure.phase .failed state

/-- Why a generation failed. -/
def refusal? : Except AttemptFailure Artifact → Option AttemptFailure
  | .ok _ => none
  | .error failure => some failure

/-- The state before an attempt of a number. -/
def Before (stands : Phase → PhaseStatus → EngineState σ α → Prop) (number : Nat)
    (state : EngineState σ α) : Prop :=
  (∃ phase status, phase.Retries status ∧ stands phase status state) ∧
    state.iteration.attempts + 1 = number

/-- A phase that another can follow was left. -/
def Behind (stands : Phase → PhaseStatus → EngineState σ α → Prop) (next : Phase)
    (state : EngineState σ α) : Prop :=
  ∃ phase status, phase.Follows status next ∧ stands phase status state

namespace Machine

variable {engine : Engine σ} {cap : Nat} {ready : Phase → EngineState σ α → Prop}
  {stands : Phase → PhaseStatus → EngineState σ α → Prop} {broken : EngineState σ α → Prop}
  (machine : engine.Machine cap ready stands broken)

include machine

/-- A phase other than learning is left, and the answer given. -/
theorem left (phase : Phase) (status : PhaseStatus) {done : β → EngineState σ α → Prop}
    (other : phase ≠ .learning) (ended : status.isTerminal = true) (started : Timestamp)
    (answer : β) (settles : ∀ state, stands phase status state → done answer state) :
    Ends (stands phase .running) done broken (do
      engine.leave phase status started
      return answer : Step σ α β) := by
  exact Ends.bind (machine.leave phase status started ended fun same => absurd same other)
    fun _ => Ends.pure settles

theorem firstReply (phase : Phase) (call : σ → Except Failure β × σ) (attempts : Nat) :
    Ends (stands phase .running) (fun _ => stands phase .running) broken
      (firstReply (Step.ask call) attempts) := by
  induction attempts with
  | zero => exact Ends.pure fun _ => id
  | succ attempts ih =>
    refine Ends.bind (machine.ask phase β call) fun reply => ?_
    cases reply with
    | ok reply => exact Ends.pure fun _ => id
    | error _ => exact ih

theorem explore : Ends (ready .exploration)
    (fun _ => Behind stands .reasoning) broken (engine.explore : Step σ α Exploration) := by
  refine Ends.bind (machine.enter _) fun started => Ends.bind Ends.get fun _ => ?_
  refine Ends.bind (machine.firstReply _ _ _) fun reply => ?_
  cases reply with
  | some exploration =>
    refine Ends.bind (machine.influence _ _ _ _) fun _ => ?_
    exact machine.left .exploration .completed (by decide) rfl started _ fun _ left => ⟨_, _, .planned rfl, left⟩
  | none => exact machine.left .exploration .failed (by decide) rfl started _ fun _ left =>
      ⟨_, _, .planned rfl, left⟩

theorem reason (exploration : Exploration) : Ends (Behind stands .reasoning)
    (fun _ state => ∃ phase status, phase.Retries status ∧ stands phase status state) broken
      (engine.reason exploration : Step σ α Strategy) := by
  have entered : Ends (Behind stands .reasoning) (fun _ => stands .reasoning .running) broken
      (engine.enter .reasoning) :=
    (machine.enter _).mono (fun _ ⟨_, _, follows, left⟩ => machine.follow follows _ left)
      (fun _ _ => id) fun _ => id
  refine Ends.bind entered fun started => Ends.bind Ends.get fun _ => ?_
  refine Ends.bind (machine.firstReply _ _ _) fun reply => ?_
  cases reply with
  | some strategy =>
    refine Ends.bind (Ends.modify (machine.adopt _ strategy)) fun _ => ?_
    refine Ends.bind (machine.influence _ _ _ _) fun _ => ?_
    exact machine.left .reasoning .completed (by decide) rfl started _ fun _ left => ⟨_, _, .planned rfl, left⟩
  | none => exact machine.left .reasoning .failed (by decide) rfl started _ fun _ left =>
      ⟨_, _, .planned rfl, left⟩

theorem generate (request : GenerationRequest) : Ends (ready .generation)
    (fun reply => Judged stands .generation (refusal? reply)) broken
      (engine.generate request : Step σ α (Except AttemptFailure Artifact)) := by
  refine Ends.bind (machine.enter _) fun started => Ends.bind (machine.ask _ _ _) fun reply => ?_
  cases reply with
  | ok artifact =>
    refine Ends.bind (machine.influence _ _ _ _) fun _ => ?_
    exact machine.left .generation .completed (by decide) rfl started _ fun _ => id
  | error failure => exact machine.left .generation .failed (by decide) rfl started _ fun _ left => ⟨rfl, left⟩

theorem review (request : GenerationRequest) (artifact : Artifact) :
    Ends (stands .generation .completed) (fun failed => Judged stands .review failed) broken
      (engine.review request artifact : Step σ α (Option AttemptFailure)) := by
  have settled (rejection : Option String) (started : Timestamp) :
      Ends (stands .review .running) (fun failed => Judged stands .review failed) broken
        (engine.endReview started rejection) := by
    cases rejection with
    | some message => exact machine.left .review .failed (by decide) rfl started _ fun _ left => ⟨rfl, left⟩
    | none => exact machine.left .review .completed (by decide) rfl started _ fun _ => id
  have entered : Ends (stands .generation .completed) (fun _ => stands .review .running) broken
      (engine.enter .review) :=
    (machine.enter _).mono (machine.follow .generated) (fun _ _ => id) fun _ => id
  refine Ends.bind entered fun started => Ends.bind (machine.ask _ _ _) fun reply => ?_
  cases reply with
  | ok findings =>
    refine Ends.bind (machine.influence _ _ _ _) fun _ => ?_
    exact Ends.bind (Ends.pure fun _ => id) fun rejection => settled rejection started
  | error failure => exact Ends.bind (Ends.pure fun _ => id) fun rejection => settled rejection started

theorem compile (artifact : Artifact) :
    Ends (stands .review .completed) (fun failed => Judged stands .compilation failed) broken
      (engine.compile artifact : Step σ α (Option AttemptFailure)) := by
  have settled (failure : Option String) (started : Timestamp) :
      Ends (stands .compilation .running) (fun failed => Judged stands .compilation failed) broken
        (do
          engine.leave .compilation (if failure.isSome then .failed else .completed) started
          return failure.map fun message => ⟨.compilation, message⟩ :
            Step σ α (Option AttemptFailure)) := by
    cases failure with
    | some message => exact machine.left .compilation .failed (by decide) rfl started _ fun _ left => ⟨rfl, left⟩
    | none => exact machine.left .compilation .completed (by decide) rfl started _ fun _ => id
  have entered : Ends (stands .review .completed) (fun _ => stands .compilation .running) broken
      (engine.enter .compilation) :=
    (machine.enter _).mono (machine.follow .reviewed) (fun _ _ => id) fun _ => id
  refine Ends.bind entered fun started => Ends.bind (machine.build _ artifact) fun reply => ?_
  exact settled _ started

theorem attempt (request : GenerationRequest) : Ends (ready .generation)
    (fun failed => Judged stands .compilation failed) broken
      (engine.attempt request : Step σ α (Option AttemptFailure)) := by
  refine Ends.bind (machine.generate request) fun generated => ?_
  cases generated with
  | error failure => exact Ends.pure fun _ => id
  | ok artifact =>
    refine Ends.bind (machine.review request artifact) fun reviewed => ?_
    cases reviewed with
    | some failure => exact Ends.pure fun _ => id
    | none => exact machine.compile artifact

theorem tryOnce (exploration : Exploration) (strategy : Strategy) {number : Nat}
    (failures suggestions : List String) (allowed : number ≤ max cap 1) :
    Ends (Before stands number) (fun failed => Judged stands .compilation failed) broken
      (engine.tryOnce exploration strategy number failures suggestions) := by
  have begun : Ends (Before stands number) (fun _ => ready .generation) broken
      (Step.changeIteration (beginAttempt number) : Step σ α Unit) :=
    Ends.modify fun state ⟨⟨_, _, retries, left⟩, counted⟩ =>
      machine.begin retries number allowed state left counted
  exact Ends.bind begun fun _ => Ends.bind Ends.get fun _ => machine.attempt _

theorem prepare {start : EngineState σ α → Prop}
    (begun : Ends start (fun _ => ready .exploration) broken
      (engine.beginIteration : Step σ α Unit)) :
    Ends start (fun _ state => ∃ phase status, phase.Retries status ∧ stands phase status state)
      broken (engine.prepare : Step σ α (Exploration × Strategy)) := by
  refine Ends.bind begun fun _ => Ends.bind machine.explore fun exploration => ?_
  exact Ends.bind (machine.reason exploration) fun strategy => Ends.pure fun _ => id

variable [Arithmetic α]

/-- The attempts end as the last of them did. -/
theorem attempting_judged {exploration : Exploration} {strategy : Strategy} {number : Nat}
    {failures suggestions : List String} {before : EngineState σ α}
    {outcomes : List (Option AttemptFailure)}
    {ending : EStateM.Result EngineError (EngineState σ α) Bool}
    (run : engine.Attempting cap exploration strategy number failures suggestions before outcomes
      ending) (allowed : number ≤ max cap 1) (held : Before stands number before) :
    Came (fun _ state => ∃ last, outcomes.getLast? = some last ∧
      Judged stands .compilation last state) broken ending := by
  induction run with
  | broken tried => exact .error ((machine.tryOnce _ _ _ _ allowed).of_error held tried)
  | passed tried => exact .ok ⟨none, rfl, (machine.tryOnce _ _ _ _ allowed).of_ok held tried⟩
  | spent tried _ =>
    obtain ⟨retried, left⟩ := (machine.tryOnce _ _ _ _ allowed).of_ok held tried
    exact .ok ⟨_, rfl, retried, machine.note _ _ _ _ _ left⟩
  | again tried remaining _ ih =>
    obtain ⟨retried, left⟩ := (machine.tryOnce _ _ _ _ allowed).of_ok held tried
    have next := ih (Nat.le_trans remaining (engine.budget_le cap _))
      ⟨⟨_, _, .failed retried, machine.note _ _ _ _ _ left⟩,
        congrArg (· + 1) (tryOnce_tally tried).1⟩
    cases next with
    | ok judged =>
      obtain ⟨last, found, how⟩ := judged
      exact .ok ⟨last, by rw [List.getLast?_cons, found]; rfl, how⟩
    | error fault => exact .error fault

/-- The attempts end behind one that passed or one that failed. -/
theorem attempting {exploration : Exploration} {strategy : Strategy} {number : Nat}
    {failures suggestions : List String} {before : EngineState σ α}
    {outcomes : List (Option AttemptFailure)}
    {ending : EStateM.Result EngineError (EngineState σ α) Bool}
    (run : engine.Attempting cap exploration strategy number failures suggestions before outcomes
      ending) (allowed : number ≤ max cap 1) (held : Before stands number before) :
    Came (fun _ => Behind stands .learning) broken ending := by
  cases machine.attempting_judged run allowed held with
  | ok judged =>
    obtain ⟨last, -, how⟩ := judged
    cases last with
    | none => exact .ok ⟨_, _, .passed, how⟩
    | some failure => exact .ok ⟨_, _, .failed how.1, how.2⟩
  | error fault => exact .error fault

/-- Up to the end of the attempts. -/
theorem attempts {number : Nat} (exploration : Exploration) (strategy : Strategy)
    (failures suggestions : List String) (remaining : Nat) (allowed : number ≤ max cap 1)
    (covered : max cap 1 < number + remaining) :
    Ends (Before stands number) (fun _ => Behind stands .learning) broken
      (engine.attempts cap exploration strategy remaining number failures suggestions) := by
  refine ⟨fun before held => ?_⟩
  obtain ⟨outcomes, run⟩ := engine.attempting_attempts exploration strategy remaining number
    failures suggestions before allowed covered
  exact machine.attempting run allowed held

end Machine

/-! ### Learning -/

/-- Conditions that go along with the phases and hold on while an iteration is learnt from. -/
structure Learner [Arithmetic α] (engine : Engine σ) (cap : Nat)
    (ready : Phase → EngineState σ α → Prop)
    (stands : Phase → PhaseStatus → EngineState σ α → Prop) (broken : EngineState σ α → Prop) :
    Prop extends engine.Machine cap ready stands broken where
  settle : ∀ phase status success state, stands phase status state →
    stands phase status { state with
      iteration := { state.iteration with success := success } }
  clock : Ends (stands .learning .running) (fun _ => stands .learning .running) broken Step.now
  record : ∀ message now state, stands .learning .running state →
    stands .learning .running { state with index := (state.index.recordError message now).2 }
  resolve : ∀ {hash note record index} state, state.index.markResolved hash note =
    .ok (record, index) → stands .learning .running state →
    stands .learning .running { state with index := index }
  unresolved : ∀ state, stands .learning .running state → broken state
  observe : ∀ (phase : Phase) complexity outcome now later state, stands .learning .running state →
    stands .learning .running { state with
      table := state.table.recordOutcome phase.patternId (some complexity) outcome now later }
  saveErrors : ∀ state, stands .learning .running state →
    Came (fun _ => stands .learning .running) broken
      (Step.onHost .store (state.index.save engine.project.errorsFile) state)
  savePatterns : ∀ state, stands .learning .running state →
    Came (fun _ => stands .learning .running) broken
      (Step.onHost .store (Pattern.Table.save state.table engine.project.patternsFile) state)

/-- What an iteration does before it is counted. -/
def perform [Arithmetic α] (engine : Engine σ) (cap : Nat) : Step σ α Unit := do
  let plan ← engine.prepare
  let success ← engine.attempts cap plan.1 plan.2 cap 1 [] []
  Step.changeIteration fun iteration => { iteration with success := success }
  engine.learn plan.2

namespace Learner

variable [Arithmetic α] {engine : Engine σ} {cap : Nat} {ready : Phase → EngineState σ α → Prop}
  {stands : Phase → PhaseStatus → EngineState σ α → Prop} {broken : EngineState σ α → Prop}
  (learner : engine.Learner cap ready stands broken)

include learner

theorem recordFailures (failures : List FailedAttempt) :
    Ends (stands .learning .running) (fun _ => stands .learning .running) broken
      (recordFailures failures : Step σ α (List String)) := by
  induction failures with
  | nil => exact Ends.pure fun _ => id
  | cons failure rest ih =>
    refine Ends.bind learner.clock fun now => Ends.look fun state held => ?_
    have others : Ends (stands .learning .running) (fun _ => stands .learning .running) broken
        (Engine.recordFailures rest >>= fun hashes =>
          pure ((state.index.recordError failure.message now).1.hash :: hashes)) :=
      Ends.bind ih fun _ => Ends.pure fun _ => id
    exact others.come _ (learner.record failure.message now state held)

theorem resolveAll (note : String) (hashes : List String) :
    Ends (stands .learning .running) (fun _ => stands .learning .running) broken
      (resolveAll note hashes : Step σ α Unit) := by
  induction hashes with
  | nil => exact Ends.pure fun _ => id
  | cons hash rest ih =>
    refine Ends.look fun state held => ?_
    dsimp only
    split
    · cases marked : state.index.markResolved hash note with
      | ok answer => exact ih.come _ (learner.resolve state marked held)
      | error e => exact .error (learner.unresolved state held)
    · exact ih.come state held

theorem recordOutcomes (iteration : Iteration) (complexity : Complexity) (phases : List Phase) :
    Ends (stands .learning .running) (fun _ => stands .learning .running) broken
      (recordOutcomes iteration complexity phases : Step σ α Unit) := by
  induction phases with
  | nil => exact Ends.pure fun _ => id
  | cons phase rest ih =>
    simp only [Engine.recordOutcomes]
    split
    · exact ih
    · rename_i outcome _
      refine Ends.bind learner.clock fun now => Ends.bind learner.clock fun later => ?_
      exact Ends.bind (Ends.modify (learner.observe phase complexity outcome now later)) fun _ => ih

/-- Both stores are written. -/
theorem save : Ends (stands .learning .running) (fun _ => stands .learning .running) broken (do
    let state ← get
    Step.onHost .store (state.index.save engine.project.errorsFile)
    Step.onHost .store (Pattern.Table.save state.table engine.project.patternsFile) :
      Step σ α Unit) := by
  refine Ends.look fun state held => ?_
  have first := learner.saveErrors state held
  cases saving : (Step.onHost .store (state.index.save engine.project.errorsFile) :
      Step σ α Unit) state with
  | error e after =>
    rw [Step.bind_of_error _ saving]
    rw [saving] at first
    cases first with
    | error held => exact .error held
  | ok _ saved =>
    rw [Step.bind_of_ok _ saving]
    rw [saving] at first
    obtain ⟨host, -, rfl⟩ := Step.onHost_eq_ok.1 saving
    cases first with
    | ok held => exact learner.savePatterns { state with host := host } held

theorem storeLearnt (iteration : Iteration) (started : Timestamp) :
    Ends (stands .learning .running) (fun _ => stands .learning .completed) broken
      (engine.storeLearnt iteration started : Step σ α Unit) := by
  refine Ends.bind Ends.get fun _ => Ends.bind (learner.recordOutcomes _ _ _) fun _ => ?_
  have left : Ends (stands .learning .running) (fun _ => stands .learning .completed) broken
      (engine.leave .learning .completed started) :=
    learner.leave .learning .completed started rfl fun _ => rfl
  simpa only [bind_assoc] using Ends.bind learner.save fun _ => left

theorem learn (strategy : Strategy) : Ends (Behind stands .learning)
    (fun _ => stands .learning .completed) broken (engine.learn strategy : Step σ α Unit) := by
  have entered : Ends (Behind stands .learning) (fun _ => stands .learning .running) broken
      (engine.enter .learning) :=
    (learner.enter _).mono (fun _ ⟨_, _, follows, left⟩ => learner.follow follows _ left)
      (fun _ _ => id) fun _ => id
  rw [learn_eq]
  refine Ends.bind entered fun started => Ends.bind Ends.get fun state => ?_
  refine Ends.bind (learner.recordFailures _) fun hashes => Ends.bind ?_ fun _ =>
    learner.storeLearnt _ started
  split
  · exact learner.resolveAll _ _
  · exact Ends.pure fun _ => id

/-- All an iteration does before it is counted. -/
theorem perform {start : EngineState σ α → Prop} (positive : 1 ≤ cap)
    (begun : Ends start (fun _ => ready .exploration) broken
      (engine.beginIteration : Step σ α Unit)) :
    Ends start (fun _ => stands .learning .completed) broken
      (engine.perform cap : Step σ α Unit) := by
  have settled {success : Bool} : Ends (Behind stands .learning) (fun _ => Behind stands .learning)
      broken (Step.changeIteration fun iteration => { iteration with success := success } :
        Step σ α Unit) :=
    Ends.modify fun state ⟨_, _, follows, left⟩ =>
      ⟨_, _, follows, learner.settle _ _ success state left⟩
  have tried (plan : Exploration × Strategy) : Ends
      (fun state => (∃ phase status, phase.Retries status ∧ stands phase status state) ∧
        state.iteration.attempts = 0)
      (fun _ => stands .learning .completed) broken (do
        let success ← engine.attempts cap plan.1 plan.2 cap 1 [] []
        Step.changeIteration fun iteration => { iteration with success := success }
        engine.learn plan.2 : Step σ α Unit) := by
    refine Ends.bind ((learner.attempts plan.1 plan.2 [] [] cap (Nat.le_max_right _ _)
      (by omega)).mono (fun state held => ?_) (fun _ _ => id) fun _ => id) fun success => ?_
    · exact ⟨held.1, by rw [held.2]⟩
    · exact Ends.bind settled fun _ => learner.learn plan.2
  have prepared : Ends start (fun _ state =>
      (∃ phase status, phase.Retries status ∧ stands phase status state) ∧
        state.iteration.attempts = 0) broken (engine.prepare : Step σ α _) := by
    refine ⟨fun before held => ?_⟩
    cases ran : engine.prepare before with
    | ok plan ready =>
      exact .ok ⟨(learner.prepare begun).of_ok held ran, (prepare_tally ran).1⟩
    | error e after => exact .error ((learner.prepare begun).of_error held ran)
  exact Ends.bind prepared tried

end Learner

/-! ### A condition that holds throughout -/

/-- A condition on the state that no step of an iteration breaks before the iteration is counted,
whether it fails or not. -/
structure Steady [Arithmetic α] (engine : Engine σ) (holds : EngineState σ α → Prop) : Prop where
  clock : Ends holds (fun _ => holds) holds Step.now
  agents : ∀ agents state, holds state → holds { state with agents := agents }
  build : ∀ artifact state, holds state → holds { state with
    agents := (engine.builder.build artifact state.agents state.host).1.2
    host := (engine.builder.build artifact state.agents state.host).2 }
  influence : ∀ index decision annotations confidence now state, holds state →
    holds { state with
      session := state.session.recordInfluence index decision annotations confidence now }
  adopt : ∀ strategy state, holds state →
    holds { state with session := adoptStrategy strategy state.session }
  iteration : ∀ iteration state, holds state → holds { state with iteration := iteration }
  snapshot : ∀ snapshot state, holds state → holds { state with snapshot := snapshot }
  status : Ends holds (fun _ => holds) holds engine.writeStatus
  record : ∀ message now state, holds state →
    holds { state with index := (state.index.recordError message now).2 }
  resolve : ∀ {hash note record index} state,
    state.index.markResolved hash note = .ok (record, index) → holds state →
    holds { state with index := index }
  observe : ∀ (phase : Phase) complexity outcome now later state, holds state → holds { state with
    table := state.table.recordOutcome phase.patternId (some complexity) outcome now later }
  saveErrors : ∀ state, holds state → Came (fun _ => holds) holds
    (Step.onHost .store (state.index.save engine.project.errorsFile) state)
  savePatterns : ∀ state, holds state → Came (fun _ => holds) holds
    (Step.onHost .store (Pattern.Table.save state.table engine.project.patternsFile) state)

namespace Steady

variable [Arithmetic α] {engine : Engine σ} {holds : EngineState σ α → Prop}
  (steady : engine.Steady holds)

include steady

theorem machine (cap : Nat) :
    engine.Machine cap (fun _ => holds) (fun _ _ => holds) holds where
  enter phase := by
    refine Ends.bind (Ends.modify fun state => steady.iteration _ state) fun _ => ?_
    refine Ends.bind (Ends.modify fun state => steady.snapshot _ state) fun _ => ?_
    exact Ends.bind steady.status fun _ => steady.clock
  leave phase status started _ _ := by
    refine Ends.bind steady.clock fun now => ?_
    exact Ends.bind (Ends.modify fun state => steady.iteration _ state) fun _ => steady.status
  ask phase β call := ⟨fun state held => .ok (steady.agents _ state held)⟩
  build phase artifact := ⟨fun state held => .ok (steady.build artifact state held)⟩
  influence phase decision annotations confidence := by
    refine Ends.bind steady.clock fun now => ?_
    exact Ends.modify fun state => steady.influence _ _ _ _ _ state
  adopt phase strategy := steady.adopt strategy
  follow _ _ := id
  begin _ number _ state held _ := steady.iteration _ state held
  note _ _ _ _ state := steady.iteration _ state

/-- What holds of two conditions holds of both. -/
theorem and {others : EngineState σ α → Prop} (second : engine.Steady others) :
    engine.Steady fun state => holds state ∧ others state where
  clock := steady.clock.and second.clock
  agents agents state both :=
    ⟨steady.agents agents state both.1, second.agents agents state both.2⟩
  build artifact state both :=
    ⟨steady.build artifact state both.1, second.build artifact state both.2⟩
  influence index decision annotations confidence now state both :=
    ⟨steady.influence index decision annotations confidence now state both.1,
      second.influence index decision annotations confidence now state both.2⟩
  adopt strategy state both :=
    ⟨steady.adopt strategy state both.1, second.adopt strategy state both.2⟩
  iteration iteration state both :=
    ⟨steady.iteration iteration state both.1, second.iteration iteration state both.2⟩
  snapshot snapshot state both :=
    ⟨steady.snapshot snapshot state both.1, second.snapshot snapshot state both.2⟩
  status := steady.status.and second.status
  record message now state both :=
    ⟨steady.record message now state both.1, second.record message now state both.2⟩
  resolve state marked both :=
    ⟨steady.resolve state marked both.1, second.resolve state marked both.2⟩
  observe phase complexity outcome now later state both :=
    ⟨steady.observe phase complexity outcome now later state both.1,
      second.observe phase complexity outcome now later state both.2⟩
  saveErrors state both := (steady.saveErrors state both.1).and (second.saveErrors state both.2)
  savePatterns state both :=
    (steady.savePatterns state both.1).and (second.savePatterns state both.2)

theorem learner (cap : Nat) :
    engine.Learner cap (fun _ => holds) (fun _ _ => holds) holds where
  toMachine := steady.machine cap
  settle _ _ _ state := steady.iteration _ state
  clock := steady.clock
  record := steady.record
  resolve := steady.resolve
  unresolved _ := id
  observe := steady.observe
  saveErrors := steady.saveErrors
  savePatterns := steady.savePatterns

theorem beginIteration : Ends holds (fun _ => holds) holds
    (engine.beginIteration : Step σ α Unit) := by
  refine Ends.bind steady.clock fun started => Ends.bind steady.clock fun shown => ?_
  refine Ends.modify fun state held => ?_
  let begun := Iteration.new (state.session.completedIterations + 1) state.session.task started
  exact steady.snapshot _ { state with iteration := begun } (steady.iteration begun state held)

end Steady

variable [Arithmetic α] {engine : Engine σ}

/-- What holds of a session whatever informs it and whatever strategy it adopts holds of it until an
iteration is counted. -/
theorem steady_session (holds : Session → Prop)
    (informed : ∀ {session : Session}, holds session → ∀ iteration decision annotations confidence
      now, holds (session.recordInfluence iteration decision annotations confidence now))
    (adopts : ∀ {session : Session}, holds session → ∀ summary, holds { session with
      context := { session.context with strategy := some summary } }) :
    engine.Steady (α := α) fun state => holds state.session where
  clock := Ends.of_keeps (Step.Keeps.onHost _ _ fun _ _ => rfl) holds fun _ => id
  agents _ _ := id
  build _ _ := id
  influence _ _ _ _ _ _ held := informed held _ _ _ _ _
  adopt strategy _ held := by
    rw [adoptStrategy]
    split
    · exact held
    · exact adopts held _
  iteration _ _ := id
  snapshot _ _ := id
  status := Ends.of_keeps (writeStatus_keeps_session engine) holds fun _ => id
  record _ _ _ := id
  resolve _ _ := id
  observe _ _ _ _ _ _ := id
  saveErrors state := (Ends.of_keeps (Step.Keeps.onHost _ _ fun _ _ => rfl) holds
    fun _ => id).come state
  savePatterns state := (Ends.of_keeps (Step.Keeps.onHost _ _ fun _ _ => rfl) holds
    fun _ => id).come state

/-- An iteration is what it does before it is counted, and the count. -/
theorem iterate_eq_perform {cap : Nat}
    (checked : engine.project.settings.retryPolicy.checkCap cap = .ok ()) :
    (engine.iterate cap : Step σ α IterationResult) = (do
      engine.perform cap
      engine.finishIteration
      return .of (← get).iteration) := by
  rw [iterate_eq checked]
  simp only [perform, bind_assoc]
  rfl

end Engine

end TaskLoop
