import TaskLoop.Generator.Basic
import TaskLoop.Proofs.Engine.Endings
import TaskLoop.Proofs.Engine.Learning
import TaskLoop.Proofs.Engine.Noting

/-!
What the attempts of an iteration are told. Each is asked for the same task under the same plan,
with the messages of the failures before it and the notes on failures like the latest, as the index
knew them when the iteration began. A prompt tells what the task is and what is known of it, then
the latest failures, then the fixes of failures like them.
-/

set_option autoImplicit false

namespace TaskLoop

namespace GenerationRequest

/-! ### Prompts -/

/-- Lines below a heading, or nothing when there are none. -/
def listed (heading : String) (lines : List String) : String :=
  if lines.isEmpty then "" else heading ++ String.join (lines.map bullet)

/-- The heading of the failures in a prompt. -/
def failureHeading : String := "\nPrevious attempts failed with:\n"

/-- The heading of the fixes in a prompt. -/
def fixHeading : String := "\nFixes that worked for similar errors:\n"

/-- The request without what it says of earlier attempts. -/
def fresh (request : GenerationRequest) : GenerationRequest :=
  { request with failures := [], suggestions := [] }

theorem isEmpty_lastFailures (failures : List String) :
    (lastItems failureWindow failures).isEmpty = failures.isEmpty := by
  rw [Bool.eq_iff_iff, List.isEmpty_iff_length_eq_zero, List.isEmpty_iff_length_eq_zero,
    length_lastItems, failureWindow]
  omega

theorem join_listed (heading : String) (lines : List String) :
    String.join (if lines.isEmpty then [] else heading :: lines.map bullet) =
      listed heading lines := by
  rw [listed]
  split
  · rfl
  · exact String.join_cons

/-- What is said of earlier attempts stands below lines that do not depend on it. -/
theorem join_prompt (taskLines failures suggestions : List String) :
    String.join (taskLines ++
        (if failures.isEmpty then []
          else failureHeading :: (lastItems failureWindow failures).map bullet) ++
        (if suggestions.isEmpty then [] else fixHeading :: suggestions.map bullet)) =
      String.join taskLines ++ listed failureHeading (lastItems failureWindow failures) ++
        listed fixHeading suggestions := by
  rw [String.join_append, String.join_append, join_listed, ← isEmpty_lastFailures, join_listed]

/-- A prompt is that of the request without what it says of earlier attempts, with the latest
failures below it and then the fixes. -/
theorem prompt_eq (request : GenerationRequest) : request.prompt =
    request.fresh.prompt ++ listed failureHeading (lastItems failureWindow request.failures) ++
      listed fixHeading request.suggestions := by
  have bare : request.fresh.prompt = _ := (join_prompt _ [] []).trans
    ((String.append_empty).trans String.append_empty)
  rw [bare]
  exact join_prompt _ request.failures request.suggestions

end GenerationRequest

/-! ### Iterations -/

/-- The messages of the failures of an iteration. -/
def Iteration.messages (iteration : Iteration) : List String :=
  iteration.failures.map FailedAttempt.message

namespace Step.Keeps

variable {σ α β γ δ : Type} {view : EngineState σ α → δ}

/-- What is told from a view that is kept is kept. -/
theorem map {step : Step σ α β} (keeps : Keeps view step) (part : δ → γ) :
    Keeps (fun state => part (view state)) step := fun before => congrArg part (keeps before)

end Step.Keeps

namespace Engine

open Step (Came Ends Keeps)

variable {σ α β : Type} (engine : Engine σ)

/-- The requests for an artifact that an iteration makes, whether it comes to its end or not. -/
def requests [Arithmetic α] (cap : Nat) (before : EngineState σ α) : List GenerationRequest :=
  ((engine.noting.iterate cap).final before.noting).agents.2

/-- The notes on failures like the one before an attempt of some place. -/
def hints [Arithmetic α] (index : ErrorIndex α) (messages : List String) : Nat → List String
  | 0 => []
  | earlier + 1 => (messages[earlier]?.map fun message =>
      index.suggest message engine.project.settings.similarity.top).getD []

/-- The request of the attempt of some place, counted from nought, in an iteration whose attempts
fail with some messages. -/
def told [Arithmetic α] (index : ErrorIndex α) (first : GenerationRequest)
    (messages : List String) (place : Nat) : GenerationRequest :=
  { first with
    attempt := place + 1
    failures := messages.take place
    suggestions := engine.hints index messages place }

/-! ### What is noted -/

/-- The requests noted, and what a request takes from the session. -/
abbrev requestView (state : EngineState (Noted σ) α) :
    List GenerationRequest × String × TaskContext :=
  (state.agents.2, state.session.task, state.session.context)

theorem writeStatus_keeps_requests :
    Keeps requestView (engine.noting.writeStatus : Step (Noted σ) α Unit) := by
  refine Keeps.bind (Keeps.modify fun _ => rfl) fun _ => Keeps.bind Keeps.get fun _ => ?_
  exact Keeps.bind (Keeps.onHost _ _ fun _ _ => rfl) fun _ => Keeps.modify fun _ => rfl

theorem enter_keeps_requests (phase : Phase) :
    Keeps requestView (engine.noting.enter phase : Step (Noted σ) α Timestamp) := by
  refine Keeps.bind (Keeps.changeIteration fun _ => rfl) fun _ => ?_
  refine Keeps.bind (Keeps.modify fun _ => rfl) fun _ => ?_
  exact Keeps.bind (writeStatus_keeps_requests engine) fun _ => Keeps.onHost _ _ fun _ _ => rfl

theorem leave_keeps_requests (phase : Phase) (status : PhaseStatus) (started : Timestamp) :
    Keeps requestView (engine.noting.leave phase status started : Step (Noted σ) α Unit) := by
  refine Keeps.bind (Keeps.onHost _ _ fun _ _ => rfl) fun _ => ?_
  exact Keeps.bind (Keeps.changeIteration fun _ => rfl) fun _ => writeStatus_keeps_requests engine

theorem left_keeps_requests (phase : Phase) (status : PhaseStatus) (started : Timestamp)
    (answer : β) : Keeps requestView (engine.noting.leave phase status started >>= fun _ =>
      pure answer : Step (Noted σ) α β) :=
  Keeps.bind (leave_keeps_requests engine phase status started) fun _ => Keeps.pure answer

theorem recordInfluence_keeps_requests (decision : Decision) (annotations : List String)
    (confidence : Float) : Keeps requestView
      (Step.recordInfluence decision annotations confidence : Step (Noted σ) α Unit) :=
  Keeps.bind (Keeps.onHost _ _ fun _ _ => rfl) fun _ => Keeps.modify fun _ => rfl

/-- A call beside the notes changes none. -/
theorem ask_keeps_requests (call : σ → Except Failure β × σ) :
    Keeps requestView (Step.ask (besideNotes call) : Step (Noted σ) α (Except Failure β)) :=
  fun _ => rfl

theorem explore_keeps_requests :
    Keeps requestView (engine.noting.explore : Step (Noted σ) α Exploration) := by
  refine Keeps.bind (enter_keeps_requests engine _) fun started => Keeps.bind Keeps.get fun _ => ?_
  refine Keeps.bind (firstReply_keeps (ask_keeps_requests _) _) fun reply => ?_
  cases reply with
  | some exploration =>
    refine Keeps.bind (recordInfluence_keeps_requests _ _ _) fun _ => ?_
    exact left_keeps_requests engine _ _ _ _
  | none => exact left_keeps_requests engine _ _ _ _

/-- To make a plan may change the context, but requests nothing and leaves the task. -/
theorem reason_keeps_requests (exploration : Exploration) :
    Keeps (fun state => (state.agents.2, state.session.task))
      (engine.noting.reason exploration : Step (Noted σ) α Strategy) := by
  have both {γ : Type} {step : Step (Noted σ) α γ} (keeps : Keeps requestView step) :
      Keeps (fun state => (state.agents.2, state.session.task)) step :=
    keeps.map fun view => (view.1, view.2.1)
  refine Keeps.bind (both (enter_keeps_requests engine _)) fun started => ?_
  refine Keeps.bind Keeps.get fun _ => ?_
  refine Keeps.bind (both (firstReply_keeps (ask_keeps_requests _) _)) fun reply => ?_
  cases reply with
  | some strategy =>
    refine Keeps.bind (Keeps.changeSession fun state => ?_) fun _ => ?_
    · simp only [adoptStrategy]
      split <;> rfl
    refine Keeps.bind (both (recordInfluence_keeps_requests _ _ _)) fun _ => ?_
    exact both (left_keeps_requests engine _ _ _ _)
  | none => exact both (left_keeps_requests engine _ _ _ _)

theorem review_keeps_requests (request : GenerationRequest) (artifact : Artifact) :
    Keeps requestView (engine.noting.review request artifact :
      Step (Noted σ) α (Option AttemptFailure)) := by
  have settled (rejection : Option String) (started : Timestamp) :
      Keeps requestView (engine.noting.endReview started rejection :
        Step (Noted σ) α (Option AttemptFailure)) := by
    cases rejection with
    | some message => exact left_keeps_requests engine _ _ _ _
    | none => exact left_keeps_requests engine _ _ _ _
  refine Keeps.bind (enter_keeps_requests engine _) fun started => ?_
  refine Keeps.bind (ask_keeps_requests _) fun reply => ?_
  cases reply with
  | ok findings =>
    refine Keeps.bind (recordInfluence_keeps_requests _ _ _) fun _ => ?_
    exact Keeps.bind (Keeps.pure _) fun rejection => settled rejection started
  | error failure => exact Keeps.bind (Keeps.pure _) fun rejection => settled rejection started

theorem compile_keeps_requests (artifact : Artifact) :
    Keeps requestView (engine.noting.compile artifact :
      Step (Noted σ) α (Option AttemptFailure)) := by
  refine Keeps.bind (enter_keeps_requests engine _) fun started => ?_
  exact Keeps.bind (fun _ => rfl) fun reply => left_keeps_requests engine _ _ _ _

/-- The requests noted with one more. -/
def oneMore (request : GenerationRequest) (seen : List GenerationRequest × String × TaskContext) :
    List GenerationRequest × String × TaskContext :=
  (seen.1 ++ [request], seen.2)

/-- An attempt makes its request once, unless it breaks off before. -/
theorem attempt_requests (request : GenerationRequest)
    (seen : List GenerationRequest × String × TaskContext) :
    Ends (fun state => requestView state = seen)
      (fun _ state => requestView state = oneMore request seen)
      (fun state => requestView state = seen ∨ requestView state = oneMore request seen)
      (engine.noting.attempt request : Step (Noted σ) α (Option AttemptFailure)) := by
  have later {γ : Type} {step : Step (Noted σ) α γ} (keeps : Keeps requestView step) :
      Ends (fun state => requestView state = oneMore request seen)
        (fun _ state => requestView state = oneMore request seen)
        (fun state => requestView state = seen ∨ requestView state = oneMore request seen) step :=
    Ends.of_keeps keeps (· = oneMore request seen) fun _ held => .inr held
  have asked : Ends (fun state => requestView state = seen)
      (fun _ state => requestView state = oneMore request seen)
      (fun state => requestView state = seen ∨ requestView state = oneMore request seen)
      (Step.ask (engine.noting.generator.generate request) :
        Step (Noted σ) α (Except Failure Artifact)) := by
    refine ⟨fun state held => .ok ?_⟩
    rw [← held]
    rfl
  have generated : Ends (fun state => requestView state = seen)
      (fun _ state => requestView state = oneMore request seen)
      (fun state => requestView state = seen ∨ requestView state = oneMore request seen)
      (engine.noting.generate request : Step (Noted σ) α (Except AttemptFailure Artifact)) := by
    refine Ends.bind (Ends.of_keeps (enter_keeps_requests engine _) (· = seen)
      fun _ held => .inl held) fun started => Ends.bind asked fun reply => ?_
    cases reply with
    | ok artifact =>
      refine later (Keeps.bind (recordInfluence_keeps_requests _ _ _) fun _ => ?_)
      exact left_keeps_requests engine _ _ _ _
    | error failure => exact later (left_keeps_requests engine _ _ _ _)
  refine Ends.bind generated fun reply => ?_
  cases reply with
  | error failure => exact later (Keeps.pure _)
  | ok artifact =>
    refine later (Keeps.bind (review_keeps_requests engine request artifact) fun reviewed => ?_)
    cases reviewed with
    | some failure => exact Keeps.pure _
    | none => exact compile_keeps_requests engine artifact

/-- The request of an attempt takes the task and its context from the session. -/
theorem tryOnce_requests (exploration : Exploration) (strategy : Strategy) (number : Nat)
    (failures suggestions : List String) (seen : List GenerationRequest × String × TaskContext) :
    Ends (fun state => requestView state = seen)
      (fun _ state => requestView state = oneMore
        ⟨seen.2.1, seen.2.2, exploration, strategy, number, failures, suggestions⟩ seen)
      (fun state => requestView state = seen ∨ requestView state = oneMore
        ⟨seen.2.1, seen.2.2, exploration, strategy, number, failures, suggestions⟩ seen)
      (engine.noting.tryOnce exploration strategy number failures suggestions :
        Step (Noted σ) α (Option AttemptFailure)) := by
  refine Ends.change (fun state => requestView state = seen) (fun _ held => held) ?_
  refine Ends.look fun state held => ?_
  subst held
  exact (engine.attempt_requests _ _).come state rfl

/-- An attempt leaves what is known of failures and the messages of those before it. -/
theorem tryOnce_keeps_known (exploration : Exploration) (strategy : Strategy) (number : Nat)
    (failures suggestions : List String) :
    Keeps (fun state => (state.index, state.iteration.messages))
      (engine.tryOnce exploration strategy number failures suggestions :
        Step σ α (Option AttemptFailure)) := by
  refine Keeps.bind (Keeps.changeIteration fun _ => rfl) fun _ => Keeps.bind Keeps.get fun _ => ?_
  exact attempt_keeps engine ⟨fun _ _ _ _ _ _ => rfl, fun _ _ _ => rfl⟩ _

/-! ### What the attempts are told -/

variable [Arithmetic α] {index : ErrorIndex α} {first : GenerationRequest}

/-- What is told up to some place does not depend on later failures. -/
theorem told_append (messages later : List String) {place : Nat}
    (within : place ≤ messages.length) :
    engine.told index first (messages ++ later) place = engine.told index first messages place := by
  have hinted : engine.hints index (messages ++ later) place =
      engine.hints index messages place := by
    cases place with
    | zero => rfl
    | succ earlier => rw [hints, hints, List.getElem?_append_left within]
  rw [told, told, hinted, List.take_append_of_le_length within]

theorem map_told_append (messages later : List String) {made : Nat}
    (within : made ≤ messages.length + 1) :
    (List.range made).map (engine.told index first (messages ++ later)) =
      (List.range made).map (engine.told index first messages) := by
  refine List.map_congr_left fun place member => engine.told_append messages later ?_
  have below := List.mem_range.1 member
  omega

/-- The requests made are what the first attempts are told. -/
structure Asked (index : ErrorIndex α) (first : GenerationRequest) (made : Nat)
    (state : EngineState (Noted σ) α) : Prop where
  noted : state.agents.2 =
    (List.range made).map (engine.told index first state.iteration.messages)
  within : made ≤ state.iteration.messages.length + 1

/-- An attempt of a number can be made: each before it has failed. -/
structure Poised (index : ErrorIndex α) (first : GenerationRequest) (messages : List String)
    (state : EngineState (Noted σ) α) : Prop where
  view : requestView state = ((List.range messages.length).map
    (engine.told index first messages), first.task, first.context)
  recorded : state.iteration.messages = messages
  counted : state.iteration.attempts = messages.length
  known : state.index = index

variable {engine}

namespace Poised

variable {messages : List String} {before : EngineState (Noted σ) α}
  (poised : engine.Poised index first messages before)

include poised

theorem asked : engine.Asked index first messages.length before where
  noted := by
    rw [poised.recorded]
    exact congrArg Prod.fst poised.view
  within := by
    rw [poised.recorded]
    omega

/-- The next attempt makes the request of its place, and leaves the failures before it alone. -/
theorem tryOnce : Came
    (fun _ after => requestView after = ((List.range (messages.length + 1)).map
        (engine.told index first messages), first.task, first.context) ∧
      after.iteration.messages = messages ∧ after.iteration.attempts = messages.length + 1 ∧
      after.index = index)
    (fun after => ∃ made, engine.Asked index first made after)
    (engine.noting.tryOnce first.exploration first.strategy (messages.length + 1) messages
      (engine.hints index messages messages.length) before) := by
  have view := poised.view
  obtain ⟨-, task, context⟩ : _ ∧ before.session.task = first.task ∧
      before.session.context = first.context := by
    simpa only [Prod.mk.injEq] using view
  have request : engine.told index first messages messages.length =
      ⟨before.session.task, before.session.context, first.exploration, first.strategy,
        messages.length + 1, messages, engine.hints index messages messages.length⟩ := by
    rw [told, List.take_length, task, context]
  have more : oneMore (engine.told index first messages messages.length) (requestView before) =
      ((List.range (messages.length + 1)).map (engine.told index first messages), first.task,
        first.context) := by
    rw [view, oneMore, List.range_succ, List.map_append, List.map_singleton]
  have noted := (engine.tryOnce_requests first.exploration first.strategy (messages.length + 1)
    messages (engine.hints index messages messages.length) (requestView before)).come before rfl
  have kept := tryOnce_keeps_known engine.noting first.exploration first.strategy
    (messages.length + 1) messages (engine.hints index messages messages.length) before
  rw [← request, more] at noted
  revert noted kept
  cases ran : engine.noting.tryOnce first.exploration first.strategy (messages.length + 1)
      messages (engine.hints index messages messages.length) before with
  | ok failed after =>
    intro noted kept
    rw [Step.final_of_ok ran] at kept
    obtain ⟨known, recorded⟩ := Prod.mk.inj kept
    cases noted with
    | ok held =>
      exact .ok ⟨held, recorded.trans poised.recorded, (tryOnce_tally ran).1,
        known.trans poised.known⟩
  | error e after =>
    intro noted kept
    rw [Step.final_of_error ran] at kept
    have recorded : after.iteration.messages = messages :=
      (Prod.mk.inj kept).2.trans poised.recorded
    cases noted with
    | error held =>
      rcases held with held | held
      · rw [view] at held
        refine .error ⟨messages.length, ?_, ?_⟩
        · rw [recorded]
          exact congrArg Prod.fst held
        · rw [recorded]
          omega
      · refine .error ⟨messages.length + 1, ?_, ?_⟩
        · rw [recorded]
          exact congrArg Prod.fst held
        · rw [recorded]

omit poised in
/-- A failure that is noted makes the next attempt possible. -/
theorem of_failure {failure : AttemptFailure} {after : EngineState (Noted σ) α}
    (view : requestView after = ((List.range (messages.length + 1)).map
      (engine.told index first messages), first.task, first.context))
    (recorded : after.iteration.messages = messages)
    (counted : after.iteration.attempts = messages.length + 1) (known : after.index = index) :
    engine.Poised index first (messages ++ [failure.message])
      (noteFailure (messages.length + 1) failure after) := by
  refine ⟨?_, ?_, ?_, known⟩
  · rw [List.length_append, List.length_singleton, map_told_append _ _ _ (le_refl _)]
    exact view
  · rw [← recorded]
    exact List.map_append
  · rw [List.length_append, List.length_singleton]
    exact counted

omit poised in
/-- The hints of the next attempt are those for the last failure. -/
theorem hints_of_failure (engine : Engine σ) (index : ErrorIndex α) (messages : List String)
    (message : String) : engine.hints index (messages ++ [message]) (messages.length + 1) =
      index.suggest message engine.project.settings.similarity.top := by
  rw [hints, List.getElem?_concat_length]
  rfl

/-- The attempts to the end of the loop. -/
theorem attempts (cap remaining : Nat) : Came
    (fun _ after => engine.Asked index first after.iteration.attempts after)
    (fun after => ∃ made, engine.Asked index first made after)
    (engine.noting.attempts cap first.exploration first.strategy remaining (messages.length + 1)
      messages (engine.hints index messages messages.length) before) := by
  induction remaining generalizing messages before with
  | zero =>
    refine .ok ?_
    rw [poised.counted]
    exact poised.asked
  | succ remaining ih =>
    rw [attempts_succ]
    have come := poised.tryOnce
    cases tried : engine.noting.tryOnce first.exploration first.strategy (messages.length + 1)
        messages (engine.hints index messages messages.length) before with
    | error e after =>
      rw [tried] at come
      cases come with
      | error held => exact .error held
    | ok outcome after =>
      rw [tried] at come
      cases come with
      | ok held =>
        obtain ⟨view, recorded, counted, known⟩ := held
        cases outcome with
        | none =>
          refine .ok ⟨?_, ?_⟩
          · rw [recorded, counted]
            exact congrArg Prod.fst view
          · rw [recorded, counted]
        | some failure =>
          have next : engine.Poised index first (messages ++ [failure.message])
              (noteFailure (messages.length + 1) failure after) :=
            of_failure view recorded counted known
          dsimp only
          split
          · refine .ok ?_
            rw [next.counted]
            exact next.asked
          · have rest := ih next
            rw [List.length_append, List.length_singleton, hints_of_failure] at rest
            rw [known]
            exact rest

end Poised

/-! ### An iteration -/

variable (engine)

omit [Arithmetic α] in
/-- Before the attempts nothing is requested, and the task stays. -/
theorem prepare_keeps_requests : Keeps (fun state => (state.agents.2, state.session.task))
    (engine.noting.prepare : Step (Noted σ) α (Exploration × Strategy)) := by
  refine Keeps.bind (fun _ => rfl) fun _ => ?_
  refine Keeps.bind ((explore_keeps_requests engine).map fun view => (view.1, view.2.1)) fun _ => ?_
  exact Keeps.bind (reason_keeps_requests engine _) fun _ => Keeps.pure _

/-- Behind the attempts nothing is requested, and the failures stay. -/
theorem conclude_keeps_requests (strategy : Strategy) (success : Bool) :
    Keeps (fun state => (state.agents.2, state.iteration.messages))
      (engine.noting.conclude strategy success : Step (Noted σ) α IterationResult) := by
  have entered (phase : Phase) : Keeps (fun state => (state.agents.2, state.iteration.messages))
      (engine.noting.enter phase : Step (Noted σ) α Timestamp) :=
    ((enter_keeps_requests engine phase).map fun view => view.1).prod
      (enter_keeps engine.noting ⟨fun _ _ _ _ _ _ => rfl, fun _ _ _ => rfl⟩ phase)
  have left (phase : Phase) (status : PhaseStatus) (started : Timestamp) :
      Keeps (fun state => (state.agents.2, state.iteration.messages))
        (engine.noting.leave phase status started : Step (Noted σ) α Unit) :=
    ((leave_keeps_requests engine phase status started).map fun view => view.1).prod
      (leave_keeps engine.noting ⟨fun _ _ _ _ _ _ => rfl, fun _ _ _ => rfl⟩ phase status started)
  refine Keeps.bind (Keeps.changeIteration fun _ => rfl) fun _ => ?_
  refine Keeps.bind (learn_keeps engine.noting (fun _ _ => rfl) (fun _ _ => rfl) (fun _ _ => rfl)
    (entered _) (left _ _) strategy) fun _ => ?_
  refine Keeps.bind (Keeps.bind Keeps.get fun _ => ?_) fun _ => Keeps.bind Keeps.get fun _ =>
    Keeps.pure _
  refine Keeps.bind (Keeps.onHost _ _ fun _ _ => rfl) fun _ => ?_
  refine Keeps.bind (Keeps.changeSession fun _ => rfl) fun _ => ?_
  refine Keeps.bind (Keeps.modify fun _ => rfl) fun _ => ?_
  exact ((writeStatus_keeps_requests engine).map fun view => view.1).prod
    (writeStatus_keeps engine.noting fun _ _ _ _ _ _ => rfl)

/-- Where nothing is requested any plan tells what was. -/
theorem asked_nothing {state : EngineState (Noted σ) α} (nothing : state.agents.2 = []) :
    engine.Asked index first 0 state where
  noted := nothing
  within := Nat.zero_le _

variable {engine} in
theorem Asked.congr {made : Nat} {state other : EngineState (Noted σ) α}
    (asked : engine.Asked index first made state)
    (same : (other.agents.2, other.iteration.messages) =
      (state.agents.2, state.iteration.messages)) : engine.Asked index first made other := by
  obtain ⟨noted, messages⟩ := Prod.mk.inj same
  refine ⟨?_, ?_⟩
  · rw [noted, messages]
    exact asked.noted
  · rw [messages]
    exact asked.within

/-- Behind the preparation the first attempt can be made. -/
theorem poised_of_prepare {before : EngineState σ α} {plan : Exploration × Strategy}
    {start : EngineState (Noted σ) α}
    (prepared : engine.noting.prepare before.noting = .ok plan start) :
    ∃ first : GenerationRequest, first.task = before.session.task ∧ first.exploration = plan.1 ∧
      first.strategy = plan.2 ∧ engine.Poised before.index first [] start := by
  have view := prepare_keeps_requests engine before.noting
  have stores := prepare_keeps_stores engine.noting before.noting
  rw [Step.final_of_ok prepared] at view stores
  obtain ⟨nothing, task⟩ := Prod.mk.inj view
  obtain ⟨counted, failures⟩ := prepare_tally prepared
  let first : GenerationRequest :=
    { task := start.session.task, context := start.session.context, exploration := plan.1,
      strategy := plan.2 }
  exact ⟨first, task, rfl, rfl, Prod.ext nothing rfl,
    congrArg (List.map FailedAttempt.message) failures, counted, congrArg Prod.snd stores⟩

/-- The conclusion of an iteration tells of the attempts as they were made. -/
theorem conclude_asked {strategy : Strategy} {success : Bool} {finish : EngineState (Noted σ) α}
    (asked : engine.Asked index first finish.iteration.attempts finish) :
    Came (fun result after => result.iteration.messages = after.iteration.messages ∧
        engine.Asked index first result.iteration.attempts after)
      (fun after => ∃ made, engine.Asked index first made after)
      (engine.noting.conclude strategy success finish) := by
  have kept := conclude_keeps_requests engine strategy success finish
  cases concluded : engine.noting.conclude strategy success finish with
  | error e after =>
    rw [Step.final_of_error concluded] at kept
    exact .error ⟨_, asked.congr kept⟩
  | ok result after =>
    rw [Step.final_of_ok concluded] at kept
    obtain ⟨-, attempts, failures, -⟩ := conclude_tally concluded
    have messages : result.iteration.messages = after.iteration.messages :=
      (congrArg (List.map FailedAttempt.message) failures).trans (Prod.mk.inj kept).2.symm
    refine .ok ⟨messages, ?_⟩
    rw [attempts]
    exact asked.congr kept

/-- The requests of an iteration, up to where it breaks off if it does. -/
theorem iterate_asked (cap : Nat) (before : EngineState σ α) :
    ∃ first : GenerationRequest, first.task = before.session.task ∧
      Came (fun result after => result.iteration.messages = after.iteration.messages ∧
          engine.Asked before.index first result.iteration.attempts after)
        (fun after => ∃ made, engine.Asked before.index first made after)
        (engine.noting.iterate cap before.noting) := by
  cases checked : engine.noting.project.settings.retryPolicy.checkCap cap with
  | error e =>
    rw [iterate_of_refused engine.noting cap before.noting checked]
    exact ⟨{ task := before.session.task }, rfl, .error ⟨0, asked_nothing engine rfl⟩⟩
  | ok _ =>
    rw [iterate_eq checked]
    cases prepared : engine.noting.prepare before.noting with
    | error e after =>
      have view := prepare_keeps_requests engine before.noting
      rw [Step.final_of_error prepared] at view
      rw [Step.bind_of_error _ prepared]
      exact ⟨{ task := before.session.task }, rfl,
        .error ⟨0, asked_nothing engine (congrArg Prod.fst view)⟩⟩
    | ok plan start =>
      rw [Step.bind_of_ok _ prepared]
      obtain ⟨first, task, exploration, strategy, poised⟩ := poised_of_prepare engine prepared
      refine ⟨first, task, ?_⟩
      have tried : Came (fun _ after => engine.Asked before.index first after.iteration.attempts
          after) (fun after => ∃ made, engine.Asked before.index first made after)
          (engine.noting.attempts cap plan.1 plan.2 cap 1 [] [] start) := by
        rw [← exploration, ← strategy]
        exact poised.attempts cap cap
      cases attempted : engine.noting.attempts cap plan.1 plan.2 cap 1 [] [] start with
      | error e after =>
        rw [attempted] at tried
        rw [Step.bind_of_error _ attempted]
        cases tried with
        | error held => exact .error held
      | ok success finish =>
        rw [attempted] at tried
        rw [Step.bind_of_ok _ attempted]
        cases tried with
        | ok asked => exact conclude_asked engine asked

end Engine

/-- The second attempt of the sample is told how the first failed. -/
example : ((Sample.engine.noting.attempts 2 {} {} 2 1 [] []).final
    Sample.start.noting).agents.2.map (·.failures) = [[], ["parse error"]] := by
  decide +kernel

end TaskLoop
