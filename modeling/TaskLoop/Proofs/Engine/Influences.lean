import TaskLoop.Proofs.Engine.Endings
import TaskLoop.Proofs.Engine.Interruption
import TaskLoop.Proofs.Engine.Replay

/-!
What an iteration changes of its session, whether it comes to its end or breaks off: the strategy of
the context, the annotations its decisions were informed by, noted in the order of the phases, and
how many iterations are counted.
-/

set_option autoImplicit false

namespace TaskLoop

namespace Session

theorem clampConfidence_within (confidence : Float) :
    ¬ clampConfidence confidence < 0 ∧ ¬ 1 < clampConfidence confidence := by
  rw [clampConfidence]
  split
  · exact ⟨by decide +kernel, by decide +kernel⟩
  · rename_i notBelow
    split
    · exact ⟨by decide +kernel, by decide +kernel⟩
    · rename_i notAbove
      exact ⟨notBelow, notAbove⟩

/-- What becomes of a session when decisions of an iteration are informed: they are noted behind
those noted before, and a strategy may be adopted. -/
structure Informed (before : Session) (index : Nat) (decisions : List Decision)
    (after : Session) : Prop where
  frame : after = { before with
    context := { before.context with strategy := after.context.strategy }
    influences := after.influences }
  noted : ∃ added, after.influences = before.influences ++ added ∧
    added.map Influence.decision = decisions ∧
    ∀ influence ∈ added, influence.iteration = index ∧
      ¬ influence.confidence < 0 ∧ ¬ 1 < influence.confidence

namespace Informed

variable {before after : Session} {index : Nat} {decisions : List Decision}

theorem refl (session : Session) (index : Nat) : Informed session index [] session where
  frame := rfl
  noted := ⟨[], (List.append_nil _).symm, rfl, List.forall_mem_nil _⟩

/-- One more decision is informed. -/
theorem recordInfluence (informed : Informed before index decisions after) (decision : Decision)
    (annotations : List String) (confidence : Float) (now : Timestamp) :
    Informed before index (decisions ++ [decision])
      (after.recordInfluence index decision annotations confidence now) where
  frame := by
    have same := informed.frame
    rw [Session.recordInfluence]
    generalize after.influences ++ _ = influences
    rw [same]
  noted := by
    obtain ⟨added, influences, named, within⟩ := informed.noted
    refine ⟨added ++ [⟨index, decision, annotations, clampConfidence confidence, now⟩], ?_, ?_, ?_⟩
    · rw [Session.recordInfluence, influences, List.append_assoc]
    · rw [List.map_append, named, List.map_singleton]
    · intro influence member
      rcases List.mem_append.mp member with earlier | last
      · exact within influence earlier
      · rw [List.mem_singleton.mp last]
        exact ⟨rfl, clampConfidence_within confidence⟩

/-- A strategy is adopted. -/
theorem adoptStrategy (informed : Informed before index decisions after) (strategy : Strategy) :
    Informed before index decisions (Engine.adoptStrategy strategy after) := by
  rw [Engine.adoptStrategy]
  split
  · exact informed
  · refine ⟨?_, informed.noted⟩
    have same := informed.frame
    dsimp only
    rw [same]

end Informed

/-- Decisions in the order of the phases of an iteration: those of the planning, and those of each
of its attempts up to one of its phases. -/
def InOrder (attempts : Nat) (decisions : List Decision) : Prop :=
  ∃ (planned : List Decision) (tried : List (List Decision)),
    decisions = planned ++ tried.flatten ∧ planned.Sublist [.exploration, .reasoning] ∧
    (∀ part ∈ tried, part <+: [.generation, .review]) ∧ tried.length = attempts

/-- What becomes of a session in an iteration of so many attempts: of its context only the strategy
changes, influences are noted behind those noted before, with the number of the iteration, and the
iteration may be counted. Nothing else is touched. -/
structure Touched (before : Session) (attempts : Nat) (after : Session) : Prop where
  frame : after = { before with
    context := { before.context with strategy := after.context.strategy }
    completedIterations := after.completedIterations
    influences := after.influences }
  noted : ∃ added, after.influences = before.influences ++ added ∧
    InOrder attempts (added.map Influence.decision) ∧
    ∀ influence ∈ added, influence.iteration = before.completedIterations + 1 ∧
      ¬ influence.confidence < 0 ∧ ¬ 1 < influence.confidence
  counted : after.completedIterations = before.completedIterations ∨
    after.completedIterations = before.completedIterations + 1

theorem Touched.refl (session : Session) : session.Touched 0 session where
  frame := rfl
  noted := ⟨[], (List.append_nil _).symm, ⟨[], [], rfl, List.nil_sublist _, List.forall_mem_nil _,
    rfl⟩, List.forall_mem_nil _⟩
  counted := .inl rfl

/-- A session whose decisions were informed in order was touched, whether the iteration is counted
or not. -/
theorem Informed.touched {before after : Session} {attempts count : Nat} {decisions : List Decision}
    (informed : before.Informed (before.completedIterations + 1) decisions after)
    (order : InOrder attempts decisions) (counted : count = before.completedIterations ∨
      count = before.completedIterations + 1) :
    before.Touched attempts { after with completedIterations := count } where
  frame := by
    have same := informed.frame
    dsimp only
    rw [same]
  noted := by
    obtain ⟨added, influences, named, within⟩ := informed.noted
    exact ⟨added, influences, named ▸ order, within⟩
  counted := counted

end Session

namespace Engine

open Step (Came Ends Keeps)

variable {σ α β : Type} {engine : Engine σ} {session : Session} {count : Nat}
  {decisions planned : List Decision}

/-- In an iteration of a session decisions were informed, and so many attempts were begun. -/
structure Deciding (session : Session) (count : Nat) (decisions : List Decision)
    (state : EngineState σ α) : Prop where
  informed : session.Informed (session.completedIterations + 1) decisions state.session
  index : state.iteration.index = session.completedIterations + 1
  attempts : state.iteration.attempts = count

section Steps

variable {broken : EngineState σ α → Prop}
  (bad : ∀ state, Deciding session count decisions state → broken state)

include bad

theorem deciding_of_keeps {step : Step σ α β} (keeps : Keeps (fun state => state.session) step)
    (bare : Keeps bareIteration step) :
    Ends (Deciding session count decisions) (fun _ => Deciding session count decisions) broken
      step := by
  let holds (view : Session × Iteration) : Prop :=
    session.Informed (session.completedIterations + 1) decisions view.1 ∧
      view.2.index = session.completedIterations + 1 ∧ view.2.attempts = count
  have gathered (state : EngineState σ α) (held : holds (state.session, state.iteration.bare)) :
      Deciding session count decisions state := ⟨held.1, held.2.1, held.2.2⟩
  have kept : Ends _ _ broken step :=
    Ends.of_keeps (keeps.prod bare) holds fun state held => bad state (gathered state held)
  exact kept.mono (fun _ deciding => ⟨deciding.informed, deciding.index, deciding.attempts⟩)
    (fun _ => gathered) fun _ => id

theorem enter_deciding (phase : Phase) :
    Ends (Deciding session count decisions) (fun _ => Deciding session count decisions) broken
      (engine.enter phase : Step σ α Timestamp) :=
  deciding_of_keeps bad (enter_keeps_session engine phase) (enter_keeps engine unmoved_bare phase)

/-- A phase is left, and the answer given. -/
theorem left_deciding {done : β → EngineState σ α → Prop} (phase : Phase) (status : PhaseStatus)
    (started : Timestamp) (answer : β)
    (settles : ∀ state, Deciding session count decisions state → done answer state) :
    Ends (Deciding session count decisions) done broken (do
      engine.leave phase status started
      return answer : Step σ α β) :=
  Ends.bind (deciding_of_keeps bad (leave_keeps_session engine phase status started)
    (leave_keeps engine unmoved_bare phase status started)) fun _ => Ends.pure settles

theorem ask_deciding (call : σ → Except Failure β × σ) :
    Ends (Deciding session count decisions) (fun _ => Deciding session count decisions) broken
      (Step.ask call : Step σ α (Except Failure β)) :=
  deciding_of_keeps bad (Keeps.ask call fun _ _ => rfl) (ask_keeps unmoved_bare.aside call)

theorem firstReply_deciding (call : σ → Except Failure β × σ) (attempts : Nat) :
    Ends (Deciding session count decisions) (fun _ => Deciding session count decisions) broken
      (firstReply (Step.ask call) attempts : Step σ α (Option β)) :=
  deciding_of_keeps bad (firstReply_keeps (Keeps.ask call fun _ _ => rfl) attempts)
    (firstReply_keeps (ask_keeps unmoved_bare.aside call) attempts)

/-- A decision is noted behind those before it. -/
theorem recordInfluence_deciding (decision : Decision) (annotations : List String)
    (confidence : Float) :
    Ends (Deciding session count decisions)
      (fun _ => Deciding session count (decisions ++ [decision])) broken
      (Step.recordInfluence decision annotations confidence : Step σ α Unit) := by
  refine Ends.bind (deciding_of_keeps bad (Keeps.onHost _ _ fun _ _ => rfl)
    (now_keeps unmoved_bare.aside)) fun now => ?_
  refine Ends.modify fun state deciding => ⟨?_, deciding.index, deciding.attempts⟩
  dsimp only
  rw [deciding.index]
  exact deciding.informed.recordInfluence decision annotations confidence now

end Steps

/-! ### Planning -/

/-- Of the decisions of the planning up to one of its phases some were informed. -/
def Planning (session : Session) (allowed : List Decision) (state : EngineState σ α) : Prop :=
  ∃ decisions, decisions.Sublist allowed ∧ Deciding session 0 decisions state

theorem explore_planning :
    Ends (Deciding session 0 []) (fun _ => Planning session [.exploration])
      (Planning session [.exploration]) (engine.explore : Step σ α Exploration) := by
  have none (state : EngineState σ α) (deciding : Deciding session 0 [] state) :
      Planning session [.exploration] state := ⟨[], List.nil_sublist _, deciding⟩
  have noted (state : EngineState σ α) (deciding : Deciding session 0 [.exploration] state) :
      Planning session [.exploration] state := ⟨_, List.Sublist.refl _, deciding⟩
  refine Ends.bind (enter_deciding none _) fun started => Ends.bind Ends.get fun _ => ?_
  refine Ends.bind (firstReply_deciding none _ _) fun reply => ?_
  cases reply with
  | some exploration =>
    refine Ends.bind (recordInfluence_deciding none _ _ _) fun _ => ?_
    exact left_deciding noted _ _ _ _ noted
  | none => exact left_deciding none _ _ _ _ none

theorem reason_planning (exploration : Exploration) :
    Ends (Planning session [.exploration]) (fun _ => Planning session [.exploration, .reasoning])
      (Planning session [.exploration, .reasoning])
      (engine.reason exploration : Step σ α Strategy) := by
  refine ⟨fun before ⟨earlier, part, held⟩ => ?_⟩
  have none (state : EngineState σ α) (deciding : Deciding session 0 earlier state) :
      Planning session [.exploration, .reasoning] state :=
    ⟨earlier, part.trans (List.sublist_append_left _ _), deciding⟩
  have noted (state : EngineState σ α)
      (deciding : Deciding session 0 (earlier ++ [.reasoning]) state) :
      Planning session [.exploration, .reasoning] state :=
    ⟨_, part.append (List.Sublist.refl _), deciding⟩
  refine (Ends.bind (enter_deciding none _) fun started => Ends.bind Ends.get fun _ =>
    Ends.bind (firstReply_deciding none _ _) fun reply => ?_).come before held
  cases reply with
  | some strategy =>
    have adopted : Ends (Deciding session 0 earlier) (fun _ => Deciding session 0 earlier)
        (Planning session [.exploration, .reasoning])
        (Step.changeSession (adoptStrategy strategy) : Step σ α Unit) :=
      Ends.modify fun state deciding =>
        ⟨deciding.informed.adoptStrategy strategy, deciding.index, deciding.attempts⟩
    refine Ends.bind adopted fun _ => Ends.bind (recordInfluence_deciding none _ _ _) fun _ => ?_
    exact left_deciding noted _ _ _ _ noted
  | none => exact left_deciding none _ _ _ _ none

/-! ### Attempts -/

/-- Behind decisions those of an attempt were informed, up to one of its phases. -/
def Trying (session : Session) (count : Nat) (decisions : List Decision)
    (state : EngineState σ α) : Prop :=
  ∃ part, part <+: [Decision.generation, .review] ∧ Deciding session count (decisions ++ part) state

theorem Deciding.trying {part : List Decision} (within : part <+: [Decision.generation, .review])
    (state : EngineState σ α) (deciding : Deciding session count (decisions ++ part) state) :
    Trying session count decisions state := ⟨part, within, deciding⟩

theorem Deciding.tryingNone (state : EngineState σ α)
    (deciding : Deciding session count decisions state) : Trying session count decisions state :=
  ⟨[], List.nil_prefix, by rwa [List.append_nil]⟩

theorem generate_trying (request : GenerationRequest) :
    Ends (Deciding session count decisions)
      (fun reply => Deciding session count (decisions ++ if reply.isOk then [.generation] else []))
      (Trying session count decisions)
      (engine.generate request : Step σ α (Except AttemptFailure Artifact)) := by
  refine Ends.bind (enter_deciding Deciding.tryingNone _) fun started => ?_
  refine Ends.bind (ask_deciding Deciding.tryingNone _) fun reply => ?_
  cases reply with
  | ok artifact =>
    refine Ends.bind (recordInfluence_deciding Deciding.tryingNone _ _ _) fun _ => ?_
    exact left_deciding (Deciding.trying (by decide)) _ _ _ _ fun _ => id
  | error failure =>
    refine left_deciding Deciding.tryingNone _ _ _ _ fun state deciding => ?_
    rwa [Except.isOk, Except.toBool, if_neg Bool.false_ne_true, List.append_nil]

theorem review_trying (request : GenerationRequest) (artifact : Artifact) :
    Ends (Deciding session count (decisions ++ [.generation]))
      (fun _ => Trying session count decisions) (Trying session count decisions)
      (engine.review request artifact : Step σ α (Option AttemptFailure)) := by
  have settled {part : List Decision} (within : part <+: [Decision.generation, .review])
      (rejection : Option String) (started : Timestamp) :
      Ends (Deciding session count (decisions ++ part)) (fun _ => Trying session count decisions)
        (Trying session count decisions)
        (engine.endReview started rejection : Step σ α (Option AttemptFailure)) := by
    have trying : ∀ state : EngineState σ α, Deciding session count (decisions ++ part) state →
        Trying session count decisions state := Deciding.trying within
    cases rejection with
    | some message => exact left_deciding trying _ _ _ _ trying
    | none => exact left_deciding trying _ _ _ _ trying
  have unnoted : ∀ state : EngineState σ α,
      Deciding session count (decisions ++ [.generation]) state →
        Trying session count decisions state := Deciding.trying (by decide)
  refine Ends.bind (enter_deciding unnoted _) fun started => ?_
  refine Ends.bind (ask_deciding unnoted _) fun reply => ?_
  cases reply with
  | ok findings =>
    refine Ends.bind (recordInfluence_deciding unnoted _ _ _) fun _ => ?_
    rw [List.append_assoc]
    exact Ends.bind (Ends.pure fun _ => id) fun rejection => settled (by decide) rejection started
  | error failure =>
    exact Ends.bind (Ends.pure fun _ => id) fun rejection => settled (by decide) rejection started

theorem compile_trying (artifact : Artifact) :
    Ends (Trying session count decisions) (fun _ => Trying session count decisions)
      (Trying session count decisions)
      (engine.compile artifact : Step σ α (Option AttemptFailure)) := by
  have keeps : Keeps (fun state : EngineState σ α => state.session) (engine.compile artifact) := by
    refine Keeps.bind (enter_keeps_session engine _) fun _ => ?_
    refine Keeps.bind (Keeps.askBuilder _ fun _ _ _ => rfl) fun _ => ?_
    exact Keeps.bind (leave_keeps_session engine _ _ _) fun _ => Keeps.pure _
  refine ⟨fun before ⟨part, within, held⟩ => ?_⟩
  exact ((deciding_of_keeps (Deciding.trying within) keeps
    (compile_keeps engine unmoved_bare artifact)).mono (fun _ => id)
      (fun _ => Deciding.trying within) fun _ => id).come before held

theorem attempt_trying (request : GenerationRequest) :
    Ends (Deciding session count decisions) (fun _ => Trying session count decisions)
      (Trying session count decisions)
      (engine.attempt request : Step σ α (Option AttemptFailure)) := by
  refine Ends.bind (generate_trying request) fun reply => ?_
  cases reply with
  | error failure => exact Ends.pure (Deciding.trying List.nil_prefix)
  | ok artifact =>
    refine Ends.bind (review_trying request artifact) fun reviewed => ?_
    cases reviewed with
    | some failure => exact Ends.pure fun _ => id
    | none => exact compile_trying artifact

/-- Behind the decisions of the planning those of so many attempts were informed, each up to one of
its phases. -/
def Tried (session : Session) (planned : List Decision) (count : Nat) (state : EngineState σ α) :
    Prop :=
  ∃ tried : List (List Decision), tried.length = count ∧
    (∀ part ∈ tried, part <+: [Decision.generation, .review]) ∧
    Deciding session count (planned ++ tried.flatten) state

/-- One more attempt is made. -/
theorem tryOnce_tried (exploration : Exploration) (strategy : Strategy)
    (failures suggestions : List String) :
    Ends (Tried session planned count) (fun _ => Tried session planned (count + 1))
      (Tried session planned (count + 1))
      (engine.tryOnce exploration strategy (count + 1) failures suggestions :
        Step σ α (Option AttemptFailure)) := by
  refine ⟨fun before ⟨tried, length, parts, held⟩ => ?_⟩
  have more (state : EngineState σ α)
      (trying : Trying session (count + 1) (planned ++ tried.flatten) state) :
      Tried session planned (count + 1) state := by
    obtain ⟨part, within, deciding⟩ := trying
    refine ⟨tried ++ [part], ?_, ?_, ?_⟩
    · rw [List.length_append, length, List.length_singleton]
    · exact List.forall_mem_append.mpr ⟨parts, List.forall_mem_singleton.mpr within⟩
    · rwa [List.flatten_append, List.flatten_singleton, ← List.append_assoc]
  have begun : Ends (Deciding session count (planned ++ tried.flatten))
      (fun _ => Deciding session (count + 1) (planned ++ tried.flatten))
      (Tried session planned (count + 1))
      (Step.changeIteration (beginAttempt (count + 1)) : Step σ α Unit) :=
    Ends.modify fun state deciding => ⟨deciding.informed, deciding.index, rfl⟩
  exact (Ends.bind begun fun _ => Ends.bind Ends.get fun _ =>
    (attempt_trying _).mono (fun _ => id) (fun _ => more) more).come before held

/-- Attempts were made, as many as a cap allows at most. -/
def Attempted (cap : Nat) (session : Session) (planned : List Decision) (state : EngineState σ α) :
    Prop :=
  ∃ count, count ≤ cap ∧ Tried session planned count state

variable [Arithmetic α]

theorem attempting_attempted {cap number : Nat} {exploration : Exploration} {strategy : Strategy}
    {failures suggestions : List String} {before : EngineState σ α}
    {outcomes : List (Option AttemptFailure)}
    {ending : EStateM.Result EngineError (EngineState σ α) Bool}
    (run : engine.Attempting cap exploration strategy number failures suggestions before outcomes
      ending) (isNext : number = count + 1) (allowed : number ≤ max cap 1)
    (held : Tried session planned count before) :
    Came (fun _ => Attempted (max cap 1) session planned) (Attempted (max cap 1) session planned)
      ending := by
  induction run generalizing count with
  | broken tried =>
    subst isNext
    exact .error ⟨_, allowed, (tryOnce_tried _ _ _ _).of_error held tried⟩
  | passed tried =>
    subst isNext
    exact .ok ⟨_, allowed, (tryOnce_tried _ _ _ _).of_ok held tried⟩
  | spent tried _ =>
    subst isNext
    obtain ⟨parts, length, within, deciding⟩ := (tryOnce_tried _ _ _ _).of_ok held tried
    exact .ok ⟨_, allowed, parts, length, within, deciding.informed, deciding.index,
      deciding.attempts⟩
  | again tried left _ ih =>
    subst isNext
    obtain ⟨parts, length, within, deciding⟩ := (tryOnce_tried _ _ _ _).of_ok held tried
    exact ih rfl (Nat.le_trans left (budget_le cap _))
      ⟨parts, length, within, deciding.informed, deciding.index, deciding.attempts⟩

/-! ### The whole iteration -/

/-- The decisions of an iteration were informed in order, those of as many attempts as a cap allows
at most. -/
def Informing (cap : Nat) (session : Session) (state : EngineState σ α) : Prop :=
  ∃ planned, planned.Sublist [.exploration, .reasoning] ∧ Attempted cap session planned state

omit [Arithmetic α] in
theorem Planning.informing {allowed : List Decision} {cap : Nat} {state : EngineState σ α}
    (within : allowed.Sublist [.exploration, .reasoning])
    (planning : Planning session allowed state) : Informing cap session state := by
  obtain ⟨planned, part, deciding⟩ := planning
  refine ⟨planned, part.trans within, 0, Nat.zero_le _, [], rfl, List.forall_mem_nil _, ?_⟩
  rwa [List.flatten_nil, List.append_nil]

omit [Arithmetic α] in
theorem prepare_planning (cap : Nat) :
    Ends (fun state => state.session = session)
      (fun _ => Planning session [.exploration, .reasoning]) (Informing cap session)
      (engine.prepare : Step σ α (Exploration × Strategy)) := by
  have begun : Ends (fun state => state.session = session) (fun _ => Deciding session 0 [])
      (Informing cap session) (engine.beginIteration : Step σ α Unit) := by
    refine ⟨fun before same => ?_⟩
    subst same
    exact .ok ⟨.refl _ _, rfl, rfl⟩
  refine Ends.bind begun fun _ => Ends.bind (explore_planning.mono (fun _ => id) (fun _ _ => id)
    fun _ => Planning.informing (by decide)) fun exploration => ?_
  refine Ends.bind ((reason_planning exploration).mono (fun _ => id) (fun _ _ => id)
    fun _ => Planning.informing (List.Sublist.refl _)) fun strategy => ?_
  exact Ends.pure fun _ => id

/-- Up to its count an iteration does nothing to its session but to inform its decisions. -/
theorem perform_informing {cap : Nat} (positive : 1 ≤ cap) :
    Ends (fun state => state.session = session) (fun _ => Informing cap session)
      (Informing cap session) (engine.perform cap : Step σ α Unit) := by
  refine Ends.bind (prepare_planning cap) fun plan => ⟨fun start ⟨planned, part, deciding⟩ => ?_⟩
  have tried : Ends (Deciding session 0 planned) (fun _ => Attempted cap session planned)
      (Attempted cap session planned)
      (engine.attempts cap plan.1 plan.2 cap 1 [] [] : Step σ α Bool) := by
    refine ⟨fun before held => ?_⟩
    have covered : max cap 1 < 1 + cap := by omega
    obtain ⟨outcomes, run⟩ := engine.attempting_attempts plan.1 plan.2 cap 1 [] [] before
      (Nat.le_max_right _ _) covered
    have none : Tried session planned 0 before := by
      refine ⟨[], rfl, List.forall_mem_nil _, ?_⟩
      rwa [List.flatten_nil, List.append_nil]
    have came := attempting_attempted run rfl (Nat.le_max_right _ _) none
    rwa [Nat.max_eq_left positive] at came
  have learnt (success : Bool) : Ends (Attempted cap session planned)
      (fun _ => Attempted cap session planned) (Attempted cap session planned) (do
        Step.changeIteration fun iteration => { iteration with success := success }
        engine.learn plan.2 : Step σ α Unit) := by
    refine ⟨fun before ⟨count, within, parts, length, prefixes, held⟩ => ?_⟩
    have back (state : EngineState σ α)
        (deciding : Deciding session count (planned ++ parts.flatten) state) :
        Attempted cap session planned state := ⟨count, within, parts, length, prefixes, deciding⟩
    have settled : Ends (Deciding session count (planned ++ parts.flatten))
        (fun _ => Deciding session count (planned ++ parts.flatten))
        (Attempted cap session planned) (Step.changeIteration fun iteration =>
          { iteration with success := success } : Step σ α Unit) :=
      Ends.modify fun state deciding => ⟨deciding.informed, deciding.index, deciding.attempts⟩
    have learns := deciding_of_keeps back (learn_keeps_session engine plan.2)
      (learn_keeps_bare engine plan.2)
    exact (Ends.bind settled fun _ => learns.mono (fun _ => id) (fun _ => back) fun _ => id).come
      before held
  have informs (state : EngineState σ α) (attempted : Attempted cap session planned state) :
      Informing cap session state := ⟨planned, part, attempted⟩
  exact ((Ends.bind tried learnt).mono (fun _ => id) (fun _ => informs) informs).come start deciding

omit [Arithmetic α] in
/-- The end of an iteration counts it, and touches nothing else of the session. -/
theorem finishIteration_counts (iteration : Iteration) :
    Ends (fun state => state.session = session ∧ state.iteration = iteration)
      (fun _ state => state.session = { session with completedIterations := iteration.index } ∧
        state.iteration = iteration)
      (fun state => ∃ count, (count = session.completedIterations ∨ count = iteration.index) ∧
        state.session = { session with completedIterations := count })
      (engine.finishIteration : Step σ α Unit) := by
  refine Ends.look fun state held => ?_
  have appended : Ends (fun state : EngineState σ α => state.session = session ∧
      state.iteration = iteration) (fun _ state => state.session = session ∧
        state.iteration = iteration)
      (fun state => ∃ count, (count = session.completedIterations ∨ count = iteration.index) ∧
        state.session = { session with completedIterations := count })
      (Step.onHost (.persistence "append history")
        (History.append engine.project.historyFile ⟨state.session.id, state.iteration⟩)) :=
    Ends.of_keeps (Keeps.onHost _ _ fun _ _ => rfl :
        Keeps (fun state : EngineState σ α => (state.session, state.iteration)) _)
      (fun view => view.1 = session ∧ view.2 = iteration) fun _ same => ⟨_, .inl rfl, same.1⟩
  have counted : Ends (fun state : EngineState σ α => state.session = session ∧
      state.iteration = iteration) (fun _ after => after.session = { session with
        completedIterations := iteration.index } ∧ after.iteration = iteration)
      (fun state => ∃ count, (count = session.completedIterations ∨ count = iteration.index) ∧
        state.session = { session with completedIterations := count })
      (Step.changeSession fun session =>
        { session with completedIterations := state.iteration.index }) := by
    refine Ends.modify fun other same => ⟨?_, same.2⟩
    rw [same.1, held.2]
  have keeps : Keeps (fun state : EngineState σ α => (state.session, state.iteration)) (do
      modify fun state => { state with snapshot := { state.snapshot with phase := .learning } }
      engine.writeStatus) :=
    Keeps.bind (Keeps.modify fun _ => rfl) fun _ => (writeStatus_keeps_session engine).prod
      (writeStatus_keeps engine fun _ _ _ _ _ _ => rfl)
  refine (Ends.bind appended fun _ => Ends.bind counted fun _ => ?_).come state held
  exact Ends.of_keeps keeps (fun view =>
    view.1 = { session with completedIterations := iteration.index } ∧ view.2 = iteration)
    fun _ same => ⟨_, .inr rfl, same.1⟩

omit [Arithmetic α] in
/-- What is left of a session whose decisions were informed in order, and that is counted or not. -/
theorem Informing.touches {cap count : Nat} {state : EngineState σ α}
    (informing : Informing cap session state)
    (counted : count = state.session.completedIterations ∨ count = state.iteration.index) :
    session.Touched state.iteration.attempts { state.session with completedIterations := count } ∧
      state.iteration.attempts ≤ cap ∧ state.iteration.index = session.completedIterations + 1 := by
  obtain ⟨planned, part, attempts, within, tried, length, prefixes, deciding⟩ := informing
  have same : state.session.completedIterations = session.completedIterations :=
    (congrArg Session.completedIterations deciding.informed.frame :)
  have order : Session.InOrder state.iteration.attempts (planned ++ tried.flatten) :=
    ⟨planned, tried, rfl, part, prefixes, length.trans deciding.attempts.symm⟩
  rw [same, deciding.index] at counted
  exact ⟨deciding.informed.touched order counted, deciding.attempts ▸ within, deciding.index⟩

/-- What an iteration under an admitted cap makes of its session. -/
theorem iterate_touches {cap : Nat}
    (checked : engine.project.settings.retryPolicy.checkCap cap = .ok ()) :
    Ends (fun state => state.session = session)
      (fun result state => session.Touched result.iteration.attempts state.session ∧
        result.iteration.attempts ≤ cap ∧
        state.session.completedIterations = session.completedIterations + 1)
      (fun state => ∃ attempts, attempts ≤ cap ∧ session.Touched attempts state.session)
      (engine.iterate cap : Step σ α IterationResult) := by
  rw [iterate_eq_perform checked]
  have performed : Ends (fun state => state.session = session) (fun _ => Informing cap session)
      (Informing cap session) (engine.perform cap : Step σ α Unit) :=
    perform_informing (RetryPolicy.pos_of_checkCap checked)
  refine Ends.bind (performed.mono (fun _ => id) (fun _ _ => id) fun state informing => ?_)
    fun _ => ⟨fun middle informing => ?_⟩
  · obtain ⟨touched, within, -⟩ := informing.touches (.inl rfl)
    exact ⟨_, within, touched⟩
  · have counts : Ends (fun state : EngineState σ α => state.session = middle.session ∧
        state.iteration = middle.iteration) _ _ engine.finishIteration :=
      finishIteration_counts middle.iteration
    refine (Ends.bind (counts.mono (fun _ => id) (fun _ _ => id) fun state broken => ?_) fun _ =>
      Ends.look fun state done => .ok ?_).come middle ⟨rfl, rfl⟩
    · obtain ⟨count, counted, same⟩ := broken
      obtain ⟨touched, within, -⟩ := informing.touches counted
      exact ⟨_, within, same ▸ touched⟩
    · obtain ⟨same, iteration⟩ := done
      obtain ⟨touched, within, index⟩ := informing.touches (.inr rfl)
      rw [IterationResult.of, iteration, same]
      exact ⟨touched, within, index⟩

/-- An iteration touches only its part of the session, whether it comes to its end or breaks off,
whatever generator, builder and host do. Its identity, task, time and status stay and so does all of
the context but the strategy; influences are added behind those there were, each with the number of
the iteration and a confidence that is not out of range, and in the order of the phases within each
attempt; the count of iterations stays or grows by one. It grows when the iteration comes to its
end, and then the attempts are those of the result. Under a cap that is refused nothing changes at
all. -/
theorem iterate_touches_session (engine : Engine σ) (cap : Nat) (before : EngineState σ α) :
    (∀ e, engine.project.settings.retryPolicy.checkCap cap = .error e →
      engine.iterate cap before = .error (.settings e) before) ∧
    (∃ attempts, attempts ≤ cap ∧
      before.session.Touched attempts ((engine.iterate cap).final before).session) ∧
    ∀ result after, engine.iterate cap before = .ok result after →
      before.session.Touched result.iteration.attempts after.session ∧
        after.session.completedIterations = before.session.completedIterations + 1 := by
  refine ⟨fun e => iterate_of_refused engine cap before, ?_⟩
  cases checked : engine.project.settings.retryPolicy.checkCap cap with
  | error e =>
    have refused := iterate_of_refused engine cap before checked
    refine ⟨⟨0, Nat.zero_le _, ?_⟩, fun result after finished => ?_⟩
    · rw [Step.final_of_error refused]
      exact .refl _
    · rw [refused] at finished
      cases finished
  | ok _ =>
    have touches : Ends (fun state : EngineState σ α => state.session = before.session) _ _
        (engine.iterate cap) := iterate_touches checked
    refine ⟨?_, fun result after finished => ?_⟩
    · have either : Ends (fun state : EngineState σ α => state.session = before.session)
          (fun _ state => ∃ attempts, attempts ≤ cap ∧
            before.session.Touched attempts state.session)
          (fun state => ∃ attempts, attempts ≤ cap ∧
            before.session.Touched attempts state.session) (engine.iterate cap) :=
        touches.mono (fun _ => id) (fun _ _ done => ⟨_, done.2.1, done.1⟩) fun _ => id
      exact either.final rfl
    · obtain ⟨touched, -, counted⟩ := touches.of_ok rfl finished
      exact ⟨touched, counted⟩

end Engine

end TaskLoop

namespace TaskLoop.Sample

theorem stumbling_touches_session : ∃ result after,
    engine.iterate 2 fractionalStart = .ok result after ∧ session.Touched 2 after.session ∧
      after.session.completedIterations = 1 ∧ after.session.influences.map Influence.decision =
        [.exploration, .reasoning, .generation, .review] ∧
      ∃ e, engine.iterate 0 fractionalStart = .error (.settings e) fractionalStart := by
  have finishes : (match engine.iterate 2 fractionalStart with
    | .ok result after => decide (result.iteration.attempts = 2 ∧
        after.session.influences.map Influence.decision =
          [.exploration, .reasoning, .generation, .review])
    | .error _ _ => false) = true := by decide +kernel
  split at finishes
  · rename_i result after finished
    obtain ⟨attempts, decisions⟩ := of_decide_eq_true finishes
    obtain ⟨touched, counted⟩ :=
      (Engine.iterate_touches_session engine 2 fractionalStart).2.2 result after finished
    rw [attempts] at touched
    exact ⟨result, after, finished, touched, counted, decisions, _,
      (Engine.iterate_touches_session engine 0 fractionalStart).1 _ rfl⟩
  · cases finishes

end TaskLoop.Sample
