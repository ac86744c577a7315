import TaskLoop.Proofs.Engine.Interruption
import TaskLoop.Proofs.Engine.Open
import TaskLoop.Proofs.Engine.Overcome

/-!
Settings that were accepted are not refused later. Their threshold and their bounds on attempts
pass where they are checked again, when the engine is opened and when it begins an iteration, and
nothing else refuses settings: an engine at work fails by its files alone.
-/

set_option autoImplicit false

namespace TaskLoop

/-! ### Opening -/

/-- The error of a store that was read. -/
def StoreError.OfReading : StoreError → Prop
  | .unreadable _ _ => True
  | .malformed _ _ => True
  | _ => False

/-- The error of an engine that is opened under settings that were accepted. -/
def EngineError.OfOpening : EngineError → Prop
  | .persistence _ _ => True
  | .locked _ => True
  | .store e => e.OfReading
  | _ => False

theorem EngineError.OfDisk.ne_settings {e : EngineError} (ofDisk : e.OfDisk)
    (refused : SettingsError) : e ≠ .settings refused := by
  rintro rfl
  exact ofDisk

theorem Store.readJson_ends {β : Type} (path : Path) (decode : Json → Option β) (before : Host) :
    (readJson path decode).Ends before (fun _ after => after = before)
      fun e _ => e.OfReading := by
  simp only [Act.Ends, readJson, Act.look]
  cases before.disk.readText path with
  | error e => trivial
  | ok text =>
    dsimp only
    cases (Json.ofText? text).bind decode with
    | none => trivial
    | some value => rfl

/-- Under a threshold that is a share only a file can keep an index from being read. -/
theorem ErrorIndex.load_ends {α : Type} [Arithmetic α] {threshold : α}
    (valid : thresholdIsValid threshold = true) (path : Path) (describe : α → String)
    (before : Host) :
    (load path threshold describe).Ends before
      (fun index after => after = before ∧ index.threshold = threshold)
      fun e _ => before.disk.pathExists path = true ∧ e.OfReading := by
  simp only [load, valid, Bool.not_true, Bool.false_eq_true, ↓reduceIte]
  refine Act.Ends.get ?_
  split
  · next there =>
    refine Act.Ends.bind ((Store.readJson_ends path recordsOfJson? before).mono ?_ ?_)
    · rintro records _ rfl
      exact ⟨rfl, rfl⟩
    · exact fun e _ ofReading => ⟨there, ofReading⟩
  · exact ⟨rfl, rfl⟩

theorem Pattern.Table.load_ends {α : Type} [Arithmetic α] (path : Path) (before : Host) :
    (load path : Act StoreError (Pattern.Table α)).Ends before (fun _ _ => True)
      fun e _ => e.OfReading := by
  rw [load]
  refine Act.Ends.get ?_
  split
  · refine Act.Ends.bind ((Store.readJson_ends path Table.ofJson? before).mono ?_ fun _ _ => id)
    intro raw between _
    cases Pattern.Table.settle raw with
    | ok table => trivial
    | error flaw => trivial
  · trivial

namespace Project

variable {project : Project}

theorem openStores_ends {warnings : List SettingsWarning}
    (validated : project.settings.validate = .ok warnings) (before : Host) :
    project.openStores.Ends before (fun _ _ => True) fun e _ => e.OfOpening := by
  have valid := (Settings.validate_eq_ok.mp validated).1.threshold
  have stores (before : Host) :
      project.loadStores.Ends before (fun _ _ => True) fun e _ => e.OfOpening := by
    refine Act.Ends.bind (Act.Ends.mapError ?_)
    refine (Pattern.Table.load_ends _ before).mono (fun _ between _ => ?_) fun _ _ => id
    refine Act.Ends.bind (Act.Ends.mapError ?_)
    exact (ErrorIndex.load_ends valid _ _ between).mono (fun _ _ _ => trivial) fun _ _ failed =>
      failed.2
  have locked (before : Host) : project.lock.Ends before (fun _ _ => True) fun e _ => e.OfOpening := by
    refine Act.Ends.bind (Act.Ends.mapError (Act.Ends.of_forall (fun taken _ => ?_) fun _ _ => ?_))
    · cases taken <;> trivial
    · trivial
  simp only [openStores, validated]
  refine Act.Ends.bind (Act.Ends.mapError (Act.Ends.of_forall (fun _ made => ?_) fun _ _ => ?_))
  · refine Act.Ends.bind ((locked made).mono (fun place between _ => ?_) fun _ _ => id)
    refine Act.Ends.bind (Act.Ends.tryCatch ((stores between).mono ?_ ?_))
    · exact fun _ _ _ => trivial
    · exact fun _ _ => id
  · trivial

end Project

namespace Step

variable {σ α β γ : Type} {kind kind' : EngineError → Prop}

namespace FailsBy

theorem mono {step : Step σ α β} (fails : FailsBy kind step) (wider : ∀ e, kind e → kind' e) :
    FailsBy kind' step :=
  fun before e after failed => wider e (fails before e after failed)

theorem ask (call : σ → Except Failure β × σ) :
    FailsBy kind (Step.ask call : Step σ α (Except Failure β)) :=
  fun _ _ _ failed => by cases failed

theorem askBuilder (call : σ → Host → (Except Failure BuildOutcome × σ) × Host) :
    FailsBy kind (Step.askBuilder call : Step σ α (Except Failure BuildOutcome)) :=
  fun _ _ _ failed => by cases failed

theorem recordInfluence (decision : Decision) (annotations : List String) (confidence : Float) :
    FailsBy kind (Step.recordInfluence decision annotations confidence : Step σ α Unit) :=
  bind now fun _ => modify _

end FailsBy

end Step

namespace Engine

open EngineError (OfDisk)
open Step (FailsBy)

variable {σ α β : Type} {engine : Engine σ}

/-! ### Only files make an iteration fail -/

theorem firstReply_fails {kind : EngineError → Prop} {call : Step σ α (Except Failure β)}
    (fails : FailsBy kind call) (attempts : Nat) : FailsBy kind (firstReply call attempts) := by
  induction attempts with
  | zero => exact FailsBy.pure none
  | succ attempts ih =>
    refine FailsBy.bind fails fun reply => ?_
    cases reply with
    | ok reply => exact FailsBy.pure (some reply)
    | error _ => exact ih

theorem explore_fails : FailsBy OfDisk (engine.explore : Step σ α Exploration) := by
  refine FailsBy.bind (enter_fails _) fun _ => FailsBy.bind FailsBy.get fun _ => ?_
  refine FailsBy.bind (firstReply_fails (FailsBy.ask _) _) fun reply => ?_
  cases reply with
  | some exploration =>
    refine FailsBy.bind (FailsBy.recordInfluence _ _ _) fun _ => ?_
    exact FailsBy.bind (leave_fails _ _ _) fun _ => FailsBy.pure _
  | none => exact FailsBy.bind (leave_fails _ _ _) fun _ => FailsBy.pure _

theorem reason_fails (exploration : Exploration) :
    FailsBy OfDisk (engine.reason exploration : Step σ α Strategy) := by
  refine FailsBy.bind (enter_fails _) fun _ => FailsBy.bind FailsBy.get fun _ => ?_
  refine FailsBy.bind (firstReply_fails (FailsBy.ask _) _) fun reply => ?_
  cases reply with
  | some strategy =>
    refine FailsBy.bind (FailsBy.modify _) fun _ => ?_
    refine FailsBy.bind (FailsBy.recordInfluence _ _ _) fun _ => ?_
    exact FailsBy.bind (leave_fails _ _ _) fun _ => FailsBy.pure _
  | none => exact FailsBy.bind (leave_fails _ _ _) fun _ => FailsBy.pure _

theorem generate_fails (request : GenerationRequest) :
    FailsBy OfDisk (engine.generate request : Step σ α (Except AttemptFailure Artifact)) := by
  refine FailsBy.bind (enter_fails _) fun _ => FailsBy.bind (FailsBy.ask _) fun reply => ?_
  cases reply with
  | ok artifact =>
    refine FailsBy.bind (FailsBy.recordInfluence _ _ _) fun _ => ?_
    exact FailsBy.bind (leave_fails _ _ _) fun _ => FailsBy.pure _
  | error failure => exact FailsBy.bind (leave_fails _ _ _) fun _ => FailsBy.pure _

theorem review_fails (request : GenerationRequest) (artifact : Artifact) :
    FailsBy OfDisk (engine.review request artifact : Step σ α (Option AttemptFailure)) := by
  have settled (started : Timestamp) (rejection : Option String) :
      FailsBy OfDisk (engine.endReview started rejection : Step σ α (Option AttemptFailure)) := by
    cases rejection with
    | some message => exact FailsBy.bind (leave_fails _ _ _) fun _ => FailsBy.pure _
    | none => exact FailsBy.bind (leave_fails _ _ _) fun _ => FailsBy.pure _
  refine FailsBy.bind (enter_fails _) fun started => FailsBy.bind (FailsBy.ask _) fun reply => ?_
  cases reply with
  | ok findings =>
    refine FailsBy.bind (FailsBy.recordInfluence _ _ _) fun _ => ?_
    exact FailsBy.bind (FailsBy.pure _) fun rejection => settled started rejection
  | error failure => exact FailsBy.bind (FailsBy.pure _) fun rejection => settled started rejection

theorem compile_fails (artifact : Artifact) :
    FailsBy OfDisk (engine.compile artifact : Step σ α (Option AttemptFailure)) := by
  refine FailsBy.bind (enter_fails _) fun _ => FailsBy.bind (FailsBy.askBuilder _) fun _ => ?_
  exact FailsBy.bind (leave_fails _ _ _) fun _ => FailsBy.pure _

theorem attempt_fails (request : GenerationRequest) :
    FailsBy OfDisk (engine.attempt request : Step σ α (Option AttemptFailure)) := by
  refine FailsBy.bind (generate_fails request) fun generated => ?_
  cases generated with
  | error failure => exact FailsBy.pure _
  | ok artifact =>
    refine FailsBy.bind (review_fails request artifact) fun reviewed => ?_
    cases reviewed with
    | some failure => exact FailsBy.pure _
    | none => exact compile_fails artifact

theorem prepare_fails : FailsBy OfDisk (engine.prepare : Step σ α (Exploration × Strategy)) := by
  have begun : FailsBy OfDisk (engine.beginIteration : Step σ α Unit) :=
    FailsBy.bind FailsBy.now fun _ => FailsBy.bind FailsBy.now fun _ => FailsBy.modify _
  refine FailsBy.bind begun fun _ => FailsBy.bind explore_fails fun exploration => ?_
  exact FailsBy.bind (reason_fails exploration) fun _ => FailsBy.pure _

theorem finishIteration_fails : FailsBy OfDisk (engine.finishIteration : Step σ α Unit) := by
  refine FailsBy.bind FailsBy.get fun _ => ?_
  refine FailsBy.bind (FailsBy.onHost fun _ _ _ _ => trivial) fun _ => ?_
  refine FailsBy.bind (FailsBy.modify _) fun _ => ?_
  exact FailsBy.bind (FailsBy.modify _) fun _ => writeStatus_fails

variable [Arithmetic α]

theorem attempts_fails (cap : Nat) (exploration : Exploration) (strategy : Strategy)
    (remaining attempt : Nat) (failures suggestions : List String) :
    FailsBy OfDisk
      (engine.attempts cap exploration strategy remaining attempt failures suggestions :
        Step σ α Bool) := by
  induction remaining generalizing attempt failures suggestions with
  | zero => exact FailsBy.pure false
  | succ remaining ih =>
    unfold attempts
    refine FailsBy.bind (FailsBy.modify _) fun _ => FailsBy.bind FailsBy.get fun _ => ?_
    refine FailsBy.bind (attempt_fails _) fun failed => ?_
    cases failed with
    | none => exact FailsBy.pure true
    | some failure =>
      refine FailsBy.bind (FailsBy.modify _) fun _ => ?_
      dsimp only
      split
      · exact FailsBy.pure false
      · exact FailsBy.bind FailsBy.get fun _ => ih _ _ _

/-- Under a cap that is admitted only files make an iteration fail. -/
theorem iterate_fails {cap : Nat}
    (checked : engine.project.settings.retryPolicy.checkCap cap = .ok ()) :
    FailsBy OfDisk (engine.iterate cap : Step σ α IterationResult) := by
  rw [iterate_eq checked]
  refine FailsBy.bind prepare_fails fun plan => ?_
  refine FailsBy.bind (attempts_fails cap plan.1 plan.2 cap 1 [] []) fun success => ?_
  refine FailsBy.bind (FailsBy.modify _) fun _ => FailsBy.bind (learn_fails plan.2) fun _ => ?_
  exact FailsBy.bind finishIteration_fails fun _ => FailsBy.bind FailsBy.get fun _ => FailsBy.pure _

/-! ### Only files make a run fail -/

omit [Arithmetic α] in
theorem checkpoint_fails (iteration : Option Iteration) (label : String) :
    FailsBy OfDisk (engine.checkpoint iteration label : Step σ α CheckpointHandle) :=
  FailsBy.bind FailsBy.get fun _ => FailsBy.onHost fun _ _ _ failed => save_ofDisk failed

omit [Arithmetic α] in
theorem checkpointPeriodically_fails (iteration : Iteration) :
    FailsBy OfDisk (engine.checkpointPeriodically iteration : Step σ α Unit) := by
  refine FailsBy.bind FailsBy.get fun state => ?_
  dsimp only
  split
  · exact FailsBy.bind (checkpoint_fails _ _) fun _ => FailsBy.pure ()
  · exact FailsBy.pure ()

section Admitted

variable (checked : engine.project.settings.retryPolicy.checkCap
  engine.project.settings.engine.maxRetries = .ok ())

include checked

theorem turn_fails : FailsBy OfDisk (engine.turn : Step σ α IterationResult) := by
  refine FailsBy.bind (iterate_fails checked) fun result => ?_
  exact FailsBy.bind (checkpointPeriodically_fails _) fun _ => FailsBy.pure _

theorem runIterations_fails (remaining : Nat) (results : List IterationResult) :
    FailsBy OfDisk
      (engine.runIterations remaining results : Step σ α (StopReason × List IterationResult)) := by
  induction remaining generalizing results with
  | zero =>
    rw [runIterations_eq]
    refine FailsBy.bind FailsBy.get fun state => ?_
    split
    · exact FailsBy.pure _
    · exact FailsBy.pure _
  | succ remaining ih =>
    rw [runIterations_eq]
    refine FailsBy.bind FailsBy.get fun state => ?_
    split
    · exact FailsBy.pure _
    · refine FailsBy.bind (turn_fails checked) fun result => ?_
      split
      · exact FailsBy.pure _
      · exact ih _

/-- Where the most attempts are admitted only files make a run of an active session fail. -/
theorem run_fails : FailsBy (fun e => e.OfDisk ∨ ∃ session, e = .inactive session)
      (engine.run : Step σ α RunSummary) := by
  refine FailsBy.bind FailsBy.get fun state => ?_
  dsimp only
  split
  · rintro before e after ⟨⟩
    exact .inr ⟨_, rfl⟩
  · refine FailsBy.mono (?_ : FailsBy OfDisk _) fun _ => .inl
    refine FailsBy.bind (runIterations_fails checked _ _) fun come => ?_
    refine FailsBy.bind (FailsBy.modify _) fun _ => ?_
    exact FailsBy.bind (checkpoint_fails _ _) fun _ => FailsBy.pure _

end Admitted

/-! ### Settings that were accepted -/

/-- Settings that are accepted are not refused later. The bounds on attempts pass again, an index
is read under the threshold unless its file cannot be, the most attempts are admitted as a cap, and
the bounds between which a budget is put do not cross. Every budget lies between the least and the
most attempts, which the ceiling bounds, and is the most when the kind of failure does not count;
under a cap that is admitted it leaves one attempt at least and the cap at most. So an engine opens
unless its files or its lock keep it from that, and from whatever state neither an iteration of the
most attempts nor a run refuses the settings: files make them fail, or the session is not active. -/
theorem accepted_never_refused (α : Type) [Arithmetic α] (engine : Engine σ)
    {warnings : List SettingsWarning}
    (validated : engine.project.settings.validate = .ok warnings) :
    let project := engine.project
    let policy := project.settings.retryPolicy
    policy.validate = .ok () ∧
    (∀ path describe host e after,
      ErrorIndex.load path project.settings.similarity.threshold describe host = .error e after →
        host.disk.pathExists path = true ∧ e.OfReading) ∧
    policy.checkCap policy.maxRetries = .ok () ∧
    policy.minRetries ≤ policy.limit ∧
    policy.maxRetries ≤ policy.ceiling ∧ policy.ceiling ≤ 8 ∧
    (∀ category, policy.minRetries ≤ policy.budgetFor category ∧
      policy.budgetFor category ≤ policy.maxRetries ∧
      (policy.adaptive = false → policy.budgetFor category = policy.maxRetries) ∧
      ∀ cap, policy.checkCap cap = .ok () →
        1 ≤ policy.budgetCapped category cap ∧ policy.budgetCapped category cap ≤ cap) ∧
    (∀ host e after, project.openStores host = .error e after → e.OfOpening) ∧
    (∀ (before : EngineState σ α) e after,
      engine.iterate policy.maxRetries before = .error e after →
        e.OfDisk ∧ ∀ refused, e ≠ .settings refused) ∧
    ∀ (before : EngineState σ α) e after, engine.run before = .error e after →
      (e.OfDisk ∨ ∃ session, e = .inactive session) ∧ ∀ refused, e ≠ .settings refused := by
  intro project policy
  have accepted := (Settings.validate_eq_ok.mp validated).1
  have sound : policy.Sound := accepted.policy
  have checked := sound.checkCap_maxRetries
  refine ⟨RetryPolicy.validate_eq_ok.mpr sound, fun path describe host e after failed => ?_, checked,
    sound.minRetries_le_limit, sound.most, sound.ceiling, fun category => ⟨?_, ?_, ?_, ?_⟩,
    fun host e after failed => ?_, fun before e after failed => ?_,
    fun before e after failed => ?_⟩
  · exact (ErrorIndex.load_ends accepted.threshold path describe host).of_error failed
  · exact sound.minRetries_le_budgetFor
  · exact sound.budgetFor_le_maxRetries
  · exact sound.budgetFor_of_not_adaptive
  · exact fun cap admitted => ⟨sound.one_le_budgetCapped, RetryPolicy.budgetCapped_le_cap admitted⟩
  · exact (Project.openStores_ends validated host).of_error failed
  · have ofDisk : e.OfDisk := iterate_fails checked before e after failed
    exact ⟨ofDisk, ofDisk.ne_settings⟩
  · rcases run_fails checked before e after failed with ofDisk | ⟨session, rfl⟩
    · exact ⟨.inl ofDisk, ofDisk.ne_settings⟩
    · exact ⟨.inr ⟨session, rfl⟩, fun _ => nofun⟩

end Engine

/-! ### An engine at hand -/

namespace Sample

/-- An engine whose attempts depend on the kind of failure. -/
def discerning : Engine Nat := { engine with
  project := .ofSettings ⟨""⟩ {
    engine := { minRetries := 2, maxRetries := 4, adaptive := true }
    ceiling := 6 } }

/-- The state at the start of a session on a host whose tenth step on files fails. -/
def interrupted : EngineState Nat Float :=
  { start with host := { host with faults := List.replicate 9 none ++ [some 0] } }

theorem validated_discerning :
    discerning.project.settings.validate = .ok discerning.project.settings.warnings := by
  refine Settings.validate_eq_ok.mpr ⟨⟨by decide, ?_, by decide +kernel, by decide⟩, rfl⟩
  exact RetryPolicy.validate_eq_ok.mp rfl

/-- A kind of failure whose budget is five is given no more than four attempts, and no more than
three under a cap of three; and the run is broken off, but not for its settings. -/
theorem discerning_never_refused :
    discerning.project.settings.retryPolicy.budgetFor .runtime ≤ 4 ∧
    discerning.project.settings.retryPolicy.budgetCapped .runtime 3 ≤ 3 ∧
    ∃ e after, discerning.run interrupted = .error e after ∧ ∀ refused, e ≠ .settings refused := by
  obtain ⟨-, -, -, -, -, -, budgets, -, -, runs⟩ :=
    Engine.accepted_never_refused Float discerning validated_discerning
  obtain ⟨-, most, -, capped⟩ := budgets .runtime
  refine ⟨most, (capped 3 rfl).2, ?_⟩
  have fails : discerning.run.succeeds interrupted = false := by decide +kernel
  cases ran : discerning.run interrupted with
  | ok summary after => simp only [Step.succeeds, ran, Bool.true_eq_false] at fails
  | error e after => exact ⟨e, after, rfl, (runs interrupted e after ran).2⟩

end Sample

end TaskLoop
