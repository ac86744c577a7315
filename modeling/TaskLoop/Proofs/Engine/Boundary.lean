import TaskLoop.Proofs.Checkpoint.Store
import TaskLoop.Proofs.Engine.Files
import TaskLoop.Proofs.Engine.Interruption
import TaskLoop.Proofs.Engine.Open

/-!
What holds between two iterations of a run: the files of the stores hold what the engine has
learnt, and the session goes on as it was started.
-/

set_option autoImplicit false

namespace TaskLoop

open TaskLoop.Path (Plain)
open Project (Apart Beside ReadsErrors ReadsPatterns)

/-! ### The files of the stores -/

namespace Project

variable {project : Project} {root : Place} {errors patterns : Option Node}
  {fresh : Nat → String}

/-- What stands in the files of the stores, where checkpoints go, and which identifiers are to
be issued. -/
structure Holding (project : Project) (root : Place) (errors patterns : Option Node)
    (fresh : Nat → String) (host : Host) : Prop where
  errors : project.Keeping root "errors.json" errors host.disk
  patterns : project.Keeping root "patterns.json" patterns host.disk
  checkpoints : project.Keeping root "checkpoints" (some .directory) host.disk
  fresh : host.fresh = fresh

/-- The names of the stores and of the directory of the checkpoints. -/
def keptNames : List String := ["errors.json", "patterns.json", "checkpoints"]

/-- The places of the stores and of the checkpoints. -/
def Kept (root : Place) (place : Place) : Prop := ∃ name ∈ keptNames, place = root ++ [name]

theorem Holding.guards (project : Project) (root : Place) (errors patterns : Option Node)
    (fresh : Nat → String) :
    project.Guards root (Kept root) (project.Holding root errors patterns fresh) where
  located _ holding := holding.errors.located
  outlasts _ _ _ spares apart holding :=
    ⟨holding.errors.spares spares fun touches => apart _ touches ⟨_, by decide, rfl⟩,
      holding.patterns.spares spares fun touches => apart _ touches ⟨_, by decide, rfl⟩,
      holding.checkpoints.spares spares fun touches => apart _ touches ⟨_, by decide, rfl⟩,
      spares.fresh.trans holding.fresh⟩

/-- No other file gets in the way of those. -/
theorem beside_kept {other : String} (another : other ∉ keptNames) :
    Beside root (Kept root) other := by
  rintro place replacing ⟨name, isKept, same⟩
  have visible : ∀ name ∈ keptNames, name.toList.head? ≠ some '.' := by decide
  have apart : Apart name other :=
    .of_visible (fun same => another (same ▸ isKept)) (visible name isKept)
  exact apart.beside place replacing same

variable {before after : Host}

/-- A save of the error index. -/
theorem Holding.saveErrors {index : ErrorIndex Float}
    (holding : project.Holding root errors patterns fresh before)
    (saved : index.save project.errorsFile before = .ok () after) :
    project.Holding root (some (.file (Text.Utf8.encode
      (ErrorIndex.recordsToJson index.records).fileText))) patterns fresh after := by
  have wrote := Act.mapError_eq_ok.mp saved
  obtain ⟨spares, -, -⟩ :=
    Disk.writeAtomic_eq_ok project.tidy_stateDir plain_errors holding.errors.located wrote
  exact ⟨holding.errors.replace plain_errors wrote,
    holding.patterns.replace_other (.of_visible (by decide) (by decide)) plain_errors wrote,
    holding.checkpoints.replace_other (.of_visible (by decide) (by decide)) plain_errors wrote,
    spares.fresh.trans holding.fresh⟩

/-- A save of the pattern table. -/
theorem Holding.savePatterns {table : Pattern.Table Float}
    (holding : project.Holding root errors patterns fresh before)
    (saved : Pattern.Table.save table project.patternsFile before = .ok () after) :
    project.Holding root errors (some (.file (Text.Utf8.encode
      (Pattern.Table.toJson table).fileText))) fresh after := by
  have wrote := Act.mapError_eq_ok.mp saved
  obtain ⟨spares, -, -⟩ :=
    Disk.writeAtomic_eq_ok project.tidy_stateDir plain_patterns holding.errors.located wrote
  exact ⟨holding.errors.replace_other (.of_visible (by decide) (by decide)) plain_patterns wrote,
    holding.patterns.replace plain_patterns wrote,
    holding.checkpoints.replace_other (.of_visible (by decide) (by decide)) plain_patterns wrote,
    spares.fresh.trans holding.fresh⟩

end Project

/-- What is read of the files of the stores is what is known, times apart. -/
structure Recalls (errors patterns : Option Node) (table : Pattern.Table Float)
    (index : ErrorIndex Float) : Prop where
  errors : ∀ records, ReadsErrors errors records →
    records.mapValues (fun _ record => record.timeless) = index.timeless.records
  patterns : ∀ found, ReadsPatterns patterns found →
    Pattern.Table.timeless found = Pattern.Table.timeless table

theorem Recalls.of_written {table : Pattern.Table Float} {index : ErrorIndex Float}
    (settled : Pattern.Table.Settled table) :
    Recalls (some (.file (Text.Utf8.encode (ErrorIndex.recordsToJson index.records).fileText)))
      (some (.file (Text.Utf8.encode (Pattern.Table.toJson table).fileText))) table index where
  errors records reads := by
    rcases reads with ⟨none, -⟩ | holds
    · cases none
    · exact ErrorIndex.timeless_recordsOfJson?
        (holds.decoded (ErrorIndex.printable_recordsToJson _))
  patterns found reads := by
    rcases reads with ⟨none, -⟩ | ⟨raw, holds, taken⟩
    · cases none
    · exact Pattern.Table.timeless_ofJson? settled
        (holds.decoded (Pattern.Table.printable_toJson _)) taken

/-- What was read of the files is known. -/
theorem Recalls.of_read {errors patterns : Option Node} {table : Pattern.Table Float}
    {index : ErrorIndex Float} (readErrors : ReadsErrors errors index.records)
    (readPatterns : ReadsPatterns patterns table) : Recalls errors patterns table index where
  errors records reads := by
    rw [reads.unique readErrors]
    rfl
  patterns found reads := by rw [reads.unique readPatterns]

/-! ### The session -/

/-- A session under way since it was started: it has its identifier and no additions to its
context. -/
structure Session.Goes (id : String) (session : Session) : Prop where
  id : session.id = id
  status : session.status = .active
  plain : session.context.extensions = .empty

theorem Session.Goes.adopt {id : String} {session : Session} (goes : session.Goes id)
    (strategy : Strategy) : (Engine.adoptStrategy strategy session).Goes id := by
  rw [Engine.adoptStrategy]
  split
  · exact goes
  · exact ⟨goes.id, goes.status, goes.plain⟩

theorem goes_of_startSession {ε : Type} {project : Project} {annotations : List Annotation}
    {task : Option String} {before after : Host} {session : Session}
    (started : (project.startSession annotations task : Act ε Session) before = .ok session after) :
    session.Goes (before.fresh before.issued) := by
  obtain ⟨⟨text, context, time, plain, rfl⟩, -⟩ := Checkpoint.startSession_eq_ok started
  exact ⟨rfl, rfl, plain⟩

namespace Engine

open Step (Keeps Leads)

variable {σ : Type} {engine : Engine σ} {id : String}

section

variable {α : Type}

/-- The session goes on. -/
def Going (id : String) (state : EngineState σ α) : Prop := state.session.Goes id

theorem going_of_keeps {β : Type} {step : Step σ α β}
    (keeps : Keeps (fun state => state.session) step) : Leads (Going id) (Going id) step :=
  Leads.of_keeps keeps fun session : Session => session.Goes id

theorem phased_going :
    engine.Phased anyConfidence (Going id : EngineState σ α → Prop) fun _ => Going id where
  enter phase := by
    refine Leads.bind (going_of_keeps (Keeps.modify fun _ => rfl)) fun _ => ?_
    refine Leads.bind (going_of_keeps (Keeps.modify fun _ => rfl)) fun _ => ?_
    refine Leads.bind (going_of_keeps (writeStatus_keeps_session engine)) fun _ => ?_
    exact going_of_keeps fun _ => rfl
  leave phase status started _ := by
    refine Leads.bind (going_of_keeps fun _ => rfl) fun _ => ?_
    refine Leads.bind (going_of_keeps (Keeps.modify fun _ => rfl)) fun _ => ?_
    exact going_of_keeps (writeStatus_keeps_session engine)
  ask phase β call := going_of_keeps fun _ => rfl
  build phase artifact := going_of_keeps fun _ => rfl
  influence phase decision annotations confidence _ := by
    refine Leads.bind (going_of_keeps fun _ => rfl) fun now => ?_
    exact Leads.modify fun _ goes => ⟨goes.id, goes.status, goes.plain⟩
  adopt phase strategy := Leads.modify fun _ goes => Session.Goes.adopt goes strategy
  begin attempt := going_of_keeps fun _ => rfl
  note attempt failure := going_of_keeps fun _ => rfl

theorem learn_going [Arithmetic α] {strategy : Strategy} :
    Leads (Going id) (Going id) (engine.learn strategy : Step σ α Unit) := by
  intro before _ after learnt going
  obtain ⟨entered, recorded, resolved, tabled, saved, stored, learns⟩ := learn_eq_ok learnt
  obtain ⟨started, entering, leaving⟩ := learns.around
  obtain ⟨hashes, recording⟩ := learns.recording
  have begun := phased_going.enter .learning _ _ _ entering going
  have counted : Going id recorded :=
    going_of_keeps (recordFailures_keeps (fun _ => rfl) (fun _ _ => rfl) _) _ _ _ recording begun
  have marked : Going id resolved := by
    rcases learns.resolving with rfl | ⟨note, hashes, resolving⟩
    · exact counted
    · exact going_of_keeps (resolveAll_keeps (fun _ _ => rfl) _ _) _ _ _ resolving counted
  have taken : Going id tabled :=
    going_of_keeps (recordOutcomes_keeps (fun _ => rfl) (fun _ _ => rfl) _ _ _) _ _ _
      learns.tabling marked
  have beside : Going id saved :=
    going_of_keeps (Keeps.onHost _ _ fun _ _ => rfl) _ _ _ learns.saving taken
  have both : Going id stored :=
    going_of_keeps (Keeps.onHost _ _ fun _ _ => rfl) _ _ _ learns.storing beside
  exact phased_going.leave .learning .completed started PhaseStatus.noConfusion _ _ _ leaving both

theorem finishIteration_going :
    Leads (Going id) (Going id) (engine.finishIteration : Step σ α Unit) := by
  refine Leads.bind Leads.get fun state => ?_
  refine Leads.bind (going_of_keeps (Keeps.onHost _ _ fun _ _ => rfl)) fun _ => ?_
  have counted : Leads (Going id) (Going id) (Step.changeSession fun session =>
      { session with completedIterations := state.iteration.index } : Step σ α Unit) :=
    Leads.modify fun _ goes => ⟨goes.id, goes.status, goes.plain⟩
  refine Leads.bind counted fun _ => ?_
  refine Leads.bind (going_of_keeps (Keeps.modify fun _ => rfl)) fun _ => ?_
  exact going_of_keeps (writeStatus_keeps_session engine)

theorem iterate_going [Arithmetic α] {cap : Nat} {before after : EngineState σ α}
    {result : IterationResult} (finished : engine.iterate cap before = .ok result after)
    (going : Going id before) : Going id after := by
  obtain ⟨plan, start, success, finish, prepared, attempted, concluded⟩ := iterate_eq_ok finished
  obtain ⟨learnt, learning, finishing, -⟩ := conclude_eq_ok concluded
  have phased : engine.Phased anyConfidence (Going id : EngineState σ α → Prop)
      fun _ => Going id := phased_going
  have started := phased.prepare trusts_any (going_of_keeps fun _ => rfl) _ _ _ prepared going
  have tried := phased.attempts trusts_any _ _ _ _ _ _ _ trivial _ _ _ attempted started
  exact finishIteration_going _ _ _ finishing (learn_going _ _ _ learning tried)

end

/-! ### One iteration -/

variable {root : Place} {errors patterns : Option Node} {fresh : Nat → String}
  {before after : EngineState σ Float}

theorem builds_holding (discreet : engine.builder.Discreet engine.project) :
    engine.Builds (engine.project.Holding root errors patterns fresh) :=
  fun artifact agents host holding =>
    ⟨discreet.spares _ _ _ _ _ _ holding.errors, discreet.spares _ _ _ _ _ _ holding.patterns,
      discreet.spares _ _ _ _ _ _ holding.checkpoints,
      (discreet.fresh artifact agents host).trans holding.fresh⟩

/-- Learning writes what is known then. -/
theorem learn_holding {strategy : Strategy} (discreet : engine.builder.Discreet engine.project)
    (learnt : engine.learn strategy before = .ok () after)
    (holding : engine.project.Holding root errors patterns fresh before.host) :
    engine.project.Holding root
      (some (.file (Text.Utf8.encode (ErrorIndex.recordsToJson after.index.records).fileText)))
      (some (.file (Text.Utf8.encode (Pattern.Table.toJson after.table).fileText))) fresh
      after.host := by
  obtain ⟨_, _, _, tabled, saved, stored, learns⟩ := learn_eq_ok learnt
  obtain ⟨started, -, leaving⟩ := learns.around
  obtain ⟨table, index⟩ := learns.same_stores
  have beside : Beside root (Project.Kept root) "status.json" := Project.beside_kept (by decide)
  have ready := learns.guarded_tabled (Project.Holding.guards _ _ _ _ _) beside
    (builds_holding discreet) holding
  obtain ⟨host, saving, rfl⟩ := Step.onHost_eq_ok.1 learns.saving
  obtain ⟨host', storing, rfl⟩ := Step.onHost_eq_ok.1 learns.storing
  have both := (ready.saveErrors saving).savePatterns storing
  rw [table, index]
  exact (phased_guarded (Project.Holding.guards _ _ _ _ _) beside
    (builds_holding discreet)).leave .learning .completed started PhaseStatus.noConfusion _ _ _
      leaving both

theorem recordOutcomes_settled {iteration : Iteration} {complexity : Complexity}
    {phases : List Phase} (recorded : recordOutcomes iteration complexity phases before = .ok () after)
    (settled : Pattern.Table.Settled before.table) : Pattern.Table.Settled after.table := by
  induction phases generalizing before with
  | nil =>
    cases recorded
    exact settled
  | cons phase rest ih =>
    rcases recordOutcomes_cons_eq_ok recorded with
      ⟨-, recorded⟩ | ⟨outcome, _, _, _, -, recorded⟩
    · exact ih recorded settled
    · exact ih recorded (settled.recordOutcome phase (some complexity) outcome _ _)

theorem learn_settled {strategy : Strategy} (learnt : engine.learn strategy before = .ok () after)
    (settled : Pattern.Table.Settled before.table) : Pattern.Table.Settled after.table := by
  obtain ⟨_, _, _, tabled, saved, stored, learns⟩ := learn_eq_ok learnt
  rw [learns.same_stores.1]
  refine recordOutcomes_settled learns.tabling ?_
  rw [learns.resolved_table]
  exact settled

/-- What holds between iterations: the session goes on, and the files of the stores hold what is
known. -/
structure Between (engine : Engine σ) (root : Place) (fresh : Nat → String) (id : String)
    (state : EngineState σ Float) : Prop where
  session : state.session.Goes id
  settled : Pattern.Table.Settled state.table
  threshold : state.index.threshold = engine.project.settings.similarity.threshold
  files : ∃ errors patterns,
    engine.project.Holding root errors patterns fresh state.host ∧
      Recalls errors patterns state.table state.index

/-- From one iteration to the next. -/
theorem iterate_between {cap : Nat} {id : String} {result : IterationResult}
    (discreet : engine.builder.Discreet engine.project)
    (finished : engine.iterate cap before = .ok result after)
    (between : engine.Between root fresh id before) : engine.Between root fresh id after := by
  have status : Beside root (Project.Kept root) "status.json" := Project.beside_kept (by decide)
  have history : Beside root (Project.Kept root) "history.jsonl" := Project.beside_kept (by decide)
  have goes := iterate_going finished between.session
  obtain ⟨errors, patterns, holding, -⟩ := between.files
  obtain ⟨plan, start, success, finish, prepared, attempted, concluded⟩ := iterate_eq_ok finished
  obtain ⟨learnt, learning, finishing, -⟩ := conclude_eq_ok concluded
  obtain ⟨table, index⟩ := tried_stores prepared attempted
  have kept : (after.table, after.index) = (learnt.table, learnt.index) :=
    (finishIteration_keeps engine unmoved_stores.aside).of_ok finishing
  obtain ⟨lastTable, lastIndex⟩ := Prod.mk.inj kept
  have tried := tried_guarded (Project.Holding.guards _ _ _ _ _) status (builds_holding discreet)
    prepared attempted holding
  have written := learn_holding discreet learning tried
  have settled : Pattern.Table.Settled learnt.table := by
    refine learn_settled learning ?_
    show Pattern.Table.Settled finish.table
    rw [table]
    exact between.settled
  obtain ⟨_, _, _, _, _, _, learns⟩ := learn_eq_ok learning
  have threshold : learnt.index.threshold = finish.index.threshold := learns.threshold
  have last := finishIteration_guarded (Project.Holding.guards _ _ _ _ _) status history _ _ _
    finishing written
  refine ⟨goes, lastTable ▸ settled, ?_, _, _, last, ?_⟩
  · rw [lastIndex, threshold, index]
    exact between.threshold
  · rw [lastTable, lastIndex]
    exact Recalls.of_written settled

/-! ### Checkpoints and runs -/

section Runs

variable {iteration : Option Iteration} {label : String} {handle : CheckpointHandle}

/-- What a save touches is apart from the stores. -/
theorem not_kept_of_within {place : Place}
    (within : Checkpoint.Within (root ++ ["checkpoints"]) id place) :
    ¬ Project.Kept root place := by
  obtain ⟨rest, rfl⟩ := within
  rintro ⟨name, -, same⟩
  have length := congrArg List.length same
  simp only [List.length_append, List.length_cons, List.length_nil] at length
  omega

/-- A checkpoint goes to the directory of its session. -/
theorem save_holding (project : Project) {session : Session} {host later : Host}
    (names : ∀ number, Plain (fresh number)) (plain : Plain session.id)
    (saved : Checkpoint.save project.checkpointsDir session iteration label host =
      .ok handle later) (holding : project.Holding root errors patterns fresh host) :
    project.Holding root errors patterns fresh later ∧ handle.path.Tidy ∧
      ∃ name, later.disk.locate handle.path = .ok (root ++ ["checkpoints", session.id, name]) := by
  have located := holding.checkpoints.locate Project.plain_checkpoints (by decide)
  have next : Plain (host.fresh host.issued) := by
    rw [holding.fresh]
    exact names _
  obtain ⟨spares, name, tidy, leads⟩ := Checkpoint.save_places project.tidy_checkpointsDir located
    holding.checkpoints.content plain next saved
  rw [List.append_assoc] at leads
  exact ⟨(Project.Holding.guards _ _ _ _ _).outlasts _ _ _ spares
    (fun _ => not_kept_of_within) holding, tidy, name, leads⟩

theorem checkpoint_between (names : ∀ number, Plain (fresh number)) (plain : Plain id)
    (saved : engine.checkpoint iteration label before = .ok handle after)
    (between : engine.Between root fresh id before) : engine.Between root fresh id after := by
  obtain ⟨host, rfl, saving⟩ := checkpoint_eq_ok saved
  obtain ⟨errors, patterns, holding, recalls⟩ := between.files
  have own : Plain before.session.id := by
    rw [between.session.id]
    exact plain
  obtain ⟨kept, -⟩ := save_holding engine.project names own saving holding
  exact ⟨between.session, between.settled, between.threshold, errors, patterns, kept, recalls⟩

theorem checkpointPeriodically_between {current : Iteration} (names : ∀ number, Plain (fresh number))
    (plain : Plain id) (saved : engine.checkpointPeriodically current before = .ok () after)
    (between : engine.Between root fresh id before) : engine.Between root fresh id after := by
  obtain ⟨_, _, got, saved⟩ := Step.bind_eq_ok.1 saved
  cases got
  split at saved
  · obtain ⟨_, _, saving, saved⟩ := Step.bind_eq_ok.1 saved
    cases saved
    exact checkpoint_between names plain saving between
  · cases saved
    exact between

theorem turn_between {result : IterationResult} (discreet : engine.builder.Discreet engine.project)
    (names : ∀ number, Plain (fresh number)) (plain : Plain id)
    (turned : engine.turn before = .ok result after)
    (between : engine.Between root fresh id before) : engine.Between root fresh id after := by
  obtain ⟨_, iterated, ran, turned⟩ := Step.bind_eq_ok.1 turned
  obtain ⟨_, _, saving, turned⟩ := Step.bind_eq_ok.1 turned
  cases turned
  exact checkpointPeriodically_between names plain saving (iterate_between discreet ran between)

/-- From the start of a run to its end. -/
theorem runIterations_between {remaining : Nat} {earlier : List IterationResult}
    {come : StopReason × List IterationResult}
    (discreet : engine.builder.Discreet engine.project) (names : ∀ number, Plain (fresh number))
    (plain : Plain id) (ran : engine.runIterations remaining earlier before = .ok come after)
    (between : engine.Between root fresh id before) : engine.Between root fresh id after := by
  induction remaining generalizing earlier before with
  | zero =>
    cases going : engine.cancelled before.agents with
    | true =>
      cases (runIterations_of_cancelled going).symm.trans ran
      exact between
    | false =>
      cases (runIterations_zero going).symm.trans ran
      exact between
  | succ remaining ih =>
    cases going : engine.cancelled before.agents with
    | true =>
      cases (runIterations_of_cancelled going).symm.trans ran
      exact between
    | false =>
      rw [runIterations_succ going] at ran
      obtain ⟨result, next, turned, ran⟩ := Step.bind_eq_ok.1 ran
      have reached := turn_between discreet names plain turned between
      split at ran
      · cases ran
        exact reached
      · exact ih ran reached

end Runs

end Engine

end TaskLoop
