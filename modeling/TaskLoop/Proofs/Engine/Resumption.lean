import TaskLoop.Proofs.Checkpoint.Listing
import TaskLoop.Proofs.Engine.Boundary

/-!
A run that is stopped and taken up again comes to what it would have come to without the stop.
-/

set_option autoImplicit false

namespace TaskLoop

open TaskLoop.Path (Plain)

/-- A file that was not touched is read as before. -/
theorem Host.Spares.readText {touched : Place → Prop} {before after : Host} {path : Path}
    {place : Place} (spares : Host.Spares touched before after) (tidy : path.Tidy)
    (located : before.disk.locate path = .ok place) (apart : ¬ touched place) :
    after.disk.readText path = before.disk.readText path := by
  simp only [Disk.readText, Disk.read, located, spares.grows.locate tidy located,
    spares.nodes place apart, bind, Except.bind]

/-! ### Taking up a session -/

namespace Project

variable {project : Project} {reference : String} {before after : Host} {session : Session}
  {current : Option Iteration}

section Found

variable {handle : CheckpointHandle} {checkpoint : Checkpoint}
  (found : Checkpoint.resolveFrom before.disk project.checkpointsDir reference = .ok handle)
  (loaded : Checkpoint.loadFrom before.disk handle.path = .ok checkpoint)

include found loaded

/-- What becomes of the checkpoint that a reference means depends on the status of its session. -/
theorem resumeSession_eq : project.resumeSession reference before =
    match checkpoint.payload.session.status with
    | .completed => .error (.inactive checkpoint.payload.session.id) before
    | _ => .ok ({ checkpoint.payload.session with status := .active },
        checkpoint.payload.iteration) before := by
  have resolving : (Checkpoint.resolve project.checkpointsDir reference).mapError
      EngineError.checkpoint before = .ok handle before :=
    Act.mapError_eq_ok.mpr (Act.look_eq_ok.mpr ⟨found, rfl⟩)
  have loading : (Checkpoint.load handle.path).mapError EngineError.checkpoint before =
      .ok checkpoint before := Act.mapError_eq_ok.mpr (Act.look_eq_ok.mpr ⟨loaded, rfl⟩)
  simp only [resumeSession, bind, EStateM.bind, resolving, loading]
  cases checkpoint.payload.session.status <;> rfl

/-- The session of the checkpoint that a reference means is taken up, active again, unless it is
complete. -/
theorem resumeSession_of_found (unfinished : checkpoint.payload.session.status ≠ .completed) :
    project.resumeSession reference before = .ok
      ({ checkpoint.payload.session with status := .active }, checkpoint.payload.iteration)
      before := by
  rw [resumeSession_eq found loaded]
  cases status : checkpoint.payload.session.status with
  | completed => exact absurd status unfinished
  | active => rfl
  | stopped => rfl

/-- A session that is complete is not taken up. -/
theorem resumeSession_of_completed (completed : checkpoint.payload.session.status = .completed) :
    project.resumeSession reference before =
      .error (.inactive checkpoint.payload.session.id) before := by
  rw [resumeSession_eq found loaded, completed]

end Found

/-- An engine that is opened on the same files has learnt the same, times apart. -/
theorem reopened_timeless {root : Place} {errors patterns : Option Node} {fresh : Nat → String}
    {later reread : Host} {place : Place} {table known : Pattern.Table Float}
    {index learnt : ErrorIndex Float}
    (holding : project.Holding root errors patterns fresh before)
    (recalls : Recalls errors patterns known learnt)
    (sameThreshold : learnt.threshold = project.settings.similarity.threshold)
    (sameDisk : later.disk = before.disk)
    (opened : project.openStores later = .ok (place, table, index) reread) :
    Pattern.Table.timeless table = Pattern.Table.timeless known ∧
      index.timeless = learnt.timeless := by
  have checkpoints : project.Keeping root "checkpoints" (some .directory) later.disk := by
    rw [sameDisk]
    exact holding.checkpoints
  have spares := openStores_spares checkpoints opened
  have kept {name : String} {content : Option Node}
      (another : name ∉ ["checkpoints", "logs", "engine.lock"])
      (keeping : project.Keeping root name content before.disk) :
      project.Keeping root name content reread.disk := by
    rw [← sameDisk] at keeping
    refine keeping.spares spares ?_
    rintro ⟨other, isOther, same⟩
    obtain rfl := List.singleton_inj.mp (List.append_cancel_left same)
    exact another isOther
  obtain ⟨_, -, -, patternsLoaded, errorsLoaded⟩ := openStores_eq_ok opened
  obtain ⟨-, threshold, readErrors⟩ := loadErrors_eq_ok errorsLoaded
  obtain ⟨-, readPatterns⟩ := loadPatterns_eq_ok patternsLoaded
  have records := recalls.errors _ (readErrors _ _ (kept (by decide) holding.errors))
  refine ⟨recalls.patterns _ (readPatterns _ _ (kept (by decide) holding.patterns)), ?_⟩
  rw [ErrorIndex.timeless, records, threshold, ← sameThreshold]
  rfl

section

variable {root : Place} {errors patterns : Option Node} {fresh : Nat → String} {id label : String}
  {handle : CheckpointHandle} {stopped : Session} {later reread : Host} {place : Place}
  {table : Pattern.Table Float} {index : ErrorIndex Float} (names : ∀ number, Plain (fresh number))
  (plain : Plain id) (goes : stopped.Goes id)
  (holding : project.Holding root errors patterns fresh before)
  (saved : Checkpoint.save project.checkpointsDir stopped.stop none label before =
    .ok handle after) (sameDisk : later.disk = after.disk)
  (reopened : project.openStores later = .ok (place, table, index) reread)

include names plain goes holding saved sameDisk reopened

/-- An engine that is opened on the same files leaves the last checkpoint as it was saved. -/
theorem reopened_readText : reread.disk.readText handle.path =
    .ok (Checkpoint.next before ⟨stopped.stop, none⟩ label).toJson.fileText := by
  have own : Plain stopped.stop.id := by
    rw [show stopped.stop.id = id from goes.id]
    exact plain
  obtain ⟨kept, tidy, name, leads⟩ := Engine.save_holding project names own saved holding
  obtain ⟨-, content⟩ := Checkpoint.save_eq_ok saved
  rw [← sameDisk] at leads content
  have checkpoints : project.Keeping root "checkpoints" (some .directory) later.disk := by
    rw [sameDisk]
    exact kept.checkpoints
  have apart : ¬ ∃ name' ∈ ["checkpoints", "logs", "engine.lock"],
      root ++ ["checkpoints", stopped.stop.id, name] = root ++ [name'] := by
    rintro ⟨name', -, same⟩
    have length := congrArg List.length same
    simp only [List.length_append, List.length_cons, List.length_nil] at length
    omega
  rwa [← (openStores_spares checkpoints reopened).readText tidy leads apart] at content

/-- A session that was stopped is taken up as it was, times apart, by an engine that is opened on
the same files. -/
theorem resumed_timeless {other : CheckpointHandle}
    (found : Checkpoint.resolveFrom reread.disk project.checkpointsDir reference = .ok other)
    (samePath : other.path = handle.path) :
    ∃ resumed current, project.resumeSession reference reread = .ok (resumed, current) reread ∧
      resumed.timeless = stopped.timeless := by
  have content := reopened_readText names plain goes holding saved sameDisk reopened
  -- What is found is the checkpoint that was saved,
  obtain ⟨checkpoint, loaded⟩ := Checkpoint.loadFrom_of_resolveFrom found
  obtain ⟨text, present, decoded, -⟩ := Checkpoint.loadFrom_eq_ok.mp loaded
  rw [samePath] at present
  cases content.symm.trans present
  have additions : stopped.stop.context.Typed := TaskContext.of_plain goes.plain _
  rw [Json.ofText?_fileText (Checkpoint.printable_toJson additions), Option.bind_some] at decoded
  obtain ⟨-, same⟩ := Checkpoint.session_ofJson? goes.plain decoded
  -- whose session is not complete.
  have status : checkpoint.payload.session.status = .stopped := congrArg Session.status same
  refine ⟨_, _, resumeSession_of_found found loaded (by rw [status]; exact nofun), ?_⟩
  calc ({ checkpoint.payload.session with status := .active } : Session).timeless
      = { checkpoint.payload.session.timeless with status := .active } := rfl
    _ = { stopped.stop.timeless with status := .active } := by
      rw [same]
      rfl
    _ = stopped.timeless := by
      rw [← goes.status]
      rfl

end

end Project

namespace Engine

variable {σ τ υ : Type} {first : Engine σ} {second : Engine τ} {whole : Engine υ}

/-- Engines that are like one are like each other. -/
theorem Alike.common (agents : σ) (left : first.Alike second) (right : first.Alike whole) :
    second.Alike whole where
  project := right.project.trans left.project.symm
  annotations := right.annotations.trans left.annotations.symm
  explore query marks state state' :=
    (left.explore query marks agents state).symm.trans (right.explore query marks agents state')
  reason task context exploration state state' :=
    (left.reason task context exploration agents state).symm.trans
      (right.reason task context exploration agents state')
  generate request state state' :=
    (left.generate request agents state).symm.trans (right.generate request agents state')
  review artifact task state state' :=
    (left.review artifact task agents state).symm.trans (right.review artifact task agents state')
  build artifact state host state' host' :=
    (left.build artifact agents host state host).symm.trans
      (right.build artifact agents host state' host')

/-! ### Going on -/

/-- Two runs go on alike from states that agree in all but the iteration before. -/
theorem runIterations_alike {α : Type} [Arithmetic α] {left : Nat}
    {earlier earlier' : List IterationResult} {come come' : StopReason × List IterationResult}
    {before after : EngineState τ α} {before' after' : EngineState υ α}
    (pair : second.Alike whole) (unstopped : second.Unstopped) (unstopped' : whole.Unstopped)
    (alike : EngineState.Alike { before with iteration := before'.iteration } before')
    (ran : second.runIterations left earlier before = .ok come after)
    (ran' : whole.runIterations left earlier' before' = .ok come' after') :
    SameEnd earlier earlier' come come' ∧ after.session.timeless = after'.session.timeless ∧
      Pattern.Table.timeless after.table = Pattern.Table.timeless after'.table ∧
      after.index.timeless = after'.index.timeless := by
  cases left with
  | zero =>
    cases (runIterations_zero (unstopped _)).symm.trans ran
    cases (runIterations_zero (unstopped' _)).symm.trans ran'
    exact ⟨.none _ _ _, alike.session, alike.table, alike.index⟩
  | succ left =>
    have anew := runIterations_anew unstopped ran before'.iteration
    have ends := (agrees_runIterations pair unstopped unstopped' (left + 1) earlier earlier').come
      _ _ alike
    rw [anew, ran'] at ends
    exact ⟨ends.1, ends.2.session, ends.2.table, ends.2.index⟩

/-- Two runs that ended alike leave sessions and stores that agree. -/
theorem settled_alike {α : Type} [Arithmetic α] {reason reason' : StopReason}
    {stop last : EngineState τ α} {stop' last' : EngineState υ α} {handle handle' : CheckpointHandle}
    (pair : second.Alike whole) (sameReason : reason = reason')
    (session : stop.session.timeless = stop'.session.timeless)
    (table : Pattern.Table.timeless stop.table = Pattern.Table.timeless stop'.table)
    (index : stop.index.timeless = stop'.index.timeless)
    (saved : second.checkpoint none (finalLabel reason)
      { stop with session := second.settleSession reason stop.session } = .ok handle last)
    (saved' : whole.checkpoint none (finalLabel reason')
      { stop' with session := whole.settleSession reason' stop'.session } = .ok handle' last') :
    last.session.timeless = last'.session.timeless ∧
      last.index.timeless = last'.index.timeless ∧
      Pattern.Table.timeless last.table = Pattern.Table.timeless last'.table := by
  subst sameReason
  obtain ⟨host, rfl, -⟩ := checkpoint_eq_ok saved
  obtain ⟨host', rfl, -⟩ := checkpoint_eq_ok saved'
  exact ⟨timeless_settleSession pair reason session, index, table⟩

/-- What holds between iterations holds before the first. -/
theorem between_of_start (first : Engine σ) {host ready start : Host} {place : Place} {table : Pattern.Table Float}
    {index : ErrorIndex Float} {marks : List Annotation} {task : Option String}
    {session : Session} (names : ∀ number, Plain (host.fresh number))
    (opened : first.project.openStores host = .ok (place, table, index) ready)
    (started : (first.project.startSession marks task : Act EngineError Session) ready =
      .ok session start) (agents : σ) :
    Plain session.id ∧ ∃ root,
      first.Between root host.fresh session.id (.new start agents table index session) := by
  have goes := goes_of_startSession started
  obtain ⟨-, sameDisk, sameFresh⟩ := Checkpoint.startSession_eq_ok started
  obtain ⟨fresh, root, keeping⟩ := Project.keeping_of_openStores opened
  obtain ⟨_, -, -, patternsLoaded, errorsLoaded⟩ := Project.openStores_eq_ok opened
  obtain ⟨-, threshold, readErrors⟩ := Project.loadErrors_eq_ok errorsLoaded
  obtain ⟨-, readPatterns⟩ := Project.loadPatterns_eq_ok patternsLoaded
  have stands (name : String) : first.project.Keeping root name
      (ready.disk.node? (root ++ [name])) ready.disk := ⟨keeping.located, keeping.directory, rfl⟩
  have errors := readErrors _ _ (stands "errors.json")
  have patterns := readPatterns _ _ (stands "patterns.json")
  rw [← goes.id] at goes
  refine ⟨?_, root, goes, patterns.settled, threshold, _, _, ?_, Recalls.of_read errors patterns⟩
  · rw [goes_of_startSession started |>.id, fresh]
    exact names _
  · have same {name : String} {content : Option Node}
        (keeping : first.project.Keeping root name content ready.disk) :
        first.project.Keeping root name content start.disk := by
      rw [sameDisk]
      exact keeping
    exact ⟨same (stands _), same (stands _), same keeping, sameFresh.trans fresh⟩

/-- Interrupting a run and taking it up again cannot be told from not interrupting it: the session
is taken up, and what the rest of the run comes to is what the run comes to without the stop. -/
theorem resume_invisible {marks : List Annotation} {task : Option String} {agents : σ}
    {host ready start later reread : Host} {place place' : Place}
    {table table' : Pattern.Table Float} {index index' : ErrorIndex Float} {session : Session}
    {reference : String} {handle : CheckpointHandle} {stopped : RunSummary}
    {halted : EngineState σ Float}
    (sameAnswers : first.Alike second) (sameAnswers' : first.Alike whole)
    (unstopped : second.Unstopped) (unstopped' : whole.Unstopped)
    (discreet : first.builder.Discreet first.project)
    (names : ∀ number, Plain (host.fresh number))
    -- A run of a new session is stopped,
    (opened : first.project.openStores host = .ok (place, table, index) ready)
    (started : (first.project.startSession marks task : Act EngineError Session) ready =
      .ok session start)
    (cut : first.run (.new start agents table index session) = .ok stopped halted)
    (cancelled : stopped.reason = .cancelled)
    -- and an engine that is opened on the same files is told to take up its last checkpoint.
    (sameDisk : later.disk = halted.host.disk)
    (reopened : first.project.openStores later = .ok (place', table', index') reread)
    (found : Checkpoint.resolveFrom reread.disk first.project.checkpointsDir reference =
      .ok handle)
    (samePath : handle.path = stopped.finalCheckpoint.path) :
    ∃ session' current,
      first.project.resumeSession reference reread = .ok (session', current) reread ∧
      ∀ {agents' : τ} {agents'' : υ} {elsewhere : Host} {rest full : RunSummary}
        {last : EngineState τ Float} {final : EngineState υ Float},
        second.run (.new reread agents' table' index' session') = .ok rest last →
        whole.run (.new elsewhere agents'' table index session) = .ok full final →
        (stopped.results ++ rest.results).map IterationResult.timeless =
            full.results.map IterationResult.timeless ∧
          rest.reason = full.reason ∧
          last.session.timeless = final.session.timeless ∧
          last.index.timeless = final.index.timeless ∧
          Pattern.Table.timeless last.table = Pattern.Table.timeless final.table := by
  obtain ⟨plain, root, between⟩ := between_of_start first names opened started agents
  -- What the first run leaves when it is stopped,
  obtain ⟨-, ⟨reason, done⟩, stop, ran, sameReason, sameResults, saved⟩ := run_eq_ok cut
  obtain rfl : reason = .cancelled := sameReason.symm.trans cancelled
  have reached := runIterations_between discreet names plain ran between
  obtain ⟨errors, patterns, holding, recalls⟩ := reached.files
  obtain ⟨saveHost, halt, saving⟩ := checkpoint_eq_ok saved
  have stopping : Checkpoint.save first.project.checkpointsDir stop.session.stop none
      (finalLabel .cancelled) stop.host = .ok stopped.finalCheckpoint saveHost := saving
  have sameDisk' : later.disk = saveHost.disk := by
    rw [sameDisk, halt]
  have own : Plain stop.session.stop.id := by
    rw [show stop.session.stop.id = session.id from reached.session.id]
    exact plain
  obtain ⟨kept, -⟩ := save_holding first.project names own stopping holding
  -- and what is read of it.
  obtain ⟨sameTable, sameIndex⟩ :=
    Project.reopened_timeless kept recalls reached.threshold sameDisk' reopened
  obtain ⟨session', current, taken, sameSession⟩ := Project.resumed_timeless names plain
    reached.session holding stopping sameDisk' reopened found samePath
  refine ⟨session', current, taken, ?_⟩
  intro agents' agents'' elsewhere rest full last final continued through
  -- The run without a stop goes through a state like that of the first,
  obtain ⟨-, fullCome, fullStop, fullRan, fullReason, fullResults, fullSaved⟩ := run_eq_ok through
  obtain ⟨-, restCome, restStop, restRan, restReason, restResults, restSaved⟩ := run_eq_ok continued
  rw [sameAnswers'.project] at fullRan
  obtain ⟨left, more, more', passing, foundDone, agree, counted, alike, goesOn⟩ :=
    runIterations_stopped sameAnswers' unstopped' ⟨rfl, rfl, rfl, rfl⟩ ran fullRan
  -- with as many iterations to do as are left to the second.
  have resumed : EngineState.Alike
      { EngineState.new reread agents' table' index' session' with iteration := passing.iteration }
      passing :=
    ⟨sameSession.trans alike.session, rfl, sameTable.trans alike.table,
      sameIndex.trans alike.index⟩
  have pair : second.Alike whole := sameAnswers.common agents sameAnswers'
  have none : session.completedIterations = 0 := by
    obtain ⟨⟨text, context, time, -, rfl⟩, -⟩ := Checkpoint.startSession_eq_ok started
    rfl
  have done : session'.completedIterations = stop.session.completedIterations := by
    simpa only [Session.timeless] using congrArg Session.completedIterations sameSession
  have remaining : second.project.settings.engine.maxIterations - session'.completedIterations =
      left := by
    have counted : stop.session.completedIterations + left = session.completedIterations +
        (first.project.settings.engine.maxIterations - session.completedIterations) := counted
    rw [sameAnswers.project, done]
    omega
  have restRan : second.runIterations left [] (.new reread agents' table' index' session') =
      .ok restCome restStop := remaining ▸ restRan
  obtain ⟨⟨sameEnd, later, later', foundRest, foundFull, agreeLater⟩, session, table, index⟩ :=
    runIterations_alike pair unstopped unstopped' resumed restRan goesOn
  refine ⟨?_, ?_, settled_alike pair sameEnd session table index restSaved fullSaved⟩
  · rw [sameResults, restResults, fullResults, foundDone, foundRest, foundFull]
    simp only [List.nil_append, List.map_append, agree, agreeLater]
  · rw [restReason, fullReason, sameEnd]

end Engine

namespace Sample

/-- An engine of one iteration with one attempt. -/
def brief : Engine Nat where
  project := .ofSettings ⟨""⟩ { engine := { maxIterations := 1, maxRetries := 1 } }
  generator := stumbling
  builder := counting
  annotations := []
  cancelled _ := false

/-- The same, stopped whenever it looks. -/
def halting : Engine Nat := { brief with cancelled := fun _ => true }

/-- A host with nothing but the directory of a project's state, on which no time passes. -/
def quietHost : Host :=
  .new ⟨OrderedMap.empty.insert [".reloop"] .directory, []⟩ (fun _ => ⟨0, 0⟩)
    fun number => String.ofList ('i' :: 'd' :: 's' :: List.replicate number '1')

theorem plain_quietHost (number : Nat) : Plain (quietHost.fresh number) := by
  have text : (quietHost.fresh number).toList = 'i' :: 'd' :: 's' :: List.replicate number '1' :=
    String.toList_ofList
  refine .of_long ?_ ?_
  · rw [text]
    simp only [List.length_cons]
    omega
  · rw [text]
    simp only [List.mem_cons, List.mem_replicate, not_or]
    exact ⟨by decide, by decide, by decide, fun same => absurd same.2 (by decide)⟩

theorem alike_brief : halting.Alike brief where
  project := rfl
  annotations := rfl
  explore _ _ _ _ := rfl
  reason _ _ _ _ _ := rfl
  generate request _ _ := by
    show (stumbling.generate request _).1 = (stumbling.generate request _).1
    unfold stumbling
    dsimp only
    split <;> rfl
  review _ _ _ _ := rfl
  build _ _ _ _ _ := rfl

theorem discreet_counting (project : Project) : counting.Discreet project :=
  ⟨fun _ _ _ _ _ _ keeping => keeping, fun _ _ _ => rfl⟩

/-- Whether a session that is stopped by one engine comes to its end when another takes it up as it
was, and comes to it without the stop; and whether no time has passed. -/
def endsBothWays (halting engine : Engine Nat) (host : Host) : Bool :=
  match engine.project.openStores host with
  | .error _ _ => false
  | .ok (_, table, index) ready =>
    match (engine.project.startSession [] (some "t") : Act EngineError Session) ready with
    | .error _ _ => false
    | .ok session start =>
      match halting.run (.new start 0 table index session) with
      | .error _ _ => false
      | .ok stopped halted =>
        match engine.project.openStores { halted.host with locked := [] } with
        | .error _ _ => false
        | .ok (_, table', index') reread =>
          engine.run.succeeds (.new reread 0 table' index' { session with status := .active }) &&
            engine.run.succeeds (.new start 0 table index session) &&
            reread.disk.isFile stopped.finalCheckpoint.path &&
            decide (session.createdAt = ⟨0, 0⟩ ∧ start.clock start.readings = ⟨0, 0⟩)

/-- What it is that comes to an end. -/
theorem ends_of_endsBothWays {halting engine : Engine Nat} {host : Host}
    (ends : endsBothWays halting engine host = true) :
    ∃ place table index ready session start stopped halted place' table' index' reread,
      engine.project.openStores host = .ok (place, table, index) ready ∧
      (engine.project.startSession [] (some "t") : Act EngineError Session) ready =
        .ok session start ∧
      halting.run (.new start 0 table index session) = .ok stopped halted ∧
      engine.project.openStores { halted.host with locked := [] } =
        .ok (place', table', index') reread ∧
      (∃ rest last, engine.run (.new reread 0 table' index' { session with status := .active }) =
        .ok rest last) ∧
      (∃ full final, engine.run (.new start 0 table index session) = .ok full final) ∧
      reread.disk.isFile stopped.finalCheckpoint.path = true ∧
      session.createdAt = ⟨0, 0⟩ ∧ start.clock start.readings = ⟨0, 0⟩ := by
  unfold endsBothWays at ends
  split at ends
  · cases ends
  rename_i place table index ready opened
  split at ends
  · cases ends
  rename_i session start started
  split at ends
  · cases ends
  rename_i stopped halted cut
  split at ends
  · cases ends
  rename_i place' table' index' reread reopened
  simp only [Bool.and_eq_true, decide_eq_true_eq] at ends
  obtain ⟨⟨⟨continues, comesThrough⟩, isFile⟩, created, still⟩ := ends
  exact ⟨place, table, index, ready, session, start, stopped, halted, place', table', index',
    reread, opened, started, cut, reopened, Step.succeeds_eq_true.1 continues,
    Step.succeeds_eq_true.1 comesThrough, isFile, created, still⟩

/-- The last checkpoint of a session that is stopped at once is loaded as the session was. -/
theorem loads_halted {ready start reread : Host} {place place' : Place}
    {table table' : Pattern.Table Float} {index index' : ErrorIndex Float} {session : Session}
    {stopped : RunSummary} {halted : EngineState Nat Float}
    (opened : brief.project.openStores quietHost = .ok (place, table, index) ready)
    (started : (brief.project.startSession [] (some "t") : Act EngineError Session) ready =
      .ok session start)
    (cut : halting.run (.new start 0 table index session) = .ok stopped halted)
    (reopened : brief.project.openStores { halted.host with locked := [] } =
      .ok (place', table', index') reread)
    (created : session.createdAt = ⟨0, 0⟩) (still : start.clock start.readings = ⟨0, 0⟩) :
    stopped.reason = .cancelled ∧ ∃ checkpoint,
      Checkpoint.loadFrom reread.disk stopped.finalCheckpoint.path = .ok checkpoint ∧
        checkpoint.payload = ⟨session.stop, none⟩ := by
  obtain ⟨plain, root, between⟩ := Engine.between_of_start halting plain_quietHost opened started 0
  obtain ⟨errors, patterns, holding, -⟩ := between.files
  -- The run makes no turn but saves the session as it began,
  obtain ⟨-, _, _, ran, reason, -, saved⟩ := Engine.run_eq_ok cut
  cases (Engine.runIterations_of_cancelled (by rfl)).symm.trans ran
  obtain ⟨saveHost, rfl, saving⟩ := Engine.checkpoint_eq_ok saved
  have sameDisk : ({ saveHost with locked := [] } : Host).disk = saveHost.disk := rfl
  have content := Project.reopened_readText plain_quietHost plain between.session holding saving
    sameDisk reopened
  -- of which a file keeps all.
  obtain ⟨typed, kept⟩ : session.stop.Typed ∧ session.stop.Kept := by
    obtain ⟨⟨text, context, time, extensions, rfl⟩, -⟩ := Checkpoint.startSession_eq_ok started
    have additions (holds : Json → Prop) := TaskContext.of_plain extensions holds
    have none : 0 < powerOfTwo 32 := by decide
    exact ⟨⟨additions _, created ▸ shown_epoch, none, fun _ => nofun⟩, fun _ => nofun, additions _⟩
  have shown : (start.clock start.readings).Shown := still ▸ shown_epoch
  have payload : CheckpointPayload.Typed ⟨session.stop, none⟩ := ⟨typed, fun _ => nofun⟩
  have loaded := Checkpoint.loadFrom_eq_ok.mpr
    ⟨_, content, Checkpoint.decode_next payload kept shown, Checkpoint.flaw?_new _ _ _ _⟩
  exact ⟨reason, _, loaded, rfl⟩

/-- The stop is not noticed in what the session comes to. -/
theorem brief_stop_not_noticed : ∃ (place : Place) (table table' : Pattern.Table Float)
    (index index' : ErrorIndex Float) (session session' : Session) (current : Option Iteration)
    (ready start reread : Host) (stopped rest full : RunSummary)
    (halted last final : EngineState Nat Float),
    brief.project.openStores quietHost = .ok (place, table, index) ready ∧
      halting.run (.new start 0 table index session) = .ok stopped halted ∧
      brief.project.resumeSession stopped.finalCheckpoint.path.text reread =
        .ok (session', current) reread ∧
      brief.run (.new reread 0 table' index' session') = .ok rest last ∧
      brief.run (.new start 0 table index session) = .ok full final ∧
      (stopped.results ++ rest.results).map IterationResult.timeless =
        full.results.map IterationResult.timeless ∧
      last.session.timeless = final.session.timeless := by
  have ends : endsBothWays halting brief quietHost = true := by decide +kernel
  obtain ⟨place, table, index, ready, session, start, stopped, halted, place', table', index', reread,
    opened, started, cut, reopened, ⟨rest, last, continued⟩, ⟨full, final, through⟩, isFile, created,
    still⟩ := ends_of_endsBothWays ends
  obtain ⟨reason, checkpoint, loaded, payload⟩ :=
    loads_halted opened started cut reopened created still
  have sameDisk : ({ halted.host with locked := [] } : Host).disk = halted.host.disk := rfl
  have found := Checkpoint.resolveFrom_path brief.project.checkpointsDir isFile loaded
  have taken := Project.resumeSession_of_found found loaded (by rw [payload]; exact nofun)
  obtain ⟨session', current, resumed, unnoticed⟩ := Engine.resume_invisible alike_brief alike_brief
    (fun _ => rfl) (fun _ => rfl) (discreet_counting _) plain_quietHost opened started cut reason
    sameDisk reopened found rfl
  cases taken.symm.trans resumed
  obtain ⟨results, -, sessions, -⟩ := unnoticed (by rwa [payload]) through
  exact ⟨place, table, table', index, index', session, _, _, ready, start, reread, stopped, rest,
    full, halted, last, final, opened, cut, resumed, by rwa [payload], through, results, sessions⟩

end Sample

end TaskLoop
