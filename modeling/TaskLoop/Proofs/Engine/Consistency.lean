import TaskLoop.Proofs.Engine.Interruption
import TaskLoop.Proofs.Engine.Replay

/-!
Progress and history agree whatever becomes of the files. An iteration is counted once its record
stands in the history, and by then the stores tell of it; what breaks off before leaves the count,
the records and what the stores tell of them.
-/

set_option autoImplicit false

namespace TaskLoop

open Disk (Lined)
open History (Entry)
open TaskLoop.Path (Plain)
open Project (Apart)

namespace History

/-- The records of iterations of a session. -/
def recordsOf (session : String) (iterations : List Iteration) : List UInt8 :=
  (iterations.map (Entry.mk session)).flatMap Entry.record

theorem recordsOf_append (session : String) (iterations : List Iteration) (last : Iteration) :
    recordsOf session (iterations ++ [last]) =
      recordsOf session iterations ++ Entry.record ⟨session, last⟩ := by
  rw [recordsOf, List.map_append, List.map_singleton, List.flatMap_append,
    List.flatMap_singleton, ← recordsOf]

/-- Lines and the records behind them are whole. -/
theorem whole_append_recordsOf {lines : List UInt8} (whole : lines = [] ∨ lines.getLast? = some 10)
    (session : String) (iterations : List Iteration) :
    lines ++ recordsOf session iterations = [] ∨
      (lines ++ recordsOf session iterations).getLast? = some 10 := by
  rcases whole_records (iterations.map (Entry.mk session)) with none | last
  · rwa [recordsOf, none, List.append_nil]
  · right
    rw [recordsOf, List.getLast?_append, last, Option.some_or]

/-- An entry is added to the history of a project, or the lines are those there were, as long as no
failure leaves the whole of its record. -/
theorem append_filed {project : Project} {root : Place} {path : Path} {lines : List UInt8}
    {entry : Entry} {before : Host} (named : project.historyFile = path)
    (filed : project.Filed root "history.jsonl" (Lined lines) before)
    (whole : lines = [] ∨ lines.getLast? = some 10)
    (tears : ∀ e host, append path entry before = .error e host →
      host.disk.linesOf path ≠ lines ++ entry.record) :
    (append path entry).Ends before
      (fun _ => project.Filed root "history.jsonl" (Lined (lines ++ entry.record)))
      fun _ => project.Filed root "history.jsonl" (Lined lines) := by
  have oneLine : 10 ∉ Text.Utf8.encode entry.line :=
    Text.Utf8.newline_not_mem_encode entry.isLine_line.oneLine
  have ends := filed.append_ends named Engine.plain_history (by decide) whole oneLine
  cases ran : append path entry before with
  | ok _ after =>
    rw [Act.Ends, ran]
    exact ends.of_ok ran
  | error e after =>
    rw [Act.Ends, ran]
    rcases ends.of_error ran with kept | content
    · exact kept
    · have all : after.disk.linesOf path = lines ++ entry.record := by
        rw [Disk.linesOf, content]
        have wholeRecord : lines ++ entry.record = [] ∨
            (lines ++ entry.record).getLast? = some 10 := by
          right
          rw [Entry.record, ← List.append_assoc, List.getLast?_concat]
        have complete := Disk.completeLines_append wholeRecord List.not_mem_nil
        rwa [List.append_nil] at complete
      exact absurd all (tears e after ran)

end History

/-- The messages of the failures of iterations. -/
def failureMessages (iterations : List Iteration) : List String :=
  iterations.flatMap fun iteration => iteration.failures.map FailedAttempt.message

theorem failureMessages_append (iterations : List Iteration) (last : Iteration) :
    failureMessages (iterations ++ [last]) =
      failureMessages iterations ++ last.failures.map FailedAttempt.message := by
  rw [failureMessages, List.flatMap_append, List.flatMap_singleton, ← failureMessages]

namespace Engine

open Step (Came Ends Keeps)

variable {σ α : Type}

/-- The outcomes that are learnt of a phase from iterations. -/
def outcomesOf (iterations : List Iteration) (phase : Phase) : List Outcome :=
  iterations.flatMap fun iteration => learntOutcomes iteration phase

theorem outcomesOf_append (iterations : List Iteration) (last : Iteration) (phase : Phase) :
    outcomesOf (iterations ++ [last]) phase =
      outcomesOf iterations phase ++ learntOutcomes last phase := by
  rw [outcomesOf, List.flatMap_append, List.flatMap_singleton, ← outcomesOf]

variable [Arithmetic α]

/-- The file of errors tells of iterations, over what an index held. -/
def ErrorsTell (base : ErrorIndex α) (added : List Iteration) (content : Option Node) : Prop :=
  added = [] ∨ ∃ index : ErrorIndex α, index.Includes base (failureMessages added) ∧
    content = some (.file (Text.Utf8.encode (ErrorIndex.recordsToJson index.records).fileText))

/-- The file of patterns tells of iterations, over what a table held. -/
def PatternsTell (base : Pattern.Table α) (added : List Iteration) (content : Option Node) : Prop :=
  added = [] ∨ ∃ table : Pattern.Table α, table.Includes base (outcomesOf added) ∧
    content = some (.file (Text.Utf8.encode table.toJson.fileText))

/-- The history holds some lines and the records of iterations added since a start, and the session
counts them. -/
def Counted (engine : Engine σ) (root : Place) (lines : List UInt8) (start : Session)
    (added : List Iteration) (state : EngineState σ α) : Prop :=
  (state.session.id = start.id ∧
    state.session.completedIterations = start.completedIterations + added.length) ∧
  OnHost (engine.project.Filed root "history.jsonl"
    (Lined (lines ++ History.recordsOf start.id added))) state

/-- The index and its file tell of iterations. -/
def KnowsErrors (engine : Engine σ) (root : Place) (base : ErrorIndex α) (added : List Iteration)
    (state : EngineState σ α) : Prop :=
  state.index.Includes base (failureMessages added) ∧
    OnHost (engine.project.Filed root "errors.json" (ErrorsTell base added)) state

/-- The table and its file tell of iterations. -/
def KnowsPatterns (engine : Engine σ) (root : Place) (base : Pattern.Table α)
    (added : List Iteration) (state : EngineState σ α) : Prop :=
  state.table.Includes base (outcomesOf added) ∧
    OnHost (engine.project.Filed root "patterns.json" (PatternsTell base added)) state

variable {engine : Engine σ} {root : Place} {lines : List UInt8} {start : Session}
  {added : List Iteration}

section Steady

omit [Arithmetic α] in
theorem session_kept {β : Type} {step : Step σ α β} {count : Nat}
    (keeps : Keeps EngineState.session step) :
    Ends (fun state => state.session.id = start.id ∧ state.session.completedIterations = count)
      (fun _ state => state.session.id = start.id ∧ state.session.completedIterations = count)
      (fun state => state.session.id = start.id ∧ state.session.completedIterations = count)
      step :=
  Ends.of_keeps keeps (fun session => session.id = start.id ∧
    session.completedIterations = count) fun _ => id

omit [Arithmetic α] in
theorem index_kept {β : Type} {step : Step σ α β} {base : ErrorIndex α} {messages : List String}
    (keeps : Keeps EngineState.index step) :
    Ends (fun state => state.index.Includes base messages)
      (fun _ state => state.index.Includes base messages)
      (fun state => state.index.Includes base messages) step :=
  Ends.of_keeps keeps (fun index => index.Includes base messages) fun _ => id

theorem table_kept {β : Type} {step : Step σ α β} {base : Pattern.Table α}
    {outcomes : Phase → List Outcome} (keeps : Keeps EngineState.table step) :
    Ends (fun state => state.table.Includes base outcomes)
      (fun _ state => state.table.Includes base outcomes)
      (fun state => state.table.Includes base outcomes) step :=
  Ends.of_keeps keeps (fun table => table.Includes base outcomes) fun _ => id

variable (spares : engine.builder.Spares engine.project)

include spares

omit [Arithmetic α] in
theorem builds_filed (name : String) (asked : Option Node → Prop) :
    engine.Builds (engine.project.Filed root name asked) := by
  rintro artifact agents host ⟨content, keeping, held⟩
  exact ⟨content, spares artifact agents host _ _ _ keeping, held⟩

/-- Until an iteration is counted the history and the count are as they were. -/
theorem steady_counted : engine.Steady (α := α) (engine.Counted root lines start added) :=
  (steady_session (fun session => session.id = start.id ∧
      session.completedIterations = start.completedIterations + added.length)
    (fun held _ _ _ _ _ => held) fun held _ => held).and
    (steady_guarded (Project.Filed.guards engine.project root "history.jsonl" _)
      (fun _ => Project.Filed.directory) (builds_filed spares _ _)
      (Apart.of_visible (by decide) (by decide)).beside
      (Apart.of_visible (by decide) (by decide)).beside
      (Apart.of_visible (by decide) (by decide)).beside)

/-- The index and its file go on telling of iterations that they tell of. -/
theorem steady_errors (base : ErrorIndex α) :
    engine.Steady (engine.KnowsErrors root base added) where
  clock := ⟨fun _ held => .ok ⟨held.1, (Project.Filed.guards _ _ _ _).clock held.2⟩⟩
  agents _ _ := id
  build artifact state held :=
    ⟨held.1, builds_filed spares _ _ artifact state.agents state.host held.2⟩
  influence _ _ _ _ _ _ := id
  adopt _ _ := id
  iteration _ _ := id
  snapshot _ _ := id
  status := (index_kept (writeStatus_keeps engine fun _ _ _ _ _ _ => rfl)).and
    (writeStatus_ends (Project.Filed.guards _ _ _ _) (fun _ => Project.Filed.directory)
      (Apart.of_visible (by decide) (by decide)).beside)
  record message now state held :=
    ⟨(held.1.recordError message now).mono (List.sublist_append_left _ _), held.2⟩
  resolve state marked held := ⟨held.1.markResolved marked, held.2⟩
  observe _ _ _ _ _ _ := id
  saveErrors state held := ((index_kept (Keeps.onHost _ _ fun _ _ => rfl)).come state held.1).and
    (saved_filed held.2 (Plain.of_long (by decide) (by decide)) (.inr ⟨state.index, held.1, rfl⟩))
  savePatterns state held := ((index_kept (Keeps.onHost _ _ fun _ _ => rfl)).and
    (store_ends (Project.Filed.guards _ _ _ _) (fun _ => Project.Filed.directory)
      state.table.toJson (Plain.of_long (by decide) (by decide))
      (Apart.of_visible (by decide) (by decide)).beside)).come state held

/-- The table and its file go on telling of iterations that they tell of. -/
theorem steady_patterns (base : Pattern.Table α) :
    engine.Steady (engine.KnowsPatterns root base added) where
  clock := ⟨fun _ held => .ok ⟨held.1, (Project.Filed.guards _ _ _ _).clock held.2⟩⟩
  agents _ _ := id
  build artifact state held :=
    ⟨held.1, builds_filed spares _ _ artifact state.agents state.host held.2⟩
  influence _ _ _ _ _ _ := id
  adopt _ _ := id
  iteration _ _ := id
  snapshot _ _ := id
  status := (table_kept (writeStatus_keeps engine fun _ _ _ _ _ _ => rfl)).and
    (writeStatus_ends (Project.Filed.guards _ _ _ _) (fun _ => Project.Filed.directory)
      (Apart.of_visible (by decide) (by decide)).beside)
  record _ _ _ := id
  resolve _ _ := id
  observe phase complexity outcome now later state held :=
    ⟨(held.1.recordOutcome phase complexity outcome now later).mono
      fun _ => List.sublist_append_left _ _, held.2⟩
  saveErrors state held := ((table_kept (Keeps.onHost _ _ fun _ _ => rfl)).and
    (store_ends (Project.Filed.guards _ _ _ _) (fun _ => Project.Filed.directory)
      (ErrorIndex.recordsToJson state.index.records) (Plain.of_long (by decide) (by decide))
      (Apart.of_visible (by decide) (by decide)).beside)).come state held
  savePatterns state held := ((table_kept (Keeps.onHost _ _ fun _ _ => rfl)).come state held.1).and
    (saved_filed held.2 (Plain.of_long (by decide) (by decide)) (.inr ⟨state.table, held.1, rfl⟩))

end Steady

/-! ### What an iteration has learnt -/

/-- What can be told of stores that take in failures and outcomes over what others held. -/
theorem telling_includes (index : ErrorIndex α) (table : Pattern.Table α) :
    Telling (fun other messages => other.Includes index messages)
      fun other outcomes => other.Includes table outcomes where
  record includes := includes.recordError
  resolve includes := includes.markResolved
  observe includes := includes.recordOutcome

variable {before after : EngineState σ α}

/-- Once an iteration was learnt from the files are those of the stores. -/
theorem learn_files {strategy : Strategy} (spares : engine.builder.Spares engine.project)
    (learnt : engine.learn strategy before = .ok () after)
    (filed : engine.project.Filed root "errors.json" (fun _ => True) before.host) :
    engine.Keeping root "errors.json" (some (.file (Text.Utf8.encode
        (ErrorIndex.recordsToJson after.index.records).fileText))) after ∧
      engine.Keeping root "patterns.json" (some (.file (Text.Utf8.encode
        after.table.toJson.fileText))) after := by
  obtain ⟨entered, recorded, resolved, tabled, saved, stored, learns⟩ := learn_eq_ok learnt
  obtain ⟨started, -, leaving⟩ := learns.around
  obtain ⟨table, index⟩ := learns.same_stores
  have errors : Plain "errors.json" := Plain.of_long (by decide) (by decide)
  have patterns : Plain "patterns.json" := Plain.of_long (by decide) (by decide)
  obtain ⟨_, ready, -⟩ := learns.guarded_tabled (Project.Filed.guards _ _ _ _)
    (Apart.of_visible (by decide) (by decide)).beside (builds_filed spares _ _) filed
  -- The errors are written, then the patterns beside them, then the status beside both.
  obtain ⟨host, saving, rfl⟩ := Step.onHost_eq_ok.1 learns.saving
  have kept := ready.replace errors (Act.mapError_eq_ok.mp saving)
  obtain ⟨host', storing, rfl⟩ := Step.onHost_eq_ok.1 learns.storing
  have wrote := Act.mapError_eq_ok.mp storing
  have both := kept.replace_other (Apart.of_visible (by decide) (by decide)) patterns wrote
  have there : engine.project.Keeping root "patterns.json" _ host.disk :=
    ⟨kept.located, kept.directory, rfl⟩
  have last := there.replace patterns wrote
  have builds (name : String) (content : Option Node) : engine.Builds fun host =>
      engine.project.Keeping root name content host.disk :=
    fun artifact agents host => spares artifact agents host root name content
  rw [index, table]
  refine ⟨?_, ?_⟩
  · exact (phased_guarded (Project.Keeping.guards _ _ _ _)
      (Apart.of_visible (by decide) (by decide)).beside (builds _ _)).leave .learning .completed
      started PhaseStatus.noConfusion _ _ _ leaving both
  · exact (phased_guarded (Project.Keeping.guards _ _ _ _)
      (Apart.of_visible (by decide) (by decide)).beside (builds _ _)).leave .learning .completed
      started PhaseStatus.noConfusion _ _ _ leaving last

/-- What an iteration does before it is counted: it is prepared, attempted and learnt from. -/
theorem perform_eq_ok {cap : Nat} (performed : engine.perform cap before = .ok () after) :
    ∃ plan ready success finish, engine.prepare before = .ok plan ready ∧
      engine.attempts cap plan.1 plan.2 cap 1 [] [] ready = .ok success finish ∧
      engine.learn plan.2
        { finish with iteration := { finish.iteration with success := success } } = .ok () after := by
  obtain ⟨plan, ready, prepared, performed⟩ := Step.bind_eq_ok.1 performed
  obtain ⟨success, finish, attempted, performed⟩ := Step.bind_eq_ok.1 performed
  obtain ⟨_, _, noted, learning⟩ := Step.bind_eq_ok.1 performed
  cases noted
  exact ⟨plan, ready, success, finish, prepared, attempted, learning⟩

/-- An iteration has the number behind those that are counted. -/
theorem perform_index {cap : Nat} (performed : engine.perform cap before = .ok () after) :
    after.iteration.index = before.session.completedIterations + 1 := by
  obtain ⟨plan, ready, success, finish, prepared, attempted, learning⟩ := perform_eq_ok performed
  have learntIndex := congrArg Iteration.index ((learn_keeps_bare engine plan.2).of_ok learning)
  have attemptedIndex := (attempts_keeps_index engine cap plan.1 plan.2 cap 1 [] []).of_ok attempted
  exact learntIndex.trans (attemptedIndex.trans (prepare_index prepared))

/-- When an iteration was learnt from the stores and their files tell of it too. -/
theorem perform_knows {cap : Nat} {errors : ErrorIndex α} {patterns : Pattern.Table α}
    (spares : engine.builder.Spares engine.project)
    (performed : engine.perform cap before = .ok () after)
    (knowsErrors : engine.KnowsErrors root errors added before)
    (knowsPatterns : engine.KnowsPatterns root patterns added before) :
    engine.KnowsErrors root errors (added ++ [after.iteration]) after ∧
      engine.KnowsPatterns root patterns (added ++ [after.iteration]) after := by
  obtain ⟨plan, ready, success, finish, prepared, attempted, learning⟩ := perform_eq_ok performed
  obtain ⟨sameTable, sameIndex⟩ := tried_stores prepared attempted
  have located : engine.project.Filed root "errors.json" (fun _ => True) before.host := by
    obtain ⟨-, content, keeping, -⟩ := knowsErrors
    exact ⟨content, keeping, trivial⟩
  have filed := tried_guarded (Project.Filed.guards _ _ _ _)
    (Apart.of_visible (by decide) (by decide)).beside (builds_filed spares _ _) prepared attempted
    located
  obtain ⟨counts, reports⟩ := learn_stores (telling_includes errors patterns) learning
    (sameIndex ▸ knowsErrors.1) (sameTable ▸ knowsPatterns.1)
  obtain ⟨errorsFile, patternsFile⟩ := learn_files spares learning filed
  rw [← failureMessages_append] at counts
  simp only [← outcomesOf_append] at reports
  exact ⟨⟨counts, _, errorsFile, .inr ⟨after.index, counts, rfl⟩⟩,
    ⟨reports, _, patternsFile, .inr ⟨after.table, reports, rfl⟩⟩⟩

/-! ### Counting an iteration -/

/-- The record of the current iteration. -/
def currentRecord (state : EngineState σ α) : List UInt8 :=
  Entry.record ⟨state.session.id, state.iteration⟩

/-- When the current iteration cannot be added to the history, at most the beginning of its record
is: the history does not have the whole of it as one more line. -/
def Tears (engine : Engine σ) (state : EngineState σ α) : Prop :=
  ∀ e host, History.append engine.project.historyFile ⟨state.session.id, state.iteration⟩
      state.host = .error e host →
    host.disk.linesOf engine.project.historyFile ≠
      state.host.disk.linesOf engine.project.historyFile ++ currentRecord state

/-- The history, the count and the stores agree on the iterations added since a start. -/
def Recorded (engine : Engine σ) (root : Place) (lines : List UInt8) (start : EngineState σ α)
    (added : List Iteration) (state : EngineState σ α) : Prop :=
  engine.Counted root lines start.session added state ∧
    engine.KnowsErrors root start.index added state ∧
    engine.KnowsPatterns root start.table added state

theorem steady_recorded (spares : engine.builder.Spares engine.project) (start : EngineState σ α) :
    engine.Steady (engine.Recorded root lines start added) :=
  (steady_counted spares).and ((steady_errors spares _).and (steady_patterns spares _))

omit [Arithmetic α] in
/-- What tells of an iteration and earlier ones tells of the earlier ones. -/
theorem KnowsErrors.earlier {base : ErrorIndex α} {last : Iteration} {state : EngineState σ α}
    (knows : engine.KnowsErrors root base (added ++ [last]) state) :
    engine.KnowsErrors root base added state := by
  have part : (failureMessages added).Sublist (failureMessages (added ++ [last])) := by
    rw [failureMessages_append]
    exact List.sublist_append_left _ _
  refine ⟨knows.1.mono part, Project.Filed.mono knows.2 fun content tells => ?_⟩
  rcases tells with none | ⟨index, includes, stands⟩
  · exact .inl (List.append_eq_nil_iff.mp none).1
  · exact .inr ⟨index, includes.mono part, stands⟩

theorem KnowsPatterns.earlier {base : Pattern.Table α} {last : Iteration} {state : EngineState σ α}
    (knows : engine.KnowsPatterns root base (added ++ [last]) state) :
    engine.KnowsPatterns root base added state := by
  have part (phase : Phase) :
      (outcomesOf added phase).Sublist (outcomesOf (added ++ [last]) phase) := by
    rw [outcomesOf_append]
    exact List.sublist_append_left _ _
  refine ⟨knows.1.mono part, Project.Filed.mono knows.2 fun content tells => ?_⟩
  rcases tells with none | ⟨table, includes, stands⟩
  · exact .inl (List.append_eq_nil_iff.mp none).1
  · exact .inr ⟨table, includes.mono part, stands⟩

omit [Arithmetic α] in
/-- The record of an iteration that was learnt from goes into the history, or it does not. -/
theorem append_recorded {first learnt : EngineState σ α}
    (whole : lines = [] ∨ lines.getLast? = some 10)
    (counted : engine.Counted root lines first.session added learnt)
    (tears : engine.Tears learnt) :
    Ends (· = learnt)
      (fun _ => OnHost (engine.project.Filed root "history.jsonl"
        (Lined (lines ++ History.recordsOf first.session.id (added ++ [learnt.iteration])))))
      (OnHost (engine.project.Filed root "history.jsonl"
        (Lined (lines ++ History.recordsOf first.session.id added))))
      (Step.onHost (.persistence "append history") (History.append engine.project.historyFile
        ⟨learnt.session.id, learnt.iteration⟩) : Step σ α Unit) := by
  have before := History.whole_append_recordsOf whole first.session.id added
  have stand := Project.Filed.linesOf counted.2 plain_history (by decide) before
  have torn : ∀ e host, History.append engine.project.historyFile
      ⟨learnt.session.id, learnt.iteration⟩ learnt.host = .error e host →
        host.disk.linesOf engine.project.historyFile ≠
          lines ++ History.recordsOf first.session.id added ++ currentRecord learnt := by
    rw [← stand]
    exact tears
  rw [History.recordsOf_append, ← List.append_assoc, ← counted.1.1]
  rw [← counted.1.1] at torn before
  refine Ends.onHost fun state same => ?_
  cases same
  generalize named : engine.project.historyFile = path at torn ⊢
  have filed := counted.2
  rw [← counted.1.1] at filed
  exact History.append_filed named filed before torn

/-- The history is none of the stores. -/
theorem append_knows (root : Place) (entry : Entry) (errors : ErrorIndex α) (patterns : Pattern.Table α)
    (told : List Iteration) :
    Ends (fun state => engine.KnowsErrors root errors told state ∧
        engine.KnowsPatterns root patterns told state)
      (fun _ state => engine.KnowsErrors root errors told state ∧
        engine.KnowsPatterns root patterns told state)
      (fun state => engine.KnowsErrors root errors told state ∧
        engine.KnowsPatterns root patterns told state)
      (Step.onHost (.persistence "append history")
        (History.append engine.project.historyFile entry) : Step σ α Unit) :=
  ((index_kept (Keeps.onHost _ _ fun _ _ => rfl)).and
    (history_ends (Project.Filed.guards _ _ _ _) (fun _ => Project.Filed.directory) entry
      (Apart.of_visible (by decide) (by decide)).beside)).and
  ((table_kept (Keeps.onHost _ _ fun _ _ => rfl)).and
    (history_ends (Project.Filed.guards _ _ _ _) (fun _ => Project.Filed.directory) entry
      (Apart.of_visible (by decide) (by decide)).beside))

/-- The history has the record of an iteration that the session does not count yet. -/
def Entered (engine : Engine σ) (root : Place) (lines : List UInt8) (first : EngineState σ α)
    (added : List Iteration) (last : Iteration) (state : EngineState σ α) : Prop :=
  ((state.session.id = first.session.id ∧
    state.session.completedIterations = first.session.completedIterations + added.length) ∧
  OnHost (engine.project.Filed root "history.jsonl"
    (Lined (lines ++ History.recordsOf first.session.id (added ++ [last])))) state) ∧
  engine.KnowsErrors root first.index (added ++ [last]) state ∧
  engine.KnowsPatterns root first.table (added ++ [last]) state

variable {first learnt : EngineState σ α}

/-- An iteration in the history is counted, whether the status is shown then or not. -/
theorem count_recorded {last : Iteration} (spares : engine.builder.Spares engine.project)
    (number : last.index = first.session.completedIterations + added.length + 1) :
    Ends (engine.Entered root lines first added last)
      (fun _ => engine.Recorded root lines first (added ++ [last]))
      (engine.Recorded root lines first (added ++ [last])) (do
        Step.changeSession fun session => { session with completedIterations := last.index }
        modify fun state => { state with snapshot := { state.snapshot with phase := .learning } }
        engine.writeStatus : Step σ α Unit) := by
  refine Ends.change (engine.Recorded root lines first (added ++ [last])) (fun state entered => ?_)
    (Ends.change _ (fun _ => id) (steady_recorded spares first).status)
  obtain ⟨⟨⟨same, -⟩, filed⟩, knows⟩ := entered
  refine ⟨⟨⟨same, ?_⟩, filed⟩, knows⟩
  rw [number, List.length_append, List.length_singleton, Nat.add_assoc]

/-- The record of an iteration that was learnt from goes into the history and the iteration is
counted, or neither happens. -/
theorem finishIteration_recorded (spares : engine.builder.Spares engine.project)
    (whole : lines = [] ∨ lines.getLast? = some 10)
    (counted : engine.Counted root lines first.session added learnt)
    (errors : engine.KnowsErrors root first.index (added ++ [learnt.iteration]) learnt)
    (patterns : engine.KnowsPatterns root first.table (added ++ [learnt.iteration]) learnt)
    (number : learnt.iteration.index = first.session.completedIterations + added.length + 1)
    (tears : engine.Tears learnt) :
    Ends (· = learnt) (fun _ => engine.Recorded root lines first (added ++ [learnt.iteration]))
      (fun after => engine.Recorded root lines first added after ∨
        engine.Recorded root lines first (added ++ [learnt.iteration]) after)
      (engine.finishIteration : Step σ α Unit) := by
  have session : Ends (fun state : EngineState σ α => state.session.id = first.session.id ∧
      state.session.completedIterations = first.session.completedIterations + added.length) _ _
      (Step.onHost (.persistence "append history") (History.append engine.project.historyFile
        ⟨learnt.session.id, learnt.iteration⟩)) :=
    session_kept (Keeps.onHost _ _ fun _ _ => rfl)
  have entered : Ends _ (fun _ => engine.Entered root lines first added learnt.iteration) _ _ :=
    (session.and (append_recorded whole counted tears)).and (append_knows root _ _ _ _)
  have appended : Ends _ (fun _ => engine.Entered root lines first added learnt.iteration)
      (fun after => engine.Recorded root lines first added after ∨
        engine.Recorded root lines first (added ++ [learnt.iteration]) after) _ :=
    entered.mono (fun _ => id) (fun _ _ => id) fun state held =>
      .inl ⟨held.1, held.2.1.earlier, held.2.2.earlier⟩
  refine Ends.look fun state same => ?_
  cases same
  refine (Ends.bind appended fun _ => ?_).come learnt ⟨⟨counted.1, rfl⟩, errors, patterns⟩
  exact (count_recorded spares number).mono (fun _ => id) (fun _ _ => id) fun _ => .inr

/-! ### Calls one after the other -/

/-- The history has the records of the iterations that a session counts since a start, whose numbers
follow one another, and the stores tell of them. -/
def Consistent (engine : Engine σ) (root : Place) (lines : List UInt8) (first : EngineState σ α)
    (state : EngineState σ α) : Prop :=
  ∃ added, added.map Iteration.index =
      List.range' (first.session.completedIterations + 1) added.length ∧
    engine.Recorded root lines first added state

theorem Recorded.consistent {last : Iteration} {state : EngineState σ α}
    (recorded : engine.Recorded root lines first (added ++ [last]) state)
    (numbers : added.map Iteration.index =
      List.range' (first.session.completedIterations + 1) added.length)
    (number : last.index = first.session.completedIterations + added.length + 1) :
    engine.Consistent root lines first state := by
  refine ⟨added ++ [last], ?_, recorded⟩
  rw [List.map_append, List.map_singleton, List.length_append, List.length_singleton,
    List.range'_1_concat, numbers, number, Nat.add_right_comm]

/-- What a call comes to once its iteration was learnt from. -/
theorem final_iterate {cap : Nat} (checked : engine.project.settings.retryPolicy.checkCap cap = .ok ())
    (performed : engine.perform cap before = .ok () learnt) :
    (engine.iterate cap).final before = (engine.finishIteration : Step σ α Unit).final learnt := by
  rw [iterate_eq_perform checked, Step.final, Step.bind_of_ok _ performed]
  cases ran : (engine.finishIteration : Step σ α Unit) learnt with
  | ok _ after =>
    rw [Step.bind_of_ok _ ran, Step.final_of_ok ran]
    rfl
  | error e after => rw [Step.bind_of_error _ ran, Step.final_of_error ran]

/-- A call leaves a session and a history that agree, whether it comes to its end or fails. -/
theorem iterate_consistent {cap : Nat} (spares : engine.builder.Spares engine.project)
    (whole : lines = [] ∨ lines.getLast? = some 10)
    (tears : ∀ learnt, engine.perform cap before = .ok () learnt → engine.Tears learnt)
    (consistent : engine.Consistent root lines first before) :
    engine.Consistent root lines first ((engine.iterate cap).final before) := by
  obtain ⟨added, numbers, recorded⟩ := consistent
  cases checked : engine.project.settings.retryPolicy.checkCap cap with
  | error e =>
    simp only [Step.final, iterate, checked]
    exact ⟨added, numbers, recorded⟩
  | ok _ =>
    have steady : engine.Steady (engine.Recorded root lines first added) :=
      steady_recorded spares first
    have performs := (steady.learner cap).perform (RetryPolicy.pos_of_checkCap checked)
      steady.beginIteration
    cases performed : engine.perform cap before with
    | error e after =>
      rw [iterate_eq_perform checked, Step.final_of_error (Step.bind_of_error _ performed)]
      exact ⟨added, numbers, performs.of_error recorded performed⟩
    | ok _ learnt =>
      obtain ⟨errors, patterns⟩ := perform_knows spares performed recorded.2.1 recorded.2.2
      have number : learnt.iteration.index =
          first.session.completedIterations + added.length + 1 := by
        rw [perform_index performed, recorded.1.1.2]
      have finishes : Ends (· = learnt) (fun _ => engine.Consistent root lines first)
          (engine.Consistent root lines first) (engine.finishIteration : Step σ α Unit) := by
        refine (finishIteration_recorded spares whole (performs.of_ok recorded performed).1 errors
          patterns number (tears learnt performed)).mono (fun _ => id) (fun _ state counted => ?_)
          fun state either => ?_
        · exact counted.consistent numbers number
        · rcases either with same | counted
          · exact ⟨added, numbers, same⟩
          · exact counted.consistent numbers number
      rw [final_iterate checked performed]
      exact finishes.final rfl

/-- Sequences of calls, whatever each comes to. Of a call that cannot add the record of its
iteration to the history at most the beginning of the record stays. -/
inductive Calls (engine : Engine σ) (first : EngineState σ α) : EngineState σ α → Prop
  | none : Calls engine first first
  | call {before : EngineState σ α} (earlier : Calls engine first before) (cap : Nat)
      (tears : ∀ learnt, engine.perform cap before = .ok () learnt → engine.Tears learnt) :
      Calls engine first ((engine.iterate cap).final before)

theorem Calls.consistent (spares : engine.builder.Spares engine.project)
    (whole : lines = [] ∨ lines.getLast? = some 10)
    (start : engine.Consistent root lines first first) {state : EngineState σ α}
    (calls : engine.Calls first state) : engine.Consistent root lines first state := by
  induction calls with
  | none => exact start
  | call _ cap tears ih => exact iterate_consistent spares whole tears ih

/-- In the beginning nothing was added. -/
theorem consistent_self (located : first.host.disk.locate engine.project.stateDir = .ok root)
    (directory : first.host.disk.node? root = some .directory) :
    engine.Consistent root (first.host.disk.linesOf engine.project.historyFile) first first := by
  refine ⟨[], rfl, ⟨⟨rfl, rfl⟩, ?_⟩, ⟨.refl .., ?_⟩, ⟨.refl .., ?_⟩⟩
  · rw [History.recordsOf, List.map_nil, List.flatMap_nil, List.append_nil]
    exact Project.Filed.of_linesOf located directory plain_history (by decide)
  · exact Project.Filed.of_located located directory (.inl rfl)
  · exact Project.Filed.of_located located directory (.inl rfl)

/-- Progress and history never disagree. Iterations are attempted one after the other in a session,
each to its end or up to a failure. Behind the lines there were the history has the records of the
iterations that the session has counted since, each once and in order, and the files of errors and
patterns include the failures and the outcomes of all of them. -/
theorem calls_keep_history_and_progress {state : EngineState σ α}
    (spares : engine.builder.Spares engine.project)
    (located : first.host.disk.locate engine.project.stateDir = .ok root)
    (directory : first.host.disk.node? root = some .directory)
    (calls : engine.Calls first state) :
    ∃ added : List Iteration,
      state.host.disk.linesOf engine.project.historyFile =
        first.host.disk.linesOf engine.project.historyFile ++
          History.recordsOf first.session.id added ∧
      added.map Iteration.index =
        List.range' (first.session.completedIterations + 1) added.length ∧
      state.session.id = first.session.id ∧
      state.session.completedIterations = first.session.completedIterations + added.length ∧
      (added ≠ [] → ∃ (index : ErrorIndex α) (table : Pattern.Table α),
        state.host.disk.read engine.project.errorsFile = .ok (Text.Utf8.encode
          (ErrorIndex.recordsToJson index.records).fileText) ∧
        state.host.disk.read engine.project.patternsFile = .ok (Text.Utf8.encode
          table.toJson.fileText) ∧
        index.Includes first.index (failureMessages added) ∧
        table.Includes first.table (outcomesOf added)) := by
  have whole := Disk.whole_linesOf first.host.disk engine.project.historyFile
  obtain ⟨added, numbers, ⟨⟨same, counted⟩, history⟩, ⟨-, errors⟩, ⟨-, patterns⟩⟩ :=
    calls.consistent spares whole (consistent_self located directory)
  have whole := History.whole_append_recordsOf whole first.session.id added
  refine ⟨added, history.linesOf plain_history (by decide) whole, numbers, same, counted,
    fun some => ?_⟩
  obtain ⟨_, errorsFile, none | ⟨index, includes, rfl⟩⟩ := errors
  · exact absurd none some
  obtain ⟨_, patternsFile, none | ⟨table, covers, rfl⟩⟩ := patterns
  · exact absurd none some
  exact ⟨index, table, errorsFile.read (Plain.of_long (by decide) (by decide)) (by decide),
    patternsFile.read (Plain.of_long (by decide) (by decide)) (by decide), includes, covers⟩

instance (engine : Engine σ) (state : EngineState σ α) : Decidable (engine.Tears state) :=
  match ran : History.append engine.project.historyFile ⟨state.session.id, state.iteration⟩
      state.host with
  | .ok _ _ => isTrue (by
    intro e host failed
    rw [ran] at failed
    cases failed)
  | .error _ host => decidable_of_iff (host.disk.linesOf engine.project.historyFile ≠
      state.host.disk.linesOf engine.project.historyFile ++ currentRecord state) (by
    refine ⟨fun differ e other failed => ?_, fun tears => tears _ host ran⟩
    rw [ran] at failed
    cases failed
    exact differ)

end Engine

namespace Sample

/-- An engine for which nothing is generated. -/
def refusing : Engine Nat :=
  { engine with generator := { stumbling with
    generate := fun _ calls => (.error (.root "parse error"), calls) } }

/-- A state at the start of a session whose first call will leave the beginning of its record in the
history, and whose second will count its iteration without showing it. -/
def tearingStart : EngineState Nat ℚ :=
  { fractionalStart with host := { stateHost with
    faults := List.replicate 52 none ++ some 5 :: List.replicate 55 none ++ [some 0] } }

/-- Both calls learn from their iteration. The first leaves the beginning of its record, the second
the count. -/
theorem torn_calls : ∃ first e middle second,
    refusing.perform 1 tearingStart = .ok () first ∧ refusing.Tears first ∧
    refusing.finishIteration first = .error e middle ∧
    middle.host.disk.read refusing.project.historyFile = .ok [123, 34, 115, 101, 115] ∧
    refusing.perform 1 middle = .ok () second ∧ refusing.Tears second ∧
    ((refusing.finishIteration : Step Nat ℚ Unit).final second).session.completedIterations = 1 := by
  have runs : (match refusing.perform 1 tearingStart with
    | .error _ _ => false
    | .ok _ first => decide (refusing.Tears first) &&
      match (refusing.finishIteration : Step Nat ℚ Unit) first with
      | .ok _ _ => false
      | .error _ middle => decide (middle.host.disk.read refusing.project.historyFile =
          .ok [123, 34, 115, 101, 115]) &&
        match refusing.perform 1 middle with
        | .error _ _ => false
        | .ok _ second => decide (refusing.Tears second) &&
          decide (((refusing.finishIteration : Step Nat ℚ Unit).final
            second).session.completedIterations = 1)) = true := by
    decide +kernel
  split at runs
  · cases runs
  rename_i first begun
  obtain ⟨tears, runs⟩ := (Bool.and_eq_true _ _).mp runs
  split at runs
  · cases runs
  rename_i e middle broken
  obtain ⟨beginning, runs⟩ := (Bool.and_eq_true _ _).mp runs
  split at runs
  · cases runs
  rename_i second begun'
  obtain ⟨tears', counted⟩ := (Bool.and_eq_true _ _).mp runs
  exact ⟨first, e, middle, second, begun, of_decide_eq_true tears, broken,
    of_decide_eq_true beginning, begun', of_decide_eq_true tears', of_decide_eq_true counted⟩

theorem torn_calls_keep_history_and_progress : ∃ middle last iteration,
    refusing.Calls tearingStart middle ∧ refusing.Calls tearingStart last ∧
    middle.host.disk.read refusing.project.historyFile = .ok [123, 34, 115, 101, 115] ∧
    last.session.completedIterations = 1 ∧ iteration.index = 1 ∧
    last.host.disk.linesOf refusing.project.historyFile = Entry.record ⟨"s", iteration⟩ := by
  have checked : refusing.project.settings.retryPolicy.checkCap 1 = .ok () := rfl
  obtain ⟨first, e, middle, second, begun, tears, broken, beginning, begun', tears', counted⟩ :=
    torn_calls
  have once : (refusing.iterate 1).final tearingStart = middle :=
    (Engine.final_iterate checked begun).trans (Step.final_of_error broken)
  have call : refusing.Calls tearingStart middle := once ▸ .call .none 1 fun learnt performed => by
    cases begun.symm.trans performed
    exact tears
  have twice : refusing.Calls tearingStart ((refusing.iterate 1).final middle) :=
    .call call 1 fun learnt performed => by
      cases begun'.symm.trans performed
      exact tears'
  rw [Engine.final_iterate checked begun'] at twice
  have spares : refusing.builder.Spares refusing.project := fun _ _ _ _ _ _ keeping => keeping
  obtain ⟨added, lines, numbers, -, count, -⟩ := Engine.calls_keep_history_and_progress spares
    (show tearingStart.host.disk.locate refusing.project.stateDir = .ok [".reloop"] by decide +kernel)
    (by decide +kernel) twice
  have one : added.length = 1 := by
    rw [counted] at count
    exact (Nat.zero_add _ ▸ count).symm
  obtain ⟨iteration, rfl⟩ := List.length_eq_one_iff.mp one
  refine ⟨middle, _, iteration, call, twice, beginning, counted, List.singleton_inj.mp numbers, ?_⟩
  rw [lines]
  have before : tearingStart.host.disk.linesOf refusing.project.historyFile = [] := by decide +kernel
  rw [before]
  exact List.append_nil _

end Sample

end TaskLoop
