import TaskLoop.Proofs.Engine.Files
import TaskLoop.Proofs.Store.History

/-!
The stores and the history tell the same. Iterations one after the other, of whatever sessions and
with whatever comes of them, leave in the stores what one would come to by going through the
history that they leave.
-/

set_option autoImplicit false

namespace TaskLoop

open Arithmetic (Exact)
open TaskLoop.Path (Plain)
open Project (Apart)

namespace History

/-- The iterations of a history in which a phase came to its end. -/
def reaching (phase : Phase) (entries : List Entry) : List Iteration :=
  (entries.map (·.iteration)).filter fun iteration =>
    (iteration.status.find? phase).any PhaseStatus.isTerminal

/-- The messages of the failures in a history. -/
def messages (entries : List Entry) : List String :=
  entries.flatMap fun entry => entry.iteration.failures.map FailedAttempt.message

/-- What stands in the file of a history: its records. Without entries there may be no file. -/
def Stands (entries : List Entry) (node : Option Node) : Prop :=
  node = some (.file (entries.flatMap Entry.record)) ∨ entries = [] ∧ node = none

/-- An entry that is added to the history of a project goes behind the others. -/
theorem append_keeping {project : Project} {root : Place} {name : String} {node : Option Node}
    {entries : List Entry} {entry : Entry} {before after : Host} (plain : Plain name)
    (short : name.utf8ByteSize ≤ 255) (keeping : project.Keeping root name node before.disk)
    (stands : Stands entries node)
    (added : append (project.stateDir.join name) entry before = .ok () after) :
    project.Keeping root name (some (.file ((entries ++ [entry]).flatMap Entry.record)))
      after.disk := by
  have path : before.disk.destination (project.stateDir.join name) = root ++ [name] :=
    (Disk.locate_eq_ok (keeping.locate plain short)).symm
  have standing : Disk.Standing (project.stateDir.join name) (entries.flatMap Entry.record)
      before := by
    rw [Disk.Standing, path, keeping.content]
    rcases stands with rfl | ⟨rfl, rfl⟩
    · exact ⟨[], List.not_mem_nil, (List.append_nil _).symm⟩
    · rfl
  have content := (append_ends (Path.tidy_join plain _) standing).of_ok added
  exact keeping.append plain added content

end History

/-- A record sums up what became of a phase in some iterations. -/
structure PatternRecord.SumsUp {α : Type} [Arithmetic α] (record : PatternRecord α) (phase : Phase)
    (iterations : List Iteration) : Prop where
  usage : record.usage = iterations.length
  successes : record.successes =
    iterations.countP fun iteration => iteration.status.find? phase == some .completed
  avgRetries : ∀ value, Exact value → value record.avgRetries =
    mean (iterations.map fun iteration => if phase.isRetried then (iteration.attempts : ℚ) else 0)
  avgDuration : ∀ value, Exact value → value record.avgDuration =
    mean (iterations.map fun iteration => ((iteration.durations.find? phase).getD 0 : ℚ) / 1000)

namespace Engine

open Step (Keeps Leads)
open History (Entry reaching Stands)
open PhaseProgress (Idle)

variable {σ α : Type}

/-- The outcome of a phase that came to its end. -/
def outcomeOf (phase : Phase) (iteration : Iteration) : Outcome where
  success := iteration.status.find? phase == some .completed
  duration := .ofMilliseconds ((iteration.durations.find? phase).getD 0)
  retries := if phase.isRetried then iteration.attempts else 0

/-- No phase of an iteration is under way but perhaps that of learning, and of those that came to
their end the time they took is noted. -/
structure Settled (iteration : Iteration) : Prop where
  idle : ∀ phase, phase ≠ .learning → iteration.status.find? phase ≠ some .running
  timed : ∀ phase, phase ≠ .learning →
    (iteration.status.find? phase).any PhaseStatus.isTerminal = true →
      ∃ milliseconds, iteration.durations.find? phase = some milliseconds

theorem learntOutcomes_eq {iteration : Iteration} (settled : Settled iteration) {phase : Phase}
    (learnt : phase ≠ .learning) :
    learntOutcomes iteration phase =
      if (iteration.status.find? phase).any PhaseStatus.isTerminal then [outcomeOf phase iteration]
      else [] := by
  have ended := settled.idle phase learnt
  rw [learntOutcomes, if_neg learnt, phaseOutcome?, outcomeOf]
  cases found : iteration.status.find? phase with
  | none => rfl
  | some status =>
    cases status with
    | running => exact absurd found ended
    | pending => rfl
    | completed => rfl
    | failed => rfl

/-- The outcomes learnt of a phase are those of the iterations in which it came to its end. -/
theorem flatMap_learntOutcomes {entries : List Entry}
    (settled : ∀ entry ∈ entries, Settled entry.iteration) {phase : Phase}
    (learnt : phase ≠ .learning) :
    entries.flatMap (fun entry => learntOutcomes entry.iteration phase) =
      (reaching phase entries).map (outcomeOf phase) := by
  induction entries with
  | nil => rfl
  | cons entry rest ih =>
    obtain ⟨first, others⟩ := List.forall_mem_cons.mp settled
    rw [List.flatMap_cons, ih others, learntOutcomes_eq first learnt]
    simp only [reaching, List.map_cons, List.filter_cons]
    split <;> rfl

theorem sumsUp_of_reports [Arithmetic α] {record : PatternRecord α} {phase : Phase}
    {iterations : List Iteration}
    (reports : record.Reports (iterations.map (outcomeOf phase))) :
    record.SumsUp phase iterations where
  usage := by rw [reports.usage, List.length_map]
  successes := by
    rw [reports.successes, List.countP_map]
    rfl
  avgRetries value exact := by
    rw [reports.avgRetries value exact, List.map_map]
    congr 1
    refine List.map_congr_left fun iteration _ => ?_
    simp only [Function.comp_apply, outcomeOf]
    split <;> simp only [Nat.cast_zero]
  avgDuration value exact := by
    rw [reports.avgDuration value exact, List.map_map]
    congr 1
    refine List.map_congr_left fun iteration _ => ?_
    simp only [Function.comp_apply, outcomeOf, Duration.inSeconds_ofMilliseconds exact]

variable {engine : Engine σ} {before after : EngineState σ α}

/-! ### One iteration -/

variable [Arithmetic α]

/-- An iteration that comes to its end adds its failures and the outcomes of its phases to the
stores, and no phase that is learnt of is left under way. -/
theorem iterate_stores {cap : Nat} {result : IterationResult} {messages : List String}
    {outcomes : Phase → List Outcome} (finished : engine.iterate cap before = .ok result after)
    (counts : before.index.Counts messages) (reports : before.table.Reports outcomes) :
    after.index.Counts (messages ++ result.iteration.failures.map FailedAttempt.message) ∧
      (after.table.Reports fun phase => outcomes phase ++ learntOutcomes result.iteration phase) ∧
      Settled result.iteration := by
  obtain ⟨plan, start, success, finish, prepared, attempted, concluded⟩ := iterate_eq_ok finished
  obtain ⟨learnt, learning, finishing, rfl⟩ := conclude_eq_ok concluded
  obtain ⟨table, index⟩ := tried_stores prepared attempted
  have kept : (after.table, after.index) = (learnt.table, learnt.index) :=
    (finishIteration_keeps engine unmoved_stores.aside).of_ok finishing
  have iteration : after.iteration = learnt.iteration := finishIteration_iteration finishing
  obtain ⟨lastTable, lastIndex⟩ := Prod.mk.inj kept
  rw [← index] at counts
  rw [← table] at reports
  obtain ⟨counted, reported⟩ := learn_stores telling_counts learning counts reports
  have idle := phased_idle.attempts trusts_any _ _ _ _ _ _ _ trivial _ _ _ attempted
    (phased_idle.prepare trusts_any beginIteration_idle _ _ _ prepared trivial)
  have timed := phased_timed.attempts trusts_any _ _ _ _ _ _ _ trivial _ _ _ attempted
    (phased_timed.prepare trusts_any beginIteration_timed _ _ _ prepared trivial)
  have view (phase : Phase) (other : phase ≠ .learning) : phaseView phase learnt =
      phaseView phase { finish with iteration := { finish.iteration with success := success } } :=
    (learn_keeps_phase engine other plan.2).of_ok learning
  rw [IterationResult.of, iteration, lastTable, lastIndex]
  refine ⟨counted, reported, ⟨fun phase other => ?_, fun phase other ended => ?_⟩⟩
  · rw [(Prod.mk.inj (view phase other)).1]
    exact idle phase
  · obtain ⟨status, durations⟩ := Prod.mk.inj (view phase other)
    rw [status] at ended
    rw [durations]
    exact timed phase ended

theorem plain_history : Plain "history.jsonl" := Plain.of_long (by decide) (by decide)

omit [Arithmetic α] in
/-- The end of an iteration adds its record to the history. -/
theorem finishIteration_history {root : Place} {node : Option Node} {entries : List Entry}
    (finished : engine.finishIteration before = .ok () after)
    (keeping : engine.Keeping root "history.jsonl" node before) (stands : Stands entries node) :
    engine.Keeping root "history.jsonl" (some (.file
      ((entries ++ [(⟨after.session.id, before.iteration⟩ : Entry)]).flatMap Entry.record)))
      after := by
  obtain ⟨host, added, shown⟩ := finishIteration_eq_ok finished
  have id : after.session.id = before.session.id :=
    (congrArg Session.id ((writeStatus_keeps_session engine).of_ok shown) :)
  rw [id]
  have apart : Apart "history.jsonl" "status.json" := .of_visible (by decide) (by decide)
  have recorded := History.append_keeping plain_history (by decide) keeping stands added
  exact writeStatus_guarded (Project.Keeping.guards engine.project root "history.jsonl" _)
    apart.beside _ _ _ shown recorded

/-- An iteration that comes to its end adds its record to the history. -/
theorem iterate_history {cap : Nat} {result : IterationResult} {root : Place} {node : Option Node}
    {entries : List Entry} (spares : engine.builder.Spares engine.project)
    (finished : engine.iterate cap before = .ok result after)
    (keeping : engine.Keeping root "history.jsonl" node before) (stands : Stands entries node) :
    engine.Keeping root "history.jsonl" (some (.file
      ((entries ++ [(⟨after.session.id, result.iteration⟩ : Entry)]).flatMap Entry.record)))
      after := by
  have status : Apart "history.jsonl" "status.json" := .of_visible (by decide) (by decide)
  have errors : Apart "history.jsonl" "errors.json" := .of_visible (by decide) (by decide)
  have patterns : Apart "history.jsonl" "patterns.json" := .of_visible (by decide) (by decide)
  obtain ⟨plan, start, success, finish, prepared, attempted, concluded⟩ := iterate_eq_ok finished
  obtain ⟨learnt, learning, finishing, rfl⟩ := conclude_eq_ok concluded
  have guards := Project.Keeping.guards engine.project root "history.jsonl" node
  have builds : engine.Builds fun host =>
      engine.project.Keeping root "history.jsonl" node host.disk :=
    fun artifact agents host => spares artifact agents host root "history.jsonl" node
  have tried := tried_guarded guards status.beside builds prepared attempted keeping
  have learned : engine.Keeping root "history.jsonl" node learnt :=
    learn_guarded guards status.beside builds errors.beside patterns.beside _ _ _ learning tried
  have iteration : after.iteration = learnt.iteration := finishIteration_iteration finishing
  rw [IterationResult.of, iteration]
  exact finishIteration_history finishing learned stands

/-! ### Iterations one after the other -/

/-- Iterations one after the other, each of a session and under a cap of its own: what the history
tells of them. -/
def iterateAll (engine : Engine σ) : List (Session × Nat) → Step σ α (List Entry)
  | [] => return []
  | (session, cap) :: calls => do
    Step.changeSession fun _ => session
    let result ← engine.iterate cap
    let session := (← get).session
    return ⟨session.id, result.iteration⟩ :: (← iterateAll engine calls)

/-- The first of the iterations, and the others behind it. -/
theorem iterateAll_cons_eq_ok {session : Session} {cap : Nat} {calls : List (Session × Nat)}
    {entries : List Entry}
    (ran : engine.iterateAll ((session, cap) :: calls) before = .ok entries after) :
    ∃ result between rest, engine.iterate cap { before with session := session } =
        .ok result between ∧
      engine.iterateAll calls between = .ok rest after ∧
      entries = ⟨between.session.id, result.iteration⟩ :: rest := by
  obtain ⟨_, _, changed, ran⟩ := Step.bind_eq_ok.1 ran
  cases changed
  obtain ⟨result, between, first, ran⟩ := Step.bind_eq_ok.1 ran
  obtain ⟨_, _, got, ran⟩ := Step.bind_eq_ok.1 ran
  cases got
  obtain ⟨rest, _, others, ran⟩ := Step.bind_eq_ok.1 ran
  cases ran
  exact ⟨result, between, rest, first, others, rfl⟩

theorem iterateAll_stores {calls : List (Session × Nat)} {entries : List Entry}
    {messages : List String} {outcomes : Phase → List Outcome}
    (ran : engine.iterateAll calls before = .ok entries after)
    (counts : before.index.Counts messages) (reports : before.table.Reports outcomes) :
    after.index.Counts (messages ++ History.messages entries) ∧
      (after.table.Reports fun phase =>
        outcomes phase ++ entries.flatMap fun entry => learntOutcomes entry.iteration phase) ∧
      ∀ entry ∈ entries, Settled entry.iteration := by
  induction calls generalizing before entries messages outcomes with
  | nil =>
    cases ran
    simp only [History.messages, List.flatMap_nil, List.append_nil]
    exact ⟨counts, reports, fun _ => nofun⟩
  | cons call calls ih =>
    obtain ⟨result, between, rest, first, others, rfl⟩ := iterateAll_cons_eq_ok ran
    obtain ⟨counted, reported, settled⟩ := iterate_stores first counts reports
    obtain ⟨allCounted, allReported, allSettled⟩ := ih others counted reported
    simp only [History.messages, List.flatMap_cons, ← List.append_assoc]
    exact ⟨allCounted, allReported, List.forall_mem_cons.mpr ⟨settled, allSettled⟩⟩

theorem iterateAll_history {calls : List (Session × Nat)} {earlier entries : List Entry}
    {root : Place} {node : Option Node} (spares : engine.builder.Spares engine.project)
    (ran : engine.iterateAll calls before = .ok entries after)
    (keeping : engine.Keeping root "history.jsonl" node before) (stands : Stands earlier node) :
    ∃ node, engine.Keeping root "history.jsonl" node after ∧ Stands (earlier ++ entries) node := by
  induction calls generalizing before earlier entries node with
  | nil =>
    cases ran
    rw [List.append_nil]
    exact ⟨node, keeping, stands⟩
  | cons call calls ih =>
    obtain ⟨result, between, rest, first, others, rfl⟩ := iterateAll_cons_eq_ok ran
    have recorded := iterate_history spares first keeping stands
    obtain ⟨node, kept, stand⟩ := ih others recorded (.inl rfl)
    rw [List.append_assoc, List.singleton_append] at stand
    exact ⟨node, kept, stand⟩

omit [Arithmetic α] in
/-- What is read of a history that stands in its file. -/
theorem read_history {root : Place} {node : Option Node} {entries : List Entry}
    (fits : ∀ entry ∈ entries, entry.Fits)
    (keeping : engine.Keeping root "history.jsonl" node before) (stands : Stands entries node) :
    History.read engine.project.historyFile before.host = .ok entries before.host := by
  rcases stands with rfl | ⟨rfl, rfl⟩
  · exact History.read_records fits (keeping.read plain_history (by decide))
  · have missing := keeping.read_missing plain_history (by decide)
    simp only [History.read, Act.look, Disk.readText, Project.historyFile, missing, bind,
      Except.bind]

/-- The stores are what going through the history gives. After iterations that all came to their
end, from empty stores on, there is a record of each phase but learning that came to its end in
one of them and it sums up those iterations, of each of which the time the phase took is noted;
there is no other record of a phase. There is a record of each failure, by its hash, that counts
those in the history, and no other. The history in question is the one in the file, as long as
the builder leaves the files of the project alone. -/
theorem stores_replay_history {calls : List (Session × Nat)} {entries : List Entry}
    (noPatterns : before.table = .empty) (noErrors : before.index.records = .empty)
    (ran : engine.iterateAll calls before = .ok entries after) :
    (∀ phase, phase ≠ .learning →
      (match after.table.find? phase.patternId with
        | none => reaching phase entries = []
        | some record => reaching phase entries ≠ [] ∧
          record.SumsUp phase (reaching phase entries)) ∧
      ∀ iteration ∈ reaching phase entries, ∃ milliseconds,
        iteration.durations.find? phase = some milliseconds) ∧
    after.table.find? Phase.learning.patternId = none ∧
    (∀ hash, (after.index.records.find? hash).map (·.occurrences) =
      if ErrorIndex.occurrences (History.messages entries) hash = 0 then none
      else some (ErrorIndex.occurrences (History.messages entries) hash)) ∧
    ∀ root node, engine.builder.Spares engine.project →
      engine.Keeping root "history.jsonl" node before → Stands [] node →
      (∀ entry ∈ entries, entry.Fits) →
      History.read engine.project.historyFile after.host = .ok entries after.host := by
  have counts : before.index.Counts [] := fun hash => by
    rw [noErrors]
    rfl
  have reports : before.table.Reports fun _ => [] := by
    rw [noPatterns]
    exact Pattern.Table.reports_empty
  obtain ⟨counted, reported, settled⟩ := iterateAll_stores ran counts reports
  refine ⟨fun phase learnt => ⟨?_, ?_⟩, ?_, counted, ?_⟩
  · have told := reported phase
    dsimp only at told
    rw [List.nil_append, flatMap_learntOutcomes settled learnt] at told
    cases found : after.table.find? phase.patternId with
    | none =>
      rw [found] at told
      exact List.map_eq_nil_iff.mp told
    | some record =>
      rw [found] at told
      exact ⟨fun none => told.1 (List.map_eq_nil_iff.mpr none), sumsUp_of_reports told.2⟩
  · intro iteration member
    obtain ⟨listed, ended⟩ := List.mem_filter.mp member
    obtain ⟨entry, isEntry, rfl⟩ := List.mem_map.mp listed
    exact (settled entry isEntry).timed phase learnt ended
  · have told := reported .learning
    split at told
    · assumption
    · refine absurd ?_ told.1
      simp only [List.nil_append, learntOutcomes, ↓reduceIte, List.flatMap_eq_nil_iff,
        implies_true]
  · intro root node spares keeping stands fits
    obtain ⟨_, kept, stand⟩ := iterateAll_history spares ran keeping stands
    rw [List.nil_append] at stand
    exact read_history fits kept stand

end Engine

end TaskLoop

namespace TaskLoop.Sample

open Arithmetic (exact_fractions)
open History (Entry reaching)

/-- A host with nothing but the directory of a project's state. -/
def stateHost : Host :=
  .new ⟨OrderedMap.empty.insert [".reloop"] .directory, []⟩ (fun reading => ⟨reading, 0⟩)
    Identifier.ofNumber

/-- A session that has just begun. -/
def session : Session := .new "s" "t" {} ⟨0, 0⟩

/-- The state at its start, with averages that are fractions. -/
def fractionalStart : EngineState Nat ℚ := .new stateHost 0 .empty ⟨.empty, 1 / 2⟩ session

/-- The failure of the first attempt. -/
def stumble : FailedAttempt := ⟨.generation, 1, .syntactic, "parse error"⟩

/-- What the history tells of an iteration whose second attempt passes, and of one that makes no
second attempt. -/
def told : List Entry := [
  ⟨"s", {
    index := 1
    task := "t"
    status := .ofList (Phase.all.map fun phase => (phase, .completed))
    durations := .ofList [(.exploration, 2000), (.reasoning, 2000), (.generation, 3000),
      (.review, 2000), (.compilation, 1000), (.learning, 12000)]
    attempts := 2
    success := true
    startedAt := ⟨0, 0⟩
    failures := [stumble] }⟩,
  ⟨"s", {
    index := 1
    task := "t"
    status := .ofList [(.exploration, .completed), (.reasoning, .completed),
      (.generation, .failed), (.review, .pending), (.compilation, .pending),
      (.learning, .completed)]
    durations := .ofList [(.exploration, 2000), (.reasoning, 2000), (.generation, 1000),
      (.learning, 8000)]
    attempts := 1
    success := false
    startedAt := ⟨46, 0⟩
    failures := [stumble] }⟩]

theorem told_fits : ∀ entry ∈ told, entry.Fits := by
  have numbers : ∀ entry ∈ told, entry.iteration.index < powerOfTwo 32 ∧
      entry.iteration.attempts < powerOfTwo 32 ∧
      (∀ duration ∈ entry.iteration.durations.values, duration < powerOfTwo 64) ∧
      entry.iteration.failures = [stumble] ∧ (entry.iteration.startedAt = ⟨0, 0⟩ ∨
        entry.iteration.startedAt = ⟨46, 0⟩) := by
    decide +kernel
  intro entry member
  obtain ⟨index, attempts, durations, failures, startedAt⟩ := numbers entry member
  refine ⟨index, attempts, durations, ?_, fun failure isFailure => ?_⟩
  · rcases startedAt with same | same
    · rw [same]
      exact ⟨by decide, by decide⟩
    · rw [same]
      exact ⟨by decide, by decide⟩
  · rw [failures, List.mem_singleton] at isFailure
    rw [isFailure]
    show 1 < powerOfTwo 32
    decide

theorem stateHost_keeping :
    engine.Keeping [".reloop"] "history.jsonl" none fractionalStart where
  located := by decide +kernel
  directory := by decide +kernel
  content := by decide +kernel

theorem iterates_told :
    ∃ after, engine.iterateAll [(session, 2), (session, 1)] fractionalStart = .ok told after := by
  have completes : (match engine.iterateAll [(session, 2), (session, 1)] fractionalStart with
    | .ok entries _ => decide (entries = told)
    | .error _ _ => false) = true := by decide +kernel
  split at completes
  · rename_i after completed
    obtain rfl := of_decide_eq_true completes
    exact ⟨after, completed⟩
  · cases completes

theorem told_stores_replay_history : ∃ after,
    engine.iterateAll [(session, 2), (session, 1)] fractionalStart = .ok told after ∧
      (∃ record, after.table.find? Phase.generation.patternId = some record ∧
        record.usage = 2 ∧ record.successes = 1 ∧ record.avgRetries = 3 / 2 ∧
        record.avgDuration = 2) ∧
      (∃ record, after.table.find? Phase.review.patternId = some record ∧ record.usage = 1) ∧
      (after.index.records.find? (Similarity.errorHash "parse error")).map (·.occurrences) =
        some 2 ∧
      History.read engine.project.historyFile after.host = .ok told after.host := by
  obtain ⟨after, completed⟩ := iterates_told
  obtain ⟨records, -, occurrences, history⟩ :=
    Engine.stores_replay_history (rfl : fractionalStart.table = .empty) rfl completed
  have spares : engine.builder.Spares engine.project := fun _ _ _ _ _ _ keeping => keeping
  refine ⟨after, completed, ?_, ?_, ?_,
    history _ _ spares stateHost_keeping (.inr ⟨rfl, rfl⟩) told_fits⟩
  · have generated := (records .generation (by decide)).1
    have both : reaching .generation told = told.map (·.iteration) := by decide +kernel
    split at generated
    · rw [both] at generated
      cases generated
    · rename_i record found
      have sums := generated.2
      rw [both] at sums
      refine ⟨record, found, sums.usage, ?_, ?_, ?_⟩
      · rw [sums.successes]
        decide +kernel
      · have retries := sums.avgRetries id exact_fractions
        rw [id] at retries
        rw [retries]
        decide +kernel
      · have duration := sums.avgDuration id exact_fractions
        rw [id] at duration
        rw [duration]
        decide +kernel
  · have reviewed := (records .review (by decide)).1
    have one : (reaching .review told).length = 1 := by decide +kernel
    split at reviewed
    · rw [reviewed] at one
      cases one
    · rename_i record found
      exact ⟨record, found, by rw [reviewed.2.usage, one]⟩
  · have twice : ErrorIndex.occurrences (History.messages told)
        (Similarity.errorHash "parse error") = 2 := by decide +kernel
    rw [occurrences, twice]
    rfl

end TaskLoop.Sample
