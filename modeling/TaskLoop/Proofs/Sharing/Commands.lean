import TaskLoop.Proofs.Engine.Learning
import TaskLoop.Proofs.Engine.Replay
import TaskLoop.Proofs.Sharing.Serial

/-!
The commands that work on the stores, and an engine that learns, go through the stages of their
work. Work that comes to its end undisturbed is a run of the processes.
-/

set_option autoImplicit false

namespace TaskLoop.Sharing

open CommandLine (importInto resolveIn)
open Pattern (Table)

variable {project : Project} {memory : Memory} {before after : Host}

/-! ### Single stages -/

theorem Stage.run_lock {place : Place} (locked : project.lock before = .ok place after) :
    Stage.lock.run project memory before = .ok { memory with place := some place } after :=
  Act.bind_eq_ok.mpr ⟨place, after, locked, rfl⟩

theorem Stage.run_loadPatterns {table : Table Float}
    (loaded : project.loadPatterns before = .ok table after) :
    Stage.loadPatterns.run project memory before = .ok { memory with table := table } after :=
  Act.bind_eq_ok.mpr ⟨table, after, Act.mapError_eq_ok.mpr loaded, rfl⟩

theorem Stage.run_loadErrors {index : ErrorIndex Float}
    (loaded : project.loadErrors before = .ok index after) :
    Stage.loadErrors.run project memory before = .ok { memory with index := index } after :=
  Act.bind_eq_ok.mpr ⟨index, after, Act.mapError_eq_ok.mpr loaded, rfl⟩

theorem Stage.run_readTable {source : Path} {incoming : Table Float}
    (read : Table.read source before = .ok incoming after) :
    (Stage.readTable source).run project memory before =
      .ok { memory with incoming := incoming } after :=
  Act.bind_eq_ok.mpr ⟨incoming, after, Act.mapError_eq_ok.mpr read, rfl⟩

theorem Stage.run_savePatterns {change : Table Float → Table Float → Table Float}
    {table : Table Float} (changed : change memory.table memory.incoming = table)
    (saved : Table.save table project.patternsFile before = .ok () after) :
    (Stage.savePatterns change).run project memory before =
      .ok { memory with table := table } after := by
  subst changed
  exact Act.bind_eq_ok.mpr ⟨(), after, Act.mapError_eq_ok.mpr saved, rfl⟩

theorem Stage.run_saveErrors {change : ErrorIndex Float → Except StoreError (ErrorIndex Float)}
    {index : ErrorIndex Float} (changed : change memory.index = .ok index)
    (saved : index.save project.errorsFile before = .ok () after) :
    (Stage.saveErrors change).run project memory before =
      .ok { memory with index := index } after := by
  simp only [Stage.run, changed]
  exact Act.bind_eq_ok.mpr ⟨(), after, Act.mapError_eq_ok.mpr saved, rfl⟩

theorem Stage.run_unlock {place : Place} (held : memory.place = some place)
    (released : (Host.unlock place : Act EngineError Unit) before = .ok () after) :
    Stage.unlock.run project memory before = .ok { memory with place := none } after := by
  refine Act.bind_eq_ok.mpr ⟨(), after, ?_, rfl⟩
  rw [held]
  exact released

/-! ### Commands -/

/-- Work under the lock: the lock is taken, the work is done, and the lock is given back. -/
theorem locking_eq_ok {β : Type} {act : Act EngineError β} {value : β}
    (done : project.locking act before = .ok value after) :
    ∃ place locked worked, project.lock before = .ok place locked ∧
      act locked = .ok value worked ∧
      (Host.unlock place : Act EngineError Unit) worked = .ok () after := by
  obtain ⟨place, locked, locking, rest⟩ := Act.bind_eq_ok.mp done
  obtain ⟨result, worked, tried, rest⟩ := Act.bind_eq_ok.mp rest
  obtain ⟨_, released, release, answer⟩ := Act.bind_eq_ok.mp rest
  refine ⟨place, locked, worked, locking, ?_⟩
  simp only [Act.tryCatch_eq] at tried
  cases ran : act locked with
  | error e failed =>
    have mapped : (Except.ok <$> act : Act EngineError (Except EngineError β)) locked =
        .error e failed := by
      simp only [Functor.map, EStateM.map, ran]
    rw [mapped] at tried
    cases tried
    cases answer
  | ok got host =>
    have mapped : (Except.ok <$> act : Act EngineError (Except EngineError β)) locked =
        .ok (.ok got) host := by
      simp only [Functor.map, EStateM.map, ran]
    rw [mapped] at tried
    cases tried
    obtain ⟨rfl, rfl⟩ := Act.pure_eq_ok.mp answer
    exact ⟨rfl, release⟩

/-- A file that is imported is taken into the table that was loaded. -/
theorem importInto_eq_ok {source : Path} {merge : Bool} {summary : Pattern.ImportSummary}
    (done : importInto project source merge before = .ok summary after) :
    ∃ table loaded incoming found, project.loadPatterns before = .ok table loaded ∧
      Table.read source loaded = .ok incoming found ∧
      Table.save (takeIn merge table incoming) project.patternsFile found = .ok () after := by
  obtain ⟨table, loaded, loading, rest⟩ := Act.bind_eq_ok.mp done
  obtain ⟨_, found, reading, rest⟩ := Act.bind_eq_ok.mp rest
  obtain ⟨_, _, saving, answer⟩ := Act.bind_eq_ok.mp rest
  obtain ⟨-, rfl⟩ := Act.pure_eq_ok.mp answer
  obtain ⟨incoming, _, read, same⟩ := Act.bind_eq_ok.mp reading
  obtain ⟨rfl, rfl⟩ := Act.pure_eq_ok.mp same
  exact ⟨table, loaded, incoming, _, loading, read, saving⟩

/-- An import that succeeds has gone through its stages. -/
theorem runAll_of_import {source : Path} {merge : Bool} {summary : Pattern.ImportSummary}
    (done : project.locking ((importInto project source merge).mapError .store) before =
      .ok summary after) :
    ∃ memory, runAll project (Job.importing source merge).stages .start before =
      .ok memory after := by
  obtain ⟨place, locked, worked, locking, imported, released⟩ := locking_eq_ok done
  obtain ⟨_, _, _, _, loading, reading, saving⟩ :=
    importInto_eq_ok (Act.mapError_eq_ok.mp imported)
  exact ⟨_, runAll_cons (Stage.run_lock locking) <| runAll_cons (Stage.run_loadPatterns loading) <|
    runAll_cons (Stage.run_readTable reading) <| runAll_cons (Stage.run_savePatterns rfl saving) <|
    runAll_cons (Stage.run_unlock rfl released) runAll_nil⟩

/-- A resolution that succeeds has gone through its stages. -/
theorem runAll_of_resolve {hash note : String} {record : ErrorRecord}
    (done : project.locking ((resolveIn project hash note).mapError .store) before =
      .ok record after) :
    ∃ memory, runAll project (Job.resolving hash note).stages .start before = .ok memory after := by
  obtain ⟨place, locked, worked, locking, resolved, released⟩ := locking_eq_ok done
  obtain ⟨index, loaded, loading, rest⟩ := Act.bind_eq_ok.mp (Act.mapError_eq_ok.mp resolved)
  cases marked : index.markResolved hash note with
  | error e =>
    rw [marked] at rest
    cases rest
  | ok answer =>
    rw [marked] at rest
    obtain ⟨_, saved, saving, rest⟩ := Act.bind_eq_ok.mp rest
    obtain ⟨-, rfl⟩ := Act.pure_eq_ok.mp rest
    have changed : markIn hash note index = .ok answer.2 := by
      rw [markIn, marked]
      rfl
    exact ⟨_, runAll_cons (Stage.run_lock locking) <| runAll_cons (Stage.run_loadErrors loading) <|
      runAll_cons (Stage.run_saveErrors changed saving) <|
      runAll_cons (Stage.run_unlock rfl released) runAll_nil⟩

/-- A seeding goes through the stages of an import, but for the lock. -/
theorem runAll_of_seedPatterns {source : Path} {summary : Pattern.ImportSummary}
    (done : Setup.seedPatterns project.patternsFile source before = .ok summary after) :
    ∃ memory, runAll project (Job.seeding source).stages .start before = .ok memory after := by
  have imported : importInto project source true before = .ok summary after := done
  obtain ⟨_, _, _, _, loading, reading, saving⟩ := importInto_eq_ok imported
  exact ⟨_, runAll_cons (Stage.run_loadPatterns loading) <|
    runAll_cons (Stage.run_readTable reading) <| runAll_cons (Stage.run_savePatterns rfl saving)
    runAll_nil⟩

/-! ### Engines -/

/-- An engine that is opened has gone through the first stages of its work, once the directories
are made. -/
theorem runAll_of_openStores {place : Place} {table : Table Float} {index : ErrorIndex Float}
    (opened : project.openStores before = .ok (place, table, index) after) :
    ∃ made, project.makeDirectories before = .ok () made ∧
      runAll project [.lock, .loadPatterns, .loadErrors] .start made =
        .ok ⟨some place, table, index, Memory.start.incoming⟩ after := by
  obtain ⟨made, making, locking, patterns, errors⟩ := Project.openStores_eq_ok opened
  exact ⟨made, making, runAll_cons (Stage.run_lock locking) <|
    runAll_cons (Stage.run_loadPatterns patterns) <|
    runAll_cons (Stage.run_loadErrors errors) runAll_nil⟩

/-- The index and the hashes after failures at some times. -/
def recordTimed : List (String × Timestamp) → ErrorIndex Float → List String × ErrorIndex Float
  | [], index => ([], index)
  | (message, now) :: rest, index =>
    let (record, index) := index.recordError message now
    let (hashes, index) := recordTimed rest index
    (record.hash :: hashes, index)

/-- The index after the records of hashes are marked as overcome. -/
def overcome (note : String) : List String → ErrorIndex Float →
    Except StoreError (ErrorIndex Float)
  | [], index => .ok index
  | hash :: rest, index =>
    if (index.records.find? hash).any fun record => !record.resolved then
      (markIn hash note index).bind (overcome note rest)
    else overcome note rest index

/-- The table after the outcomes of some phases, each with the two times at which it is taken
in. -/
def tableOutcomes (iteration : Iteration) (complexity : Complexity) :
    List (Phase × Timestamp × Timestamp) → Table Float → Table Float
  | [], table => table
  | (phase, now, later) :: rest, table =>
    tableOutcomes iteration complexity rest <|
      match Engine.phaseOutcome? iteration phase with
      | none => table
      | some outcome =>
        Table.recordOutcome table phase.patternId (some complexity) outcome now later

/-- What an iteration adds to the stores, given the readings of the clock. -/
def learningOf (iteration : Iteration) (strategy : Strategy) (complexity : Complexity)
    (failed : List Timestamp) (ended : List (Timestamp × Timestamp)) : Learning where
  index index :=
    let (hashes, index) :=
      recordTimed ((iteration.failures.map FailedAttempt.message).zip failed) index
    if iteration.success then
      overcome (Engine.resolutionNote iteration strategy)
        (OrderedMap.ofList (hashes.map fun hash => (hash, ()))).keys index
    else .ok index
  table := tableOutcomes iteration complexity (Engine.learntPhases.zip ended)

section

variable {σ : Type} {state final : EngineState σ Float}

theorem recordFailures_eq_ok {failures : List FailedAttempt} {hashes : List String}
    (recorded : Engine.recordFailures failures state = .ok hashes final) :
    ∃ times, times.length = failures.length ∧
      recordTimed ((failures.map FailedAttempt.message).zip times) state.index =
        (hashes, final.index) := by
  induction failures generalizing state hashes with
  | nil =>
    cases recorded
    exact ⟨[], rfl, rfl⟩
  | cons failure rest ih =>
    obtain ⟨now, _, _, others, rfl⟩ := Engine.recordFailures_cons_eq_ok recorded
    obtain ⟨times, many, same⟩ := ih others
    refine ⟨now :: times, congrArg Nat.succ many, ?_⟩
    exact congrArg (fun rest : List String × ErrorIndex Float => (_ :: rest.1, rest.2)) same

theorem resolveAll_eq_ok {note : String} {hashes : List String}
    (resolved : Engine.resolveAll note hashes state = .ok () final) :
    overcome note hashes state.index = .ok final.index := by
  induction hashes generalizing state with
  | nil =>
    cases resolved
    rfl
  | cons hash rest ih =>
    rw [overcome]
    rcases Engine.resolveAll_cons_eq_ok resolved with
      ⟨closed, resolved⟩ | ⟨due, _, _, marked, resolved⟩
    · rw [if_neg (Bool.not_eq_true _ ▸ closed)]
      exact ih resolved
    · rw [if_pos due, markIn, marked]
      exact ih resolved

theorem recordOutcomes_eq_ok {iteration : Iteration} {complexity : Complexity}
    {phases : List Phase}
    (recorded : Engine.recordOutcomes iteration complexity phases state = .ok () final) :
    ∃ times, times.length = phases.length ∧
      tableOutcomes iteration complexity (phases.zip times) state.table = final.table := by
  induction phases generalizing state with
  | nil =>
    cases recorded
    exact ⟨[], rfl, rfl⟩
  | cons phase rest ih =>
    rcases Engine.recordOutcomes_cons_eq_ok recorded with
      ⟨found, recorded⟩ | ⟨outcome, _, now, later, found, recorded⟩
    · obtain ⟨times, many, same⟩ := ih recorded
      refine ⟨(⟨0, 0⟩, ⟨0, 0⟩) :: times, congrArg Nat.succ many, ?_⟩
      rw [List.zip_cons_cons, tableOutcomes, found]
      exact same
    · obtain ⟨times, many, same⟩ := ih recorded
      refine ⟨(now, later) :: times, congrArg Nat.succ many, ?_⟩
      rw [List.zip_cons_cons, tableOutcomes, found]
      exact same

/-- An iteration that learns has gone through two stages of an engine's work, and what it adds to
the stores is told by the iteration and the readings of the clock. -/
theorem runAll_of_learn {engine : Engine σ} {strategy : Strategy}
    (learnt : engine.learn strategy state = .ok () final) (place : Option Place)
    (incoming : Table Float) :
    ∃ iteration failed ended start stored, iteration.bare = state.iteration.bare ∧
      failed.length = iteration.failures.length ∧ ended.length = Engine.learntPhases.length ∧
      let learning :=
        learningOf iteration strategy state.session.context.complexity failed ended
      runAll engine.project
        [.saveErrors learning.index, .savePatterns fun table _ => learning.table table]
        ⟨place, state.table, state.index, incoming⟩ start =
          .ok ⟨place, final.table, final.index, incoming⟩ stored := by
  obtain ⟨entered, recorded, resolved, tabled, saved, stored, learns⟩ := Engine.learn_eq_ok learnt
  obtain ⟨started, entering, -⟩ := learns.around
  obtain ⟨hashes, recording, resolving⟩ := learns.failing
  obtain ⟨failed, many, counted⟩ := recordFailures_eq_ok recording
  obtain ⟨ended, all, told⟩ := recordOutcomes_eq_ok learns.tabling
  have bare : entered.iteration.bare = state.iteration.bare :=
    (Engine.enter_keeps engine Engine.unmoved_bare _).of_ok entering
  have stores : (entered.table, entered.index) = (state.table, state.index) :=
    (Engine.enter_keeps engine Engine.unmoved_stores _).of_ok entering
  obtain ⟨sameTable, sameIndex⟩ := Prod.mk.inj stores
  rw [learns.resolved_session, learns.resolved_table] at told
  rw [sameIndex] at counted
  obtain ⟨table, index⟩ := learns.same_stores
  obtain ⟨between, savedErrors, rfl⟩ := Step.onHost_eq_ok.1 learns.saving
  obtain ⟨last, savedPatterns, rfl⟩ := Step.onHost_eq_ok.1 learns.storing
  have indexed : tabled.index = resolved.index := Engine.recordOutcomes_index learns.tabling
  refine ⟨entered.iteration, failed, ended, tabled.host, last, bare, many, all, ?_⟩
  dsimp only
  rw [table, index]
  refine runAll_cons (Stage.run_saveErrors ?_ savedErrors) (runAll_cons
    (Stage.run_savePatterns told savedPatterns) runAll_nil)
  rw [indexed]
  show (if entered.iteration.success then overcome _ _ _ else Except.ok _) = _
  split at resolving
  · rename_i succeeded
    rw [if_pos succeeded, counted]
    exact resolveAll_eq_ok resolving
  · rename_i stumbled
    rw [if_neg stumbled, counted, resolving]

end

end TaskLoop.Sharing

namespace TaskLoop.Sample

open Pattern (Table)

/-- A project that is set up once more, with a table, while an engine is at work that then learns;
and the table that is left. -/
def seedingMeanwhile : Act EngineError (Setup × Table Float) := do
  let (_, known, _) ← plainProject.openStores
  let setup ← (Setup.run ⟨""⟩ (some ⟨"shared.json"⟩)).mapError (.persistence "init")
  (Table.save (stumbled.table known) plainProject.patternsFile).mapError .store
  let left ← plainProject.loadPatterns.mapError .store
  return (setup, left)

/-- The record that was reported as added is not left. -/
theorem seeding_lost : ∃ setup left after, seedingMeanwhile sharedHost = .ok (setup, left) after ∧
    setup.seeded = some ⟨1, 0, false⟩ ∧ OrderedMap.keys left = ["GENERATION"] := by
  have completes : (match seedingMeanwhile sharedHost with
    | .ok (setup, left) _ =>
      decide (setup.seeded = some ⟨1, 0, false⟩ ∧ OrderedMap.keys left = ["GENERATION"])
    | .error _ _ => false) = true := by decide +kernel
  split at completes
  · rename_i setup left after done
    exact ⟨setup, left, after, done, of_decide_eq_true completes⟩
  · cases completes

end TaskLoop.Sample
