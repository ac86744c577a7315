import TaskLoop.CommandLine.Errors
import TaskLoop.CommandLine.Patterns
import TaskLoop.Project.Setup
import TaskLoop.Proofs.Disk.Locks
import TaskLoop.Proofs.Engine.Open
import TaskLoop.Proofs.Pattern.Account

/-!
What processes do to the stores of one project: the stages that an engine, an import, a resolution
and a seeding of patterns go through, and what each leaves of the files and of the lock.
-/

set_option autoImplicit false

namespace TaskLoop.Sharing

open Act (Ends Keeps KeepsLocks bind_eq_error mapError_eq_error)
open Host (Spares)
open TaskLoop.Path (Plain Tidy)
open Pattern (Table)
open Project (Apart Keeping ReadsErrors ReadsPatterns)

/-! ### Stages -/

/-- A stage of the work on the stores. What is saved comes of what is known, and in a table also
of the one that was read to be taken in. -/
inductive Stage where
  | lock
  | loadPatterns
  | loadErrors
  | readTable (source : Path)
  | savePatterns (change : Table Float → Table Float → Table Float)
  | saveErrors (change : ErrorIndex Float → Except StoreError (ErrorIndex Float))
  | unlock

/-- What a process knows: the lock it holds, the stores, and a table to be taken in. -/
structure Memory where
  place : Option Place
  table : Table Float
  index : ErrorIndex Float
  incoming : Table Float

/-- Nothing is known yet. -/
def Memory.start : Memory := ⟨none, .empty, .empty ErrorIndex.defaultThreshold, .empty⟩

/-- One stage of the work on the stores of a project. -/
def Stage.run (project : Project) (memory : Memory) : Stage → Act EngineError Memory
  | lock => do
    let place ← project.lock
    return { memory with place := some place }
  | loadPatterns => do
    let table ← project.loadPatterns.mapError .store
    return { memory with table := table }
  | loadErrors => do
    let index ← project.loadErrors.mapError .store
    return { memory with index := index }
  | readTable source => do
    let incoming ← (Table.read source).mapError .store
    return { memory with incoming := incoming }
  | savePatterns change => do
    let table := change memory.table memory.incoming
    (Table.save table project.patternsFile).mapError .store
    return { memory with table := table }
  | saveErrors change =>
    match change memory.index with
    | .error e => throw (.store e)
    | .ok index => do
      (index.save project.errorsFile).mapError .store
      return { memory with index := index }
  | unlock => do
    memory.place.forM Host.unlock
    return { memory with place := none }

/-- Stages one after the other, with no one between them. -/
def runAll (project : Project) (stages : List Stage) (memory : Memory) : Act EngineError Memory :=
  stages.foldlM (Stage.run project) memory

/-- What becomes of a known table when one that was read is taken in. -/
def takeIn (merge : Bool) (table incoming : Table Float) : Table Float :=
  (table.importFrom incoming merge).2

/-- What becomes of an index when a record is marked resolved. -/
def markIn (hash note : String) (index : ErrorIndex Float) :
    Except StoreError (ErrorIndex Float) :=
  (index.markResolved hash note).map Prod.snd

/-- What an iteration adds to the stores. -/
structure Learning where
  index : ErrorIndex Float → Except StoreError (ErrorIndex Float)
  table : Table Float → Table Float

/-- The work of a process: an engine that learns from some iterations, an import, a resolution, or
a project that is set up with patterns. -/
inductive Job where
  | learning (learnings : List Learning)
  | importing (source : Path) (merge : Bool)
  | resolving (hash note : String)
  | seeding (source : Path)

namespace Job

/-- The stages of the work. A seeding takes no lock. -/
def stages : Job → List Stage
  | learning learnings =>
    [.lock, .loadPatterns, .loadErrors]
      ++ learnings.flatMap (fun learning =>
        [.saveErrors learning.index, .savePatterns fun table _ => learning.table table])
      ++ [.unlock]
  | importing source merge =>
    [.lock, .loadPatterns, .readTable source, .savePatterns (takeIn merge), .unlock]
  | resolving hash note => [.lock, .loadErrors, .saveErrors (markIn hash note), .unlock]
  | seeding source => [.loadPatterns, .readTable source, .savePatterns (takeIn true)]

/-- Whether the work is done under the lock. -/
def locks : Job → Bool
  | seeding _ => false
  | _ => true

end Job

/-! ### What a stage leaves -/

variable {project : Project} {root : Place} {memory next : Memory} {patterns errors : Option Node}
  {before after : Host}

/-- The place of the lock. -/
def lockPlace (root : Place) : Place := root ++ [Project.lockName]

theorem loadPatterns_keeps {δ : Type} {view : Host → δ} (project : Project) :
    project.loadPatterns.Keeps view := by
  refine Keeps.bind Keeps.files fun disk => ?_
  split
  · exact Table.read_keeps _
  · exact Keeps.pure _

theorem loadErrors_keeps {δ : Type} {view : Host → δ} (project : Project) :
    project.loadErrors.Keeps view := by
  unfold Project.loadErrors ErrorIndex.load
  have reads : (do
      if (← Host.files).pathExists project.errorsFile then
        return ⟨← Store.readJson project.errorsFile ErrorIndex.recordsOfJson?,
          project.settings.similarity.threshold⟩
      else return .empty project.settings.similarity.threshold :
        Act StoreError (ErrorIndex Float)).Keeps view := by
    refine Keeps.bind Keeps.files fun disk => ?_
    split
    · exact Keeps.bind (Keeps.look _) fun _ => Keeps.pure _
    · exact Keeps.pure _
  split
  · exact Keeps.bind (Keeps.throw _) fun _ => reads
  · exact reads

/-- The lock is taken if no one has it, and only its file is touched. -/
theorem lock_ends (located : before.disk.locate project.stateDir = .ok root)
    (directory : before.disk.node? root = some .directory) :
    Ends project.lock before
      (fun place after => place = lockPlace root ∧ lockPlace root ∉ before.locked ∧
        after.locked = lockPlace root :: before.locked ∧ Spares (· = lockPlace root) before after)
      fun _ after => after.locked = before.locked ∧ Spares (· = lockPlace root) before after := by
  have plain : Plain Project.lockName := .of_long (by decide) (by decide)
  have led : before.disk.locate project.lockFile = .ok (lockPlace root) := by
    have led := Disk.locate_join project.tidy_stateDir plain located directory
    rwa [if_neg (by decide)] at led
  have ends := Disk.lock_ends led
  refine Ends.bind ?_
  simp only [Ends, Act.mapError] at ends ⊢
  cases locking : Host.lock project.lockFile before with
  | error e after =>
    rw [locking] at ends
    exact ends.symm
  | ok taken after =>
    rw [locking] at ends
    obtain ⟨spares, taking⟩ := ends
    cases taken with
    | none => exact ⟨taking, spares⟩
    | some place => exact ⟨taking.1, taking.2.1, taking.2.2, spares⟩

/-- What stands in the files of the stores. -/
structure Stores (project : Project) (root : Place) (patterns errors : Option Node) (disk : Disk) :
    Prop where
  patterns : project.Keeping root "patterns.json" patterns disk
  errors : project.Keeping root "errors.json" errors disk

theorem Stores.spares {touched : Place → Prop} (stores : Stores project root patterns errors before.disk)
    (spares : Spares touched before after)
    (apart : ∀ name ∈ ["patterns.json", "errors.json"], ¬ touched (root ++ [name])) :
    Stores project root patterns errors after.disk :=
  ⟨stores.patterns.spares spares (apart _ (by decide)),
    stores.errors.spares spares (apart _ (by decide))⟩

/-- A file that could not be replaced leaves the stores as they were. -/
theorem Stores.not_replaced {name : String} {bytes : List UInt8} {e : Failure}
    (stores : Stores project root patterns errors before.disk) (plain : Plain name)
    (failed : Disk.writeAtomic (project.stateDir.join name) bytes before = .error e after) :
    Stores project root patterns errors after.disk := by
  have ends : Ends (Disk.writeAtomic (project.stateDir.join name) bytes) before _ _ :=
    Disk.writeAtomic_ends project.tidy_stateDir plain stores.patterns.located
      stores.patterns.directory
  rw [Ends, failed] at ends
  refine stores.spares ends ?_
  rintro other isStore ⟨processId, same⟩
  have visible : ∀ name ∈ ["patterns.json", "errors.json"], name.toList.head? ≠ some '.' := by
    decide
  apply visible other isStore
  rw [List.singleton_inj.mp (List.append_cancel_left same), Disk.toList_temporaryName]
  rfl

/-- What stands in the file of a table that was saved. -/
def written (table : Table Float) : Option Node :=
  some (.file (Text.Utf8.encode table.toJson.fileText))

/-- What stands in the file of an index that was saved. -/
def writtenIndex (index : ErrorIndex Float) : Option Node :=
  some (.file (Text.Utf8.encode (ErrorIndex.recordsToJson index.records).fileText))

/-- What cannot be read leaves the stores and the locks as they were. -/
theorem Stores.not_looked {β : Type} {act : Act EngineError β} {learn : β → Memory} {e : EngineError}
    (stores : Stores project root patterns errors before.disk)
    (keeps : act.Keeps fun host => host)
    (failed : (do return learn (← act) : Act EngineError Memory) before = .error e after) :
    Stores project root patterns errors after.disk ∧ after.locked = before.locked := by
  rcases bind_eq_error failed with failed | ⟨_, _, -, failed⟩
  · rw [keeps.of_error failed]
    exact ⟨stores, rfl⟩
  · cases failed

/-- What cannot be saved leaves the stores and the locks as they were. -/
theorem Stores.not_saved {name : String} {bytes : List UInt8} {save : Act StoreError Unit}
    {e : EngineError} (stores : Stores project root patterns errors before.disk)
    (plain : Plain name)
    (replaces : save = (Disk.writeAtomic (project.stateDir.join name) bytes).mapError .other)
    (failed : (do save.mapError .store; return next : Act EngineError Memory) before =
      .error e after) :
    Stores project root patterns errors after.disk ∧ after.locked = before.locked := by
  subst replaces
  rcases bind_eq_error failed with failed | ⟨_, _, -, failed⟩
  · obtain ⟨_, failed⟩ := mapError_eq_error failed
    obtain ⟨_, failed⟩ := mapError_eq_error failed
    exact ⟨stores.not_replaced plain failed, (Disk.writeAtomic_keepsLocks _ _).of_error failed⟩
  · cases failed

/-- A stage that fails leaves the stores and the locks as they were. -/
theorem Stage.run_error {stage : Stage} {e : EngineError}
    (stores : Stores project root patterns errors before.disk)
    (failed : stage.run project memory before = .error e after) :
    Stores project root patterns errors after.disk ∧ after.locked = before.locked := by
  cases stage with
  | lock =>
    rcases bind_eq_error failed with failed | ⟨_, _, -, failed⟩
    · have ends := lock_ends stores.patterns.located stores.patterns.directory
      rw [Ends, failed] at ends
      refine ⟨stores.spares ends.2 ?_, ends.1⟩
      intro name isStore same
      rw [List.singleton_inj.mp (List.append_cancel_left same)] at isStore
      exact absurd isStore (by decide)
    · cases failed
  | loadPatterns =>
    exact stores.not_looked ((loadPatterns_keeps project).mapError _) failed
  | loadErrors => exact stores.not_looked ((loadErrors_keeps project).mapError _) failed
  | readTable source => exact stores.not_looked ((Table.read_keeps source).mapError _) failed
  | savePatterns change => exact stores.not_saved Project.plain_patterns rfl failed
  | saveErrors change =>
    cases changed : change memory.index with
    | error e =>
      simp only [Stage.run, changed] at failed
      cases failed
      exact ⟨stores, rfl⟩
    | ok index =>
      simp only [Stage.run, changed] at failed
      exact stores.not_saved Project.plain_errors rfl failed
  | unlock =>
    rcases bind_eq_error failed with failed | ⟨_, _, -, failed⟩
    · cases held : memory.place with
      | none =>
        rw [held] at failed
        cases failed
      | some place =>
        rw [held] at failed
        cases failed
    · cases failed

/-! ### What a stage does -/

theorem Stage.lock_eq_ok (stores : Stores project root patterns errors before.disk)
    (done : Stage.lock.run project memory before = .ok next after) :
    next = { memory with place := some (lockPlace root) } ∧ lockPlace root ∉ before.locked ∧
      after.locked = lockPlace root :: before.locked ∧
      Stores project root patterns errors after.disk := by
  obtain ⟨place, _, locked, rest⟩ := Act.bind_eq_ok.mp done
  obtain ⟨rfl, rfl⟩ := Act.pure_eq_ok.mp rest
  obtain ⟨rfl, free, taken, spares⟩ :=
    (lock_ends stores.patterns.located stores.patterns.directory).of_ok locked
  refine ⟨rfl, free, taken, stores.spares spares ?_⟩
  intro name isStore same
  rw [List.singleton_inj.mp (List.append_cancel_left same)] at isStore
  exact absurd isStore (by decide)

theorem Stage.loadPatterns_eq_ok (stores : Stores project root patterns errors before.disk)
    (done : Stage.loadPatterns.run project memory before = .ok next after) :
    after = before ∧ ∃ table, ReadsPatterns patterns table ∧
      next = { memory with table := table } := by
  obtain ⟨table, _, loaded, rest⟩ := Act.bind_eq_ok.mp done
  obtain ⟨rfl, rfl⟩ := Act.pure_eq_ok.mp rest
  obtain ⟨rfl, reads⟩ := Project.loadPatterns_eq_ok (Act.mapError_eq_ok.mp loaded)
  exact ⟨rfl, table, reads _ _ stores.patterns, rfl⟩

theorem Stage.loadErrors_eq_ok (stores : Stores project root patterns errors before.disk)
    (done : Stage.loadErrors.run project memory before = .ok next after) :
    after = before ∧ ∃ index, ReadsErrors errors index.records ∧
      next = { memory with index := index } := by
  obtain ⟨index, _, loaded, rest⟩ := Act.bind_eq_ok.mp done
  obtain ⟨rfl, rfl⟩ := Act.pure_eq_ok.mp rest
  obtain ⟨rfl, -, reads⟩ := Project.loadErrors_eq_ok (Act.mapError_eq_ok.mp loaded)
  exact ⟨rfl, index, reads _ _ stores.errors, rfl⟩

theorem Stage.readTable_eq_ok {source : Path}
    (done : (Stage.readTable source).run project memory before = .ok next after) :
    after = before ∧ ∃ incoming, Table.read source before = .ok incoming before ∧
      next = { memory with incoming := incoming } := by
  obtain ⟨incoming, _, read, rest⟩ := Act.bind_eq_ok.mp done
  obtain ⟨rfl, rfl⟩ := Act.pure_eq_ok.mp rest
  have read := Act.mapError_eq_ok.mp read
  obtain ⟨rfl, -⟩ := Table.read_eq_ok_iff.mp read
  exact ⟨rfl, incoming, read, rfl⟩

theorem Stage.savePatterns_eq_ok {change : Table Float → Table Float → Table Float}
    (stores : Stores project root patterns errors before.disk)
    (done : (Stage.savePatterns change).run project memory before = .ok next after) :
    next = { memory with table := change memory.table memory.incoming } ∧
      after.locked = before.locked ∧ Stores project root
        (written (change memory.table memory.incoming)) errors after.disk := by
  obtain ⟨_, _, saved, rest⟩ := Act.bind_eq_ok.mp done
  obtain ⟨rfl, rfl⟩ := Act.pure_eq_ok.mp rest
  have wrote := Act.mapError_eq_ok.mp (Act.mapError_eq_ok.mp saved)
  refine ⟨rfl, (Disk.writeAtomic_keepsLocks _ _).of_ok wrote, ?_, ?_⟩
  · exact stores.patterns.replace Project.plain_patterns wrote
  · exact stores.errors.replace_other (.of_visible (by decide) (by decide))
      Project.plain_patterns wrote

theorem Stage.saveErrors_eq_ok
    {change : ErrorIndex Float → Except StoreError (ErrorIndex Float)}
    (stores : Stores project root patterns errors before.disk)
    (done : (Stage.saveErrors change).run project memory before = .ok next after) :
    ∃ index, change memory.index = .ok index ∧ next = { memory with index := index } ∧
      after.locked = before.locked ∧
      Stores project root patterns (writtenIndex index) after.disk := by
  cases changed : change memory.index with
  | error e =>
    simp only [Stage.run, changed] at done
    cases done
  | ok index =>
    simp only [Stage.run, changed] at done
    obtain ⟨_, _, saved, rest⟩ := Act.bind_eq_ok.mp done
    obtain ⟨rfl, rfl⟩ := Act.pure_eq_ok.mp rest
    have wrote := Act.mapError_eq_ok.mp (Act.mapError_eq_ok.mp saved)
    refine ⟨index, rfl, rfl, (Disk.writeAtomic_keepsLocks _ _).of_ok wrote, ?_, ?_⟩
    · exact stores.patterns.replace_other (.of_visible (by decide) (by decide))
        Project.plain_errors wrote
    · exact stores.errors.replace Project.plain_errors wrote

theorem Stage.unlock_eq_ok (done : Stage.unlock.run project memory before = .ok next after) :
    next = { memory with place := none } ∧ after.disk = before.disk ∧
      after.locked = match memory.place with
        | some place => before.locked.erase place
        | none => before.locked := by
  obtain ⟨_, _, released, rest⟩ := Act.bind_eq_ok.mp done
  obtain ⟨rfl, rfl⟩ := Act.pure_eq_ok.mp rest
  revert released
  cases memory.place with
  | none =>
    intro released
    cases released
    exact ⟨rfl, rfl, rfl⟩
  | some place =>
    intro released
    cases released
    exact ⟨rfl, rfl, rfl⟩

/-- What a seeding does with the project to itself. -/
theorem seedPatterns_eq_ok {source : Path} {incoming : Table Float}
    {summary : Pattern.ImportSummary}
    (stores : Stores project root patterns errors before.disk)
    (read : Table.read source before = .ok incoming before)
    (done : Setup.seedPatterns project.patternsFile source before = .ok summary after) :
    ∃ known, ReadsPatterns patterns known ∧ after.locked = before.locked ∧
      Stores project root (written (takeIn true known incoming)) errors after.disk := by
  obtain ⟨known, _, loaded, rest⟩ := Act.bind_eq_ok.mp done
  obtain ⟨rfl, reads⟩ := Project.loadPatterns_eq_ok loaded
  obtain ⟨taken, _, imported, rest⟩ := Act.bind_eq_ok.mp rest
  obtain ⟨_, saved, saving, last⟩ := Act.bind_eq_ok.mp rest
  obtain ⟨-, rfl⟩ := Act.pure_eq_ok.mp last
  obtain ⟨found, _, again, same⟩ := Act.bind_eq_ok.mp imported
  cases read.symm.trans again
  obtain ⟨rfl, rfl⟩ := Act.pure_eq_ok.mp same
  have wrote := Act.mapError_eq_ok.mp saving
  refine ⟨known, reads _ _ stores.patterns, (Disk.writeAtomic_keepsLocks _ _).of_ok wrote, ?_, ?_⟩
  · exact stores.patterns.replace Project.plain_patterns wrote
  · exact stores.errors.replace_other (.of_visible (by decide) (by decide))
      Project.plain_patterns wrote

end TaskLoop.Sharing
