import TaskLoop.Proofs.Sharing.Stages

/-!
Processes that work on the stores of one project side by side. Those that take the lock lose
nothing of each other's work: what stands in the files is what comes of their saves one after the
other.
-/

set_option autoImplicit false

namespace TaskLoop.Sharing

open Pattern (Table)
open Project (ReadsErrors ReadsPatterns)

/-! ### Saves -/

/-- What is saved comes of what was there before. -/
inductive Save where
  | patterns (change : Table Float → Table Float)
  | errors (change : ErrorIndex Float → Except StoreError (ErrorIndex Float))

namespace Save

/-- The change of a save of the pattern table. -/
def onPatterns? : Save → Option (Table Float → Except StoreError (Table Float))
  | patterns change => some fun table => .ok (change table)
  | errors _ => none

/-- The change of a save of the error index. -/
def onErrors? : Save → Option (ErrorIndex Float → Except StoreError (ErrorIndex Float))
  | patterns _ => none
  | errors change => some change

end Save

/-- What a stage saves. -/
def Stage.saves (memory : Memory) : Stage → List Save
  | savePatterns change => [.patterns fun table => change table memory.incoming]
  | saveErrors change => [.errors change]
  | _ => []

/-- The content of a file after changes one after the other. Each starts from what is read of the
file or, by the one who wrote it, from what was written. -/
inductive Chain {β : Type} (reads : Option Node → β → Prop) (written : β → Option Node)
    (first : Option Node) : List (β → Except StoreError β) → Option Node → Prop
  | none : Chain reads written first [] first
  | next {changes : List (β → Except StoreError β)} {content : Option Node} {value result : β}
      {change : β → Except StoreError β} : Chain reads written first changes content →
        reads content value ∨ content = written value → change value = .ok result →
        Chain reads written first (changes ++ [change]) (written result)

/-- The index that is read of a file, times and threshold apart. -/
def ReadsIndex (content : Option Node) (index : ErrorIndex Float) : Prop :=
  ReadsErrors content index.records

/-- The content of the file of the pattern table after some saves. -/
def PatternChain (first : Option Node) (saves : List Save) (content : Option Node) : Prop :=
  Chain ReadsPatterns written first (saves.filterMap Save.onPatterns?) content

/-- The content of the file of the error index after some saves. -/
def ErrorChain (first : Option Node) (saves : List Save) (content : Option Node) : Prop :=
  Chain ReadsIndex writtenIndex first (saves.filterMap Save.onErrors?) content

section Chains

variable {first content : Option Node} {saves : List Save}

theorem PatternChain.savePatterns {table : Table Float} (chain : PatternChain first saves content)
    (known : ReadsPatterns content table ∨ content = written table)
    (change : Table Float → Table Float) :
    PatternChain first (saves ++ [.patterns change]) (written (change table)) := by
  rw [PatternChain, List.filterMap_append]
  exact .next chain known rfl

theorem PatternChain.saveErrors (chain : PatternChain first saves content)
    (change : ErrorIndex Float → Except StoreError (ErrorIndex Float)) :
    PatternChain first (saves ++ [.errors change]) content := by
  rw [PatternChain, List.filterMap_append]
  show Chain _ _ _ (_ ++ []) _
  rwa [List.append_nil]

theorem ErrorChain.saveErrors {index result : ErrorIndex Float}
    {change : ErrorIndex Float → Except StoreError (ErrorIndex Float)}
    (chain : ErrorChain first saves content)
    (known : ReadsIndex content index ∨ content = writtenIndex index)
    (changed : change index = .ok result) :
    ErrorChain first (saves ++ [.errors change]) (writtenIndex result) := by
  rw [ErrorChain, List.filterMap_append]
  exact .next chain known changed

theorem ErrorChain.savePatterns (chain : ErrorChain first saves content)
    (change : Table Float → Table Float) :
    ErrorChain first (saves ++ [.patterns change]) content := by
  rw [ErrorChain, List.filterMap_append]
  show Chain _ _ _ (_ ++ []) _
  rwa [List.append_nil]

end Chains

/-! ### Processes -/

/-- A process: its work, the stages still to come, what it knows, and whether a stage failed. -/
structure Process where
  job : Job
  stages : List Stage
  memory : Memory
  failed : Bool

namespace Process

/-- A process that begins. -/
def new (job : Job) : Process := ⟨job, job.stages, .start, false⟩

/-- A process that gives up. It gives its lock back if it holds one. -/
def abandon (process : Process) : Process :=
  { process with
    stages := if process.memory.place.isSome then [.unlock] else []
    failed := true }

/-- The process has come to its end and reports success. -/
def Succeeded (process : Process) : Prop := process.stages = [] ∧ process.failed = false

end Process

/-- Processes on one host, and what each has saved, in order. -/
structure System (ι : Type) where
  host : Host
  process : ι → Process
  log : List (ι × Save)

namespace System

variable {ι : Type}

/-- Processes that begin. -/
def new (host : Host) (jobs : ι → Job) : System ι := ⟨host, fun p => .new (jobs p), []⟩

/-- All that was saved, in order. -/
def allSaves (system : System ι) : List Save := system.log.map Prod.snd

variable [DecidableEq ι]

/-- What one process has saved. -/
def saves (system : System ι) (p : ι) : List Save :=
  (system.log.filter fun entry => entry.1 = p).map Prod.snd

/-- One process goes on, on a host that has changed, and may have saved something. -/
def advance (system : System ι) (p : ι) (process : Process) (host : Host) (saves : List Save) :
    System ι :=
  ⟨host, Function.update system.process p process, system.log ++ saves.map (p, ·)⟩

variable {system : System ι} {p q : ι} {process : Process} {host : Host} {more : List Save}

@[simp] theorem process_advance_self :
    (system.advance p process host more).process p = process := Function.update_self ..

@[simp] theorem process_advance_of_ne (apart : q ≠ p) :
    (system.advance p process host more).process q = system.process q :=
  Function.update_of_ne apart ..

@[simp] theorem allSaves_advance :
    (system.advance p process host more).allSaves = system.allSaves ++ more := by
  simp [allSaves, advance, Function.comp_def]

@[simp] theorem saves_advance_self :
    (system.advance p process host more).saves p = system.saves p ++ more := by
  simp [saves, advance, List.filter_map, Function.comp_def]

@[simp] theorem saves_advance_of_ne (apart : q ≠ p) :
    (system.advance p process host more).saves q = system.saves q := by
  simp [saves, advance, List.filter_map, Function.comp_def, apart.symm]

end System

/-- One step of the processes on a project. Those that take the lock go on one stage at a time; a
seeding has the project to itself. Between the stages files beside the stores may change. -/
inductive Step {ι : Type} [DecidableEq ι] (project : Project) (root : Place) :
    System ι → System ι → Prop
  | goes {system : System ι} (p : ι) {stage : Stage} {rest : List Stage} {memory : Memory}
      {host : Host} : (system.process p).job.locks = true →
        (system.process p).stages = stage :: rest →
        stage.run project (system.process p).memory system.host = .ok memory host →
        Step project root system (system.advance p
          { system.process p with stages := rest, memory := memory } host
          (stage.saves (system.process p).memory))
  | fails {system : System ι} (p : ι) {stage : Stage} {rest : List Stage} {e : EngineError}
      {host : Host} : (system.process p).job.locks = true →
        (system.process p).stages = stage :: rest →
        stage.run project (system.process p).memory system.host = .error e host →
        Step project root system (system.advance p (system.process p).abandon host [])
  | seeds {system : System ι} (p : ι) {source : Path} {summary : Pattern.ImportSummary}
      {incoming : Table Float} {host : Host} : system.process p = .new (.seeding source) →
        lockPlace root ∉ system.host.locked →
        Table.read source system.host = .ok incoming system.host →
        Setup.seedPatterns project.patternsFile source system.host = .ok summary host →
        Step project root system (system.advance p
          { system.process p with
            stages := []
            memory := { Memory.start with incoming := incoming } } host
          [.patterns fun table => takeIn true table incoming])
  | beside {system : System ι} {host : Host} :
      (∀ patterns errors, Stores project root patterns errors system.host.disk →
        Stores project root patterns errors host.disk) →
        host.locked = system.host.locked →
        Step project root system { system with host := host }

/-! ### What a process contributes -/

/-- What a stage adds to the saves of a process, and which table is to be taken in after it. A
table that was read is one that some host visited held. -/
def Stage.Gives (visited : Host → Prop) : Stage → Table Float → List Save → Table Float → Prop
  | readTable source, _, saves, incoming =>
    saves = [] ∧ ∃ host, visited host ∧ Table.read source host = .ok incoming host
  | savePatterns change, before, saves, incoming =>
    saves = [.patterns fun table => change table before] ∧ incoming = before
  | saveErrors change, before, saves, incoming => saves = [.errors change] ∧ incoming = before
  | _, before, saves, incoming => saves = [] ∧ incoming = before

/-- What stages add to the saves of a process. -/
inductive Contributes (visited : Host → Prop) :
    List Stage → Table Float → List Save → Table Float → Prop
  | none (incoming : Table Float) : Contributes visited [] incoming [] incoming
  | cons {stage : Stage} {rest : List Stage} {first next last : Table Float}
      {saves more : List Save} : stage.Gives visited first saves next →
        Contributes visited rest next more last →
        Contributes visited (stage :: rest) first (saves ++ more) last

theorem Contributes.snoc {visited : Host → Prop} {stages : List Stage} {stage : Stage}
    {first next last : Table Float} {saves more : List Save}
    (done : Contributes visited stages first saves next)
    (gives : stage.Gives visited next more last) :
    Contributes visited (stages ++ [stage]) first (saves ++ more) last := by
  induction done with
  | none incoming =>
    have single := Contributes.cons gives (.none last)
    rwa [List.append_nil] at single
  | cons given _ ih =>
    rw [List.append_assoc]
    exact .cons given (ih gives)

/-- What the work of a process saves when it comes to its end. -/
def Job.Saves (visited : Host → Prop) : Job → List Save → Prop
  | learning learnings, saves =>
    saves = learnings.flatMap fun learning => [.errors learning.index, .patterns learning.table]
  | importing source merge, saves => ∃ host incoming, visited host ∧
    Table.read source host = .ok incoming host ∧
    saves = [.patterns fun table => takeIn merge table incoming]
  | resolving hash note, saves => saves = [.errors (markIn hash note)]
  | seeding source, saves => ∃ host incoming, visited host ∧
    Table.read source host = .ok incoming host ∧
    saves = [.patterns fun table => takeIn true table incoming]

/-- What the stages of a work contribute is what the work saves. -/
theorem Job.saves_of_contributes {visited : Host → Prop} {job : Job} {saves : List Save}
    {first last : Table Float} (done : Contributes visited job.stages first saves last) :
    job.Saves visited saves := by
  cases job with
  | learning learnings =>
    have iterations (learnings : List Learning) {saves : List Save} {first last : Table Float}
        (done : Contributes visited (learnings.flatMap (fun learning =>
          [.saveErrors learning.index, .savePatterns fun table _ => learning.table table])
            ++ [.unlock]) first saves last) :
        saves = learnings.flatMap fun learning =>
          [.errors learning.index, .patterns learning.table] := by
      induction learnings generalizing saves first with
      | nil =>
        rcases done with _ | ⟨⟨rfl, -⟩, ⟨⟩⟩
        rfl
      | cons learning rest ih =>
        rcases done with _ | ⟨⟨rfl, -⟩, _ | ⟨⟨rfl, -⟩, done⟩⟩
        rw [ih done]
        rfl
    rcases done with _ | ⟨⟨rfl, -⟩, _ | ⟨⟨rfl, -⟩, _ | ⟨⟨rfl, -⟩, done⟩⟩⟩
    exact iterations learnings done
  | importing source merge =>
    rcases done with _ | ⟨⟨rfl, -⟩, _ | ⟨⟨rfl, -⟩, _ | ⟨⟨rfl, host, isVisited, read⟩,
      _ | ⟨⟨rfl, rfl⟩, _ | ⟨⟨rfl, -⟩, ⟨⟩⟩⟩⟩⟩⟩
    exact ⟨host, _, isVisited, read, rfl⟩
  | resolving hash note =>
    rcases done with _ | ⟨⟨rfl, -⟩, _ | ⟨⟨rfl, -⟩, _ | ⟨⟨rfl, -⟩, _ | ⟨⟨rfl, -⟩, ⟨⟩⟩⟩⟩⟩
    rfl
  | seeding source =>
    rcases done with _ | ⟨⟨rfl, -⟩, _ | ⟨⟨rfl, host, isVisited, read⟩, _ | ⟨⟨rfl, rfl⟩, ⟨⟩⟩⟩⟩
    exact ⟨host, _, isVisited, read, rfl⟩

/-- What a process has saved is what the stages it has done contribute. -/
structure Progress (visited : Host → Prop) (process : Process) (saves : List Save) : Prop where
  done : ∃ done last, done <+: process.job.stages ∧
    Contributes visited done Memory.start.incoming saves last ∧
    (process.failed = false →
      done ++ process.stages = process.job.stages ∧ last = process.memory.incoming)
  failed : process.failed = true → process.stages = [] ∨ process.stages = [.unlock]

theorem progress_new (visited : Host → Prop) (job : Job) : Progress visited (.new job) [] where
  done := ⟨[], _, List.nil_prefix, .none _, fun _ => ⟨rfl, rfl⟩⟩
  failed := nofun

theorem Progress.saves {visited : Host → Prop} {process : Process} {saves : List Save}
    (progress : Progress visited process saves) (succeeded : process.Succeeded) :
    process.job.Saves visited saves := by
  obtain ⟨done, last, -, contributes, whole⟩ := progress.done
  obtain ⟨all, -⟩ := whole succeeded.2
  rw [succeeded.1, List.append_nil] at all
  subst all
  exact Job.saves_of_contributes contributes

theorem Progress.abandon {visited : Host → Prop} {process : Process} {saves : List Save}
    (progress : Progress visited process saves) : Progress visited process.abandon saves where
  done := by
    obtain ⟨done, last, among, contributes, -⟩ := progress.done
    exact ⟨done, last, among, contributes, nofun⟩
  failed _ := by
    show (if _ then _ else _) = _ ∨ (if _ then _ else _) = _
    split
    · exact .inr rfl
    · exact .inl rfl

/-- A stage that is done adds what it gives. -/
theorem Progress.goes {visited : Host → Prop} {process : Process} {saves more : List Save}
    {stage : Stage} {rest : List Stage} (progress : Progress visited process saves)
    (memory : Memory) (ahead : process.stages = stage :: rest)
    (gives : stage.Gives visited process.memory.incoming more memory.incoming) :
    Progress visited { process with stages := rest, memory := memory } (saves ++ more) := by
  obtain ⟨done, last, among, contributes, whole⟩ := progress.done
  cases hasFailed : process.failed with
  | true =>
    rcases progress.failed hasFailed with none | release
    · rw [none] at ahead
      cases ahead
    · rw [release] at ahead
      cases ahead
      obtain ⟨rfl, -⟩ := gives
      rw [List.append_nil]
      exact ⟨⟨done, last, among, contributes, nofun⟩, fun _ => .inl rfl⟩
  | false =>
    obtain ⟨all, rfl⟩ := whole hasFailed
    rw [ahead] at all
    have extended : (done ++ [stage]) ++ rest = process.job.stages := by
      rw [List.append_assoc]
      exact all
    exact ⟨⟨done ++ [stage], _, ⟨rest, extended⟩, contributes.snoc gives,
      fun _ => ⟨extended, rfl⟩⟩, nofun⟩

/-! ### What a process knows -/

variable {project : Project} {root : Place} {patterns errors first firstErrors : Option Node}
  {locked table index : Bool} {memory next : Memory} {before after : Host}

/-- Stages that are not taken out of order: the stores are read and saved under the lock only, and
none is saved that was not read since the lock was taken. The marks say whether the lock is held,
and whether the table and the index are known. -/
def guarded : Bool → Bool → Bool → List Stage → Bool
  | _, _, _, [] => true
  | locked, _, _, .lock :: rest => !locked && guarded true false false rest
  | locked, _, index, .loadPatterns :: rest => locked && guarded locked true index rest
  | locked, table, _, .loadErrors :: rest => locked && guarded locked table true rest
  | locked, table, index, .readTable _ :: rest => guarded locked table index rest
  | locked, table, index, .savePatterns _ :: rest => table && guarded locked table index rest
  | locked, table, index, .saveErrors _ :: rest => index && guarded locked table index rest
  | _, _, _, .unlock :: rest => guarded false false false rest

/-- The work of every process that takes the lock is guarded by it. -/
theorem Job.guarded_stages {job : Job} (locks : job.locks = true) :
    guarded false false false job.stages = true := by
  cases job with
  | learning learnings =>
    have iterations (learnings : List Learning) :
        guarded true true true (learnings.flatMap (fun learning =>
          [.saveErrors learning.index, .savePatterns fun table _ => learning.table table])
            ++ [.unlock]) = true := by
      induction learnings with
      | nil => rfl
      | cons learning rest ih => exact ih
    exact iterations learnings
  | importing source merge => rfl
  | resolving hash note => rfl
  | seeding source => cases locks

/-- What a process knows that goes by the marks: it has its lock, and the table and the index it
knows are those in the files. -/
structure Knows (root : Place) (patterns errors : Option Node) (locked table index : Bool)
    (memory : Memory) : Prop where
  place : memory.place = if locked then some (lockPlace root) else none
  table : table = true → locked = true ∧
    (ReadsPatterns patterns memory.table ∨ patterns = written memory.table)
  index : index = true → locked = true ∧
    (ReadsIndex errors memory.index ∨ errors = writtenIndex memory.index)

theorem knows_nothing (root : Place) (patterns errors : Option Node) (memory : Memory)
    (free : memory.place = none) : Knows root patterns errors false false false memory :=
  ⟨free, nofun, nofun⟩

/-- Who has no lock knows nothing of the files, whatever stands in them. -/
theorem Knows.of_unlocked {patterns' errors' : Option Node}
    (knows : Knows root patterns errors false table index memory) :
    Knows root patterns' errors' false table index memory where
  place := knows.place
  table isKnown := absurd (knows.table isKnown).1 Bool.false_ne_true
  index isKnown := absurd (knows.index isKnown).1 Bool.false_ne_true

/-- What becomes of the lock: it stays as it is, or it is taken by one who did not have it while
it was free, or it is given back. -/
inductive LockStep (root : Place) (before after : Host) : Bool → Bool → Prop
  | stays (locked : Bool) : after.locked = before.locked → LockStep root before after locked locked
  | taken : lockPlace root ∉ before.locked → after.locked = lockPlace root :: before.locked →
      LockStep root before after false true
  | released : LockStep root before after true false

/-- What a stage that is done makes of the stores, of what the process knows, and of the lock. -/
structure Stage.Effect (project : Project) (root : Place) (first firstErrors : Option Node)
    (all : List Save) (patterns errors : Option Node) (locked : Bool) (rest : List Stage)
    (next : Memory) (before after : Host) (patterns' errors' : Option Node)
    (locked' table' index' : Bool) : Prop where
  stores : Stores project root patterns' errors' after.disk
  patternChain : PatternChain first all patterns'
  errorChain : ErrorChain firstErrors all errors'
  guarded : guarded locked' table' index' rest = true
  knows : Knows root patterns' errors' locked' table' index' next
  alone : locked = true ∨ patterns' = patterns ∧ errors' = errors
  lock : LockStep root before after locked locked'

/-- A guarded stage keeps to the order of the saves. -/
theorem Stage.effect_of_run {stage : Stage} {rest : List Stage} {earlier : List Save}
    (stores : Stores project root patterns errors before.disk)
    (patternChain : PatternChain first earlier patterns)
    (errorChain : ErrorChain firstErrors earlier errors)
    (guards : Sharing.guarded locked table index (stage :: rest) = true)
    (knows : Knows root patterns errors locked table index memory)
    (done : stage.run project memory before = .ok next after) :
    ∃ patterns' errors' locked' table' index', Stage.Effect project root first firstErrors
      (earlier ++ stage.saves memory) patterns errors locked rest next before after patterns'
      errors' locked' table' index' := by
  have unsaved (nothing : stage.saves memory = []) :
      PatternChain first (earlier ++ stage.saves memory) patterns ∧
        ErrorChain firstErrors (earlier ++ stage.saves memory) errors := by
    rw [nothing, List.append_nil]
    exact ⟨patternChain, errorChain⟩
  cases stage with
  | lock =>
    obtain ⟨free, guards⟩ := Bool.and_eq_true_iff.mp guards
    rw [Bool.not_eq_true'] at free
    subst free
    obtain ⟨rfl, free, taken, stores⟩ := Stage.lock_eq_ok stores done
    refine ⟨patterns, errors, true, false, false, stores, (unsaved rfl).1, (unsaved rfl).2, guards,
      ⟨rfl, nofun, nofun⟩, .inr ⟨rfl, rfl⟩, .taken free taken⟩
  | loadPatterns =>
    obtain ⟨held, guards⟩ := Bool.and_eq_true_iff.mp guards
    subst held
    obtain ⟨rfl, found, reads, rfl⟩ := Stage.loadPatterns_eq_ok stores done
    refine ⟨patterns, errors, true, true, index, stores, (unsaved rfl).1, (unsaved rfl).2, guards,
      ⟨knows.place, fun _ => ⟨rfl, .inl reads⟩, knows.index⟩, .inl rfl, .stays _ rfl⟩
  | loadErrors =>
    obtain ⟨held, guards⟩ := Bool.and_eq_true_iff.mp guards
    subst held
    obtain ⟨rfl, found, reads, rfl⟩ := Stage.loadErrors_eq_ok stores done
    refine ⟨patterns, errors, true, table, true, stores, (unsaved rfl).1, (unsaved rfl).2, guards,
      ⟨knows.place, knows.table, fun _ => ⟨rfl, .inl reads⟩⟩, .inl rfl, .stays _ rfl⟩
  | readTable source =>
    obtain ⟨rfl, incoming, -, rfl⟩ := Stage.readTable_eq_ok done
    refine ⟨patterns, errors, locked, table, index, stores, (unsaved rfl).1, (unsaved rfl).2,
      guards, ⟨knows.place, knows.table, knows.index⟩, .inr ⟨rfl, rfl⟩, .stays _ rfl⟩
  | savePatterns change =>
    obtain ⟨isKnown, guards⟩ := Bool.and_eq_true_iff.mp guards
    subst isKnown
    obtain ⟨rfl, known⟩ := knows.table rfl
    obtain ⟨rfl, same, stores⟩ := Stage.savePatterns_eq_ok stores done
    exact ⟨_, errors, true, true, index, stores, patternChain.savePatterns known _,
      errorChain.savePatterns _, guards, ⟨knows.place, fun _ => ⟨rfl, .inr rfl⟩, knows.index⟩,
      .inl rfl, .stays _ same⟩
  | saveErrors change =>
    obtain ⟨isKnown, guards⟩ := Bool.and_eq_true_iff.mp guards
    subst isKnown
    obtain ⟨rfl, known⟩ := knows.index rfl
    obtain ⟨result, changed, rfl, same, stores⟩ := Stage.saveErrors_eq_ok stores done
    exact ⟨patterns, _, true, table, true, stores, patternChain.saveErrors _,
      errorChain.saveErrors known changed, guards,
      ⟨knows.place, knows.table, fun _ => ⟨rfl, .inr rfl⟩⟩, .inl rfl, .stays _ same⟩
  | unlock =>
    obtain ⟨rfl, sameDisk, released⟩ := Stage.unlock_eq_ok done
    refine ⟨patterns, errors, false, false, false, ?_, (unsaved rfl).1, (unsaved rfl).2,
      guards, knows_nothing _ _ _ _ rfl, .inr ⟨rfl, rfl⟩, ?_⟩
    · rwa [sameDisk]
    · cases locked with
      | true => exact .released
      | false =>
        rw [knows.place] at released
        exact .stays _ released

/-- What a stage gives is what it saves. -/
theorem Stage.gives_of_run {visited : Host → Prop} {stage : Stage} (isVisited : visited before)
    (stores : Stores project root patterns errors before.disk)
    (done : stage.run project memory before = .ok next after) :
    stage.Gives visited memory.incoming (stage.saves memory) next.incoming := by
  cases stage with
  | lock =>
    obtain ⟨rfl, -⟩ := Stage.lock_eq_ok stores done
    exact ⟨rfl, rfl⟩
  | loadPatterns =>
    obtain ⟨-, _, -, rfl⟩ := Stage.loadPatterns_eq_ok stores done
    exact ⟨rfl, rfl⟩
  | loadErrors =>
    obtain ⟨-, _, -, rfl⟩ := Stage.loadErrors_eq_ok stores done
    exact ⟨rfl, rfl⟩
  | readTable source =>
    obtain ⟨-, incoming, read, rfl⟩ := Stage.readTable_eq_ok done
    exact ⟨rfl, before, isVisited, read⟩
  | savePatterns change =>
    obtain ⟨rfl, -⟩ := Stage.savePatterns_eq_ok stores done
    exact ⟨rfl, rfl⟩
  | saveErrors change =>
    obtain ⟨_, -, rfl, -⟩ := Stage.saveErrors_eq_ok stores done
    exact ⟨rfl, rfl⟩
  | unlock =>
    obtain ⟨rfl, -⟩ := Stage.unlock_eq_ok done
    exact ⟨rfl, rfl⟩

/-! ### The system -/

variable {ι : Type} [DecidableEq ι] {jobs : ι → Job} {visited : Host → Prop}

/-- What a process may be at: its stages are guarded and it knows what goes with them. -/
def Stands (root : Place) (patterns errors : Option Node) (process : Process) : Prop :=
  ∃ locked table index,
    (process.job.locks = true → guarded locked table index process.stages = true) ∧
      Knows root patterns errors locked table index process.memory

/-- What holds of the processes at all times: the files hold what comes of the saves, what a
process knows is what they hold, and no two have the lock. -/
structure Sound (project : Project) (root : Place) (jobs : ι → Job) (visited : Host → Prop)
    (first firstErrors : Option Node) (system : System ι) : Prop where
  jobs : ∀ p, (system.process p).job = jobs p
  files : ∃ patterns errors, Stores project root patterns errors system.host.disk ∧
    PatternChain first system.allSaves patterns ∧ ErrorChain firstErrors system.allSaves errors ∧
    ∀ p, Stands root patterns errors (system.process p)
  exclusive : ∀ p q, (system.process p).memory.place ≠ none →
    (system.process q).memory.place ≠ none → p = q
  held : ∀ p, (system.process p).memory.place ≠ none → lockPlace root ∈ system.host.locked
  progress : ∀ p, Progress visited (system.process p) (system.saves p)

theorem sound_new {host : Host} (stores : Stores project root first firstErrors host.disk) :
    Sound project root jobs visited first firstErrors (.new host jobs) where
  jobs _ := rfl
  files := by
    refine ⟨first, firstErrors, stores, .none, .none, fun p => ⟨false, false, false, ?_, ?_⟩⟩
    · exact Job.guarded_stages
    · exact knows_nothing _ _ _ _ rfl
  exclusive _ _ has := absurd rfl has
  held _ has := absurd rfl has
  progress p := progress_new visited (jobs p)

theorem Knows.holds_iff (knows : Knows root patterns errors locked table index memory) :
    memory.place ≠ none ↔ locked = true := by
  rw [knows.place]
  cases locked <;> simp

/-- Who has no lock stands as before whatever becomes of the files. -/
theorem Stands.of_free {patterns' errors' : Option Node} {process : Process}
    (stands : Stands root patterns errors process) (free : process.memory.place = none) :
    Stands root patterns' errors' process := by
  obtain ⟨locked, table, index, guards, knows⟩ := stands
  cases locked with
  | true => exact absurd free (knows.holds_iff.mpr rfl)
  | false => exact ⟨false, table, index, guards, knows.of_unlocked⟩

section

variable {system : System ι} (sound : Sound project root jobs visited first firstErrors system)
  (p : ι) {process : Process} {host : Host} {more : List Save}

include sound

/-- One process goes on, and the others are not disturbed. -/
theorem Sound.advance (sameJob : process.job = (system.process p).job)
    (stores : Stores project root patterns errors host.disk)
    (patternChain : PatternChain first (system.allSaves ++ more) patterns)
    (errorChain : ErrorChain firstErrors (system.allSaves ++ more) errors)
    (own : Stands root patterns errors process)
    (others : ∀ q, q ≠ p → Stands root patterns errors (system.process q))
    (exclusive : process.memory.place ≠ none →
      ∀ q, q ≠ p → (system.process q).memory.place = none)
    (held : process.memory.place ≠ none → lockPlace root ∈ host.locked)
    (heldBeside : ∀ q, q ≠ p → (system.process q).memory.place ≠ none →
      lockPlace root ∈ host.locked)
    (progress : Progress visited process (system.saves p ++ more)) :
    Sound project root jobs visited first firstErrors (system.advance p process host more) where
  jobs q := by
    by_cases same : q = p
    · subst same
      rw [System.process_advance_self, sameJob]
      exact sound.jobs q
    · rw [System.process_advance_of_ne same]
      exact sound.jobs q
  files := by
    rw [System.allSaves_advance]
    refine ⟨patterns, errors, stores, patternChain, errorChain, fun q => ?_⟩
    by_cases same : q = p
    · subst same
      rwa [System.process_advance_self]
    · rw [System.process_advance_of_ne same]
      exact others q same
  exclusive q r hasLock hasLock' := by
    by_cases isP : q = p
    · by_cases isP' : r = p
      · exact isP.trans isP'.symm
      · rw [isP, System.process_advance_self] at hasLock
        rw [System.process_advance_of_ne isP'] at hasLock'
        exact absurd (exclusive hasLock r isP') hasLock'
    · rw [System.process_advance_of_ne isP] at hasLock
      by_cases isP' : r = p
      · rw [isP', System.process_advance_self] at hasLock'
        exact absurd (exclusive hasLock' q isP) hasLock
      · rw [System.process_advance_of_ne isP'] at hasLock'
        exact sound.exclusive q r hasLock hasLock'
  held q hasLock := by
    by_cases same : q = p
    · rw [same, System.process_advance_self] at hasLock
      exact held hasLock
    · rw [System.process_advance_of_ne same] at hasLock
      exact heldBeside q same hasLock
  progress q := by
    by_cases same : q = p
    · subst same
      rwa [System.process_advance_self, System.saves_advance_self]
    · rw [System.process_advance_of_ne same, System.saves_advance_of_ne same]
      exact sound.progress q

variable {stage : Stage} {rest : List Stage}

/-- A stage that is done. -/
theorem Sound.goes (isVisited : visited system.host) (locks : (system.process p).job.locks = true)
    (ahead : (system.process p).stages = stage :: rest)
    (done : stage.run project (system.process p).memory system.host = .ok next host) :
    Sound project root jobs visited first firstErrors (system.advance p
      { system.process p with stages := rest, memory := next } host
      (stage.saves (system.process p).memory)) := by
  obtain ⟨patterns, errors, stores, patternChain, errorChain, stands⟩ := sound.files
  obtain ⟨locked, table, index, guards, knows⟩ := stands p
  have guards := guards locks
  rw [ahead] at guards
  obtain ⟨patterns', errors', locked', table', index', effect⟩ :=
    stage.effect_of_run stores patternChain errorChain guards knows done
  have free (held : locked = true) (q : ι) (apart : q ≠ p) :
      (system.process q).memory.place = none := by
    by_contra hasLock
    exact apart (sound.exclusive q p hasLock (knows.holds_iff.mpr held))
  have progress := (sound.progress p).goes next ahead (stage.gives_of_run isVisited stores done)
  refine sound.advance p rfl effect.stores effect.patternChain effect.errorChain
    ⟨locked', table', index', fun _ => effect.guarded, effect.knows⟩ ?_ ?_ ?_ ?_ progress
  · intro q apart
    rcases effect.alone with held | ⟨rfl, rfl⟩
    · exact (stands q).of_free (free held q apart)
    · exact stands q
  all_goals have lock := effect.lock
  · intro hasLock q apart
    have has := effect.knows.holds_iff.mp hasLock
    cases lock with
    | stays _ same => exact free has q apart
    | taken unlocked same =>
      by_contra hasLock'
      exact unlocked (sound.held q hasLock')
    | released => cases has
  · intro hasLock
    have has := effect.knows.holds_iff.mp hasLock
    cases lock with
    | stays _ same =>
      rw [same]
      exact sound.held p (knows.holds_iff.mpr has)
    | taken unlocked same =>
      rw [same]
      exact List.mem_cons_self
    | released => cases has
  · intro q apart hasLock
    cases lock with
    | stays _ same =>
      rw [same]
      exact sound.held q hasLock
    | taken unlocked same => exact absurd (sound.held q hasLock) unlocked
    | released => exact absurd (free rfl q apart) hasLock

/-- A stage that fails. -/
theorem Sound.fails {e : EngineError}
    (failed : stage.run project (system.process p).memory system.host = .error e host) :
    Sound project root jobs visited first firstErrors
      (system.advance p (system.process p).abandon host []) := by
  obtain ⟨patterns, errors, stores, patternChain, errorChain, stands⟩ := sound.files
  obtain ⟨locked, table, index, guards, knows⟩ := stands p
  obtain ⟨stores, same⟩ := Stage.run_error stores failed
  have released : guarded locked false false (system.process p).abandon.stages = true := by
    show guarded locked false false (if _ then [.unlock] else []) = true
    split <;> rfl
  rw [← List.append_nil system.allSaves] at patternChain errorChain
  refine sound.advance p rfl stores patternChain errorChain
    ⟨locked, false, false, fun _ => released, knows.place, nofun, nofun⟩ (fun q _ => stands q)
    ?_ ?_ ?_ ?_
  · intro hasLock q apart
    by_contra hasLock'
    exact apart (sound.exclusive q p hasLock' hasLock)
  · intro hasLock
    rw [same]
    exact sound.held p hasLock
  · intro q _ hasLock
    rw [same]
    exact sound.held q hasLock
  · rw [List.append_nil]
    exact (sound.progress p).abandon

/-- A seeding that has the project to itself. -/
theorem Sound.seeds {source : Path} {incoming : Table Float} {summary : Pattern.ImportSummary}
    (isVisited : visited system.host) (begins : system.process p = .new (.seeding source))
    (unlocked : lockPlace root ∉ system.host.locked)
    (read : Table.read source system.host = .ok incoming system.host)
    (done : Setup.seedPatterns project.patternsFile source system.host = .ok summary host) :
    Sound project root jobs visited first firstErrors (system.advance p
      { system.process p with
        stages := []
        memory := { Memory.start with incoming := incoming } } host
      [.patterns fun table => takeIn true table incoming]) := by
  obtain ⟨patterns, errors, stores, patternChain, errorChain, stands⟩ := sound.files
  obtain ⟨known, reads, same, stores⟩ := seedPatterns_eq_ok stores read done
  have free (q : ι) : (system.process q).memory.place = none := by
    by_contra hasLock
    exact unlocked (sound.held q hasLock)
  have progress : Progress visited
      { system.process p with
        stages := []
        memory := { Memory.start with incoming := incoming } }
      (system.saves p ++ [.patterns fun table => takeIn true table incoming]) := by
    have begun := sound.progress p
    rw [begins] at begun ⊢
    have loaded := begun.goes .start rfl ⟨rfl, rfl⟩
    have found := loaded.goes { Memory.start with incoming := incoming } rfl
      ⟨rfl, system.host, isVisited, read⟩
    have saved := found.goes { Memory.start with incoming := incoming } rfl ⟨rfl, rfl⟩
    rwa [List.append_nil, List.append_nil] at saved
  refine sound.advance p rfl stores (patternChain.savePatterns (.inl reads) _)
    (errorChain.savePatterns _) ⟨false, false, false, fun _ => rfl, knows_nothing _ _ _ _ rfl⟩
    (fun q _ => (stands q).of_free (free q)) ?_ ?_ ?_ progress
  · exact fun hasLock => absurd rfl hasLock
  · exact fun hasLock => absurd rfl hasLock
  · exact fun q _ hasLock => absurd (free q) hasLock

/-- One step keeps what holds of the processes. -/
theorem Sound.step {system' : System ι} (isVisited : visited system.host)
    (step : Step project root system system') :
    Sound project root jobs visited first firstErrors system' := by
  cases step with
  | goes p locks ahead done => exact sound.goes p isVisited locks ahead done
  | fails p locks ahead failed => exact sound.fails p failed
  | seeds p begins unlocked read done => exact sound.seeds p isVisited begins unlocked read done
  | beside kept same =>
    obtain ⟨patterns, errors, stores, rest⟩ := sound.files
    refine ⟨sound.jobs, ⟨patterns, errors, kept _ _ stores, rest⟩, sound.exclusive, ?_,
      sound.progress⟩
    intro q hasLock
    show lockPlace root ∈ Host.locked _
    rw [same]
    exact sound.held q hasLock

end

/-! ### Undisturbed work -/

section

variable (root : Place) (p : ι) {last : Memory}

theorem runAll_nil : runAll project [] memory before = .ok memory before := rfl

theorem runAll_cons {stage : Stage} {rest : List Stage} {next : Memory} {between : Host}
    (done : stage.run project memory before = .ok next between)
    (others : runAll project rest next between = .ok last after) :
    runAll project (stage :: rest) memory before = .ok last after :=
  Act.bind_eq_ok.mpr ⟨next, between, done, others⟩

theorem runAll_cons_eq_ok {stage : Stage} {rest : List Stage}
    (done : runAll project (stage :: rest) memory before = .ok last after) :
    ∃ next between, stage.run project memory before = .ok next between ∧
      runAll project rest next between = .ok last after := Act.bind_eq_ok.mp done

/-- A process whose work comes to its end undisturbed succeeds, and the others wait. -/
theorem steps_of_runAll (system : System ι) (locks : (system.process p).job.locks = true)
    (done : runAll project (system.process p).stages (system.process p).memory system.host =
      .ok last after) :
    ∃ saves, Relation.ReflTransGen (Step project root) system
      (system.advance p { system.process p with stages := [], memory := last } after saves) := by
  generalize ahead : (system.process p).stages = stages at done
  induction stages generalizing system with
  | nil =>
    cases done
    have same : system.advance p { system.process p with stages := [] } system.host [] = system := by
      rw [← ahead]
      simp [System.advance]
    refine ⟨[], ?_⟩
    rw [same]
  | cons stage rest ih =>
    obtain ⟨next, between, stepped, others⟩ := runAll_cons_eq_ok done
    let system' := system.advance p
      { system.process p with stages := rest, memory := next } between
      (stage.saves (system.process p).memory)
    have self : system'.process p = { system.process p with stages := rest, memory := next } :=
      System.process_advance_self
    have others : runAll project rest (system'.process p).memory system'.host = .ok last after := by
      rwa [self]
    obtain ⟨saves, run⟩ := ih system' (by rwa [self]) (by rw [self]) others
    refine ⟨stage.saves (system.process p).memory ++ saves, ?_⟩
    refine .head (.goes p locks ahead stepped) ?_
    convert run using 1
    simp [System.advance, system']

end

/-! ### Runs -/

/-- A host that some run of the processes comes by. -/
def Visited (project : Project) (root : Place) (host : Host) (jobs : ι → Job) (between : Host) :
    Prop :=
  ∃ system, Relation.ReflTransGen (Step project root) (.new host jobs) system ∧
    system.host = between

/-- Whatever the processes do, and in whatever order, the files hold what comes of all their saves
one after the other. Of a process that succeeded all of its work is among them, and of any other
the work of the stages it has done. -/
theorem saves_in_order {host : Host} {system : System ι}
    (stores : Stores project root first firstErrors host.disk)
    (run : Relation.ReflTransGen (Step project root) (.new host jobs) system) :
    (∃ patterns errors, Stores project root patterns errors system.host.disk ∧
      PatternChain first system.allSaves patterns ∧
      ErrorChain firstErrors system.allSaves errors) ∧
    (∀ p, (system.process p).Succeeded →
      (jobs p).Saves (Visited project root host jobs) (system.saves p)) ∧
    ∀ p, ∃ done last, done <+: (jobs p).stages ∧
      Contributes (Visited project root host jobs) done Memory.start.incoming (system.saves p)
        last := by
  have sound : Sound project root jobs (Visited project root host jobs) first firstErrors
      system := by
    induction run with
    | refl => exact sound_new stores
    | tail earlier step ih => exact ih.step ⟨_, earlier, rfl⟩ step
  obtain ⟨patterns, errors, stores, patternChain, errorChain, -⟩ := sound.files
  refine ⟨⟨patterns, errors, stores, patternChain, errorChain⟩, fun p succeeded => ?_, fun p => ?_⟩
  · rw [← sound.jobs p]
    exact (sound.progress p).saves succeeded
  · obtain ⟨done, last, among, contributes, -⟩ := (sound.progress p).done
    rw [sound.jobs p] at among
    exact ⟨done, last, among, contributes⟩

end TaskLoop.Sharing

namespace TaskLoop.Sample

open Pattern (Table)
open Sharing

/-- A project without settings. -/
def plainProject : Project := .ofSettings ⟨""⟩ {}

/-- What an iteration learns whose generation failed once. -/
def stumbled : Learning where
  index index := .ok (index.recordError "parse error" ⟨0, 0⟩).2
  table table := Table.recordOutcome table "generation" none ⟨false, .ofMilliseconds 2000, 1⟩
    ⟨0, 0⟩ ⟨0, 0⟩

/-- A table of one outcome. -/
def reviewed : Table Float :=
  Table.recordOutcome .empty "review" none ⟨true, .ofMilliseconds 1000, 0⟩ ⟨0, 0⟩ ⟨0, 0⟩

/-- A host with the directory of a project's state, and a table beside it. -/
def sharedHost : Host :=
  .new ⟨.ofList [([".reloop"], .directory),
    (["shared.json"], .file (Text.Utf8.encode reviewed.toJson.fileText))], []⟩
    (fun reading => ⟨reading, 0⟩) toString

/-- An engine that learns from an iteration, and an import. -/
def engineAndImport : Bool → Job
  | true => .learning [stumbled]
  | false => .importing ⟨"shared.json"⟩ true

theorem sharedHost_stores : Stores plainProject [".reloop"] none none sharedHost.disk where
  patterns := ⟨by decide +kernel, by decide +kernel, by decide +kernel⟩
  errors := ⟨by decide +kernel, by decide +kernel, by decide +kernel⟩

theorem runs_engine_and_import : ∃ learnt between imported after,
    runAll plainProject (engineAndImport true).stages .start sharedHost = .ok learnt between ∧
      runAll plainProject (engineAndImport false).stages .start between = .ok imported after := by
  have completes : (match runAll plainProject (engineAndImport true).stages .start sharedHost with
    | .ok _ between =>
      match runAll plainProject (engineAndImport false).stages .start between with
      | .ok _ _ => true
      | .error _ _ => false
    | .error _ _ => false) = true := by decide +kernel
  split at completes
  · rename_i learnt between learns
    split at completes
    · rename_i imported after imports
      exact ⟨learnt, between, imported, after, learns, imports⟩
    · cases completes
  · cases completes

/-- Both succeed, so both of what was learnt and what was imported is in the files. -/
theorem engine_and_import_in_order : ∃ system : System Bool,
    Relation.ReflTransGen (Sharing.Step plainProject [".reloop"]) (.new sharedHost engineAndImport) system ∧
      (∃ patterns errors, Stores plainProject [".reloop"] patterns errors system.host.disk ∧
        PatternChain none system.allSaves patterns ∧ ErrorChain none system.allSaves errors) ∧
      system.saves true = [.errors stumbled.index, .patterns stumbled.table] ∧
      (engineAndImport false).Saves (Visited plainProject [".reloop"] sharedHost engineAndImport)
        (system.saves false) := by
  obtain ⟨learnt, between, imported, after, learns, imports⟩ := runs_engine_and_import
  obtain ⟨first, learning⟩ :=
    steps_of_runAll [".reloop"] true (.new sharedHost engineAndImport) rfl learns
  let learned : System Bool := .advance (.new sharedHost engineAndImport) true
    ⟨.learning [stumbled], [], learnt, false⟩ between first
  obtain ⟨second, importing⟩ := steps_of_runAll [".reloop"] false learned rfl imports
  have run := learning.trans importing
  obtain ⟨files, whole, -⟩ := saves_in_order sharedHost_stores run
  exact ⟨_, run, files, whole true ⟨rfl, rfl⟩, whole false ⟨rfl, rfl⟩⟩

end TaskLoop.Sample
