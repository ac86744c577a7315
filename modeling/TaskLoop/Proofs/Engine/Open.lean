import TaskLoop.Proofs.Engine.Reload
import TaskLoop.Proofs.Project

/-!
The start of an engine: the directories are made, the lock is taken, and what is read of the stores
is what their files hold.
-/

set_option autoImplicit false

namespace TaskLoop

open TaskLoop.Path (Plain)

/-! ### Reading the stores -/

namespace Store

/-- A file holds a value of a known form. -/
def Holds {β : Type} (content : Option Node) (decode : Json → Option β) (value : β) : Prop :=
  ∃ bytes text, content = some (.file bytes) ∧ Text.Utf8.decode? bytes = some text ∧
    (Json.ofText? text).bind decode = some value

variable {β : Type} {content : Option Node} {decode : Json → Option β} {value other : β}

theorem Holds.unique (one : Holds content decode value) (two : Holds content decode other) :
    value = other := by
  obtain ⟨_, _, stands, written, meaning⟩ := one
  obtain ⟨_, _, stands', written', meaning'⟩ := two
  cases stands.symm.trans stands'
  cases written.symm.trans written'
  exact Option.some.inj (meaning.symm.trans meaning')

/-- What is read of a file that was written is read of what was written. -/
theorem Holds.decoded {json : Json} (printable : Json.Printable json)
    (holds : Holds (some (.file (Text.Utf8.encode json.fileText))) decode value) :
    decode json = some value := by
  obtain ⟨_, _, stands, written, meaning⟩ := holds
  cases stands
  rw [Text.Utf8.decode?_encode] at written
  cases written
  rwa [Json.ofText?_fileText printable, Option.bind_some] at meaning

theorem readJson_same_host {path : Path} {before after : Host}
    (read : readJson path decode before = .ok value after) : after = before :=
  (Act.look_eq_ok.mp read).2

theorem readJson_holds {project : Project} {root : Place} {name : String} {before after : Host}
    (keeping : project.Keeping root name content before.disk) (plain : Plain name)
    (short : name.utf8ByteSize ≤ 255)
    (read : readJson (project.stateDir.join name) decode before = .ok value after) :
    Holds content decode value := by
  obtain ⟨looked, -⟩ := Act.look_eq_ok.mp read
  split at looked
  · cases looked
  · rename_i text reading
    split at looked
    · rename_i meaning
      cases looked
      obtain ⟨bytes, held, written⟩ := Disk.readText_eq_ok.mp reading
      obtain ⟨_, led, stands⟩ := Disk.read_eq_ok.mp held
      cases (keeping.locate plain short).symm.trans led
      exact ⟨bytes, text, keeping.content.symm.trans stands, written, meaning⟩
    · cases looked

end Store

namespace Project

open Store (Holds)

variable {project : Project} {root : Place} {name : String} {content errors patterns : Option Node}
  {before after : Host} {table other : Pattern.Table Float} {index : ErrorIndex Float}
  {records : OrderedMap String ErrorRecord}

theorem Keeping.pathExists {disk : Disk} (keeping : project.Keeping root name content disk)
    (plain : Plain name) (short : name.utf8ByteSize ≤ 255) :
    disk.pathExists (project.stateDir.join name) = content.isSome := by
  rw [Disk.pathExists, Disk.at?, keeping.locate plain short]
  exact congrArg Option.isSome keeping.content

theorem plain_errors : Plain "errors.json" := .of_long (by decide) (by decide)

theorem plain_patterns : Plain "patterns.json" := .of_long (by decide) (by decide)

/-- The records that are read of a file, if there is one. -/
def ReadsErrors (content : Option Node) (records : OrderedMap String ErrorRecord) : Prop :=
  content = none ∧ records = .empty ∨ Holds content ErrorIndex.recordsOfJson? records

/-- The table that is read of a file, if there is one. -/
def ReadsPatterns (content : Option Node) (table : Pattern.Table Float) : Prop :=
  content = none ∧ table = .empty ∨
    ∃ raw : Pattern.Table Float, Holds content Pattern.Table.ofJson? raw ∧
      Pattern.Table.settle raw = .ok table

theorem ReadsErrors.unique {others : OrderedMap String ErrorRecord}
    (one : ReadsErrors content records) (two : ReadsErrors content others) : records = others := by
  rcases one with ⟨missing, rfl⟩ | one
  · rcases two with ⟨-, rfl⟩ | ⟨_, _, stands, -⟩
    · rfl
    · cases missing.symm.trans stands
  · rcases two with ⟨missing, -⟩ | two
    · obtain ⟨_, _, stands, -⟩ := one
      cases missing.symm.trans stands
    · exact one.unique two

theorem ReadsPatterns.unique (one : ReadsPatterns content table) (two : ReadsPatterns content other) :
    table = other := by
  rcases one with ⟨missing, rfl⟩ | ⟨raw, one, taken⟩
  · rcases two with ⟨-, rfl⟩ | ⟨_, ⟨_, _, stands, -⟩, -⟩
    · rfl
    · cases missing.symm.trans stands
  · rcases two with ⟨missing, -⟩ | ⟨raw', two, taken'⟩
    · obtain ⟨_, _, stands, -⟩ := one
      cases missing.symm.trans stands
    · obtain rfl := one.unique two
      exact Except.ok.inj (taken.symm.trans taken')

/-- A table that is read has settled keys. -/
theorem ReadsPatterns.settled (reads : ReadsPatterns content table) :
    Pattern.Table.Settled table := by
  rcases reads with ⟨-, rfl⟩ | ⟨raw, -, taken⟩
  · exact Pattern.Table.settled_empty
  · exact Pattern.Table.settled_of_settle taken

theorem loadErrors_eq_ok (loaded : project.loadErrors before = .ok index after) :
    after = before ∧ index.threshold = project.settings.similarity.threshold ∧
      ∀ root content, project.Keeping root "errors.json" content before.disk →
        ReadsErrors content index.records := by
  rw [loadErrors, ErrorIndex.load] at loaded
  split at loaded
  · obtain ⟨_, _, thrown, -⟩ := Act.bind_eq_ok.mp loaded
    cases thrown
  · obtain ⟨_, _, got, loaded⟩ := Act.bind_eq_ok.mp loaded
    cases got
    split at loaded
    · obtain ⟨records, _, read, loaded⟩ := Act.bind_eq_ok.mp loaded
      obtain ⟨rfl, rfl⟩ := Act.pure_eq_ok.mp loaded
      refine ⟨Store.readJson_same_host read, rfl, fun root content keeping => .inr ?_⟩
      exact Store.readJson_holds keeping plain_errors (by decide) read
    · rename_i missing
      obtain ⟨rfl, rfl⟩ := Act.pure_eq_ok.mp loaded
      refine ⟨rfl, rfl, fun root content keeping => .inl ⟨?_, rfl⟩⟩
      rw [errorsFile, keeping.pathExists plain_errors (by decide)] at missing
      simpa only [Bool.not_eq_true, Option.isSome_eq_false_iff, Option.isNone_iff_eq_none] using
        missing

theorem loadPatterns_eq_ok (loaded : project.loadPatterns before = .ok table after) :
    after = before ∧ ∀ root content, project.Keeping root "patterns.json" content before.disk →
      ReadsPatterns content table := by
  rw [loadPatterns, Pattern.Table.load] at loaded
  obtain ⟨_, _, got, loaded⟩ := Act.bind_eq_ok.mp loaded
  cases got
  split at loaded
  · rw [Pattern.Table.read] at loaded
    obtain ⟨raw, _, read, loaded⟩ := Act.bind_eq_ok.mp loaded
    cases Store.readJson_same_host read
    cases taken : Pattern.Table.settle raw with
    | error flaw =>
      simp only [taken] at loaded
      cases loaded
    | ok settled =>
      simp only [taken] at loaded
      obtain ⟨rfl, rfl⟩ := Act.pure_eq_ok.mp loaded
      refine ⟨rfl, fun root content keeping => .inr ⟨raw, ?_, taken⟩⟩
      exact Store.readJson_holds keeping plain_patterns (by decide) read
  · rename_i missing
    obtain ⟨rfl, rfl⟩ := Act.pure_eq_ok.mp loaded
    refine ⟨rfl, fun root content keeping => .inl ⟨?_, rfl⟩⟩
    rw [patternsFile, keeping.pathExists plain_patterns (by decide)] at missing
    simpa only [Bool.not_eq_true, Option.isSome_eq_false_iff, Option.isNone_iff_eq_none] using
      missing

/-! ### Opening -/

theorem Keeping.grows {disk later : Disk} (keeping : project.Keeping root name (some .directory) disk)
    (grows : Disk.Grows disk later) : project.Keeping root name (some .directory) later :=
  ⟨grows.locate project.tidy_stateDir keeping.located, grows.directory _ keeping.directory,
    grows.directory _ keeping.content⟩

theorem plain_checkpoints : Plain "checkpoints" := .of_long (by decide) (by decide)

theorem tidy_checkpointsDir (project : Project) : project.checkpointsDir.Tidy :=
  Path.tidy_join plain_checkpoints _

theorem makeDirectories_eq_ok (made : project.makeDirectories before = .ok () after) :
    ∃ between, Disk.makeDirectories project.checkpointsDir before = .ok () between ∧
      Disk.makeDirectories project.logDir between = .ok () after := by
  obtain ⟨_, between, first, made⟩ := Act.bind_eq_ok.mp made
  exact ⟨between, Act.within_eq_ok.mp first, Act.within_eq_ok.mp made⟩

/-- Once the directories are made, that of the checkpoints is there. -/
theorem keeping_of_makeDirectories (made : project.makeDirectories before = .ok () after) :
    after.fresh = before.fresh ∧
      ∃ root, project.Keeping root "checkpoints" (some .directory) after.disk := by
  obtain ⟨between, first, second⟩ := makeDirectories_eq_ok made
  obtain ⟨spares, isDirectory⟩ := Disk.makeDirectoriesFrom_eq_ok first
  obtain ⟨later, -⟩ := Disk.makeDirectoriesFrom_eq_ok second
  have there := isDirectory project.tidy_checkpointsDir
  rw [Disk.isDirectory, Disk.at?, beq_iff_eq] at there
  split at there
  · rename_i place led
    obtain ⟨root, located, directory, rfl, -⟩ :=
      Disk.locate_join_eq_ok project.tidy_stateDir plain_checkpoints led
    have keeping : project.Keeping root "checkpoints" (some .directory) between.disk :=
      ⟨located, directory, there⟩
    exact ⟨later.fresh.trans spares.fresh, root, keeping.grows later.grows⟩
  · cases there

/-- Where the directories are made again nothing else is touched. -/
theorem makeDirectories_spares (keeping : project.Keeping root "checkpoints" (some .directory)
      before.disk) (made : project.makeDirectories before = .ok () after) :
    Host.Spares (fun place => place = root ++ ["checkpoints"] ∨ place = root ++ ["logs"])
      before after := by
  have plain : Plain "logs" := .of_long (by decide) (by decide)
  obtain ⟨between, first, second⟩ := makeDirectories_eq_ok made
  obtain ⟨spares, -⟩ := Disk.makeDirectories_eq_ok project.tidy_checkpointsDir
    (keeping.locate plain_checkpoints (by decide)) first
  have kept := keeping.grows spares.grows
  have logs := Disk.locate_join project.tidy_stateDir plain kept.located kept.directory
  rw [if_neg (by decide)] at logs
  obtain ⟨later, -⟩ := Disk.makeDirectories_eq_ok (Path.tidy_join plain _) logs second
  exact (spares.mono fun _ => .inl).trans (later.mono fun _ => .inr)

/-- Taking the lock touches its file alone. -/
theorem lock_spares {place : Place} (located : before.disk.locate project.stateDir = .ok root)
    (locked : project.lock before = .ok place after) :
    Host.Spares (· = root ++ ["engine.lock"]) before after := by
  have plain : Plain "engine.lock" := .of_long (by decide) (by decide)
  obtain ⟨taken, between, locking, locked⟩ := Act.bind_eq_ok.mp locked
  have same : after = between := by
    cases taken with
    | none => cases locked
    | some place => exact (Act.pure_eq_ok.mp locked).2.symm
  subst same
  have locking := Act.mapError_eq_ok.mp locking
  rw [Host.lock] at locking
  split at locking
  · cases locking
  · rename_i target led
    obtain ⟨_, reached, -, rfl, -⟩ := Disk.locate_join_eq_ok project.tidy_stateDir plain led
    cases located.symm.trans reached
    dsimp only at locking
    split at locking
    · cases locking
    · rename_i opened opening
      have spares : Host.Spares (· = root ++ ["engine.lock"]) before opened := by
        obtain ⟨disk, changed, rfl⟩ := Host.step_eq_ok opening
        split at changed
        · cases changed
        · cases changed
          exact ⟨rfl, rfl, .refl _, fun _ _ => rfl⟩
        · rename_i free
          cases changed
          refine .put (.inr ?_)
          simp [free]
      split at locking
      · cases locking
        exact spares
      · cases locking
        exact ⟨spares.clock, spares.fresh, spares.grows, spares.nodes⟩

theorem openStores_eq_ok {place : Place}
    (opened : project.openStores before = .ok (place, table, index) after) :
    ∃ made, project.makeDirectories before = .ok () made ∧ project.lock made = .ok place after ∧
      project.loadPatterns after = .ok table after ∧ project.loadErrors after = .ok index after := by
  rw [openStores] at opened
  cases checked : project.settings.validate with
  | error e =>
    simp only [checked] at opened
    cases opened
  | ok warnings =>
    simp only [checked] at opened
    obtain ⟨_, made, making, opened⟩ := Act.bind_eq_ok.mp opened
    obtain ⟨taken, locked, locking, opened⟩ := Act.bind_eq_ok.mp opened
    obtain ⟨stores, _, loading, opened⟩ := Act.bind_eq_ok.mp opened
    obtain ⟨same, rfl⟩ := Act.pure_eq_ok.mp opened
    cases same
    refine ⟨made, Act.mapError_eq_ok.mp making, ?_⟩
    cases loaded : project.loadStores locked with
    | error e failed =>
      simp only [Act.tryCatch_eq, loaded] at loading
      cases loading
    | ok stores read =>
      simp only [Act.tryCatch_eq, loaded] at loading
      cases loading
      obtain ⟨_, between, patterns, loaded⟩ := Act.bind_eq_ok.mp loaded
      obtain ⟨_, last, errors, loaded⟩ := Act.bind_eq_ok.mp loaded
      obtain ⟨same, rfl⟩ := Act.pure_eq_ok.mp loaded
      cases same
      have patterns := Act.mapError_eq_ok.mp patterns
      have errors := Act.mapError_eq_ok.mp errors
      obtain ⟨rfl, -⟩ := loadPatterns_eq_ok patterns
      obtain ⟨rfl, -⟩ := loadErrors_eq_ok errors
      exact ⟨locking, patterns, errors⟩

/-- An engine that is opened finds the directory of the checkpoints, whatever there was. -/
theorem keeping_of_openStores {place : Place}
    (opened : project.openStores before = .ok (place, table, index) after) :
    after.fresh = before.fresh ∧
      ∃ root, project.Keeping root "checkpoints" (some .directory) after.disk := by
  obtain ⟨made, making, locking, -⟩ := openStores_eq_ok opened
  obtain ⟨fresh, root, keeping⟩ := keeping_of_makeDirectories making
  have spares := lock_spares keeping.located locking
  exact ⟨spares.fresh.trans fresh, root, keeping.grows spares.grows⟩

/-- An engine that is opened where one was before leaves all of its files. -/
theorem openStores_spares {place : Place}
    (keeping : project.Keeping root "checkpoints" (some .directory) before.disk)
    (opened : project.openStores before = .ok (place, table, index) after) :
    Host.Spares (fun touched => ∃ name ∈ ["checkpoints", "logs", "engine.lock"],
      touched = root ++ [name]) before after := by
  obtain ⟨made, making, locking, -⟩ := openStores_eq_ok opened
  have first := makeDirectories_spares keeping making
  have second := lock_spares (keeping.grows first.grows).located locking
  refine (first.mono ?_).trans (second.mono ?_)
  · rintro touched (rfl | rfl)
    · exact ⟨_, by decide, rfl⟩
    · exact ⟨_, by decide, rfl⟩
  · rintro touched rfl
    exact ⟨_, by decide, rfl⟩

end Project

end TaskLoop
