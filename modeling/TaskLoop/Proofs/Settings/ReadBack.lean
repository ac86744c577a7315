import TaskLoop.Project
import TaskLoop.Proofs.Decimal.Order
import TaskLoop.Proofs.Disk.Write
import TaskLoop.Proofs.Settings.Validation
import TaskLoop.Proofs.Text.Utf8
import TaskLoop.Proofs.Toml.Document

/-!
Settings that were written to the file of a project are the settings that are read from it: what is
set reads back as it is, and what is not set stays so.
-/

set_option autoImplicit false

namespace TaskLoop

open Toml (Bare Proper ProperSection Scalar sectionTable nat32? nat64? float?)

/-! ### Values -/

/-- What lies between nought and one is finite. -/
theorem ErrorIndex.isFinite_of_thresholdIsValid {x : Float}
    (valid : ErrorIndex.thresholdIsValid x = true) : Decimal.isFinite x = true := by
  rw [thresholdIsValid, Bool.and_eq_true] at valid
  obtain ⟨-, isNumber, low⟩ := Decimal.ordered_doubles.atMost.mp valid.1
  obtain ⟨-, -, high⟩ := Decimal.ordered_doubles.atMost.mp valid.2
  have parts := Decimal.ofFloat_eq_ofParts x
  rw [Decimal.isFinite, parts]
  cases unpacked : x.toModel.unpack with
  | notANumber => exact absurd unpacked isNumber
  | infinity sign =>
    rw [unpacked] at low high
    cases sign with
    | negative => exact absurd low (by decide)
    | positive => exact absurd high (by decide)
  | zero sign => rfl
  | finite sign mantissa exponent positive => rfl

namespace Toml

theorem natBelow?_integer {bound n : Nat} (fits : n < bound) :
    natBelow? bound (.integer n) = some n :=
  if_pos fits

theorem nat32?_integer {n : Nat} (fits : n < powerOfTwo 32) : nat32? (.integer n) = some n :=
  natBelow?_integer fits

theorem nat64?_integer {n : Nat} (fits : n < powerOfTwo 64) : nat64? (.integer n) = some n :=
  natBelow?_integer fits

end Toml

/-- A condition reads back by its name. -/
theorem Completion.choice?_name (condition : Completion) :
    Toml.choice? Completion.ofName? (.string condition.name) = some condition := by
  cases condition <;> rfl

/-- The entries of a section as they are read. -/
def Toml.members (entries : List (String × Scalar)) : Toml.Members :=
  entries.map fun entry => (entry.1, entry.2.value)

/-! ### Sections -/

/-- Counts of iterations and attempts have 32 bits. -/
def EngineSettings.Fits (engine : EngineSettings) : Prop :=
  engine.maxIterations < powerOfTwo 32 ∧ engine.maxRetries < powerOfTwo 32 ∧
    engine.minRetries < powerOfTwo 32 ∧ engine.checkpointInterval < powerOfTwo 32 ∧
    engine.contextAttempts < powerOfTwo 32

/-- Budgets have 32 bits. -/
def CategoryBudgets.Fits (budgets : CategoryBudgets) : Prop :=
  budgets.syntactic < powerOfTwo 32 ∧ budgets.reference < powerOfTwo 32 ∧
    budgets.typing < powerOfTwo 32 ∧ budgets.runtime < powerOfTwo 32 ∧
    budgets.baseline < powerOfTwo 32

instance (engine : EngineSettings) : Decidable engine.Fits := inferInstanceAs (Decidable (_ ∧ _))

instance (budgets : CategoryBudgets) : Decidable budgets.Fits := inferInstanceAs (Decidable (_ ∧ _))

/-- Numbers within the widths of their fields. -/
structure Settings.Fits (settings : Settings) : Prop where
  engine : settings.engine.Fits
  budgets : settings.budgets.Fits
  ceiling : settings.ceiling < powerOfTwo 32
  generator : settings.generator.timeoutSeconds < powerOfTwo 64
  build : settings.build.timeoutSeconds < powerOfTwo 64
  similarity : settings.similarity.top < powerOfTwo 64

section Sections

open Toml (members)

theorem EngineSettings.ofFields?_entries {engine : EngineSettings} (fits : engine.Fits) :
    EngineSettings.ofFields? (members engine.entries) = some engine := by
  obtain ⟨iterations, most, least, interval, context⟩ := fits
  simp [ofFields?, entries, members, Toml.orElse, Scalar.value, List.lookup,
    Toml.nat32?_integer iterations, Toml.nat32?_integer most, Toml.nat32?_integer least,
    Toml.nat32?_integer interval, Toml.nat32?_integer context, Toml.bool?, Completion.choice?_name]

theorem GeneratorSettings.ofFields?_entries {generator : GeneratorSettings}
    (fits : generator.timeoutSeconds < powerOfTwo 64) :
    GeneratorSettings.ofFields? (members generator.entries) = some generator := by
  simp [ofFields?, entries, members, Toml.orElse, Scalar.value, List.lookup,
    Toml.nat64?_integer fits, Toml.bool?, Toml.string?]

/-- What is not set has no entry, and stays unset. -/
theorem BuildSettings.ofFields?_entries {build : BuildSettings}
    (fits : build.timeoutSeconds < powerOfTwo 64) :
    BuildSettings.ofFields? (members build.entries) = some build := by
  obtain ⟨command, workingDir, artifactPath, timeoutSeconds⟩ := build
  cases command <;> cases workingDir <;> cases artifactPath <;>
    simp [ofFields?, entries, members, Toml.optional, Toml.orElse, Scalar.value, List.lookup,
      Toml.nat64?_integer fits, Toml.string?]

theorem BuildSettings.sublist_keys (build : BuildSettings) :
    (build.entries.map Prod.fst).Sublist BuildSettings.keys := by
  obtain ⟨command, workingDir, artifactPath, timeoutSeconds⟩ := build
  cases command <;> cases workingDir <;> cases artifactPath <;> simp [entries, keys]

/-- The only number of the section is the last of its entries. -/
theorem BuildSettings.fits_or_timeout (build : BuildSettings) :
    ∀ entry ∈ build.entries, entry.2.Fits ∨ entry.2 = .natural build.timeoutSeconds := by
  obtain ⟨command, workingDir, artifactPath, timeoutSeconds⟩ := build
  cases command <;> cases workingDir <;> cases artifactPath <;> simp [entries, Scalar.Fits]

theorem SimilaritySettings.ofFields?_entries {similarity : SimilaritySettings}
    (fits : similarity.top < powerOfTwo 64) :
    SimilaritySettings.ofFields? (members similarity.entries) = some similarity := by
  simp [ofFields?, entries, members, Toml.orElse, Scalar.value, List.lookup,
    Toml.nat64?_integer fits, float?]

end Sections

namespace Settings

variable {settings : Settings}

open Toml (members)

/-- The entries of the section on attempts. -/
def retryEntries (settings : Settings) : List (String × Scalar) :=
  settings.namedBudgets.map (fun (name, budget) => (name, .natural budget)) ++
    [("ceiling", .natural settings.ceiling)]

/-- The entries of the section on the project: its name, if it has one. -/
def projectEntries (settings : Settings) : List (String × Scalar) :=
  (settings.name.map fun name => ("name", .string name)).toList

theorem ofFields?_retryEntries (budgets : settings.budgets.Fits)
    (ceiling : settings.ceiling < powerOfTwo 32) :
    CategoryBudgets.ofFields? (members settings.retryEntries) =
      some (settings.budgets, settings.ceiling) := by
  obtain ⟨syntactic, reference, typing, runtime, baseline⟩ := budgets
  simp [CategoryBudgets.ofFields?, retryEntries, namedBudgets, members, Toml.orElse, Scalar.value,
    List.lookup, Toml.nat32?_integer syntactic, Toml.nat32?_integer reference,
    Toml.nat32?_integer typing, Toml.nat32?_integer runtime, Toml.nat32?_integer baseline,
    Toml.nat32?_integer ceiling]

theorem optional_projectEntries :
    Toml.optional (members settings.projectEntries) "name" Toml.string? = some settings.name := by
  rw [projectEntries]
  cases settings.name <;> rfl

theorem read_section? {α : Type} {all members : Toml.Members} {name : String} {keys : List String}
    {decode : Toml.Members → Option α} (found : all.lookup name = some (.table .heading members)) :
    Toml.section? all name keys decode = decode members := by
  rw [Toml.section?, found]
  rfl

/-- What the file holds are these settings. -/
theorem ofMembers?_sections (fits : settings.Fits) :
    ofMembers? (settings.sections.map sectionTable) = some settings := by
  have project : (settings.sections.map sectionTable).lookup "project" =
      some (.table .heading (members settings.projectEntries)) := rfl
  have engine : (settings.sections.map sectionTable).lookup "engine" =
      some (.table .heading (members settings.engine.entries)) := rfl
  have retry : (settings.sections.map sectionTable).lookup "retry" =
      some (.table .heading (members settings.retryEntries)) := rfl
  have generator : (settings.sections.map sectionTable).lookup "generator" =
      some (.table .heading (members settings.generator.entries)) := rfl
  have build : (settings.sections.map sectionTable).lookup "build" =
      some (.table .heading (members settings.build.entries)) := rfl
  have similarity : (settings.sections.map sectionTable).lookup "similarity" =
      some (.table .heading (members settings.similarity.entries)) := rfl
  rw [ofMembers?, read_section? project, read_section? engine, read_section? retry,
    read_section? generator, read_section? build, read_section? similarity,
    optional_projectEntries, EngineSettings.ofFields?_entries fits.engine,
    ofFields?_retryEntries fits.budgets fits.ceiling,
    GeneratorSettings.ofFields?_entries fits.generator, BuildSettings.ofFields?_entries fits.build,
    SimilaritySettings.ofFields?_entries fits.similarity]
  rfl

/-! ### The file -/

/-- The sections of a file, and the keys that each of them can have. -/
def sectionKeys : List (String × List String) :=
  [("project", ["name"]), ("engine", EngineSettings.keys), ("retry", CategoryBudgets.keys),
    ("generator", GeneratorSettings.keys), ("build", BuildSettings.keys),
    ("similarity", SimilaritySettings.keys)]

theorem bare_sectionKeys :
    ∀ part ∈ sectionKeys, Bare part.1 ∧ (∀ key ∈ part.2, Bare key) ∧ part.2.Nodup := by
  decide

theorem nodup_sectionKeys : (sectionKeys.map Prod.fst).Nodup := by
  decide

/-- A section is written with some of its keys. -/
theorem properSection {name : String} (keys : List String) {entries : List (String × Scalar)}
    (known : (name, keys) ∈ sectionKeys) (some : (entries.map Prod.fst).Sublist keys)
    (fits : ∀ entry ∈ entries, entry.2.Fits) : ProperSection (name, entries) := by
  obtain ⟨bare, all, distinct⟩ := bare_sectionKeys _ known
  exact ⟨bare, fun _ member => all _ (some.subset (List.mem_map_of_mem member)),
    distinct.sublist some, fits⟩

theorem fits_natural {n width : Nat} (fits : n < powerOfTwo width) (narrow : width ≤ 128) :
    (Scalar.natural n).Fits :=
  Nat.lt_of_lt_of_le fits (Nat.pow_le_pow_right (by decide) narrow)

theorem proper_sections (fits : settings.Fits)
    (finite : Decimal.isFinite settings.similarity.threshold = true) :
    Proper settings.sections := by
  have narrow {n : Nat} (fits : n < powerOfTwo 32) : (Scalar.natural n).Fits :=
    fits_natural fits (by decide)
  have wide {n : Nat} (fits : n < powerOfTwo 64) : (Scalar.natural n).Fits :=
    fits_natural fits (by decide)
  refine ⟨?_, nodup_sectionKeys⟩
  simp only [sections, List.forall_mem_cons, List.not_mem_nil, false_implies, implies_true, and_true]
  refine ⟨?project, ?engine, ?retry, ?generator, ?build, ?similarity⟩
  case project =>
    refine properSection ["name"] (by simp [sectionKeys]) ?_ ?_
    · cases settings.name <;> simp
    · cases settings.name <;> simp [Scalar.Fits]
  case engine =>
    refine properSection EngineSettings.keys (by simp [sectionKeys]) (.refl _) ?_
    obtain ⟨iterations, most, least, interval, context⟩ := fits.engine
    simp only [EngineSettings.entries, List.forall_mem_cons, List.not_mem_nil, false_implies,
      implies_true, and_true]
    exact ⟨narrow iterations, narrow most, narrow least, trivial, narrow interval, narrow context,
      trivial⟩
  case retry =>
    refine properSection CategoryBudgets.keys (by simp [sectionKeys]) (.refl _) ?_
    obtain ⟨syntactic, reference, typing, runtime, baseline⟩ := fits.budgets
    simp only [namedBudgets, List.map_cons, List.map_nil, List.cons_append, List.nil_append,
      List.forall_mem_cons, List.not_mem_nil, false_implies, implies_true, and_true]
    exact ⟨narrow syntactic, narrow reference, narrow typing, narrow runtime, narrow baseline,
      narrow fits.ceiling⟩
  case generator =>
    refine properSection GeneratorSettings.keys (by simp [sectionKeys]) (.refl _) ?_
    simp only [GeneratorSettings.entries, List.forall_mem_cons, List.not_mem_nil, false_implies,
      implies_true, and_true]
    exact ⟨trivial, trivial, trivial, wide fits.generator⟩
  case build =>
    refine properSection BuildSettings.keys (by simp [sectionKeys])
      settings.build.sublist_keys ?_
    exact fun entry member => (settings.build.fits_or_timeout entry member).elim id
      fun same => same ▸ wide fits.build
  case similarity =>
    refine properSection SimilaritySettings.keys (by simp [sectionKeys]) (.refl _) ?_
    simp only [SimilaritySettings.entries, List.forall_mem_cons, List.not_mem_nil, false_implies,
      implies_true, and_true]
    exact ⟨finite, wide fits.similarity⟩

/-- Settings read back from their text. -/
theorem ofText?_text (fits : settings.Fits)
    (finite : Decimal.isFinite settings.similarity.threshold = true) :
    ofText? settings.text = some settings := by
  rw [ofText?, text, Toml.ofText?_documentText (proper_sections fits finite)]
  exact ofMembers?_sections fits

end Settings

/-! ### What was read fits -/

theorem Toml.orElse_natBelow? {fields : Toml.Members} {name : String} {bound missing n : Nat}
    (read : Toml.orElse fields name (Toml.natBelow? bound) missing = some n)
    (small : missing < bound) : n < bound := by
  rw [Toml.orElse] at read
  split at read
  · rw [Toml.natBelow?.eq_def] at read
    split at read
    · obtain ⟨fits, same⟩ := Option.ite_none_right_eq_some.mp read
      exact Option.some.inj same ▸ fits
    · cases read
  · exact Option.some.inj read ▸ small

theorem Toml.exists_of_section? {α : Type} {all : Toml.Members} {name : String} {keys : List String}
    {decode : Toml.Members → Option α} {value : α}
    (read : Toml.section? all name keys decode = some value) :
    ∃ fields, decode fields = some value := by
  rw [Toml.section?] at read
  split at read
  · obtain ⟨fields, -, decoded⟩ := Option.bind_eq_some_iff.mp read
    exact ⟨fields, decoded⟩
  · exact ⟨[], read⟩

theorem EngineSettings.fits_of_ofFields? {fields : Toml.Members} {engine : EngineSettings}
    (read : EngineSettings.ofFields? fields = some engine) : engine.Fits := by
  simp only [ofFields?, Option.bind_eq_bind, Option.bind_eq_some_iff, Option.pure_def,
    Option.some.injEq] at read
  obtain ⟨_, iterations, _, most, _, least, _, -, _, interval, _, context, _, -, rfl⟩ := read
  exact ⟨Toml.orElse_natBelow? iterations (by decide), Toml.orElse_natBelow? most (by decide),
    Toml.orElse_natBelow? least (by decide), Toml.orElse_natBelow? interval (by decide),
    Toml.orElse_natBelow? context (by decide)⟩

theorem CategoryBudgets.fits_of_ofFields? {fields : Toml.Members} {budgets : CategoryBudgets}
    {ceiling : Nat} (read : CategoryBudgets.ofFields? fields = some (budgets, ceiling)) :
    budgets.Fits ∧ ceiling < powerOfTwo 32 := by
  simp only [ofFields?, Option.bind_eq_bind, Option.bind_eq_some_iff, Option.pure_def,
    Option.some.injEq, Prod.mk.injEq] at read
  obtain ⟨_, syntactic, _, reference, _, typing, _, runtime, _, baseline, _, most, rfl, rfl⟩ := read
  exact ⟨⟨Toml.orElse_natBelow? syntactic (by decide), Toml.orElse_natBelow? reference (by decide),
    Toml.orElse_natBelow? typing (by decide), Toml.orElse_natBelow? runtime (by decide),
    Toml.orElse_natBelow? baseline (by decide)⟩, Toml.orElse_natBelow? most (by decide)⟩

theorem GeneratorSettings.fits_of_ofFields? {fields : Toml.Members} {generator : GeneratorSettings}
    (read : GeneratorSettings.ofFields? fields = some generator) :
    generator.timeoutSeconds < powerOfTwo 64 := by
  simp only [ofFields?, Option.bind_eq_bind, Option.bind_eq_some_iff, Option.pure_def,
    Option.some.injEq] at read
  obtain ⟨_, -, _, -, _, -, _, seconds, rfl⟩ := read
  exact Toml.orElse_natBelow? seconds (by decide)

theorem BuildSettings.fits_of_ofFields? {fields : Toml.Members} {build : BuildSettings}
    (read : BuildSettings.ofFields? fields = some build) : build.timeoutSeconds < powerOfTwo 64 := by
  simp only [ofFields?, Option.bind_eq_bind, Option.bind_eq_some_iff, Option.pure_def,
    Option.some.injEq] at read
  obtain ⟨_, -, _, -, _, -, _, seconds, rfl⟩ := read
  exact Toml.orElse_natBelow? seconds (by decide)

theorem SimilaritySettings.fits_of_ofFields? {fields : Toml.Members}
    {similarity : SimilaritySettings} (read : SimilaritySettings.ofFields? fields = some similarity) :
    similarity.top < powerOfTwo 64 := by
  simp only [ofFields?, Option.bind_eq_bind, Option.bind_eq_some_iff, Option.pure_def,
    Option.some.injEq] at read
  obtain ⟨_, -, _, top, rfl⟩ := read
  exact Toml.orElse_natBelow? top (by decide)

/-- Settings that were read from a file fit. -/
theorem Settings.fits_of_ofText? {text : List Char} {settings : Settings}
    (read : Settings.ofText? text = some settings) : settings.Fits := by
  obtain ⟨members, -, read⟩ := Option.bind_eq_some_iff.mp read
  simp only [ofMembers?, Option.bind_eq_bind, Option.bind_eq_some_iff, Option.pure_def,
    Option.some.injEq] at read
  obtain ⟨_, -, _, engine, ⟨_, _⟩, retry, _, generator, _, build, _, similarity, rfl⟩ := read
  obtain ⟨_, engine⟩ := Toml.exists_of_section? engine
  obtain ⟨_, retry⟩ := Toml.exists_of_section? retry
  obtain ⟨_, generator⟩ := Toml.exists_of_section? generator
  obtain ⟨_, build⟩ := Toml.exists_of_section? build
  obtain ⟨_, similarity⟩ := Toml.exists_of_section? similarity
  obtain ⟨budgets, ceiling⟩ := CategoryBudgets.fits_of_ofFields? retry
  exact ⟨EngineSettings.fits_of_ofFields? engine, budgets, ceiling,
    GeneratorSettings.fits_of_ofFields? generator, BuildSettings.fits_of_ofFields? build,
    SimilaritySettings.fits_of_ofFields? similarity⟩

theorem Environment.lt_of_number? {text : String} {n : Nat}
    (read : Environment.number? text = some n) : n < powerOfTwo 32 := by
  have bounded {digits : List Char} (read : Decimal.natBelow? (powerOfTwo 32) digits = some n) :
      n < powerOfTwo 32 := by
    rw [Decimal.natBelow?] at read
    split at read
    · cases read
    · obtain ⟨fits, same⟩ := Option.ite_none_right_eq_some.mp read
      exact Option.some.inj same ▸ fits
  rw [number?] at read
  split at read <;> exact bounded read

theorem Environment.lt_of_nat? {environment : Environment} {key : String} {value : Option Nat}
    {n : Nat} (read : environment.nat? key = .ok value) (small : n < powerOfTwo 32) :
    value.getD n < powerOfTwo 32 := by
  rw [nat?] at read
  split at read
  · cases read
    exact small
  · split at read
    · rename_i number
      cases read
      exact lt_of_number? number
    · cases read

/-- The environment sets no number that does not fit. -/
theorem Settings.Fits.withEnvironment {settings other : Settings} {environment : Environment}
    (fits : settings.Fits) (read : settings.withEnvironment environment = .ok other) :
    other.Fits := by
  simp only [Settings.withEnvironment, bind, Except.bind] at read
  cases iterations : environment.nat? "RELOOP_MAX_ITERATIONS" with
  | error e =>
    rw [iterations] at read
    cases read
  | ok _ =>
  cases retries : environment.nat? "RELOOP_MAX_RETRIES" with
  | error e =>
    rw [iterations, retries] at read
    cases read
  | ok _ =>
  rw [iterations, retries] at read
  dsimp only at read
  split at read
  · cases read
  · cases read
    exact ⟨⟨Environment.lt_of_nat? iterations fits.engine.1,
      Environment.lt_of_nat? retries fits.engine.2.1, fits.engine.2.2⟩, fits.budgets, fits.ceiling,
      fits.generator, fits.build, fits.similarity⟩

/-! ### Projects -/

namespace Project

theorem tidy_settingsFile (directory : Path) : Path.Tidy (settingsFileOf directory) :=
  Path.tidy_join (Path.Plain.of_long (by decide) (by decide)) _

/-- Settings are read from a file that holds their text. -/
theorem readSettings_text {path : Path} {settings : Settings} {host : Host}
    (fits : settings.Fits) (finite : Decimal.isFinite settings.similarity.threshold = true)
    (read : host.disk.read path = .ok (Text.Utf8.encode settings.text)) :
    readSettings path host = .ok settings host := by
  have stands : host.disk.pathExists path = true := Disk.pathExists_of_read read
  have text : host.disk.readText path = .ok settings.text :=
    Disk.readText_eq_ok.mpr ⟨_, read, Text.Utf8.decode?_encode _⟩
  refine Act.look_eq_ok.mpr ⟨?_, rfl⟩
  simp only [stands, ↓reduceIte, text, Settings.ofText?_text fits finite]

/-- A project that was loaded fits. -/
theorem fits_of_load {directory : Path} {environment : Environment} {project : Project}
    {before after : Host} (loaded : load directory environment before = .ok project after) :
    project.settings.Fits := by
  obtain ⟨settings, between, read, made⟩ := Act.bind_eq_ok.mp loaded
  obtain ⟨seen, -⟩ := Act.look_eq_ok.mp read
  have fits : settings.Fits := by
    split at seen
    · split at seen
      · cases seen
      · split at seen
        · rename_i parsed
          cases seen
          exact Settings.fits_of_ofText? parsed
        · cases seen
    · cases seen
      refine ⟨?_, ?_, ?_, ?_, ?_, ?_⟩ <;> decide
  cases changed : settings.withEnvironment environment with
  | error e =>
    rw [changed] at made
    cases made
  | ok other =>
    rw [changed] at made
    cases made
    exact fits.withEnvironment changed

variable {project : Project} {warnings : List SettingsWarning}

/-- The settings of a project, whatever its texts are, survive its file: they can be written just
when the path of the file leads to one, or to where one can be, and both steps on it go well, and
then the project that is loaded from there, in an environment in which nothing is set, has the name
and the settings of the one that was saved. -/
theorem load_after_save (validated : project.settings.validate = .ok warnings)
    (fits : project.settings.Fits) (before : Host) :
    ((∃ after, saveSettings project.resolved project.settingsFile before = .ok () after) ↔
      (∀ fault ∈ before.faults.take 2, fault = none) ∧
        ∃ place, before.disk.locate project.settingsFile = .ok place ∧
          before.disk.node? place ≠ some .directory) ∧
    ∀ after, saveSettings project.resolved project.settingsFile before = .ok () after →
      load project.directory (fun _ => none) after = .ok
        { directory := project.directory, name := project.name, settings := project.resolved }
        after := by
  obtain ⟨accepted, -⟩ := Settings.validate_eq_ok.mp validated
  have finite := ErrorIndex.isFinite_of_thresholdIsValid accepted.threshold
  have resolved : project.resolved.Fits :=
    ⟨fits.engine, fits.budgets, fits.ceiling, fits.generator, fits.build, fits.similarity⟩
  constructor
  · simp only [saveSettings, Act.within_eq_ok]
    exact Disk.exists_writeFile
  · intro after saved
    have read := Disk.read_writeFile (tidy_settingsFile _) (Act.within_eq_ok.mp saved)
    have settled := readSettings_text resolved finite read
    refine Act.bind_eq_ok.mpr ⟨_, _, settled, ?_⟩
    rfl

end Project

/-! ### A project at hand -/

namespace Sample

/-- A project whose texts need each form of string: they hold quotes of both kinds, backslashes,
several lines and control characters. -/
def quotedProject : Project where
  directory := ⟨"/work"⟩
  name := "it's \"quoted\" \\"
  settings := {
    generator := { endpoint := "", model := "\x7f'''\"\"\"" }
    build := {
      command := some "make \"all\"\n\tcheck 'it'\n"
      workingDir := some "C:\\dir"
      artifactPath := some "größe \"\"\"\r\n🦀" } }

/-- A host with the directory of the project's state. -/
def workHost : Host :=
  .new ⟨.ofList [(["work"], .directory), (["work", ".reloop"], .directory)], []⟩ (fun _ => ⟨0, 0⟩)
    toString

theorem quotedProject_survives :
    ∃ after, Project.saveSettings quotedProject.resolved quotedProject.settingsFile workHost =
        .ok () after ∧
      Project.load ⟨"/work"⟩ (fun _ => none) after =
        .ok { directory := ⟨"/work"⟩, name := quotedProject.name, settings := quotedProject.resolved }
          after := by
  have accepted : quotedProject.settings.Accepted :=
    ⟨by decide, RetryPolicy.validate_eq_ok.mp rfl, by decide +kernel, by decide⟩
  have fits : quotedProject.settings.Fits := by
    refine ⟨?_, ?_, ?_, ?_, ?_, ?_⟩ <;> decide
  have leads : workHost.disk.locate quotedProject.settingsFile =
      .ok ["work", ".reloop", "reloop.toml"] := by decide +kernel
  have free : workHost.disk.node? ["work", ".reloop", "reloop.toml"] ≠ some .directory := by
    decide +kernel
  obtain ⟨writes, reads⟩ :=
    Project.load_after_save (Settings.validate_eq_ok.mpr ⟨accepted, rfl⟩) fits workHost
  obtain ⟨after, saved⟩ := writes.mpr ⟨by decide, _, leads, free⟩
  exact ⟨after, saved, reads after saved⟩

end Sample

end TaskLoop
