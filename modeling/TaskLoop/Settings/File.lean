import TaskLoop.Settings.Basic
import TaskLoop.Json.Value
import TaskLoop.Toml.Printer
import TaskLoop.Toml.Reader

/-!
The form settings have in a file: six sections, every key of which may be left out.
-/

set_option autoImplicit false

namespace TaskLoop

open Toml (orElse optional fields? string? bool? choice? float? natBelow?)

/-- Reads a section: the one under a name, or a section without keys. -/
def Toml.section? {α : Type} (members : Toml.Members) (name : String) (keys : List String)
    (decode : Toml.Members → Option α) : Option α :=
  match members.lookup name with
  | some value => (value.fields? keys).bind decode
  | none => decode []

/-- A natural number of 32 bits. -/
def Toml.nat32? : Toml → Option Nat := natBelow? (powerOfTwo 32)

/-- A natural number of 64 bits. -/
def Toml.nat64? : Toml → Option Nat := natBelow? (powerOfTwo 64)

namespace EngineSettings

/-- The keys of the section, in their order. -/
def keys : List String := ["max_iterations", "max_retries", "min_retries", "adaptive_retries",
  "checkpoint_interval", "context_attempts", "completion"]

/-- Reads the section. -/
def ofFields? (fields : Toml.Members) : Option EngineSettings := do
  let missing : EngineSettings := {}
  return {
    maxIterations := ← orElse fields "max_iterations" Toml.nat32? missing.maxIterations
    maxRetries := ← orElse fields "max_retries" Toml.nat32? missing.maxRetries
    minRetries := ← orElse fields "min_retries" Toml.nat32? missing.minRetries
    adaptive := ← orElse fields "adaptive_retries" bool? missing.adaptive
    checkpointInterval :=
      ← orElse fields "checkpoint_interval" Toml.nat32? missing.checkpointInterval
    contextAttempts := ← orElse fields "context_attempts" Toml.nat32? missing.contextAttempts
    completion := ← orElse fields "completion" (choice? Completion.ofName?) missing.completion }

/-- The entries of the section. -/
def entries (engine : EngineSettings) : List (String × Toml.Scalar) :=
  [("max_iterations", .natural engine.maxIterations), ("max_retries", .natural engine.maxRetries),
    ("min_retries", .natural engine.minRetries), ("adaptive_retries", .bool engine.adaptive),
    ("checkpoint_interval", .natural engine.checkpointInterval),
    ("context_attempts", .natural engine.contextAttempts),
    ("completion", .string engine.completion.name)]

end EngineSettings

/-- The keys of the section on attempts, in their order. -/
def CategoryBudgets.keys : List String :=
  ["syntax", "reference", "type_error", "runtime", "baseline", "ceiling"]

/-- Reads the section on attempts: a budget for each category, and the ceiling on all of them. -/
def CategoryBudgets.ofFields? (fields : Toml.Members) : Option (CategoryBudgets × Nat) := do
  let missing : CategoryBudgets := {}
  return ({
    syntactic := ← orElse fields "syntax" Toml.nat32? missing.syntactic
    reference := ← orElse fields "reference" Toml.nat32? missing.reference
    typing := ← orElse fields "type_error" Toml.nat32? missing.typing
    runtime := ← orElse fields "runtime" Toml.nat32? missing.runtime
    baseline := ← orElse fields "baseline" Toml.nat32? missing.baseline },
    ← orElse fields "ceiling" Toml.nat32? attemptCeiling)

namespace GeneratorSettings

/-- The keys of the section, in their order. -/
def keys : List String := ["use_mock", "endpoint", "model", "timeout_secs"]

/-- Reads the section. -/
def ofFields? (fields : Toml.Members) : Option GeneratorSettings := do
  let missing : GeneratorSettings := {}
  return {
    useTemplate := ← orElse fields "use_mock" bool? missing.useTemplate
    endpoint := ← orElse fields "endpoint" string? missing.endpoint
    model := ← orElse fields "model" string? missing.model
    timeoutSeconds := ← orElse fields "timeout_secs" Toml.nat64? missing.timeoutSeconds }

/-- The entries of the section. -/
def entries (generator : GeneratorSettings) : List (String × Toml.Scalar) :=
  [("use_mock", .bool generator.useTemplate), ("endpoint", .string generator.endpoint),
    ("model", .string generator.model), ("timeout_secs", .natural generator.timeoutSeconds)]

end GeneratorSettings

namespace BuildSettings

/-- The keys of the section, in their order. -/
def keys : List String := ["command", "working_dir", "artifact_path", "timeout_secs"]

/-- Reads the section. -/
def ofFields? (fields : Toml.Members) : Option BuildSettings := do
  let missing : BuildSettings := {}
  return {
    command := ← optional fields "command" string?
    workingDir := ← optional fields "working_dir" string?
    artifactPath := ← optional fields "artifact_path" string?
    timeoutSeconds := ← orElse fields "timeout_secs" Toml.nat64? missing.timeoutSeconds }

/-- The entries of the section, without those that are not set. -/
def entries (build : BuildSettings) : List (String × Toml.Scalar) :=
  let set (key : String) (value : Option String) : List (String × Toml.Scalar) :=
    (value.map fun value => (key, .string value)).toList
  set "command" build.command ++ set "working_dir" build.workingDir
    ++ set "artifact_path" build.artifactPath
    ++ [("timeout_secs", .natural build.timeoutSeconds)]

end BuildSettings

namespace SimilaritySettings

/-- The keys of the section, in their order. -/
def keys : List String := ["threshold", "top_k"]

/-- Reads the section. -/
def ofFields? (fields : Toml.Members) : Option SimilaritySettings := do
  let missing : SimilaritySettings := {}
  return {
    threshold := ← orElse fields "threshold" float? missing.threshold
    top := ← orElse fields "top_k" Toml.nat64? missing.top }

/-- The entries of the section. -/
def entries (similarity : SimilaritySettings) : List (String × Toml.Scalar) :=
  [("threshold", .real similarity.threshold), ("top_k", .natural similarity.top)]

end SimilaritySettings

namespace Settings

/-- Reads settings from the members of a document. -/
def ofMembers? (members : Toml.Members) : Option Settings := do
  let name ← Toml.section? members "project" ["name"] fun fields => optional fields "name" string?
  let engine ← Toml.section? members "engine" EngineSettings.keys EngineSettings.ofFields?
  let (budgets, ceiling) ←
    Toml.section? members "retry" CategoryBudgets.keys CategoryBudgets.ofFields?
  return {
    name := name
    engine := engine
    budgets := budgets
    ceiling := ceiling
    generator := ← Toml.section? members "generator" GeneratorSettings.keys
      GeneratorSettings.ofFields?
    build := ← Toml.section? members "build" BuildSettings.keys BuildSettings.ofFields?
    similarity := ← Toml.section? members "similarity" SimilaritySettings.keys
      SimilaritySettings.ofFields? }

/-- Reads settings from the text of a document. -/
def ofText? (text : List Char) : Option Settings := (Toml.ofText? text).bind ofMembers?

/-- The sections of a document and their entries. -/
def sections (settings : Settings) : List (String × List (String × Toml.Scalar)) :=
  [("project", (settings.name.map fun name => ("name", .string name)).toList),
    ("engine", settings.engine.entries),
    ("retry", settings.namedBudgets.map (fun (name, budget) => (name, .natural budget))
      ++ [("ceiling", .natural settings.ceiling)]),
    ("generator", settings.generator.entries), ("build", settings.build.entries),
    ("similarity", settings.similarity.entries)]

/-- The text of a document. -/
def text (settings : Settings) : List Char := Toml.documentText settings.sections

/-- The settings as JSON, in the sections of the document. -/
def toJson (settings : Settings) : Json :=
  let value : Toml.Scalar → Json
    | .string value => .string value
    | .natural value => .ofNat value
    | .real value => .ofFloat value
    | .bool value => .bool value
  .object (settings.sections.map fun (name, entries) =>
    (name, .object (entries.map fun (key, entry) => (key, value entry))))

end Settings

end TaskLoop
