import TaskLoop.Arithmetic
import TaskLoop.ErrorIndex
import TaskLoop.Retry

/-!
The settings of a project: their sections and defaults, which of them no run could start with,
and which are merely worth a warning.
-/

set_option autoImplicit false

namespace TaskLoop

/-- When a run ends before its last iteration. -/
inductive Completion where
  | firstSuccess
  | allIterations
  deriving DecidableEq, Repr, Inhabited

namespace Completion

/-- The name of a condition in files. -/
def name : Completion → String
  | firstSuccess => "first_success"
  | allIterations => "all_iterations"

/-- The condition of a name. -/
def ofName? (name : String) : Option Completion :=
  [firstSuccess, allIterations].find? fun condition => condition.name == name

/-- The condition of a name in any letter case, with hyphens or underscores. -/
def ofText? (text : String) : Option Completion :=
  ofName? (String.ofList ((Text.lower text.toList).map fun c => if c == '-' then '_' else c))

/-- The condition of a name, or why there is none. -/
def read (text : String) : Except Failure Completion :=
  match ofText? text with
  | some condition => .ok condition
  | none => .error (.root ("Invalid completion condition '" ++ text
      ++ "'. Valid values: first_success, all_iterations"))

end Completion

/-- The bounds and the rhythm of a run. -/
structure EngineSettings where
  maxIterations : Nat := 10
  maxRetries : Nat := 3
  minRetries : Nat := 1
  adaptive : Bool := false
  checkpointInterval : Nat := 5
  contextAttempts : Nat := 1
  completion : Completion := .firstSuccess
  deriving DecidableEq, Repr, Inhabited

/-- Where artifacts come from. -/
structure GeneratorSettings where
  useTemplate : Bool := true
  endpoint : String := "http://localhost:11434"
  model : String := "codellama"
  timeoutSeconds : Nat := 120
  deriving DecidableEq, Repr, Inhabited

/-- How artifacts are built; without a command every build passes. -/
structure BuildSettings where
  command : Option String := none
  workingDir : Option String := none
  artifactPath : Option String := none
  timeoutSeconds : Nat := 300
  deriving DecidableEq, Repr, Inhabited

/-- When an earlier failure counts as like a new one, and how many of them are used. -/
structure SimilaritySettings where
  threshold : Float := ErrorIndex.defaultThreshold
  top : Nat := ErrorIndex.defaultTop
  deriving BEq

/-- The settings of a project as they stand in its file. -/
structure Settings where
  name : Option String := none
  engine : EngineSettings := {}
  budgets : CategoryBudgets := {}
  ceiling : Nat := attemptCeiling
  generator : GeneratorSettings := {}
  build : BuildSettings := {}
  similarity : SimilaritySettings := {}
  deriving BEq

/-- A setting that does no harm but may not do what was meant. -/
inductive SettingsWarning where
  | adaptiveIdle (retries : Nat)
  | budgetClamped (name : String) (budget most : Nat)
  | noBuildCommand
  | noEndpoint
  deriving DecidableEq, Repr

/-- The words of a warning. -/
def SettingsWarning.message : SettingsWarning → String
  | adaptiveIdle retries =>
    s!"adaptive_retries has no effect when min_retries == max_retries ({retries})"
  | budgetClamped name budget most =>
    s!"retry.{name} = {budget} exceeds max_retries = {most} and will be clamped"
  | noBuildCommand => "No [build] command configured: compilation always passes"
  | noEndpoint => "use_mock = false but generator.endpoint is empty"

/-- Whether a text holds nothing but blanks. -/
def isBlankText (text : String) : Bool := (Text.trim text.toList).isEmpty

namespace Settings

/-- The command that builds, if one is set that is not blank. -/
def buildCommand? (settings : Settings) : Option String :=
  settings.build.command.filter fun command => !isBlankText command

/-- The bounds on attempts. -/
def retryPolicy (settings : Settings) : RetryPolicy where
  minRetries := settings.engine.minRetries
  maxRetries := settings.engine.maxRetries
  adaptive := settings.engine.adaptive
  budgets := settings.budgets
  ceiling := settings.ceiling

/-- The budgets of the categories by the names they have in files. -/
def namedBudgets (settings : Settings) : List (String × Nat) :=
  [("syntax", settings.budgets.syntactic), ("reference", settings.budgets.reference),
    ("type_error", settings.budgets.typing), ("runtime", settings.budgets.runtime),
    ("baseline", settings.budgets.baseline)]

/-- What may not do what was meant. -/
def warnings (settings : Settings) : List SettingsWarning :=
  let engine := settings.engine
  let idle :=
    if engine.adaptive && engine.minRetries == engine.maxRetries then
      [SettingsWarning.adaptiveIdle engine.maxRetries]
    else []
  let clamped := settings.namedBudgets.filterMap fun (name, budget) =>
    if engine.adaptive && engine.maxRetries < budget then
      some (SettingsWarning.budgetClamped name budget engine.maxRetries)
    else none
  let unbuilt := if settings.buildCommand?.isNone then [SettingsWarning.noBuildCommand] else []
  let unreachable :=
    if !settings.generator.useTemplate && isBlankText settings.generator.endpoint then
      [SettingsWarning.noEndpoint]
    else []
  idle ++ clamped ++ unbuilt ++ unreachable

/-- The settings that must not be nought. -/
def positiveKeys (settings : Settings) : List (String × Nat) :=
  [("engine.context_attempts", settings.engine.contextAttempts),
    ("similarity.top_k", settings.similarity.top),
    ("generator.timeout_secs", settings.generator.timeoutSeconds),
    ("build.timeout_secs", settings.build.timeoutSeconds)]

/-- Refuses settings that no run could start with, and else returns the warnings. -/
def validate (settings : Settings) : Except SettingsError (List SettingsWarning) := do
  if settings.engine.maxIterations == 0 then throw (.noIterations 0)
  settings.retryPolicy.validate
  if !ErrorIndex.thresholdIsValid settings.similarity.threshold then
    throw (.threshold settings.similarity.threshold)
  match settings.positiveKeys.find? fun entry => entry.2 == 0 with
  | some (key, _) => throw (.badValue key "must be at least 1")
  | none => return settings.warnings

end Settings

end TaskLoop
