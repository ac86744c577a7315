import TaskLoop.Settings.Basic

/-!
Settings from outside the file: variables of the environment, and choices made on the command
line, which come last.
-/

set_option autoImplicit false

namespace TaskLoop

/-- Where variables of the environment are looked up. -/
abbrev Environment := String → Option String

namespace Environment

/-- The value of a 32-bit natural number in digits, with an optional plus sign. -/
def number? (text : String) : Option Nat :=
  match Text.trim text.toList with
  | '+' :: digits => Decimal.natBelow? (powerOfTwo 32) digits
  | digits => Decimal.natBelow? (powerOfTwo 32) digits

/-- A natural number from a variable, if it is set. -/
def nat? (environment : Environment) (key : String) : Except SettingsError (Option Nat) :=
  match environment key with
  | none => .ok none
  | some text =>
    match number? text with
    | some value => .ok (some value)
    | none =>
      .error (.badValue key ("expected a non-negative integer, got '" ++ text ++ "'"))

/-- A truth value from a variable, if it is set. -/
def bool? (environment : Environment) (key : String) : Except SettingsError (Option Bool) :=
  match environment key with
  | none => .ok none
  | some text =>
    let word := String.ofList (Text.lower (Text.trim text.toList))
    if ["1", "true", "yes", "on"].contains word then .ok (some true)
    else if ["0", "false", "no", "off"].contains word then .ok (some false)
    else .error (.badValue key ("expected a boolean, got '" ++ text ++ "'"))

end Environment

/-- Choices made on the command line; what is missing stays as it was. -/
structure Overrides where
  maxIterations : Option Nat := none
  maxRetries : Option Nat := none
  adaptive : Option Bool := none
  checkpointInterval : Option Nat := none
  useTemplate : Option Bool := none
  deriving DecidableEq, Repr, Inhabited

namespace Settings

/-- The settings with what the environment says in place of what the file says. -/
def withEnvironment (settings : Settings) (environment : Environment) :
    Except SettingsError Settings := do
  let engine := settings.engine
  let generator := settings.generator
  let maxIterations := (← environment.nat? "RELOOP_MAX_ITERATIONS").getD engine.maxIterations
  let maxRetries := (← environment.nat? "RELOOP_MAX_RETRIES").getD engine.maxRetries
  let useTemplate := (← environment.bool? "RELOOP_USE_MOCK").getD generator.useTemplate
  let endpoint := (environment "RELOOP_GENERATOR_ENDPOINT").filter fun text => !isBlankText text
  let endpoint := (endpoint.map fun text => String.ofList (Text.trim text.toList)).getD
    generator.endpoint
  return { settings with
    engine := { engine with maxIterations := maxIterations, maxRetries := maxRetries }
    generator := { generator with useTemplate := useTemplate, endpoint := endpoint } }

/-- The settings with the choices made on the command line. -/
def withOverrides (settings : Settings) (overrides : Overrides) : Settings :=
  let engine := settings.engine
  let generator := settings.generator
  { settings with
    engine := { engine with
      maxIterations := overrides.maxIterations.getD engine.maxIterations
      maxRetries := overrides.maxRetries.getD engine.maxRetries
      adaptive := overrides.adaptive.getD engine.adaptive
      checkpointInterval := overrides.checkpointInterval.getD engine.checkpointInterval }
    generator := { generator with
      useTemplate := overrides.useTemplate.getD generator.useTemplate } }

end Settings

end TaskLoop
