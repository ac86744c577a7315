import TaskLoop.Text.Case
import TaskLoop.Text.Words
import TaskLoop.Decimal.Shortest
import TaskLoop.Json.Decode

/-!
What came of building an artifact, and the part of it that tells why it failed.
-/

set_option autoImplicit false

namespace TaskLoop

/-- The result of one build. -/
structure BuildOutcome where
  success : Bool := false
  exitCode : Option Int := none
  errors : List String := []
  stdout : String := ""
  stderr : String := ""
  deriving DecidableEq, Repr, Inhabited

namespace BuildOutcome

/-- Reads a result; what is missing is taken to be of no interest. -/
def ofJson? (json : Json) : Option BuildOutcome := do
  let fields ← json.fields? ["success", "exit_code", "errors", "stdout", "stderr"]
  return {
    success := ← fields.orElse "success" Json.bool? false
    exitCode := ← fields.optional "exit_code" Json.integer?
    errors := ← fields.orElse "errors" (Json.list? Json.string?) []
    stdout := ← fields.orElse "stdout" Json.string? ""
    stderr := ← fields.orElse "stderr" Json.string? "" }

/-- A build that went well. -/
def passed : BuildOutcome := { success := true }

/-- A build that failed for a known reason. -/
def failed (reason : String) : BuildOutcome := { errors := [reason] }

/-- Why a build failed: its error lines, else what it wrote to standard error, else its exit
code. -/
def errorText (outcome : BuildOutcome) : String :=
  if !outcome.errors.isEmpty then "\n".intercalate outcome.errors
  else
    let stderr := Text.trim outcome.stderr.toList
    if !stderr.isEmpty then String.ofList stderr
    else match outcome.exitCode with
      | some code => "build failed with exit code " ++ String.ofList (Decimal.integerText code)
      | none => "build failed"

/-- The words that make a line of build output a line about an error. -/
def errorWords : List String :=
  ["error", "undefined reference", "fatal", "segmentation fault", "panicked"]

/-- How many error lines are kept. -/
def maxErrorLines : Nat := 20

/-- The lines of build output that are about errors, without blanks at their ends. -/
def errorLines (output : String) : List String :=
  let trimmed := (Text.lines output.toList).map Text.trim
  let about := trimmed.filter fun line =>
    errorWords.any fun word => Text.contains word.toList (Text.lower line)
  (about.take maxErrorLines).map String.ofList

/-- The result of a command that ended with an exit code, or without one when it was killed. -/
def ofCommand (exitCode : Option Int) (stdout stderr : String) : BuildOutcome :=
  let success := exitCode == some 0
  let fromStderr := errorLines stderr
  { success := success
    exitCode := exitCode
    errors :=
      if success then [] else if fromStderr.isEmpty then errorLines stdout else fromStderr
    stdout := stdout
    stderr := stderr }

/-- The result of a command that ran out of time. -/
def timedOut (seconds : Nat) : BuildOutcome :=
  failed s!"build timed out after {seconds} seconds"

end BuildOutcome

end TaskLoop
