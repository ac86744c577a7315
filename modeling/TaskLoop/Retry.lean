import TaskLoop.Category
import TaskLoop.Failure
import TaskLoop.Json.Decode

/-!
How many attempts an iteration may take: bounds that hold for every failure, and within them a
budget for each kind of failure.
-/

set_option autoImplicit false

namespace TaskLoop

/-- The most attempts any settings may allow. -/
def attemptCeiling : Nat := 8

/-- Attempts for each category of failure before the bounds apply. -/
structure CategoryBudgets where
  syntactic : Nat := 2
  reference : Nat := 3
  typing : Nat := 3
  runtime : Nat := 5
  baseline : Nat := 3
  deriving DecidableEq, Repr, Inhabited

/-- The attempts for a category. -/
def CategoryBudgets.of (budgets : CategoryBudgets) : Category → Nat
  | .syntactic => budgets.syntactic
  | .reference => budgets.reference
  | .typing => budgets.typing
  | .runtime => budgets.runtime
  | .unknown => budgets.baseline

/-- Reads budgets; those that are missing keep their defaults. -/
def CategoryBudgets.ofJson? (json : Json) : Option CategoryBudgets := do
  let fields ← json.fields? ["syntax", "reference", "type_error", "runtime", "baseline"]
  return {
    syntactic := ← fields.orElse "syntax" Json.nat32? 2
    reference := ← fields.orElse "reference" Json.nat32? 3
    typing := ← fields.orElse "type_error" Json.nat32? 3
    runtime := ← fields.orElse "runtime" Json.nat32? 5
    baseline := ← fields.orElse "baseline" Json.nat32? 3 }

/-- Bounds on the attempts of an iteration, and whether the kind of failure counts. -/
structure RetryPolicy where
  minRetries : Nat := 1
  maxRetries : Nat := 3
  adaptive : Bool := false
  budgets : CategoryBudgets := {}
  ceiling : Nat := attemptCeiling
  deriving DecidableEq, Repr, Inhabited

namespace RetryPolicy

/-- Reads bounds; those that are missing keep their defaults. -/
def ofJson? (json : Json) : Option RetryPolicy := do
  let fields ← json.fields? ["min_retries", "max_retries", "adaptive", "budgets", "ceiling"]
  return {
    minRetries := ← fields.orElse "min_retries" Json.nat32? 1
    maxRetries := ← fields.orElse "max_retries" Json.nat32? 3
    adaptive := ← fields.orElse "adaptive" Json.bool? false
    budgets := ← fields.orElse "budgets" CategoryBudgets.ofJson? {}
    ceiling := ← fields.orElse "ceiling" Json.nat32? attemptCeiling }

/-- Whether the bounds leave room for a budget. -/
def isValid (policy : RetryPolicy) : Bool :=
  policy.minRetries != 0 && policy.minRetries ≤ policy.maxRetries
    && policy.maxRetries ≤ policy.ceiling && 1 ≤ policy.ceiling && policy.ceiling ≤ attemptCeiling

/-- Refuses bounds that leave no room for a budget. -/
def validate (policy : RetryPolicy) : Except SettingsError Unit :=
  if policy.isValid then .ok ()
  else .error (.retryBounds policy.minRetries policy.maxRetries policy.ceiling)

/-- The most attempts the policy ever allows. -/
def limit (policy : RetryPolicy) : Nat := min policy.maxRetries policy.ceiling

/-- Refuses a cap on one call's attempts that is zero or beyond the policy's limit. -/
def checkCap (policy : RetryPolicy) (cap : Nat) : Except SettingsError Unit :=
  if cap == 0 || policy.limit < cap then
    .error (.retryBounds policy.minRetries cap policy.limit)
  else .ok ()

/-- The attempts for a failure of a category: the limit, or when the kind of failure counts its
own budget within the bounds. -/
def budgetFor (policy : RetryPolicy) (category : Category) : Nat :=
  if policy.adaptive then
    max policy.minRetries (min (policy.budgets.of category) policy.limit)
  else policy.limit

/-- The attempts for a failure under a cap on one call. -/
def budgetCapped (policy : RetryPolicy) (category : Category) (cap : Nat) : Nat :=
  min (policy.budgetFor category) (max cap 1)

end RetryPolicy

end TaskLoop
