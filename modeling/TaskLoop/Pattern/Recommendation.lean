import TaskLoop.Pattern.Table
import TaskLoop.Retry

/-!
What past outcomes suggest for the next attempt at a phase. Attempts are summed in 64 bits.
-/

set_option autoImplicit false

namespace TaskLoop

/-- What becomes of a program where a sum does not fit in 64 bits: it stops, or it goes on with the
sum wrapped around. This is settled when a program is built. -/
inductive Overflow where
  | stops
  | wraps
  deriving DecidableEq, Repr

namespace Overflow

/-- Whether a number fits in 64 bits with a sign. -/
def fits (value : Int) : Bool := -(powerOfTwo 63 : Int) ≤ value && value < (powerOfTwo 63 : Int)

/-- The sum of two numbers, unless the program stops over it. -/
def add? (overflow : Overflow) (left right : Int) : Option Int :=
  if fits (left + right) then some (left + right)
  else match overflow with
    | stops => none
    | wraps => some (Int.bmod (left + right) (powerOfTwo 64))

/-- How the programs that are handed out are built. -/
def released : Overflow := wraps

end Overflow

namespace Pattern

/-- The records a recommendation rests on. -/
inductive Basis where
  | bucket
  | phase
  | default
  deriving DecidableEq, Repr

namespace Basis

/-- The name of a basis in answers. -/
def name : Basis → String
  | bucket => "bucket"
  | phase => "phase"
  | default => "default"

/-- The name of a basis in reports. -/
def title : Basis → String
  | bucket => "Bucket"
  | phase => "Phase"
  | default => "Default"

end Basis

/-- An estimate for a phase. -/
structure Recommendation (α : Type) where
  phase : String
  complexity : Option Complexity
  successProbability : α
  suggestedRetries : Nat
  estimatedSeconds : α
  confidence : α
  samples : Nat
  basis : Basis

/-- The members of a recommendation in an answer. -/
def Recommendation.toJson {α : Type} [Arithmetic α] (advice : Recommendation α) : Json :=
  .object [("phase_id", .string advice.phase),
    ("complexity", .ofOption (fun complexity => .string complexity.name) advice.complexity),
    ("success_probability", Arithmetic.toJson advice.successProbability),
    ("suggested_retries", .ofNat advice.suggestedRetries),
    ("estimated_duration_secs", Arithmetic.toJson advice.estimatedSeconds),
    ("confidence", Arithmetic.toJson advice.confidence),
    ("sample_size", .ofNat advice.samples), ("basis", .string advice.basis.name)]

/-- The attempts suggested when nothing is known about a phase. -/
def defaultRetries : Nat := 3

section

variable {α : Type} [Arithmetic α]

/-- The attempts a record calls for before bounds apply: a fifth more than its successes took on
average, or without a success one more than was spent, three at least. -/
def baseRetries? (overflow : Overflow) (record : PatternRecord α) : Option Int :=
  if 0 < record.successes then
    some (Arithmetic.ceiling (record.avgSuccessRetries * Arithmetic.quotient 12 10))
  else (overflow.add? (Arithmetic.ceiling record.avgRetries) 1).map fun more =>
    max more defaultRetries

/-- An attempt count within the bounds that settings must keep. -/
def clampRetries (retries : Int) : Nat := (max 1 (min retries attemptCeiling)).toNat

/-- The attempts a record calls for with an adjustment, within bounds. -/
def suggestedRetries? (overflow : Overflow) (record : PatternRecord α) (adjustment : Int) :
    Option Nat := do
  let base ← baseRetries? overflow record
  return clampRetries (← overflow.add? base adjustment)

/-- The estimate from one record, unless the program stops over the attempts. -/
def ofRecord? (overflow : Overflow) (phase : String) (complexity : Option Complexity)
    (record : PatternRecord α) (adjustment : Int) (basis : Basis) : Option (Recommendation α) :=
  (suggestedRetries? overflow record adjustment).map fun retries =>
    { phase := phase
      complexity := complexity
      successProbability := record.successRate
      suggestedRetries := retries
      estimatedSeconds := record.avgDuration
      confidence :=
        Arithmetic.least (Arithmetic.ofNat record.usage / Arithmetic.ofNat 5) Arithmetic.one
      samples := record.usage
      basis := basis }

/-- One attempt less for a small task, one more for a large one. -/
def adjustment : Option Complexity → Int
  | some .low => -1
  | some .high => 1
  | _ => 0

/-- The record of a key, if any outcome was counted in it. -/
def Table.used? (table : Table α) (key : String) : Option (PatternRecord α) :=
  (table.find? key).filter fun record => 0 < record.usage

/-- The estimate for a phase: from its record at the task's complexity if that has outcomes, else
from the phase's record with an adjustment, else a default. There is none if the program stops
over it. -/
def Table.recommend? (overflow : Overflow) (table : Table α) (phase : String)
    (complexity : Option Complexity) : Option (Recommendation α) :=
  let phaseKey := key phase none
  let bucket := complexity.bind fun _ => table.used? (key phase complexity)
  match bucket, table.used? phaseKey with
  | some record, _ => ofRecord? overflow phaseKey complexity record 0 .bucket
  | none, some record =>
    ofRecord? overflow phaseKey complexity record (adjustment complexity) .phase
  | none, none => some
    { phase := phaseKey
      complexity := complexity
      successProbability := Arithmetic.quotient 1 2
      suggestedRetries := defaultRetries
      estimatedSeconds := Arithmetic.zero
      confidence := Arithmetic.zero
      samples := 0
      basis := .default }

end

end Pattern

end TaskLoop
