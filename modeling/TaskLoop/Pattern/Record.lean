import TaskLoop.Arithmetic
import TaskLoop.ErrorIndex
import TaskLoop.Json.Decode
import TaskLoop.Timestamp

/-!
What past outcomes say about one kind of work: how often it was tried, how often it went well,
and the averages of its attempts and durations.
-/

set_option autoImplicit false

namespace TaskLoop

/-- A span of time. -/
structure Duration where
  seconds : Nat
  nanos : Nat
  deriving DecidableEq, Repr

namespace Duration

/-- A span of seconds and nanoseconds, of which there may be more than a second holds. -/
def ofParts (seconds nanos : Nat) : Duration :=
  ⟨seconds + nanos / 1000000000, nanos % 1000000000⟩

/-- A whole number of milliseconds. -/
def ofMilliseconds (milliseconds : Nat) : Duration :=
  ⟨milliseconds / 1000, milliseconds % 1000 * 1000000⟩

/-- The span in seconds. -/
def inSeconds {α : Type} [Arithmetic α] (duration : Duration) : α :=
  Arithmetic.ofNat duration.seconds + Arithmetic.ofNat duration.nanos / Arithmetic.ofNat 1000000000

end Duration

/-- One outcome of a phase. -/
structure Outcome where
  success : Bool
  duration : Duration
  retries : Nat
  deriving DecidableEq, Repr

/-- The outcomes of one kind of work, counted and averaged. -/
structure PatternRecord (α : Type) where
  usage : Nat
  successes : Nat
  avgRetries : α
  avgDuration : α
  avgSuccessRetries : α
  lastUpdated : Option Timestamp

namespace PatternRecord

variable {α : Type} [Arithmetic α]

/-- No outcomes yet. -/
def empty : PatternRecord α :=
  ⟨0, 0, Arithmetic.zero, Arithmetic.zero, Arithmetic.zero, none⟩

/-- The share of outcomes that were successes. -/
def successRate (record : PatternRecord α) : α :=
  if record.usage == 0 then Arithmetic.zero
  else Arithmetic.ofNat record.successes / Arithmetic.ofNat record.usage

/-- The mean of `count` values, one of them new, from the mean of the others. -/
def nextMean (mean value : α) (count : Nat) : α :=
  mean + (value - mean) / Arithmetic.ofNat count

/-- Takes one more outcome into the counts and averages. -/
def observe (record : PatternRecord α) (outcome : Outcome) (now : Timestamp) : PatternRecord α :=
  let usage := record.usage + 1
  let successes := if outcome.success then record.successes + 1 else record.successes
  let retries : α := Arithmetic.ofNat outcome.retries
  { usage := usage
    successes := successes
    avgRetries := nextMean record.avgRetries retries usage
    avgDuration := nextMean record.avgDuration outcome.duration.inSeconds usage
    avgSuccessRetries :=
      if outcome.success then nextMean record.avgSuccessRetries retries successes
      else record.avgSuccessRetries
    lastUpdated := some now }

/-- The mean of two means weighted by their counts. -/
def weighted (left : α) (leftCount : Nat) (right : α) (rightCount : Nat) : α :=
  if leftCount + rightCount == 0 then Arithmetic.zero
  else (left * Arithmetic.ofNat leftCount + right * Arithmetic.ofNat rightCount)
    / Arithmetic.ofNat (leftCount + rightCount)

/-- The later of two times; no time is earlier than any. -/
def later : Option Timestamp → Option Timestamp → Option Timestamp
  | none, right => right
  | left, none => left
  | some left, some right => some (if left.le right then right else left)

/-- The outcomes of two records together. -/
def merged (left right : PatternRecord α) : PatternRecord α where
  usage := left.usage + right.usage
  successes := left.successes + right.successes
  avgRetries := weighted left.avgRetries left.usage right.avgRetries right.usage
  avgDuration := weighted left.avgDuration left.usage right.avgDuration right.usage
  avgSuccessRetries :=
    weighted left.avgSuccessRetries left.successes right.avgSuccessRetries right.successes
  lastUpdated := later left.lastUpdated right.lastUpdated

/-- Why a record with a key cannot be one of outcomes. -/
def flaw? (record : PatternRecord α) (key : String) : Option String :=
  let broken (average : α) : Bool :=
    !Arithmetic.isFinite average || Arithmetic.less average Arithmetic.zero
  if record.usage < record.successes then
    some s!"{key}: success_count {record.successes} exceeds usage_count {record.usage}"
  else if [record.avgRetries, record.avgDuration, record.avgSuccessRetries].any broken then
    some s!"{key}: averages must be finite and non-negative"
  else none

/-- The members of a record in a file. -/
def toJson (record : PatternRecord α) : Json :=
  .object ([("usage_count", .ofNat record.usage), ("success_count", .ofNat record.successes),
    ("avg_retries", Arithmetic.toJson record.avgRetries),
    ("avg_duration", Arithmetic.toJson record.avgDuration),
    ("avg_success_retries", Arithmetic.toJson record.avgSuccessRetries)]
    ++ Json.optionalMember "last_updated" .ofTimestamp record.lastUpdated)

/-- Reads a record. -/
def ofJson? (json : Json) : Option (PatternRecord α) := do
  let fields ← json.fields? ["usage_count", "success_count", "avg_retries", "avg_duration",
    "avg_success_retries", "last_updated"]
  let average (name : String) : Option α :=
    fields.orElse name Arithmetic.ofJson? Arithmetic.zero
  return {
    usage := ← fields.orElse "usage_count" Json.nat64? 0
    successes := ← fields.orElse "success_count" Json.nat64? 0
    avgRetries := ← average "avg_retries"
    avgDuration := ← average "avg_duration"
    avgSuccessRetries := ← average "avg_success_retries"
    lastUpdated := ← fields.optional "last_updated" Json.timestamp? }

end PatternRecord

end TaskLoop
