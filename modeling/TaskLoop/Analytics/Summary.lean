import TaskLoop.Arithmetic
import TaskLoop.ErrorIndex
import TaskLoop.Iteration
import TaskLoop.Pattern.Table
import TaskLoop.Window

/-!
What a history of iterations amounts to: rates, averages, timings, where failures happen, and
which way things are going.
-/

set_option autoImplicit false

namespace TaskLoop.Analytics

/-- The spread of a phase's durations in seconds. -/
structure PhaseTiming (α : Type) where
  samples : Nat
  mean : α
  variance : α
  least : α
  most : α
  total : α

/-- Which way a sequence of outcomes is going. -/
inductive Trend where
  | improving
  | declining
  | stable
  | insufficient
  deriving DecidableEq, Repr

/-- The name of a trend in reports. -/
def Trend.name : Trend → String
  | improving => "improving"
  | declining => "declining"
  | stable => "stable"
  | insufficient => "insufficient data"

/-- A pattern and which way it is going. -/
structure PatternTrend (α : Type) where
  key : String
  usage : Nat
  successRate : α
  avgRetries : α
  avgDuration : α
  trend : Trend

/-- A phase and an attempt in which failures happen. -/
structure FailurePoint where
  phase : Phase
  attempt : Nat
  deriving DecidableEq, Repr

namespace FailurePoint

/-- By phase, then by attempt. -/
def compareOrder : FailurePoint → FailurePoint → Ordering :=
  compareLex (compareOn phase) (compareOn attempt)

instance : Ord FailurePoint := ⟨compareOrder⟩

instance : Std.TransOrd FailurePoint :=
  inferInstanceAs (Std.TransCmp (compareLex (compareOn phase) (compareOn attempt)))

instance : Std.LawfulEqOrd FailurePoint where
  eq_of_compare := by
    intro left right same
    obtain ⟨phases, attempts⟩ := Ordering.then_eq_eq.1 same
    cases left
    cases right
    cases @Std.LawfulEqCmp.eq_of_compare Phase compare _ _ _ phases
    cases @Std.LawfulEqCmp.eq_of_compare Nat compare _ _ _ attempts
    rfl
  compare_self := by
    intro point
    exact Std.ReflCmp.compare_self

end FailurePoint

/-- Everything a report is made from. -/
structure Summary (α : Type) where
  total : Nat
  successful : Nat
  failed : Nat
  successRate : α
  recentRate : α
  averageRetries : α
  averageSeconds : α
  totalSeconds : α
  timings : OrderedMap Phase (PhaseTiming α)
  categories : List (Category × Nat)
  failurePoints : List (FailurePoint × Nat)
  trends : List (PatternTrend α)
  movingSuccess : List α
  errors : ErrorStatistics

section Counting

variable {κ : Type} [Ord κ] [Std.TransOrd κ] [Std.LawfulEqOrd κ]

/-- How often each key occurs. -/
def tally (keys : List κ) : OrderedMap κ Nat :=
  keys.foldl (fun counts key => counts.insert key ((counts.find? key).getD 0 + 1)) .empty

/-- Keys with their counts, the largest count first and equal ones in the order of the keys. -/
def byCount (counts : OrderedMap κ Nat) : List (κ × Nat) :=
  counts.entries.mergeSort fun left right => right.2 ≤ left.2

end Counting

/-- How many of the latest iterations count as recent. -/
def recentWindow : Nat := 10

/-- How many outcomes one side of a trend has. -/
def trendWindow : Nat := 3

/-- How many iterations a moving average spans. -/
def movingWindow : Nat := 3

section Measures

variable {α : Type} [Arithmetic α]

/-- A share of a whole; nought of nothing. -/
def rate (part whole : Nat) : α :=
  if whole == 0 then Arithmetic.zero else Arithmetic.ofNat part / Arithmetic.ofNat whole

/-- The share of successes among outcomes. -/
def successShare (outcomes : List Bool) : α := rate (outcomes.count true) outcomes.length

/-- Milliseconds in seconds. -/
def inSeconds (milliseconds : Nat) : α :=
  Arithmetic.ofNat milliseconds / Arithmetic.ofNat 1000

/-- The spread of durations, of which there is at least one. -/
def PhaseTiming.ofSamples (first : α) (rest : List α) : PhaseTiming α :=
  let samples := first :: rest
  let count : α := Arithmetic.ofNat samples.length
  let total := Arithmetic.sum samples
  let mean := total / count
  { samples := samples.length
    mean := mean
    variance := Arithmetic.sum (samples.map fun s => (s - mean) * (s - mean)) / count
    least := rest.foldl Arithmetic.least first
    most := rest.foldl Arithmetic.most first
    total := total }

/-- The durations of a phase in the iterations that have one. -/
def samplesOf (history : List Iteration) (phase : Phase) : List α :=
  history.filterMap fun iteration => (iteration.durations.find? phase).map inSeconds

/-- The spread of the durations of each phase that has any. -/
def timings (history : List Iteration) : OrderedMap Phase (PhaseTiming α) :=
  OrderedMap.ofList (Phase.all.filterMap fun phase =>
    match samplesOf history phase with
    | [] => none
    | first :: rest => some (phase, PhaseTiming.ofSamples first rest))

/-- Compares the latest three outcomes with the three before them; a tenth more or less makes a
trend. -/
def trendOf (α : Type) [Arithmetic α] (outcomes : List Bool) : Trend :=
  if outcomes.length < trendWindow then .insufficient
  else
    let recent : α := successShare (lastItems trendWindow outcomes)
    let earlier : α :=
      successShare (lastItems trendWindow (outcomes.take (outcomes.length - trendWindow)))
    let margin : α := Arithmetic.quotient 1 10
    if Arithmetic.less (earlier + margin) recent then .improving
    else if Arithmetic.less recent (earlier - margin) then .declining
    else .stable

/-- The outcomes of a phase in the iterations where it came to an end. -/
def phaseOutcomes (history : List Iteration) (phase : Phase) : List Bool :=
  history.filterMap fun iteration =>
    match iteration.status.find? phase with
    | some .completed => some true
    | some .failed => some false
    | _ => none

/-- The outcomes a pattern's key is about: those of its phase. -/
def keyOutcomes (history : List Iteration) (key : String) : List Bool :=
  match Phase.all.find? fun phase => phase.patternId == (Pattern.splitKey key).1 with
  | some phase => phaseOutcomes history phase
  | none => []

/-- Every pattern with its direction. -/
def trends (history : List Iteration) (table : Pattern.Table α) : List (PatternTrend α) :=
  table.entries.map fun (key, record) =>
    { key := key
      usage := record.usage
      successRate := record.successRate
      avgRetries := record.avgRetries
      avgDuration := record.avgDuration
      trend := trendOf α (keyOutcomes history key) }

/-- The share of successes in the three outcomes up to each one; nothing below three. -/
def movingSuccess (outcomes : List Bool) : List α :=
  if outcomes.length < movingWindow then []
  else (List.range outcomes.length).map fun i =>
    successShare (lastItems movingWindow (outcomes.take (i + 1)))

/-- Sums up a history together with the learnt patterns and the known errors. -/
def summarize {β : Type} (history : List Iteration) (table : Pattern.Table α)
    (errors : ErrorIndex β) : Summary α :=
  let outcomes := history.map (·.success)
  let successful := outcomes.count true
  let failures := history.flatMap (·.failures)
  let average (total : α) : α :=
    if history.isEmpty then Arithmetic.zero else total / Arithmetic.ofNat history.length
  let seconds : α := Arithmetic.sum (history.map fun iteration => inSeconds iteration.totalDuration)
  { total := history.length
    successful := successful
    failed := history.length - successful
    successRate := rate successful history.length
    recentRate := successShare (lastItems recentWindow outcomes)
    averageRetries := average (Arithmetic.sum (history.map fun iteration =>
      Arithmetic.ofNat iteration.attempts))
    averageSeconds := average seconds
    totalSeconds := seconds
    timings := timings history
    categories := byCount (tally (failures.map (·.category)))
    failurePoints := byCount (tally (failures.map fun failure => ⟨failure.phase, failure.attempt⟩))
    trends := trends history table
    movingSuccess := movingSuccess outcomes
    errors := errors.statistics }

end Measures

end TaskLoop.Analytics
