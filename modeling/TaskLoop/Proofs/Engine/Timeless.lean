import TaskLoop.Engine.Run
import TaskLoop.Proofs.OrderedMap

/-!
What is left of sessions, iterations and stores without points in time and spans of time. What an
engine learns and what it suggests can be told from that alone.
-/

set_option autoImplicit false

namespace TaskLoop

/-- Stands for every point in time. -/
def Timestamp.anyTime : Timestamp := ⟨0, 0⟩

/-- The influence without its time. -/
def Influence.timeless (influence : Influence) : Influence :=
  { influence with recordedAt := .anyTime }

/-- The session without its identifier and its times. -/
def Session.timeless (session : Session) : Session :=
  { session with
    id := ""
    createdAt := .anyTime
    influences := session.influences.map Influence.timeless }

/-- The iteration without its start and its durations. -/
def Iteration.timeless (iteration : Iteration) : Iteration :=
  { iteration with durations := .empty, startedAt := .anyTime }

/-- The result without the times of its iteration. -/
def IterationResult.timeless (result : IterationResult) : IterationResult :=
  { result with iteration := result.iteration.timeless }

/-- The outcome without its duration. -/
def Outcome.timeless (outcome : Outcome) : Outcome := { outcome with duration := ⟨0, 0⟩ }

/-- The record without its times. -/
def ErrorRecord.timeless (record : ErrorRecord) : ErrorRecord :=
  { record with firstSeen := .anyTime, lastSeen := .anyTime }

/-- The index without the times of its records. -/
def ErrorIndex.timeless {α : Type} (index : ErrorIndex α) : ErrorIndex α :=
  { index with records := index.records.mapValues fun _ record => record.timeless }

/-- The record without the mean of its durations and its time. -/
def PatternRecord.timeless {α : Type} [Arithmetic α] (record : PatternRecord α) :
    PatternRecord α :=
  { record with avgDuration := Arithmetic.zero, lastUpdated := none }

/-- The table without the durations and times of its records. -/
def Pattern.Table.timeless {α : Type} [Arithmetic α] (table : Pattern.Table α) :
    Pattern.Table α :=
  table.mapValues fun _ record => record.timeless

/-! ### Sessions and iterations -/

namespace Session

variable {session other : Session}

theorem timeless_recordInfluence (same : session.timeless = other.timeless)
    (iteration : Nat) (decision : Decision) (annotations : List String) (confidence : Float)
    (now time : Timestamp) :
    (session.recordInfluence iteration decision annotations confidence now).timeless =
      (other.recordInfluence iteration decision annotations confidence time).timeless := by
  have influences := congrArg Session.influences same
  simp only [timeless] at same influences
  simp only [timeless, recordInfluence, List.map_append, influences]
  simp only [mk.injEq] at same ⊢
  simp only [same, true_and]
  rfl

theorem timeless_adoptStrategy (same : session.timeless = other.timeless) (strategy : Strategy) :
    (Engine.adoptStrategy strategy session).timeless =
      (Engine.adoptStrategy strategy other).timeless := by
  unfold Engine.adoptStrategy
  split
  · exact same
  · simp only [timeless, mk.injEq] at same ⊢
    simp only [same, and_self]

end Session

namespace Iteration

variable {iteration other : Iteration}

theorem timeless_beginAttempt (same : iteration.timeless = other.timeless) (attempt : Nat) :
    (Engine.beginAttempt attempt iteration).timeless =
      (Engine.beginAttempt attempt other).timeless := by
  simp only [timeless, Engine.beginAttempt, mk.injEq] at same ⊢
  simp only [same, and_self]

theorem timeless_addFailure (same : iteration.timeless = other.timeless) (attempt : Nat)
    (failure : AttemptFailure) :
    (Engine.addFailure attempt failure iteration).timeless =
      (Engine.addFailure attempt failure other).timeless := by
  simp only [timeless, Engine.addFailure, mk.injEq] at same ⊢
  simp only [same, and_self]

theorem timeless_phaseOutcome? (same : iteration.timeless = other.timeless) (phase : Phase) :
    (Engine.phaseOutcome? iteration phase).map Outcome.timeless =
      (Engine.phaseOutcome? other phase).map Outcome.timeless := by
  have status : iteration.status = other.status := by
    simpa only [timeless] using congrArg Iteration.status same
  have attempts : iteration.attempts = other.attempts := by
    simpa only [timeless] using congrArg Iteration.attempts same
  simp only [Engine.phaseOutcome?, status, attempts]
  cases (other.status.find? phase).getD .pending <;> rfl

theorem timeless_result (same : iteration.timeless = other.timeless) :
    (IterationResult.of iteration).timeless = (IterationResult.of other).timeless := by
  have success : iteration.success = other.success := by
    simpa only [timeless] using congrArg Iteration.success same
  have failures : iteration.failures = other.failures := by
    simpa only [timeless] using congrArg Iteration.failures same
  simp only [IterationResult.of, IterationResult.timeless, same, success, lastFailure?, failures]

end Iteration

/-! ### The error index -/

namespace ErrorIndex

variable {α : Type} (index : ErrorIndex α)

theorem timeless_find? (hash : String) :
    index.timeless.records.find? hash = (index.records.find? hash).map ErrorRecord.timeless :=
  OrderedMap.find?_mapValues _ _ _

theorem timeless_insert (hash : String) (record : ErrorRecord) :
    ({ index with records := index.records.insert hash record } : ErrorIndex α).timeless =
      { index.timeless with records := index.timeless.records.insert hash record.timeless } := by
  simp only [timeless, OrderedMap.mapValues_insert]

theorem timeless_recordError (text : String) (now : Timestamp) :
    (index.recordError text now).1.timeless = (index.timeless.recordError text .anyTime).1 ∧
      (index.recordError text now).2.timeless = (index.timeless.recordError text .anyTime).2 := by
  simp only [recordError, timeless_insert, timeless_find?]
  cases index.records.find? (Similarity.errorHash text) with
  | none => exact ⟨rfl, rfl⟩
  | some known => exact ⟨rfl, rfl⟩

theorem timeless_unresolved (hash : String) :
    ((index.timeless.records.find? hash).any fun record => !record.resolved) =
      (index.records.find? hash).any fun record => !record.resolved := by
  rw [timeless_find?]
  cases index.records.find? hash <;> rfl

theorem timeless_markResolved (hash note : String) :
    index.timeless.markResolved hash note =
      (index.markResolved hash note).map fun marked => (marked.1.timeless, marked.2.timeless) := by
  simp only [markResolved, timeless_find?]
  cases index.records.find? hash with
  | none => rfl
  | some known =>
    have flag : known.timeless.resolved = known.resolved := rfl
    simp only [Option.map_some, flag]
    cases known.resolved with
    | true => rfl
    | false =>
      simp only [Bool.false_eq_true, ↓reduceIte, Except.map, timeless_insert]
      rfl

variable [Arithmetic α]

/-- A scored record without the times of its record. -/
def scoredTimeless (entry : ScoredError α) : ScoredError α :=
  { entry with record := entry.record.timeless }

theorem timeless_rank (text : String) (threshold : α) :
    index.timeless.rank text threshold = (index.rank text threshold).map scoredTimeless := by
  have ordered (left right : ScoredError α) :
      rankedBefore left right = rankedBefore (scoredTimeless left) (scoredTimeless right) := rfl
  simp only [rank, timeless, OrderedMap.values_mapValues, List.map_map]
  rw [List.map_mergeSort fun left _ right _ => ordered left right]
  congr 1
  simp only [List.filter_map, List.map_map]
  rfl

/-- What is suggested does not depend on when failures occurred. -/
theorem timeless_suggest (text : String) (top : Nat) :
    index.timeless.suggest text top = index.suggest text top := by
  have noted (entry : ScoredError α) :
      (if (scoredTimeless entry).record.resolved then (scoredTimeless entry).record.note
        else none) = if entry.record.resolved then entry.record.note else none := rfl
  have threshold : index.timeless.threshold = index.threshold := rfl
  simp only [suggest, findSimilar, findSimilarAt, threshold, timeless_rank, ← List.map_take,
    List.filterMap_map, Function.comp_def, noted]

end ErrorIndex

/-! ### The pattern table -/

namespace PatternRecord

variable {α : Type} [Arithmetic α]

theorem timeless_observe (record : PatternRecord α) (outcome : Outcome) (now : Timestamp) :
    (record.observe outcome now).timeless =
      (record.timeless.observe outcome.timeless .anyTime).timeless := rfl

end PatternRecord

namespace Pattern.Table

variable {α : Type} [Arithmetic α]

theorem timeless_observeKey (table : Table α) (key : String) (outcome : Outcome)
    (now : Timestamp) :
    timeless (observeKey table key outcome now) =
      timeless (observeKey (timeless table) key outcome.timeless .anyTime) := by
  have found : ((timeless table).find? key).getD .empty =
      ((table.find? key).getD .empty).timeless := by
    rw [timeless, OrderedMap.find?_mapValues]
    cases table.find? key <;> rfl
  have again : timeless (timeless table) = timeless table := by
    apply OrderedMap.ext_entries
    simp only [timeless, OrderedMap.mapValues, List.map_map]
    rfl
  simp only [observeKey, found]
  rw [timeless, timeless, OrderedMap.mapValues_insert, OrderedMap.mapValues_insert, ← timeless,
    ← timeless, again, PatternRecord.timeless_observe]

/-- What is learnt of an outcome apart from times depends on nothing else. -/
theorem timeless_recordOutcome {table other : Table α} (same : timeless table = timeless other)
    (phase : String) (complexity : Option Complexity) {outcome outcome' : Outcome}
    (alike : outcome.timeless = outcome'.timeless) (now now' after after' : Timestamp) :
    timeless (recordOutcome table phase complexity outcome now after) =
      timeless (recordOutcome other phase complexity outcome' now' after') := by
  have first : timeless (observeKey table (key phase none) outcome now) =
      timeless (observeKey other (key phase none) outcome' now') := by
    rw [timeless_observeKey, same, alike, ← timeless_observeKey]
  cases complexity with
  | none => exact first
  | some complexity =>
    simp only [recordOutcome]
    rw [timeless_observeKey, first, alike, ← timeless_observeKey]

end Pattern.Table

end TaskLoop
