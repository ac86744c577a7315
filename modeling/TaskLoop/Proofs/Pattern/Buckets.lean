import Mathlib.Data.List.Induction
import TaskLoop.Proofs.Pattern.Account
import TaskLoop.Proofs.Pattern.Recordings

/-!
The record of a phase is that of its buckets put together. Each outcome of a phase goes into the
record of the phase and into one part of it, the bucket of its complexity or what came without one,
so in exact arithmetic merging the parts gives the record of the phase, and tables in which it does
can be merged.
-/

set_option autoImplicit false

namespace TaskLoop

open Arithmetic (Exact)

/-- Values taken out of a list by each of the keys they have are all of them. -/
theorem flatMap_filter_perm {α κ : Type} [DecidableEq κ] (keyOf : α → κ) {keys : List κ}
    (once : keys.Nodup) {values : List α} (all : ∀ value ∈ values, keyOf value ∈ keys) :
    (keys.flatMap fun key => values.filter fun value => keyOf value = key).Perm values := by
  induction keys generalizing values with
  | nil =>
    cases values with
    | nil => exact .nil
    | cons value values => exact absurd (all value List.mem_cons_self) List.not_mem_nil
  | cons key keys ih =>
    obtain ⟨apart, once⟩ := List.nodup_cons.mp once
    have others : (keys.flatMap fun other => values.filter fun value => keyOf value = other) =
        keys.flatMap fun other => (values.filter fun value => !decide (keyOf value = key)).filter
          fun value => keyOf value = other := by
      refine List.flatMap_congr fun other member => ?_
      rw [List.filter_filter]
      refine List.filter_congr fun value _ => ?_
      by_cases same : keyOf value = other
      · have differs : other ≠ key := by
          rintro rfl
          exact apart member
        simp [same, differs]
      · simp [same]
    have left : ∀ value ∈ values.filter fun value => !decide (keyOf value = key),
        keyOf value ∈ keys := by
      intro value member
      obtain ⟨member, differs⟩ := List.mem_filter.mp member
      refine (List.mem_cons.mp (all value member)).resolve_left ?_
      simpa using differs
    rw [List.flatMap_cons, others]
    exact ((ih once left).append_left _).trans (List.filter_append_perm _ values)

namespace PatternRecord

/-! ### Outcomes with their times -/

/-- The latest of some times. -/
def latest (observed : List (Outcome × Timestamp)) : Option Timestamp :=
  observed.foldr (fun outcome time => later (some outcome.2) time) none

theorem latest_append (left right : List (Outcome × Timestamp)) :
    latest (left ++ right) = later (latest left) (latest right) := by
  induction left with
  | nil => rfl
  | cons outcome left ih =>
    rw [List.cons_append, latest, List.foldr_cons, ← latest, ih, ← later_assoc]
    rfl

theorem latest_perm {observed others : List (Outcome × Timestamp)} (same : observed.Perm others) :
    latest observed = latest others := by
  refine same.foldr_eq' (fun left _ right _ time => ?_) none
  rw [← later_assoc, later_comm (some right.2), later_assoc]

/-- When times are ascending the last is the latest. -/
theorem latest_eq_getLast? {observed : List (Outcome × Timestamp)}
    (ascending : observed.Pairwise fun before after => before.2.le after.2 = true) :
    latest observed = observed.getLast?.map Prod.snd := by
  induction observed with
  | nil => rfl
  | cons outcome observed ih =>
    obtain ⟨first, ascending⟩ := List.pairwise_cons.mp ascending
    rw [latest, List.foldr_cons, ← latest, ih ascending]
    cases last : observed.getLast? with
    | none => rw [List.getLast?_eq_none_iff.mp last]; rfl
    | some final =>
      have before := first final (List.mem_of_getLast? last)
      rw [List.getLast?_cons, last, Option.map_some, later, if_pos before]
      rfl

/-- The record of some outcomes, if there are any, at a time. -/
def recordOf (outcomes : List Outcome) (updated : Option Timestamp) : Option (PatternRecord ℚ) :=
  if outcomes = [] then none else some (summary outcomes updated)

theorem joined_recordOf (left right : List (Outcome × Timestamp)) :
    joined (recordOf (left.map Prod.fst) (latest left))
        (recordOf (right.map Prod.fst) (latest right)) =
      recordOf ((left ++ right).map Prod.fst) (latest (left ++ right)) := by
  cases left with
  | nil => exact none_joined _
  | cons first left =>
    cases right with
    | nil =>
      rw [List.append_nil]
      exact joined_none _
    | cons second right =>
      have both : joined (some (summary ((first :: left).map Prod.fst) (latest (first :: left))))
          (some (summary ((second :: right).map Prod.fst) (latest (second :: right)))) = some _ :=
        rfl
      rw [merged_summary, ← latest_append, ← List.map_append] at both
      exact both

/-- The parts of some outcomes together are the record of all of them. -/
theorem joinedAll_recordOf (parts : List (List (Outcome × Timestamp))) :
    joinedAll (parts.map fun part => recordOf (part.map Prod.fst) (latest part)) =
      recordOf (parts.flatten.map Prod.fst) (latest parts.flatten) := by
  induction parts with
  | nil => rfl
  | cons part parts ih =>
    rw [List.flatten_cons, ← joined_recordOf, ← ih]
    rfl

theorem recordOf_perm {observed others : List (Outcome × Timestamp)}
    (same : observed.Perm others) :
    recordOf (observed.map Prod.fst) (latest observed) =
      recordOf (others.map Prod.fst) (latest others) := by
  have outcomes := same.map Prod.fst
  have empty : observed.map Prod.fst = [] ↔ others.map Prod.fst = [] := by
    rw [← List.length_eq_zero_iff, ← List.length_eq_zero_iff, outcomes.length_eq]
  simp only [recordOf, empty, summary_perm outcomes, latest_perm same]

theorem lastUpdated_observeAll {α : Type} [Arithmetic α] (record : PatternRecord α)
    (observed : List (Outcome × Timestamp)) : (record.observeAll observed).lastUpdated =
      (observed.getLast?.map Prod.snd).or record.lastUpdated := by
  induction observed using List.reverseRecOn with
  | nil => rfl
  | append_singleton observed outcome ih =>
    rw [observeAll, List.foldl_append, List.getLast?_concat]
    rfl

theorem reports_observeAll {α : Type} [Arithmetic α] (observed : List (Outcome × Timestamp)) :
    ((empty : PatternRecord α).observeAll observed).Reports (observed.map Prod.fst) := by
  induction observed using List.reverseRecOn with
  | nil => exact reports_empty
  | append_singleton observed outcome ih =>
    rw [observeAll, List.foldl_append, List.map_append]
    exact ih.observe outcome.1 outcome.2

/-- What is held of outcomes that were taken in one after the other. -/
theorem exactly_taken {α : Type} [Arithmetic α] {value : α → ℚ} (exact : Exact value)
    (observed : List (Outcome × Timestamp)) :
    (Pattern.Table.taken none observed : Option (PatternRecord α)).map (exactly value) =
      recordOf (observed.map Prod.fst) (observed.getLast?.map Prod.snd) := by
  rw [Pattern.Table.taken_none, recordOf]
  by_cases none : observed = []
  · subst none
    rfl
  · have some : observed.map Prod.fst ≠ [] := mt List.map_eq_nil_iff.mp none
    rw [if_neg none, if_neg some, Option.map_some, exactly_observeAll exact,
      lastUpdated_observeAll]
    exact congrArg _ (congrArg _ Option.or_none)

/-! ### Shares put together twice -/

/-- The record without its time. -/
def untimed (record : PatternRecord ℚ) : PatternRecord ℚ := { record with lastUpdated := none }

/-- What is seen of two records merged is what is seen of each merged. -/
def GoesAlong (view : PatternRecord ℚ → PatternRecord ℚ) : Prop :=
  ∀ left right : PatternRecord ℚ, view (left.merged right) = (view left).merged (view right)

theorem untimed_goesAlong : GoesAlong untimed := fun _ _ => rfl

theorem GoesAlong.joined {view : PatternRecord ℚ → PatternRecord ℚ} (goes : GoesAlong view)
    (left right : Option (PatternRecord ℚ)) :
    (joined left right).map view = PatternRecord.joined (left.map view) (right.map view) := by
  cases left with
  | none => rw [none_joined, Option.map_none, none_joined]
  | some left =>
    cases right with
    | none => rw [joined_none, Option.map_none, joined_none]
    | some right => exact congrArg some (goes left right)

theorem joinedAll_zipWith {left right : List (Option (PatternRecord ℚ))}
    (same : left.length = right.length) : joinedAll (List.zipWith joined left right) =
      joined (joinedAll left) (joinedAll right) := by
  induction left generalizing right with
  | nil =>
    rw [List.length_eq_zero_iff.mp same.symm]
    rfl
  | cons first left ih =>
    cases right with
    | nil => cases same
    | cons second right =>
      have rest := ih (Nat.succ.inj same)
      have split (share : Option (PatternRecord ℚ)) (shares : List (Option (PatternRecord ℚ))) :
          joinedAll (share :: shares) = joined share (joinedAll shares) := rfl
      rw [List.zipWith_cons_cons, split, split, split, rest, joined_assoc, joined_assoc,
        joined_left_comm second]

end PatternRecord

namespace Pattern

open PatternRecord (joined joinedAll recordOf summary)

/-! ### The parts of a phase -/

/-- The parts of the outcomes of a phase: those of each complexity, and those without one. -/
def partKeys : List (Option Complexity) := [some .low, some .medium, some .high, none]

namespace Recording

variable {recordings : List Recording} {phase : String}

/-- The outcomes of a part of a phase, with the times at which the calls ended. -/
def part (recordings : List Recording) (phase : String) (complexity : Option Complexity) :
    List (Outcome × Timestamp) :=
  ((ofPhase recordings phase).filter fun recording => recording.complexity = complexity).map
    fun recording => (recording.outcome, recording.ended)

/-- The parts of a phase are all of its outcomes. -/
theorem flatten_parts_perm (recordings : List Recording) (phase : String) :
    (partKeys.map (part recordings phase)).flatten.Perm
      ((ofPhase recordings phase).map fun recording => (recording.outcome, recording.ended)) := by
  have all : ∀ recording ∈ ofPhase recordings phase, recording.complexity ∈ partKeys := by
    intro recording _
    cases recording.complexity with
    | none => decide
    | some complexity => cases complexity <;> decide
  have once : partKeys.Nodup := by decide
  have whole := (flatMap_filter_perm Recording.complexity once all).map
    fun recording => (recording.outcome, recording.ended)
  rwa [List.map_flatMap, List.flatMap_def] at whole

/-- The calls that came without a complexity. -/
def plain (recordings : List Recording) : List Recording :=
  recordings.filter fun recording => recording.complexity = none

theorem observed_plain (recordings : List Recording) (unmarked : separator ∉ phase.toList) :
    (plain recordings).flatMap (observed (key phase none)) = part recordings phase none := by
  rw [observed_phase _ unmarked, part, ofPhase, plain, List.filter_filter, ofPhase,
    List.filter_filter]
  simp only [Bool.and_comm]
  refine List.map_congr_left fun recording member => ?_
  have without := (List.mem_filter.mp member).2
  rw [Bool.and_eq_true, decide_eq_true_iff] at without
  rw [ended, without.1]
  rfl

theorem NeverBack.pairwise (neverBack : NeverBack recordings)
    {reading : Recording → Timestamp} (among : ∀ recording, reading recording ∈ recording.readings) :
    recordings.Pairwise fun before after => (reading before).le (reading after) = true :=
  (List.pairwise_flatMap.mp neverBack).2.imp fun between =>
    between _ (among _) _ (among _)

theorem ended_mem_readings (recording : Recording) : recording.ended ∈ recording.readings := by
  rw [readings, ended]
  split <;> simp

end Recording

namespace Table

variable {α : Type} {value : α → ℚ} {recordings : List Recording} {phase : String}

/-- The exact records of a phase's buckets and, from another table, that of what came without a
complexity, as far as there are any. -/
def partsOf (value : α → ℚ) (table plain : Table α) (phase : String) :
    List (Option (PatternRecord ℚ)) :=
  [table.find? (key phase (some .low)), table.find? (key phase (some .medium)),
    table.find? (key phase (some .high)), plain.find? (key phase none)].map
      (Option.map (·.exactly value))

/-- What is seen of the record of each phase is what is seen of its parts merged. -/
def MadeOfParts (value : α → ℚ) (view : PatternRecord ℚ → PatternRecord ℚ)
    (table plain : Table α) : Prop :=
  ∀ phase : String, separator ∉ phase.toList →
    ((table.find? (key phase none)).map (·.exactly value)).map view =
      (joinedAll (partsOf value table plain phase)).map view

variable [Arithmetic α]

theorem exactly_phase (exact : Exact value) (unmarked : separator ∉ phase.toList) :
    ((recordAll .empty recordings).find? (key phase none)).map (·.exactly value) =
      recordOf ((Recording.ofPhase recordings phase).map (·.outcome))
        ((Recording.ofPhase recordings phase).getLast?.map (·.now)) := by
  rw [find?_recordAll, Recording.observed_phase _ unmarked]
  refine (PatternRecord.exactly_taken exact _).trans ?_
  rw [List.map_map, List.getLast?_map, Option.map_map]
  rfl

theorem partsOf_recordAll (exact : Exact value) (neverBack : Recording.NeverBack recordings)
    (every : ∀ recording ∈ recordings, separator ∉ recording.phase.toList)
    (unmarked : separator ∉ phase.toList) :
    partsOf value (recordAll .empty recordings) (recordAll .empty (Recording.plain recordings))
        phase = (partKeys.map (Recording.part recordings phase)).map fun part =>
          recordOf (part.map Prod.fst) (PatternRecord.latest part) := by
  have ascending (complexity : Option Complexity) : (Recording.part recordings phase complexity)
      |>.Pairwise fun before after => before.2.le after.2 = true :=
    List.pairwise_map.mpr (((neverBack.pairwise Recording.ended_mem_readings).filter _).filter _)
  have bucket (complexity : Complexity) :
      ((recordAll .empty recordings).find? (key phase (some complexity))).map (·.exactly value) =
        recordOf ((Recording.part recordings phase (some complexity)).map Prod.fst)
          (PatternRecord.latest (Recording.part recordings phase (some complexity))) := by
    rw [find?_recordAll, Recording.observed_bucket every unmarked,
      PatternRecord.latest_eq_getLast? (ascending _)]
    exact PatternRecord.exactly_taken exact _
  have without : ((recordAll .empty (Recording.plain recordings)).find? (key phase none)).map
      (·.exactly value) = recordOf ((Recording.part recordings phase none).map Prod.fst)
        (PatternRecord.latest (Recording.part recordings phase none)) := by
    rw [find?_recordAll, Recording.observed_plain _ unmarked,
      PatternRecord.latest_eq_getLast? (ascending _)]
    exact PatternRecord.exactly_taken exact _
  simp only [partsOf, partKeys, List.map_cons, List.map_nil, bucket, without]

/-- The parts of a phase merged are the record of its outcomes, at the time the last call ended. -/
theorem joinedAll_partsOf (exact : Exact value) (neverBack : Recording.NeverBack recordings)
    (every : ∀ recording ∈ recordings, separator ∉ recording.phase.toList)
    (unmarked : separator ∉ phase.toList) :
    joinedAll (partsOf value (recordAll .empty recordings)
        (recordAll .empty (Recording.plain recordings)) phase) =
      recordOf ((Recording.ofPhase recordings phase).map (·.outcome))
        ((Recording.ofPhase recordings phase).getLast?.map (·.ended)) := by
  rw [partsOf_recordAll exact neverBack every unmarked, PatternRecord.joinedAll_recordOf,
    PatternRecord.recordOf_perm (Recording.flatten_parts_perm recordings phase),
    PatternRecord.latest_eq_getLast? (List.pairwise_map.mpr
      ((neverBack.pairwise Recording.ended_mem_readings).filter _)),
    List.map_map, List.getLast?_map, Option.map_map]
  rfl

/-! ### Counts -/

/-- A count of a record that is one of the outcomes it reports that pass a test. -/
def Counts (count : PatternRecord α → Nat) (test : Outcome → Bool) : Prop :=
  ∀ record outcomes, record.Reports outcomes → count record = outcomes.countP test

theorem counts_usage : Counts (α := α) (·.usage) fun _ => true := by
  intro record outcomes reports
  rw [List.countP_true]
  exact reports.usage

theorem counts_successes : Counts (α := α) (·.successes) (·.success) :=
  fun _ _ reports => reports.successes

theorem countAt_recordAll {count : PatternRecord α → Nat} {test : Outcome → Bool}
    (counts : Counts count test) (recordings : List Recording) (asked : String) :
    countAt count (recordAll .empty recordings) asked =
      ((recordings.flatMap (Recording.observed asked)).map Prod.fst).countP test := by
  rw [countAt, find?_recordAll]
  refine (congrArg (fun share => (Option.map count share).getD 0) (taken_none _)).trans ?_
  split
  · rename_i none
    rw [none]
    rfl
  · exact counts _ _ (PatternRecord.reports_observeAll _)

/-- The buckets of a phase do not count more than the phase. -/
theorem sum_buckets_le {count : PatternRecord α → Nat} {test : Outcome → Bool}
    (counts : Counts count test)
    (every : ∀ recording ∈ recordings, separator ∉ recording.phase.toList)
    (unmarked : separator ∉ phase.toList) :
    (([.low, .medium, .high] : List Complexity).map fun complexity =>
        countAt count (recordAll .empty recordings) (key phase (some complexity))).sum ≤
      countAt count (recordAll .empty recordings) (key phase none) := by
  have whole := ((Recording.flatten_parts_perm recordings phase).map Prod.fst).countP_eq test
  simp only [partKeys, Recording.part, List.map_cons, List.map_nil, List.flatten_cons,
    List.flatten_nil, List.map_append, List.countP_append, List.append_nil, List.map_map,
    Function.comp_def] at whole
  simp only [List.map_cons, List.map_nil, List.sum_cons, List.sum_nil, countAt_recordAll counts,
    Recording.observed_bucket every unmarked, Recording.observed_phase _ unmarked, List.map_map,
    Function.comp_def]
  omega

/-! ### Tables merged -/

theorem exactly_mergeFrom (exact : Exact value) (left right : Table α) (asked : String) :
    ((left.mergeFrom right).find? asked).map (·.exactly value) =
      joined ((left.find? asked).map (·.exactly value))
        ((right.find? asked).map (·.exactly value)) := by
  have found (table : Table α) : (table.find? asked).map (·.exactly value) =
      shareOf (· == asked) (exactly value table).entries := by
    rw [shareOf_key, exactly, OrderedMap.find?_mapValues]
  have merged : exactly value (left.mergeFrom right) =
      absorb (exactly value left) (exactly value right).entries :=
    exactly_absorb exact left right.entries
  rw [found, found, found, merged, shareOf_absorb]

/-- Merging tables keeps that their phases are made of their parts. -/
theorem MadeOfParts.mergeFrom (exact : Exact value) {view : PatternRecord ℚ → PatternRecord ℚ}
    (goes : PatternRecord.GoesAlong view) {left leftPlain right rightPlain : Table α}
    (madeOf : MadeOfParts value view left leftPlain)
    (madeOf' : MadeOfParts value view right rightPlain) :
    MadeOfParts value view (left.mergeFrom right) (leftPlain.mergeFrom rightPlain) := by
  intro phase unmarked
  have parts : partsOf value (left.mergeFrom right) (leftPlain.mergeFrom rightPlain) phase =
      List.zipWith joined (partsOf value left leftPlain phase)
        (partsOf value right rightPlain phase) := by
    simp only [partsOf, List.map_cons, List.map_nil, exactly_mergeFrom exact,
      List.zipWith_cons_cons, List.zipWith_nil_left]
  have lengths : (partsOf value left leftPlain phase).length =
      (partsOf value right rightPlain phase).length := rfl
  rw [exactly_mergeFrom exact, goes.joined, madeOf phase unmarked, madeOf' phase unmarked, parts,
    PatternRecord.joinedAll_zipWith lengths, goes.joined]

/-! ### Made of buckets -/

section Recorded

variable (exact : Exact value) (neverBack : Recording.NeverBack recordings)
  (every : ∀ recording ∈ recordings, separator ∉ recording.phase.toList)

include exact neverBack every

theorem madeOfParts_untimed : MadeOfParts value PatternRecord.untimed
    (recordAll .empty recordings) (recordAll .empty (Recording.plain recordings)) := by
  intro phase unmarked
  rw [exactly_phase exact unmarked, joinedAll_partsOf exact neverBack every unmarked, recordOf,
    recordOf]
  split <;> rfl

theorem madeOfParts_timed (atOnce : ∀ recording ∈ recordings, recording.ended = recording.now) :
    MadeOfParts value id (recordAll .empty recordings)
      (recordAll .empty (Recording.plain recordings)) := by
  intro phase unmarked
  have same : (Recording.ofPhase recordings phase).getLast?.map (·.ended) =
      (Recording.ofPhase recordings phase).getLast?.map (·.now) := by
    refine Option.map_congr fun last isLast => ?_
    exact atOnce last (List.mem_filter.mp (List.mem_of_getLast? isLast)).1
  rw [exactly_phase exact unmarked, joinedAll_partsOf exact neverBack every unmarked, same]

end Recorded

end Table

end Pattern

namespace Sample

open Pattern Pattern.Table

/-- Outcomes of one phase, spelt in two ways, and of another in between. -/
def recordedCalls : List Recording :=
  [⟨" é ", some .low, ⟨true, ⟨1, 0⟩, 2⟩, ⟨10, 0⟩, ⟨10, 0⟩⟩,
    ⟨"b", some .low, ⟨false, ⟨9, 0⟩, 5⟩, ⟨11, 0⟩, ⟨11, 0⟩⟩,
    ⟨"É", none, ⟨false, ⟨2, 0⟩, 3⟩, ⟨12, 0⟩, ⟨12, 0⟩⟩,
    ⟨"é", some .high, ⟨true, ⟨3, 0⟩, 4⟩, ⟨13, 0⟩, ⟨13, 0⟩⟩]

end Sample

end TaskLoop
