import TaskLoop.Proofs.Pattern.Key
import TaskLoop.Proofs.Pattern.Table
import TaskLoop.Proofs.Text.Words

/-!
Sequences of outcomes recorded in a table. What is then found under a key is the record of the
outcomes that were taken in there, and under keys of phases without a mark these are the outcomes
of the phase, or those among them that came with a complexity.
-/

set_option autoImplicit false

namespace TaskLoop.Pattern

/-! ### Keys of phases without a mark -/

section Keys

variable {phase other : String} {complexity complexity' : Complexity}

theorem toList_key_none (phase : String) :
    (key phase none).toList = Text.upper (Text.trim phase.toList) := by
  rw [key, String.toList_ofList]

theorem toList_key_some (phase : String) (complexity : Complexity) :
    (key phase (some complexity)).toList =
      (key phase none).toList ++ separator :: complexity.name.toList := by
  rw [toList_key_none, key, String.toList_ofList]

theorem unmarked_key_none (unmarked : separator ∉ phase.toList) :
    separator ∉ (key phase none).toList := by
  rw [toList_key_none]
  exact Text.mark_not_mem_upper fun member => unmarked (Text.mem_of_mem_trimBy member)

/-- The key of a phase without a mark is not one at a complexity. -/
theorem key_none_ne_some (unmarked : separator ∉ phase.toList) :
    key phase none ≠ key other (some complexity) := by
  intro same
  have marked : separator ∈ (key other (some complexity)).toList := by
    rw [toList_key_some]
    exact List.mem_append_right _ List.mem_cons_self
  rw [← same] at marked
  exact unmarked_key_none unmarked marked

theorem name_injective (same : complexity.name.toList = complexity'.name.toList) :
    complexity = complexity' := by
  revert same
  cases complexity <;> cases complexity' <;> decide

theorem key_some_eq_iff (unmarked : separator ∉ phase.toList)
    (unmarked' : separator ∉ other.toList) :
    key phase (some complexity) = key other (some complexity') ↔
      key phase none = key other none ∧ complexity = complexity' := by
  constructor
  · intro same
    have split := congrArg (fun key : String => Text.splitFirst? separator key.toList) same
    simp only [toList_key_some, Text.splitFirst?_append (unmarked_key_none unmarked),
      Text.splitFirst?_append (unmarked_key_none unmarked'), Option.some_inj,
      Prod.mk.injEq] at split
    exact ⟨String.toList_inj.mp split.1, name_injective split.2⟩
  · rintro ⟨same, rfl⟩
    rw [← String.toList_inj, toList_key_some, toList_key_some, same]

end Keys

/-! ### Recordings -/

/-- One call to record an outcome, with the readings of the clock at its two updates. -/
structure Recording where
  phase : String
  complexity : Option Complexity
  outcome : Outcome
  now : Timestamp
  after : Timestamp
  deriving DecidableEq

namespace Recording

variable {recording : Recording} {recordings : List Recording} {phase : String}

/-- When the last update of a call was made. -/
def ended (recording : Recording) : Timestamp :=
  if recording.complexity.isSome then recording.after else recording.now

/-- The readings of the clock in a call. -/
def readings (recording : Recording) : List Timestamp :=
  if recording.complexity.isSome then [recording.now, recording.after] else [recording.now]

/-- The clock does not go back, neither in a call nor from one to the next. -/
def NeverBack (recordings : List Recording) : Prop :=
  (recordings.flatMap readings).Pairwise fun earlier later => earlier.le later = true

/-- What a call takes into the record of a key. -/
def observed (asked : String) (recording : Recording) : List (Outcome × Timestamp) :=
  (if key recording.phase none = asked then [(recording.outcome, recording.now)] else []) ++
    if recording.complexity.isSome ∧ key recording.phase recording.complexity = asked then
      [(recording.outcome, recording.after)] else []

/-- The calls for the phase of a key. -/
def ofPhase (recordings : List Recording) (phase : String) : List Recording :=
  recordings.filter fun recording => key recording.phase none = key phase none

theorem flatMap_ite {α β : Type} (test : α → Prop) [DecidablePred test] (result : α → β)
    (values : List α) :
    (values.flatMap fun value => if test value then [result value] else []) =
      (values.filter test).map result := by
  induction values with
  | nil => rfl
  | cons value values ih =>
    rw [List.flatMap_cons, ih, List.filter_cons]
    by_cases passes : test value
    · simp only [passes, ↓reduceIte, decide_true, List.map_cons, List.singleton_append]
    · simp only [passes, ↓reduceIte, decide_false, Bool.false_eq_true, List.nil_append]

/-- Under the key of a phase go all outcomes of it. -/
theorem observed_phase (recordings : List Recording) (unmarked : separator ∉ phase.toList) :
    recordings.flatMap (observed (key phase none)) =
      (ofPhase recordings phase).map fun recording => (recording.outcome, recording.now) := by
  rw [ofPhase, ← flatMap_ite]
  refine List.flatMap_congr fun recording _ => ?_
  have apart : ¬ (recording.complexity.isSome ∧
      key recording.phase recording.complexity = key phase none) := by
    rintro ⟨some, same⟩
    obtain ⟨complexity, known⟩ := Option.isSome_iff_exists.mp some
    rw [known] at same
    exact key_none_ne_some unmarked same.symm
  rw [observed, if_neg apart, List.append_nil]

/-- Under the key of a bucket go the outcomes of its phase that came with its complexity. -/
theorem observed_bucket (every : ∀ recording ∈ recordings, separator ∉ recording.phase.toList)
    (unmarked : separator ∉ phase.toList) (complexity : Complexity) :
    recordings.flatMap (observed (key phase (some complexity))) =
      ((ofPhase recordings phase).filter fun recording =>
        recording.complexity = some complexity).map fun recording =>
          (recording.outcome, recording.ended) := by
  rw [ofPhase, List.filter_filter]
  simp only [← Bool.decide_and]
  rw [← flatMap_ite]
  refine List.flatMap_congr fun recording member => ?_
  have apart : key recording.phase none ≠ key phase (some complexity) :=
    key_none_ne_some (every recording member)
  rw [observed, if_neg apart, List.nil_append]
  cases known : recording.complexity with
  | none => simp
  | some complexity' =>
    simp only [Option.isSome_some, true_and, key_some_eq_iff (every recording member) unmarked,
      Option.some_inj, ended, known, ↓reduceIte, and_comm]

end Recording

namespace Table

variable {α : Type} [Arithmetic α]

/-- Records outcomes one after the other. -/
def recordAll (table : Table α) (recordings : List Recording) : Table α :=
  recordings.foldl (fun table recording => table.recordOutcome recording.phase
    recording.complexity recording.outcome recording.now recording.after) table

/-- What is held of a key when outcomes have been taken in there. -/
def taken (share : Option (PatternRecord α)) (observed : List (Outcome × Timestamp)) :
    Option (PatternRecord α) :=
  observed.foldl (fun share outcome => some ((share.getD .empty).observe outcome.1 outcome.2)) share

theorem taken_append (share : Option (PatternRecord α)) (before after : List (Outcome × Timestamp)) :
    taken share (before ++ after) = taken (taken share before) after :=
  List.foldl_append

theorem taken_none (observed : List (Outcome × Timestamp)) :
    (taken none observed : Option (PatternRecord α)) =
      if observed = [] then none else some (PatternRecord.empty.observeAll observed) := by
  have known (record : PatternRecord α) (observed : List (Outcome × Timestamp)) :
      taken (some record) observed = some (record.observeAll observed) := by
    induction observed generalizing record with
    | nil => rfl
    | cons outcome observed ih => exact ih (record.observe outcome.1 outcome.2)
  cases observed with
  | nil => rfl
  | cons outcome observed => exact known (PatternRecord.empty.observe outcome.1 outcome.2) observed

theorem find?_observeKey (table : Table α) (key asked : String) (outcome : Outcome)
    (now : Timestamp) : (table.observeKey key outcome now).find? asked =
      taken (table.find? asked) (if key = asked then [(outcome, now)] else []) := by
  split
  · rename_i same
    subst same
    exact OrderedMap.find?_insert_self _ _ _
  · rename_i apart
    exact OrderedMap.find?_insert_of_ne _ _ (Ne.symm apart)

theorem find?_recordOutcome_observed (table : Table α) (recording : Recording) (asked : String) :
    (table.recordOutcome recording.phase recording.complexity recording.outcome recording.now
        recording.after).find? asked = taken (table.find? asked) (recording.observed asked) := by
  rw [Recording.observed, taken_append, ← find?_observeKey]
  cases recording.complexity with
  | none => rfl
  | some complexity =>
    simp only [Option.isSome_some, true_and]
    exact find?_observeKey _ _ _ _ _

/-- Behind a sequence of calls a key has the record of what they took in there. -/
theorem find?_recordAll (table : Table α) (recordings : List Recording) (asked : String) :
    (table.recordAll recordings).find? asked =
      taken (table.find? asked) (recordings.flatMap (Recording.observed asked)) := by
  induction recordings generalizing table with
  | nil => rfl
  | cons recording recordings ih =>
    rw [List.flatMap_cons, taken_append, ← find?_recordOutcome_observed, ← ih]
    rfl

end Table

end TaskLoop.Pattern
