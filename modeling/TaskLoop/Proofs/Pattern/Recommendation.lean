import TaskLoop.Pattern.Recommendation
import TaskLoop.Proofs.Decimal.Product
import TaskLoop.Proofs.Pattern.Import

/-!
What is suggested for the next attempt at a phase. Suggestions stay within the bounds that settings
must keep and grow with the size of the task, and none falls short of what past attempts took, as
long as 64 bits hold what was reckoned. Where they do not, one attempt more wraps around to the
least of all numbers, or stops the program.
-/

set_option autoImplicit false

namespace TaskLoop

open Decimal (NonNegative)

/-! ### Sums -/

namespace Overflow

/-- The greatest number of 64 bits. -/
def greatest : Int := powerOfTwo 63 - 1

/-- A result that is there unless the program stops. -/
def unlessStopped {α : Type} (overflow : Overflow) (result : α) : Option α :=
  match overflow with
  | stops => none
  | wraps => some result

theorem add?_of_fits (overflow : Overflow) {left right : Int} (low : -2 ^ 63 ≤ left + right)
    (high : left + right < 2 ^ 63) : overflow.add? left right = some (left + right) := by
  have holds : fits (left + right) = true := by
    simp only [fits, powerOfTwo, Nat.pow_eq, Bool.and_eq_true, decide_eq_true_eq]
    omega
  unfold add?
  exact if_pos holds

end Overflow

/-! ### Bounds -/

namespace Pattern

theorem one_le_clampRetries (retries : Int) : 1 ≤ clampRetries retries := by
  rw [clampRetries]
  omega

theorem clampRetries_le (retries : Int) : clampRetries retries ≤ attemptCeiling := by
  rw [clampRetries, attemptCeiling]
  omega

theorem clampRetries_mono {fewer more : Int} (least : fewer ≤ more) :
    clampRetries fewer ≤ clampRetries more := by
  rw [clampRetries, clampRetries]
  omega

theorem clampRetries_succ_le (retries : Int) :
    clampRetries (retries + 1) ≤ clampRetries retries + 1 := by
  rw [clampRetries, clampRetries, attemptCeiling]
  omega

theorem le_clampRetries (retries : Int) :
    min (attemptCeiling : Int) retries ≤ clampRetries retries := by
  rw [clampRetries, attemptCeiling]
  omega

/-- What there is for small tasks, for middling ones or those of no known size, and for large
ones. -/
def byComplexity {α : Type} (low middle high : α) : Option Complexity → α
  | some .low => low
  | some .high => high
  | _ => middle

/-- Numbers of attempts that grow with the size of the task, each by one at most. -/
structure Graded (low middle high : Nat) : Prop where
  low_le : low ≤ middle
  middle_le : middle ≤ high
  middle_near : middle ≤ low + 1
  high_near : high ≤ middle + 1

theorem graded_clampRetries (base : Int) :
    Graded (clampRetries (base - 1)) (clampRetries base) (clampRetries (base + 1)) where
  low_le := clampRetries_mono (by omega)
  middle_le := clampRetries_mono (by omega)
  middle_near := by
    have next := clampRetries_succ_le (base - 1)
    rwa [Int.sub_add_cancel] at next
  high_near := clampRetries_succ_le base

end Pattern

/-! ### Records -/

namespace PatternRecord

/-- The average from which the attempts that a record calls for are reckoned. -/
def reckoned (record : PatternRecord Float) : Float :=
  if 0 < record.successes then record.avgSuccessRetries * Arithmetic.quotient 12 10
  else record.avgRetries

/-- The attempts that a record shows to be needed: as many as its successes took, or without a
success one more than was spent. -/
def needed (record : PatternRecord Float) : Int :=
  if 0 < record.successes then Decimal.ceiling record.avgSuccessRetries
  else Decimal.ceiling record.avgRetries + 1

/-- Whether the integer next above what was reckoned is too large for 64 bits to hold one more. -/
def Excessive (record : PatternRecord Float) : Prop :=
  Decimal.ceiling record.reckoned = Overflow.greatest

instance (record : PatternRecord Float) : Decidable record.Excessive :=
  inferInstanceAs (Decidable (_ = _))

/-- The attempts that a record calls for as they are reckoned without bounds. -/
def called (record : PatternRecord Float) : Int :=
  if 0 < record.successes then Decimal.ceiling record.reckoned
  else max (Decimal.ceiling record.reckoned + 1) Pattern.defaultRetries

section Flawless

variable {record : PatternRecord Float} {key : String}

theorem nonNegative_reckoned (flawless : record.flaw? key = none) :
    NonNegative record.reckoned := by
  obtain ⟨-, sound⟩ := (flaw?_eq_none_iff record key).mp flawless
  rw [reckoned]
  split
  · obtain ⟨-, notBelow⟩ := sound record.avgSuccessRetries (by simp [averages])
    exact ((Decimal.less_zero_iff _).mp notBelow).mul (Decimal.nonNegative_nearest _ _)
  · obtain ⟨-, notBelow⟩ := sound record.avgRetries (by simp [averages])
    exact (Decimal.less_zero_iff _).mp notBelow

/-- A record calls for no fewer attempts than it shows to be needed. -/
theorem needed_le_called (flawless : record.flaw? key = none) : record.needed ≤ record.called := by
  obtain ⟨-, sound⟩ := (flaw?_eq_none_iff record key).mp flawless
  rw [needed, called, reckoned]
  split
  · obtain ⟨finite, notBelow⟩ := sound record.avgSuccessRetries (by simp [averages])
    exact Decimal.ceiling_le_ceiling_mul finite ((Decimal.less_zero_iff _).mp notBelow)
      (Decimal.atLeastOne_quotient (by decide) (by decide))
  · exact le_max_left _ _

/-- The attempts suggested for a record at a size of task, unless the program stops over them. -/
def suggestion? (overflow : Overflow) (record : PatternRecord Float)
    (complexity : Option Complexity) : Option Nat :=
  Pattern.suggestedRetries? overflow record (Pattern.adjustment complexity)

/-- What a record calls for is suggested within bounds, unless it is excessive. -/
theorem suggestion?_of_not_excessive (flawless : record.flaw? key = none)
    (fits : ¬ record.Excessive) (overflow : Overflow) (complexity : Option Complexity) :
    record.suggestion? overflow complexity =
      some (Pattern.clampRetries (record.called + Pattern.adjustment complexity)) := by
  have nonneg := Decimal.ceiling_nonneg (nonNegative_reckoned flawless)
  have apart := (Decimal.ceiling_apart (nonNegative_reckoned flawless)).resolve_left fits
  simp only [powerOfTwo, Nat.pow_eq] at apart
  have base : Pattern.baseRetries? overflow record = some record.called := by
    rw [Pattern.baseRetries?, called]
    rw [reckoned] at nonneg apart ⊢
    split
    · rfl
    · rename_i failing
      rw [if_neg failing] at nonneg apart
      have sum : overflow.add? (Decimal.ceiling record.avgRetries) 1 =
          some (Decimal.ceiling record.avgRetries + 1) :=
        overflow.add?_of_fits (by omega) (by omega)
      show (overflow.add? (Decimal.ceiling record.avgRetries) 1).map _ = _
      rw [sum]
      rfl
  have size : 0 ≤ record.called ∧ record.called + 1022 ≤ 2 ^ 63 := by
    rw [called, Pattern.defaultRetries]
    split <;> omega
  have near : -1 ≤ Pattern.adjustment complexity ∧ Pattern.adjustment complexity ≤ 1 := by
    rcases complexity with _ | (_ | _ | _) <;> decide
  rw [suggestion?, Pattern.suggestedRetries?, base]
  show (overflow.add? record.called (Pattern.adjustment complexity)).bind _ = _
  rw [overflow.add?_of_fits (by omega) (by omega)]
  rfl

/-- For a record that is not excessive the suggestions grow with the size of the task, and middling
tasks are given the attempts that it shows to be needed. -/
theorem graded_suggestions (flawless : record.flaw? key = none) (fits : ¬ record.Excessive)
    (overflow : Overflow) : ∃ low middle high, Pattern.Graded low middle high ∧
      (∀ complexity, record.suggestion? overflow complexity =
        some (Pattern.byComplexity low middle high complexity)) ∧
      min (attemptCeiling : Int) record.needed ≤ middle := by
  refine ⟨_, _, _, Pattern.graded_clampRetries record.called, fun complexity => ?_, ?_⟩
  · rw [suggestion?_of_not_excessive flawless fits]
    rcases complexity with _ | (_ | _ | _)
    · exact congrArg (some ∘ Pattern.clampRetries) (Int.add_zero _)
    · rfl
    · exact congrArg (some ∘ Pattern.clampRetries) (Int.add_zero _)
    · rfl
  · have enough := needed_le_called flawless
    have bounded := Pattern.le_clampRetries record.called
    omega

/-- What is suggested for an excessive record: one attempt more takes it past 64 bits. -/
theorem suggestion?_of_excessive (excessive : record.Excessive) (overflow : Overflow)
    (complexity : Option Complexity) :
    record.suggestion? overflow complexity =
      if 0 < record.successes then
        Pattern.byComplexity (some attemptCeiling) (some attemptCeiling)
          (overflow.unlessStopped 1) complexity
      else overflow.unlessStopped (Pattern.byComplexity 2 3 4 complexity) := by
  unfold Excessive reckoned at excessive
  rw [suggestion?, Pattern.suggestedRetries?, Pattern.baseRetries?]
  split
  · rename_i successful
    rw [if_pos successful] at excessive
    show (overflow.add? (Decimal.ceiling _) (Pattern.adjustment complexity)).bind _ = _
    rw [excessive]
    rcases complexity with _ | (_ | _ | _) <;> cases overflow <;> decide
  · rename_i failing
    rw [if_neg failing] at excessive
    show ((overflow.add? (Decimal.ceiling record.avgRetries) 1).map _).bind _ = _
    rw [excessive]
    rcases complexity with _ | (_ | _ | _) <;> cases overflow <;> decide

/-- There is a suggestion unless the program stops over an excessive record. -/
theorem excessive_of_suggestion?_eq_none (flawless : record.flaw? key = none) {overflow : Overflow}
    {complexity : Option Complexity} (stopped : record.suggestion? overflow complexity = none) :
    overflow = .stops ∧ record.Excessive := by
  by_cases excessive : record.Excessive
  · refine ⟨?_, excessive⟩
    cases overflow with
    | stops => rfl
    | wraps =>
      rw [suggestion?_of_excessive excessive] at stopped
      split at stopped
      · rcases complexity with _ | (_ | _ | _) <;> cases stopped
      · cases stopped
  · rw [suggestion?_of_not_excessive flawless excessive] at stopped
    cases stopped

end Flawless

theorem bounds_of_suggestion? {record : PatternRecord Float} {overflow : Overflow}
    {complexity : Option Complexity} {retries : Nat}
    (suggested : record.suggestion? overflow complexity = some retries) :
    1 ≤ retries ∧ retries ≤ attemptCeiling := by
  obtain ⟨base, -, suggested⟩ := Option.bind_eq_some_iff.mp suggested
  obtain ⟨sum, -, suggested⟩ := Option.bind_eq_some_iff.mp suggested
  cases suggested
  exact ⟨Pattern.one_le_clampRetries sum, Pattern.clampRetries_le sum⟩

end PatternRecord

/-! ### Tables -/

namespace Pattern

namespace Table

/-- The attempts suggested for a phase, unless the program stops over them. -/
def suggestion? (table : Table Float) (overflow : Overflow) (phase : String)
    (complexity : Option Complexity) : Option Nat :=
  (table.recommend? overflow phase complexity).map (·.suggestedRetries)

/-- The record that a suggestion rests on, with the size of task that its attempts are adjusted
to: none if the record is that of the size itself. -/
def restsOn? (table : Table Float) (phase : String) (complexity : Option Complexity) :
    Option (PatternRecord Float × Option Complexity) :=
  match complexity.bind fun _ => table.used? (key phase complexity) with
  | some record => some (record, none)
  | none => (table.used? (key phase none)).map (·, complexity)

theorem suggestion?_eq (table : Table Float) (overflow : Overflow) (phase : String)
    (complexity : Option Complexity) :
    table.suggestion? overflow phase complexity =
      match table.restsOn? phase complexity with
      | some (record, adjusted) => record.suggestion? overflow adjusted
      | none => some defaultRetries := by
  have attempts (phaseKey : String) (record : PatternRecord Float) (change : Int) (basis : Basis) :
      (ofRecord? overflow phaseKey complexity record change basis).map (·.suggestedRetries) =
        suggestedRetries? overflow record change := by
    rw [ofRecord?, Option.map_map]
    exact Option.map_id'
  rw [suggestion?, recommend?, restsOn?]
  cases complexity.bind fun _ => table.used? (key phase complexity) with
  | some record => exact attempts _ record 0 .bucket
  | none =>
    cases table.used? (key phase none) with
    | some record => exact attempts _ record (adjustment complexity) .phase
    | none => rfl

theorem flaw?_of_used? {table : Table Float}
    (flawless : ∀ entry ∈ table.entries, entry.2.flaw? entry.1 = none) {key : String}
    {record : PatternRecord Float} (used : table.used? key = some record) :
    record.flaw? key = none := by
  obtain ⟨found, -⟩ := Option.filter_eq_some_iff.mp used
  exact flawless (key, record) (OrderedMap.mem_entries_iff.mpr found)

theorem flaw?_of_restsOn? {table : Table Float}
    (flawless : ∀ entry ∈ table.entries, entry.2.flaw? entry.1 = none) {phase : String}
    {complexity adjusted : Option Complexity} {record : PatternRecord Float}
    (rests : table.restsOn? phase complexity = some (record, adjusted)) :
    ∃ key, record.flaw? key = none := by
  rw [restsOn?] at rests
  split at rests
  · rename_i known bucket
    cases rests
    obtain ⟨_, -, used⟩ := Option.bind_eq_some_iff.mp bucket
    exact ⟨_, flaw?_of_used? flawless used⟩
  · obtain ⟨known, used, same⟩ := Option.map_eq_some_iff.mp rests
    cases same
    exact ⟨_, flaw?_of_used? flawless used⟩

theorem restsOn?_of_unused {table : Table Float} {phase : String}
    (unused : ∀ complexity, table.used? (key phase (some complexity)) = none)
    (complexity : Option Complexity) :
    table.restsOn? phase complexity = (table.used? (key phase none)).map (·, complexity) := by
  have bucket : (complexity.bind fun _ => table.used? (key phase complexity)) = none := by
    cases complexity with
    | none => rfl
    | some complexity => exact unused complexity
  rw [restsOn?, bucket]

end Table

end Pattern

namespace Sample

open Pattern Pattern.Table

/-- A phase with one record, for tasks of every size. -/
def triedPhase (record : PatternRecord Float) : Table Float :=
  OrderedMap.empty.insert "GENERATION" record

/-- Two failures after four and a half attempts on average. -/
def moderate : PatternRecord Float :=
  ⟨2, 0, Arithmetic.quotient 9 2, Arithmetic.one, Arithmetic.zero, none⟩

/-- Two failures after ten million million million attempts on average. -/
def exhausting : PatternRecord Float :=
  ⟨2, 0, Arithmetic.ofNat (10 ^ 19), Arithmetic.one, Arithmetic.zero, none⟩

/-- A success that took as many, and a failure. -/
def laborious : PatternRecord Float :=
  ⟨2, 1, Arithmetic.one, Arithmetic.one, Arithmetic.ofNat (10 ^ 19), none⟩

theorem used?_triedPhase {record : PatternRecord Float} (tried : 0 < record.usage) :
    (triedPhase record).used? (key " generation " none) = some record := by
  have same : key " generation " none = "GENERATION" := by decide
  rw [used?, triedPhase, same, OrderedMap.find?_insert_self]
  exact Option.filter_eq_some_iff.mpr ⟨rfl, decide_eq_true tried⟩

theorem unused_triedPhase (record : PatternRecord Float) (complexity : Complexity) :
    (triedPhase record).used? (key " generation " (some complexity)) = none := by
  have apart : key " generation " (some complexity) ≠ "GENERATION" := by
    cases complexity <;> decide
  rw [used?, triedPhase, OrderedMap.find?_insert_of_ne _ _ apart]
  rfl

end Sample

end TaskLoop
