import Mathlib.Algebra.BigOperators.Group.List.Basic
import Mathlib.Tactic.FieldSimp
import Mathlib.Tactic.Linarith
import Mathlib.Tactic.Ring
import TaskLoop.Pattern.Record
import TaskLoop.Proofs.Arithmetic
import TaskLoop.Proofs.Timestamp

/-!
A record that takes in one outcome after the other counts them all, and its averages are their
means when the arithmetic is exact. Two records merged are the record of the outcomes of both: in
exact arithmetic a record is the summary of its outcomes in any order, and merging summaries puts
the outcomes together.
-/

set_option autoImplicit false

namespace TaskLoop

open Arithmetic (Exact)

/-! ### Averages -/

/-- The mean of some numbers. -/
def mean (values : List ℚ) : ℚ := values.sum / values.length

theorem mean_nil : mean [] = 0 := by
  rw [mean, List.sum_nil, zero_div]

/-- Milliseconds are thousandths of seconds. -/
theorem Duration.inSeconds_ofMilliseconds {α : Type} [Arithmetic α] {value : α → ℚ} (exact : Exact value)
    (milliseconds : Nat) : value (ofMilliseconds milliseconds).inSeconds = milliseconds / 1000 := by
  have parts : (milliseconds : ℚ) =
      1000 * (milliseconds / 1000 : Nat) + (milliseconds % 1000 : Nat) := by
    exact_mod_cast (Nat.div_add_mod milliseconds 1000).symm
  rw [inSeconds, ofMilliseconds, exact.add, exact.div, exact.ofNat, exact.ofNat, exact.ofNat, parts]
  push_cast
  ring

namespace PatternRecord

section Reported

variable {α : Type} [Arithmetic α]

/-- The mean of some numbers and one more, from the mean of the others. -/
theorem value_nextMean {value : α → ℚ} (exact : Exact value) {average : α} {values : List ℚ}
    (next : α) (isMean : value average = mean values) :
    value (nextMean average next (values.length + 1)) = mean (values ++ [value next]) := by
  rw [nextMean, exact.add, exact.div, exact.sub, exact.ofNat, isMean, mean, mean, List.sum_append,
    List.length_append, List.sum_singleton, List.length_singleton]
  by_cases none : values = []
  · subst none
    simp
  · have some_ : (values.length : ℚ) ≠ 0 := by
      exact_mod_cast List.length_eq_zero_iff.not.mpr none
    have more : (values.length : ℚ) + 1 ≠ 0 := by positivity
    push_cast
    field_simp
    ring

/-- A record reports outcomes: it counts them and those that are successes, and averages their
attempts and their durations. -/
structure Reports (record : PatternRecord α) (outcomes : List Outcome) : Prop where
  usage : record.usage = outcomes.length
  successes : record.successes = outcomes.countP (·.success)
  avgRetries : ∀ value, Exact value →
    value record.avgRetries = mean (outcomes.map fun outcome => (outcome.retries : ℚ))
  avgDuration : ∀ value, Exact value →
    value record.avgDuration = mean (outcomes.map fun outcome => value outcome.duration.inSeconds)

theorem reports_empty : (empty : PatternRecord α).Reports [] where
  usage := rfl
  successes := rfl
  avgRetries value exact := by
    rw [empty, Arithmetic.zero, exact.ofNat, Nat.cast_zero, List.map_nil, mean_nil]
  avgDuration value exact := by
    rw [empty, Arithmetic.zero, exact.ofNat, Nat.cast_zero, List.map_nil, mean_nil]

theorem Reports.observe {record : PatternRecord α} {outcomes : List Outcome}
    (reports : record.Reports outcomes) (outcome : Outcome) (now : Timestamp) :
    (record.observe outcome now).Reports (outcomes ++ [outcome]) where
  usage := by
    rw [PatternRecord.observe, reports.usage, List.length_append, List.length_singleton]
  successes := by
    rw [PatternRecord.observe, reports.successes, List.countP_append, List.countP_singleton]
    cases outcome.success <;> rfl
  avgRetries value exact := by
    have next := value_nextMean exact (Arithmetic.ofNat outcome.retries)
      (reports.avgRetries value exact)
    rw [List.length_map, ← reports.usage, exact.ofNat] at next
    rw [List.map_append, List.map_singleton, ← next]
    rfl
  avgDuration value exact := by
    have next := value_nextMean exact outcome.duration.inSeconds (reports.avgDuration value exact)
    rw [List.length_map, ← reports.usage] at next
    rw [List.map_append, List.map_singleton, ← next]
    rfl

end Reported

/-! ### The later of two times -/

/-- One time is not after another; no time is not after any. -/
def NotAfter : Option Timestamp → Option Timestamp → Prop
  | none, _ => True
  | some _, none => False
  | some earlier, some later => earlier.le later = true

theorem later_comm (left right : Option Timestamp) : later left right = later right left := by
  cases left with
  | none => cases right <;> rfl
  | some left =>
    cases right with
    | none => rfl
    | some right =>
      simp only [later, Option.some.injEq]
      by_cases before : left.le right = true
      · by_cases after : right.le left = true
        · rw [Timestamp.le_antisymm before after]
        · simp only [before, after, ↓reduceIte, Bool.false_eq_true]
      · simp only [before, Timestamp.le_of_not_le before, ↓reduceIte, Bool.false_eq_true]

theorem later_assoc (first second third : Option Timestamp) :
    later (later first second) third = later first (later second third) := by
  cases first with
  | none => cases second <;> cases third <;> rfl
  | some first =>
    cases second with
    | none => cases third <;> rfl
    | some second =>
      cases third with
      | none => rfl
      | some third =>
        simp only [later, Option.some.injEq]
        by_cases near : first.le second = true
        · by_cases far : second.le third = true
          · simp only [near, far, Timestamp.le_trans near far, ↓reduceIte]
          · simp only [near, far, ↓reduceIte, Bool.false_eq_true]
        · by_cases far : second.le third = true
          · simp only [near, far, ↓reduceIte, Bool.false_eq_true]
          · have apart : ¬ first.le third = true := by
              intro skips
              exact far (Timestamp.le_trans (Timestamp.le_of_not_le near) skips)
            simp only [near, far, apart, ↓reduceIte, Bool.false_eq_true]

/-- The later of two times is one of them, and neither is after it. -/
theorem later_spec (left right : Option Timestamp) :
    (later left right = left ∨ later left right = right) ∧
      NotAfter left (later left right) ∧ NotAfter right (later left right) := by
  cases left with
  | none =>
    refine ⟨.inr rfl, trivial, ?_⟩
    cases right with
    | none => trivial
    | some right => exact right.le_refl
  | some left =>
    cases right with
    | none => exact ⟨.inl rfl, left.le_refl, trivial⟩
    | some right =>
      simp only [later]
      split
      · rename_i before
        exact ⟨.inr rfl, before, right.le_refl⟩
      · rename_i after
        exact ⟨.inl rfl, left.le_refl, Timestamp.le_of_not_le after⟩

/-! ### Exact values -/

section

variable {α : Type}

/-- The record with the fractions its averages stand for. -/
def exactly (value : α → ℚ) (record : PatternRecord α) : PatternRecord ℚ where
  usage := record.usage
  successes := record.successes
  avgRetries := value record.avgRetries
  avgDuration := value record.avgDuration
  avgSuccessRetries := value record.avgSuccessRetries
  lastUpdated := record.lastUpdated

variable [Arithmetic α] {value : α → ℚ} (exact : Exact value)

include exact

theorem exactly_nextMean (average next : α) (count : Nat) :
    value (nextMean average next count) = nextMean (value average) (value next) count := by
  simp only [nextMean, exact.add, exact.div, exact.sub, exact.ofNat]
  rfl

theorem exactly_weighted (left right : α) (leftCount rightCount : Nat) :
    value (weighted left leftCount right rightCount) =
      weighted (value left) leftCount (value right) rightCount := by
  unfold weighted
  split
  · exact exact.ofNat 0
  · simp only [exact.add, exact.mul, exact.div, exact.ofNat]
    rfl

theorem exactly_inSeconds (duration : Duration) :
    value duration.inSeconds = duration.inSeconds := by
  simp only [Duration.inSeconds, exact.add, exact.div, exact.ofNat]
  rfl

theorem exactly_empty : (empty : PatternRecord α).exactly value = empty := by
  have zero : value Arithmetic.zero = Arithmetic.zero := exact.ofNat 0
  simp only [exactly, empty, zero]

theorem exactly_observe (record : PatternRecord α) (outcome : Outcome) (now : Timestamp) :
    (record.observe outcome now).exactly value =
      (record.exactly value).observe outcome now := by
  have retries : value (Arithmetic.ofNat outcome.retries) = Arithmetic.ofNat outcome.retries :=
    exact.ofNat _
  cases succeeded : outcome.success <;>
    simp only [exactly, observe, succeeded, exactly_nextMean exact, exactly_inSeconds exact,
      retries, ↓reduceIte, Bool.false_eq_true]

theorem exactly_merged (left right : PatternRecord α) :
    (left.merged right).exactly value = (left.exactly value).merged (right.exactly value) := by
  simp only [exactly, merged, exactly_weighted exact]

end

/-! ### Weighted means -/

theorem weighted_eq (left right : ℚ) (leftCount rightCount : Nat) :
    weighted left leftCount right rightCount =
      (left * leftCount + right * rightCount) / (leftCount + rightCount : Nat) := by
  unfold weighted
  split
  · rename_i none
    rw [beq_iff_eq.mp none, Nat.cast_zero, div_zero]
    rfl
  · rfl

/-- A weighted mean times the whole weight is the sum, also when nothing has weight. -/
theorem weighted_mul (left right : ℚ) (leftCount rightCount : Nat) :
    weighted left leftCount right rightCount * (leftCount + rightCount : Nat) =
      left * leftCount + right * rightCount := by
  by_cases none : leftCount + rightCount = 0
  · obtain ⟨rfl, rfl⟩ := Nat.add_eq_zero_iff.mp none
    simp
  · have weight : ((leftCount + rightCount : Nat) : ℚ) ≠ 0 := Nat.cast_ne_zero.mpr none
    rw [weighted_eq, div_mul_cancel₀ _ weight]

theorem weighted_comm (left right : ℚ) (leftCount rightCount : Nat) :
    weighted left leftCount right rightCount = weighted right rightCount left leftCount := by
  rw [weighted_eq, weighted_eq, add_comm, Nat.add_comm]

theorem weighted_assoc (first second third : ℚ) (a b c : Nat) :
    weighted (weighted first a second b) (a + b) third c =
      weighted first a (weighted second b third c) (b + c) := by
  have inner := weighted_mul first second a b
  have outer := weighted_mul second third b c
  rw [weighted_eq _ third, weighted_eq first (weighted second b third c), inner, outer, add_assoc,
    Nat.add_assoc]

/-- Merging does not depend on which record is first. -/
theorem merged_comm (left right : PatternRecord ℚ) : left.merged right = right.merged left := by
  simp only [merged, weighted_comm left.avgRetries, weighted_comm left.avgDuration,
    weighted_comm left.avgSuccessRetries, later_comm left.lastUpdated,
    Nat.add_comm left.usage, Nat.add_comm left.successes]

/-- Merging does not depend on which records are merged first. -/
theorem merged_assoc (first second third : PatternRecord ℚ) :
    (first.merged second).merged third = first.merged (second.merged third) := by
  simp only [merged, weighted_assoc, later_assoc, Nat.add_assoc]

/-! ### Records of outcomes -/

section

variable {α : Type} [Arithmetic α]

/-- Takes outcomes in, one after the other, each at its time. -/
def observeAll (record : PatternRecord α) (outcomes : List (Outcome × Timestamp)) :
    PatternRecord α :=
  outcomes.foldl (fun record outcome => record.observe outcome.1 outcome.2) record

end

/-- The outcomes that were successes. -/
def successesOf (outcomes : List Outcome) : List Outcome := outcomes.filter (·.success)

/-- The mean of the attempts of some outcomes. -/
def meanRetries (outcomes : List Outcome) : ℚ :=
  mean (outcomes.map fun outcome => (outcome.retries : ℚ))

/-- The mean of the durations of some outcomes. -/
def meanSeconds (outcomes : List Outcome) : ℚ :=
  mean (outcomes.map fun outcome => (outcome.duration.inSeconds : ℚ))

/-- How many outcomes and successes there are, the means of the attempts and of the durations of
all outcomes, and the mean of the attempts of the successes, nought when there are none. -/
def summary (outcomes : List Outcome) (updated : Option Timestamp) : PatternRecord ℚ where
  usage := outcomes.length
  successes := (successesOf outcomes).length
  avgRetries := meanRetries outcomes
  avgDuration := meanSeconds outcomes
  avgSuccessRetries := meanRetries (successesOf outcomes)
  lastUpdated := updated

theorem mean_mul_length (values : List ℚ) : mean values * values.length = values.sum := by
  cases values with
  | nil => simp [mean]
  | cons first rest =>
    have some_ : ((first :: rest).length : ℚ) ≠ 0 :=
      Nat.cast_ne_zero.mpr (Nat.succ_ne_zero rest.length)
    rw [mean, div_mul_cancel₀ _ some_]

/-- The weighted mean of two means is the mean of all numbers. -/
theorem weighted_mean (left right : List ℚ) :
    weighted (mean left) left.length (mean right) right.length = mean (left ++ right) := by
  rw [weighted_eq, mean_mul_length, mean_mul_length, mean, List.sum_append, List.length_append]

theorem weighted_meanRetries (left right : List Outcome) :
    weighted (meanRetries left) left.length (meanRetries right) right.length =
      meanRetries (left ++ right) := by
  have both := weighted_mean (left.map fun outcome => (outcome.retries : ℚ))
    (right.map fun outcome => (outcome.retries : ℚ))
  rwa [List.length_map, List.length_map, ← List.map_append] at both

theorem weighted_meanSeconds (left right : List Outcome) :
    weighted (meanSeconds left) left.length (meanSeconds right) right.length =
      meanSeconds (left ++ right) := by
  have both := weighted_mean (left.map fun outcome => (outcome.duration.inSeconds : ℚ))
    (right.map fun outcome => (outcome.duration.inSeconds : ℚ))
  rwa [List.length_map, List.length_map, ← List.map_append] at both

theorem merged_summary (left right : List Outcome) (updated updated' : Option Timestamp) :
    (summary left updated).merged (summary right updated') =
      summary (left ++ right) (later updated updated') := by
  have successes : successesOf (left ++ right) = successesOf left ++ successesOf right :=
    List.filter_append ..
  simp only [merged, summary, weighted_meanRetries, weighted_meanSeconds, successes,
    List.length_append]

theorem mean_append_singleton (values : List ℚ) (next : ℚ) :
    nextMean (mean values) next (values.length + 1) = mean (values ++ [next]) :=
  value_nextMean Arithmetic.exact_fractions next rfl

theorem nextMean_meanRetries (outcomes : List Outcome) (outcome : Outcome) :
    nextMean (meanRetries outcomes) (Arithmetic.ofNat outcome.retries) (outcomes.length + 1) =
      meanRetries (outcomes ++ [outcome]) := by
  have next := mean_append_singleton (outcomes.map fun outcome => (outcome.retries : ℚ))
    outcome.retries
  rw [List.length_map] at next
  rw [meanRetries, meanRetries, List.map_append, List.map_singleton, ← next]
  rfl

theorem nextMean_meanSeconds (outcomes : List Outcome) (outcome : Outcome) :
    nextMean (meanSeconds outcomes) outcome.duration.inSeconds (outcomes.length + 1) =
      meanSeconds (outcomes ++ [outcome]) := by
  have next := mean_append_singleton
    (outcomes.map fun outcome => (outcome.duration.inSeconds : ℚ)) outcome.duration.inSeconds
  rw [List.length_map] at next
  rw [meanSeconds, meanSeconds, List.map_append, List.map_singleton, ← next]

/-- One more outcome is one more in the summary. -/
theorem observe_summary (outcomes : List Outcome) (updated : Option Timestamp)
    (outcome : Outcome) (now : Timestamp) :
    (summary outcomes updated).observe outcome now = summary (outcomes ++ [outcome]) now := by
  cases succeeded : outcome.success with
  | true =>
    have successes : successesOf (outcomes ++ [outcome]) = successesOf outcomes ++ [outcome] := by
      simp only [successesOf, List.filter_append, List.filter_singleton, succeeded]
      rfl
    simp only [observe, summary, succeeded, ↓reduceIte, nextMean_meanRetries,
      nextMean_meanSeconds, successes, List.length_append, List.length_singleton]
  | false =>
    have successes : successesOf (outcomes ++ [outcome]) = successesOf outcomes := by
      simp only [successesOf, List.filter_append, List.filter_singleton, succeeded]
      exact List.append_nil _
    simp only [observe, summary, succeeded, Bool.false_eq_true, ↓reduceIte, nextMean_meanRetries,
      nextMean_meanSeconds, successes, List.length_append, List.length_singleton]

theorem summary_nil : summary [] none = empty := by
  simp only [summary, meanRetries, meanSeconds, successesOf, List.filter_nil, List.map_nil,
    mean_nil]
  rfl

/-- A summary does not depend on the order of the outcomes. -/
theorem summary_perm {outcomes others : List Outcome} (same : outcomes.Perm others)
    (updated : Option Timestamp) : summary outcomes updated = summary others updated := by
  have means {left right : List ℚ} (same : left.Perm right) : mean left = mean right := by
    rw [mean, mean, same.sum_eq, same.length_eq]
  have successes : (successesOf outcomes).Perm (successesOf others) := same.filter _
  simp only [summary, meanRetries, meanSeconds, same.length_eq, successes.length_eq,
    means (same.map _), means (successes.map _)]

section

variable {α : Type} [Arithmetic α] {value : α → ℚ}

/-- A record that outcomes are taken into is their summary. -/
theorem exactly_observeAll (exact : Exact value) (outcomes : List (Outcome × Timestamp)) :
    ((empty : PatternRecord α).observeAll outcomes).exactly value =
      summary (outcomes.map Prod.fst) ((empty : PatternRecord α).observeAll outcomes).lastUpdated := by
  suffices steps : ∀ (known : List Outcome) (record : PatternRecord α),
      record.exactly value = summary known record.lastUpdated →
        (record.observeAll outcomes).exactly value =
          summary (known ++ outcomes.map Prod.fst) (record.observeAll outcomes).lastUpdated by
    refine steps [] empty ?_
    rw [exactly_empty exact, ← summary_nil]
    rfl
  induction outcomes with
  | nil =>
    intro known record summarized
    rw [List.map_nil, List.append_nil]
    exact summarized
  | cons outcome rest ih =>
    intro known record summarized
    have next := ih (known ++ [outcome.1]) (record.observe outcome.1 outcome.2) (by
      rw [exactly_observe exact, summarized, observe_summary]
      rfl)
    rw [List.append_assoc, List.singleton_append] at next
    exact next

/-- Records of two sequences of outcomes merged are the record of all the outcomes, taken in in
any order, as when the two are interleaved; the time apart, which is the later of the two. It
counts them all and the successes among them, and averages them. -/
theorem merged_observeAll (exact : Exact value)
    {xs ys zs : List (Outcome × Timestamp)} (together : zs.Perm (xs ++ ys)) :
    let left := (empty : PatternRecord α).observeAll xs
    let right := (empty : PatternRecord α).observeAll ys
    let both := left.merged right
    both.exactly value =
        { ((empty : PatternRecord α).observeAll zs).exactly value with
          lastUpdated := both.lastUpdated } ∧
      both.exactly value = summary (zs.map Prod.fst) both.lastUpdated ∧
      (both.lastUpdated = left.lastUpdated ∨ both.lastUpdated = right.lastUpdated) ∧
      NotAfter left.lastUpdated both.lastUpdated ∧
      NotAfter right.lastUpdated both.lastUpdated := by
  intro left right both
  have outcomes : (zs.map Prod.fst).Perm (xs.map Prod.fst ++ ys.map Prod.fst) := by
    rw [← List.map_append]
    exact together.map _
  have summarized : both.exactly value = summary (zs.map Prod.fst) both.lastUpdated := by
    rw [exactly_merged exact, exactly_observeAll exact, exactly_observeAll exact, merged_summary,
      summary_perm outcomes]
    rfl
  refine ⟨?_, summarized, later_spec left.lastUpdated right.lastUpdated⟩
  rw [summarized, exactly_observeAll exact zs]
  rfl

end

end PatternRecord

namespace Sample

open PatternRecord (observeAll summary)

/-- Two failures and a success of one engine. -/
def firstOutcomes : List (Outcome × Timestamp) :=
  [(⟨false, ⟨2, 0⟩, 5⟩, ⟨10, 0⟩), (⟨true, ⟨1, 500000000⟩, 3⟩, ⟨30, 0⟩),
    (⟨false, ⟨4, 0⟩, 5⟩, ⟨50, 0⟩)]

/-- Two successes of another. -/
def secondOutcomes : List (Outcome × Timestamp) :=
  [(⟨true, ⟨3, 0⟩, 0⟩, ⟨20, 0⟩), (⟨true, ⟨0, 0⟩, 2⟩, ⟨40, 0⟩)]

/-- Merged they are the record of all five outcomes. -/
theorem merged_five_outcomes :
    let both := ((PatternRecord.empty : PatternRecord ℚ).observeAll firstOutcomes).merged
      (PatternRecord.empty.observeAll secondOutcomes)
    both.exactly id = summary
      [⟨false, ⟨2, 0⟩, 5⟩, ⟨true, ⟨3, 0⟩, 0⟩, ⟨true, ⟨1, 500000000⟩, 3⟩, ⟨true, ⟨0, 0⟩, 2⟩,
        ⟨false, ⟨4, 0⟩, 5⟩] (some ⟨50, 0⟩) := by
  have interleaved : ([(⟨false, ⟨2, 0⟩, 5⟩, ⟨10, 0⟩), (⟨true, ⟨3, 0⟩, 0⟩, ⟨20, 0⟩),
      (⟨true, ⟨1, 500000000⟩, 3⟩, ⟨30, 0⟩), (⟨true, ⟨0, 0⟩, 2⟩, ⟨40, 0⟩),
      (⟨false, ⟨4, 0⟩, 5⟩, ⟨50, 0⟩)] : List (Outcome × Timestamp)).Perm
        (firstOutcomes ++ secondOutcomes) := by decide
  exact (PatternRecord.merged_observeAll Arithmetic.exact_fractions interleaved).2.1

end Sample

end TaskLoop
