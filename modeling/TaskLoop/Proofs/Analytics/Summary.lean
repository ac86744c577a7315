import Mathlib.Algebra.BigOperators.Group.List.Basic
import Mathlib.Algebra.Order.BigOperators.Group.List
import Mathlib.Algebra.Order.Field.Basic
import Mathlib.Data.List.Induction
import Mathlib.Order.OrderDual
import TaskLoop.Analytics.Summary
import TaskLoop.Proofs.Arithmetic
import TaskLoop.Proofs.OrderedMap
import TaskLoop.Proofs.Sorting

/-!
What a summary keeps of a history. Each iteration is counted once as a success or as none, each
failure once by its category and once by where it happened, and each duration once for its phase,
so that the totals of the phases add up to the time of all iterations; only the moving average
tells in which order the iterations came. In which order keys come makes no difference to a tally
of them: its counts add up to their number, and listed by count each key stands once, level ones in
their own order.
-/

set_option autoImplicit false

namespace TaskLoop.Analytics

/-! ### Tallies -/

section Tallies

variable {κ : Type} [Ord κ] [Std.TransOrd κ] [Std.LawfulEqOrd κ]

theorem tally_snoc (keys : List κ) (key : κ) : tally (keys ++ [key]) = (tally keys).raise key 1 := by
  rw [tally, List.foldl_append]
  rfl

theorem sum_values_tally (keys : List κ) : (tally keys).values.sum = keys.length := by
  induction keys using List.reverseRecOn with
  | nil => rfl
  | append_singleton keys key ih =>
    rw [tally_snoc, OrderedMap.sum_values_raise, ih, List.length_append, List.length_singleton]

section Decided

variable [DecidableEq κ]

theorem tally_perm {keys listed : List κ} (same : keys.Perm listed) : tally keys = tally listed :=
  same.foldl_eq' (fun _ _ _ _ _ => OrderedMap.raise_comm _ _ _ _ _) _

theorem find?_tally (keys : List κ) (asked : κ) :
    ((tally keys).find? asked).getD 0 = keys.count asked := by
  induction keys using List.reverseRecOn with
  | nil => rfl
  | append_singleton keys key ih =>
    rw [tally_snoc, OrderedMap.find?_raise, List.count_append, List.count_singleton]
    by_cases same : asked = key
    · subst same
      simp only [↓reduceIte, Option.getD_some, ih, beq_self_eq_true]
    · have apart : (key == asked) = false := beq_eq_false_iff_ne.mpr (Ne.symm same)
      simp only [same, ↓reduceIte, ih, apart, Bool.false_eq_true, Nat.add_zero]

end Decided

end Tallies

/-! ### Listed by count -/

section Listed

variable {κ : Type} [Ord κ]

/-- Keys listed with their counts: each key once, the larger counts first and level ones by key. -/
structure Ranked (listed : List (κ × Nat)) : Prop where
  distinct : (listed.map (·.1)).Nodup
  ordered : listed.Pairwise fun left right =>
    right.2 < left.2 ∨ left.2 = right.2 ∧ compare left.1 right.1 = .lt

theorem byCount_perm (counts : OrderedMap κ Nat) : (byCount counts).Perm counts.entries :=
  List.mergeSort_perm _ _

theorem sum_byCount (counts : OrderedMap κ Nat) :
    ((byCount counts).map (·.2)).sum = counts.values.sum :=
  ((byCount_perm counts).map (·.2)).sum_nat

theorem ranked_byCount [Std.LawfulEqOrd κ] (counts : OrderedMap κ Nat) :
    Ranked (byCount counts) where
  distinct := ((byCount_perm counts).map Prod.fst).nodup_iff.mpr counts.nodup_keys
  ordered := pairwise_mergeSort_key (fun entry : κ × Nat => OrderDual.toDual entry.2)
    counts.ascending

end Listed

/-! ### Some durations -/

/-- The spread of durations, if there are any. -/
def spread? {α : Type} [Arithmetic α] : List α → Option (PhaseTiming α)
  | [] => none
  | first :: rest => some (.ofSamples first rest)

/-- The mean lies between the least and the most, and the variance tells whether these differ. -/
structure PhaseTiming.Sound (timing : PhaseTiming ℚ) : Prop where
  least_le : timing.least ≤ timing.mean
  le_most : timing.mean ≤ timing.most
  variance_nonneg : 0 ≤ timing.variance
  variance_eq_zero_iff : timing.variance = 0 ↔ timing.least = timing.most

theorem sum_fractions (values : List ℚ) : Arithmetic.sum values = values.sum :=
  List.sum_eq_foldl.symm

section Samples

variable (first : ℚ) (rest : List ℚ)

theorem min?_eq_least :
    (first :: rest).min? = some (PhaseTiming.ofSamples first rest).least := by
  have smaller : (Arithmetic.least : ℚ → ℚ → ℚ) = min := by
    funext left right
    simp only [Arithmetic.least, Arithmetic.less, decide_eq_true_eq]
    rw [← min_def_lt, min_comm]
  rw [List.min?_cons', PhaseTiming.ofSamples, smaller]

theorem max?_eq_most :
    (first :: rest).max? = some (PhaseTiming.ofSamples first rest).most := by
  have larger : (Arithmetic.most : ℚ → ℚ → ℚ) = max := by
    funext left right
    simp only [Arithmetic.most, Arithmetic.less, decide_eq_true_eq]
    rw [← max_def_lt]
  rw [List.max?_cons', PhaseTiming.ofSamples, larger]

theorem mean_mul_length : (PhaseTiming.ofSamples first rest).mean * (first :: rest).length =
    (first :: rest).sum := by
  have some : ((first :: rest).length : ℚ) ≠ 0 := Nat.cast_ne_zero.mpr (Nat.succ_ne_zero _)
  have mean : (PhaseTiming.ofSamples first rest).mean =
      Arithmetic.sum (first :: rest) / ((first :: rest).length : ℚ) := rfl
  rw [mean, sum_fractions, div_mul_cancel₀ _ some]

/-- The squares of how far durations lie from their mean. -/
def deviations (first : ℚ) (rest : List ℚ) : List ℚ :=
  let mean := (PhaseTiming.ofSamples first rest).mean
  (first :: rest).map fun sample => (sample - mean) * (sample - mean)

theorem variance_eq : (PhaseTiming.ofSamples first rest).variance =
    (deviations first rest).sum / ((first :: rest).length : ℚ) := by
  rw [← sum_fractions]
  rfl

theorem deviations_nonneg : ∀ deviation ∈ deviations first rest, 0 ≤ deviation := by
  intro deviation member
  obtain ⟨sample, -, rfl⟩ := List.mem_map.mp member
  exact mul_self_nonneg _

/-- There is no variance just when every duration is the mean. -/
theorem variance_eq_zero_iff_mean : (PhaseTiming.ofSamples first rest).variance = 0 ↔
    ∀ sample ∈ first :: rest, sample = (PhaseTiming.ofSamples first rest).mean := by
  have some : ((first :: rest).length : ℚ) ≠ 0 := Nat.cast_ne_zero.mpr (Nat.succ_ne_zero _)
  rw [variance_eq, div_eq_zero_iff, or_iff_left some]
  constructor
  · intro none sample member
    have own := List.all_zero_of_le_zero_le_of_sum_eq_zero (deviations_nonneg first rest) none
      (List.mem_map_of_mem member)
    exact sub_eq_zero.mp (mul_self_eq_zero.mp own)
  · intro same
    refine List.sum_eq_zero fun deviation member => ?_
    obtain ⟨sample, isSample, rfl⟩ := List.mem_map.mp member
    rw [same sample isSample, sub_self, mul_zero]

theorem sound_ofSamples : (PhaseTiming.ofSamples first rest).Sound := by
  obtain ⟨isLeast, least⟩ := List.min?_eq_some_iff.mp (min?_eq_least first rest)
  obtain ⟨isMost, most⟩ := List.max?_eq_some_iff.mp (max?_eq_most first rest)
  have some : (0 : ℚ) < (first :: rest).length := Nat.cast_pos.mpr (Nat.succ_pos _)
  have below := List.card_nsmul_le_sum _ _ least
  have above := List.sum_le_card_nsmul _ _ most
  rw [nsmul_eq_mul, mul_comm, ← mean_mul_length] at below
  rw [nsmul_eq_mul, mul_comm _ (PhaseTiming.most _), ← mean_mul_length] at above
  refine ⟨le_of_mul_le_mul_right below some, le_of_mul_le_mul_right above some, ?_, ?_⟩
  · rw [variance_eq]
    exact div_nonneg (List.sum_nonneg (deviations_nonneg first rest)) some.le
  · rw [variance_eq_zero_iff_mean]
    constructor
    · intro same
      rw [same _ isLeast, same _ isMost]
    · intro level
      -- Between a least and a most that are one number there is nothing but it.
      have same : ∀ sample ∈ first :: rest,
          sample = (PhaseTiming.ofSamples first rest).least := fun sample member =>
        le_antisymm ((most sample member).trans_eq level.symm) (least sample member)
      intro sample member
      rw [same sample member]
      exact le_antisymm (le_of_mul_le_mul_right below some)
        ((le_of_mul_le_mul_right above some).trans_eq level.symm)

end Samples

attribute [ext] PhaseTiming

/-- The order of durations makes no difference to their spread. -/
theorem spread?_perm {samples listed : List ℚ} (same : samples.Perm listed) :
    spread? samples = spread? listed := by
  cases samples with
  | nil => rw [List.nil_perm.mp same]
  | cons first rest =>
    cases listed with
    | nil => cases same.length_eq
    | cons other others =>
      have length : (first :: rest).length = (other :: others).length := same.length_eq
      have least : (first :: rest).min? = (other :: others).min? := by
        rw [min?_eq_least first rest, eq_comm, List.min?_eq_some_iff]
        obtain ⟨isLeast, least⟩ := List.min?_eq_some_iff.mp (min?_eq_least first rest)
        exact ⟨same.subset isLeast, fun sample member => least sample (same.symm.subset member)⟩
      have most : (first :: rest).max? = (other :: others).max? := by
        rw [max?_eq_most first rest, eq_comm, List.max?_eq_some_iff]
        obtain ⟨isMost, most⟩ := List.max?_eq_some_iff.mp (max?_eq_most first rest)
        exact ⟨same.subset isMost, fun sample member => most sample (same.symm.subset member)⟩
      rw [min?_eq_least, min?_eq_least, Option.some_inj] at least
      rw [max?_eq_most, max?_eq_most, Option.some_inj] at most
      have total : (PhaseTiming.ofSamples first rest).total =
          (PhaseTiming.ofSamples other others).total := by
        have sums := same.sum_eq
        rwa [← sum_fractions, ← sum_fractions] at sums
      have mean : (PhaseTiming.ofSamples first rest).mean =
          (PhaseTiming.ofSamples other others).mean :=
        congrArg₂ (· / ·) total (congrArg Arithmetic.ofNat length)
      have variance : (PhaseTiming.ofSamples first rest).variance =
          (PhaseTiming.ofSamples other others).variance := by
        rw [variance_eq, variance_eq, deviations, deviations, mean, length]
        exact congrArg (· / _) (same.map _).sum_eq
      rw [spread?, spread?, PhaseTiming.ext length mean variance least most total]

/-! ### All phases -/

theorem ascending_phases : Phase.all.Pairwise fun before after => compare before after = .lt := by
  decide

theorem mem_phases (phase : Phase) : phase ∈ Phase.all := by
  cases phase <;> decide

section Phases

variable {α : Type} [Arithmetic α] {history : List Iteration}

theorem timings_eq (history : List Iteration) :
    (timings history : OrderedMap Phase (PhaseTiming α)) = OrderedMap.ofList
      (Phase.all.filterMap fun phase => (spread? (samplesOf history phase)).map (phase, ·)) := by
  refine congrArg OrderedMap.ofList (congrArg (Phase.all.filterMap ·) ?_)
  funext phase
  cases (samplesOf history phase : List α) <;> rfl

theorem find?_timings (history : List Iteration) (phase : Phase) :
    (timings history : OrderedMap Phase (PhaseTiming α)).find? phase =
      spread? (samplesOf history phase) := by
  rw [timings_eq]
  exact OrderedMap.find?_ofList_filterMap ascending_phases mem_phases _ phase

theorem samplesOf_cons (iteration : Iteration) (history : List Iteration) (phase : Phase) :
    (samplesOf (iteration :: history) phase : List α) =
      ((iteration.durations.find? phase).map inSeconds).toList ++ samplesOf history phase := by
  rw [samplesOf, List.filterMap_cons]
  cases iteration.durations.find? phase <;> rfl

end Phases

theorem total_spread? (samples : List ℚ) :
    ((spread? samples).map (·.total)).getD 0 = samples.sum := by
  cases samples with
  | nil => rfl
  | cons first rest => exact sum_fractions (first :: rest)

/-- The totals of the phases are the sums of their durations. -/
theorem sum_totals (history : List Iteration) :
    ((timings history : OrderedMap Phase (PhaseTiming ℚ)).values.map (·.total)).sum =
      (Phase.all.map fun phase => (samplesOf history phase).sum).sum := by
  have totals : (Phase.all.map fun phase => (samplesOf history phase : List ℚ).sum) =
      Phase.all.map fun phase => ((spread? (samplesOf history phase)).map (·.total)).getD 0 :=
    List.map_congr_left fun phase _ => (total_spread? _).symm
  rw [totals, timings_eq, OrderedMap.values, OrderedMap.entries_ofList_filterMap ascending_phases]
  generalize Phase.all = phases
  induction phases with
  | nil => rfl
  | cons phase phases ih =>
    rw [List.filterMap_cons, List.map_cons, List.sum_cons, ← ih]
    cases spread? (samplesOf history phase : List ℚ) with
    | none => exact (zero_add _).symm
    | some timing => rfl

theorem inSeconds_add (left right : Nat) :
    (inSeconds (left + right) : ℚ) = inSeconds left + inSeconds right := by
  have whole : ((left + right : ℕ) : ℚ) / (1000 : ℕ) = left / (1000 : ℕ) + right / (1000 : ℕ) := by
    rw [Nat.cast_add, add_div]
  exact whole

theorem inSeconds_sum (durations : List Nat) :
    (inSeconds durations.sum : ℚ) = (durations.map inSeconds).sum := by
  induction durations with
  | nil => exact zero_div _
  | cons duration durations ih => rw [List.sum_cons, inSeconds_add, ih, List.map_cons, List.sum_cons]

/-- The time of an iteration is what its phases took. -/
theorem inSeconds_totalDuration (iteration : Iteration) :
    (inSeconds iteration.totalDuration : ℚ) = (Phase.all.map fun phase =>
      ((iteration.durations.find? phase).map inSeconds).toList.sum).sum := by
  have listed : iteration.totalDuration = iteration.durations.values.sum := List.sum_eq_foldl.symm
  rw [listed, OrderedMap.sum_values_of_forall_mem ascending_phases mem_phases, inSeconds_sum,
    List.map_map]
  refine congrArg List.sum (List.map_congr_left fun phase _ => ?_)
  rw [Function.comp_apply]
  cases iteration.durations.find? phase with
  | none => exact zero_div _
  | some duration => exact (add_zero _).symm

/-- The totals of the phases add up to the time of all iterations. -/
theorem sum_totals_eq (history : List Iteration) :
    ((timings history : OrderedMap Phase (PhaseTiming ℚ)).values.map (·.total)).sum =
      Arithmetic.sum (history.map fun iteration => inSeconds iteration.totalDuration) := by
  rw [sum_totals, sum_fractions]
  induction history with
  | nil =>
    refine List.sum_eq_zero fun sum member => ?_
    obtain ⟨phase, -, rfl⟩ := List.mem_map.mp member
    rfl
  | cons iteration history ih =>
    rw [List.map_cons, List.sum_cons, ← ih, inSeconds_totalDuration, ← List.sum_map_add]
    simp only [samplesOf_cons, List.sum_append]

theorem sound_timings {history : List Iteration} {phase : Phase} {timing : PhaseTiming ℚ}
    (found : (timings history).find? phase = some timing) : timing.Sound := by
  rw [find?_timings] at found
  cases samples : (samplesOf history phase : List ℚ) with
  | nil =>
    rw [samples] at found
    cases found
  | cons first rest =>
    rw [samples] at found
    cases found
    exact sound_ofSamples first rest

/-- The order of the iterations makes no difference to the timings. -/
theorem timings_perm {history listed : List Iteration} (same : history.Perm listed) :
    (timings history : OrderedMap Phase (PhaseTiming ℚ)) = timings listed := by
  refine OrderedMap.ext_find? fun phase => ?_
  rw [find?_timings, find?_timings]
  exact spread?_perm (same.filterMap _)

/-! ### The moving average -/

section Moving

variable {α : Type} [Arithmetic α]

theorem length_movingSuccess (outcomes : List Bool) :
    (movingSuccess outcomes : List α).length =
      if outcomes.length < movingWindow then 0 else outcomes.length := by
  rw [movingSuccess]
  split
  · rfl
  · rw [List.length_map, List.length_range]

theorem getElem?_movingSuccess {outcomes : List Bool} {place : Nat}
    (long : movingWindow ≤ outcomes.length) (inside : place < outcomes.length) :
    (movingSuccess outcomes : List α)[place]? =
      some (successShare (lastItems movingWindow (outcomes.take (place + 1)))) := by
  rw [movingSuccess, if_neg (Nat.not_lt.mpr long), List.getElem?_map, List.getElem?_range inside,
    Option.map_some]

theorem lastItems_min {β : Type} (count : Nat) (items : List β) :
    lastItems (min count items.length) items = lastItems count items := by
  rw [lastItems, lastItems]
  congr 1
  omega

/-- The share of successes among the last iterations up to a place. -/
theorem movingSuccess_of_history {history : List Iteration} {place : Nat}
    (long : 3 ≤ history.length) (inside : place < history.length) :
    (movingSuccess (history.map (·.success)) : List α)[place]? = some
      (Arithmetic.ofNat ((lastItems (min 3 (place + 1)) (history.take (place + 1))).countP
        (·.success)) / Arithmetic.ofNat (min 3 (place + 1))) := by
  have taken : (history.take (place + 1)).length = place + 1 := by
    rw [List.length_take]
    omega
  have window : lastItems (min 3 (place + 1)) (history.take (place + 1)) =
      lastItems movingWindow (history.take (place + 1)) := by
    have whole := lastItems_min movingWindow (history.take (place + 1))
    rwa [taken] at whole
  have length : (lastItems (min 3 (place + 1)) (history.take (place + 1))).length =
      min 3 (place + 1) := by
    rw [length_lastItems, taken]
    omega
  have nonempty : (min 3 (place + 1) == 0) = false := beq_eq_false_iff_ne.mpr (by omega)
  rw [getElem?_movingSuccess (by rwa [List.length_map]) (by rwa [List.length_map]), ← List.map_take,
    ← map_lastItems, ← window, successShare, List.length_map, length, rate, nonempty,
    List.count_eq_countP, List.countP_map]
  simp only [Bool.false_eq_true, ↓reduceIte, Function.comp_def, beq_true]

end Moving

/-! ### The failures of a history -/

/-- How many failures a history tells of. -/
def failureCount (history : List Iteration) : Nat :=
  (history.map fun iteration => iteration.failures.length).sum

theorem sum_byCount_tally {κ : Type} [Ord κ] [Std.TransOrd κ] [Std.LawfulEqOrd κ]
    (history : List Iteration) (key : FailedAttempt → κ) :
    ((byCount (tally ((history.flatMap (·.failures)).map key))).map (·.2)).sum =
      failureCount history := by
  rw [sum_byCount, sum_values_tally, List.length_map, List.length_flatMap, failureCount]

section Conserved

variable {α β : Type} [Arithmetic α]

theorem successful_summarize (history : List Iteration) (table : Pattern.Table α)
    (errors : ErrorIndex β) :
    (summarize history table errors).successful = history.countP (·.success) := by
  have counted : (summarize history table errors).successful =
      (history.map (·.success)).count true := rfl
  rw [counted, List.count_eq_countP, List.countP_map]
  simp only [Function.comp_def, beq_true]

end Conserved

end TaskLoop.Analytics

namespace TaskLoop.Sample

open Analytics ErrorIndex

/-- An iteration that failed twice in one attempt, and spent its time in two phases. -/
def failing : Iteration :=
  { Iteration.new 1 "é" ⟨0, 0⟩ with
    durations := OrderedMap.ofList [(.review, 250), (.exploration, 1500)]
    failures := [⟨.generation, 1, .unknown, "a"⟩, ⟨.compilation, 1, .syntactic, "b"⟩] }

/-- An iteration that succeeded behind one failure. -/
def recovering : Iteration :=
  { Iteration.new 2 "é" ⟨9, 0⟩ with
    durations := OrderedMap.ofList [(.exploration, 500)]
    success := true
    failures := [⟨.compilation, 1, .syntactic, "b"⟩] }

end TaskLoop.Sample
