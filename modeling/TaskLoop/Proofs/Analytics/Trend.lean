import Mathlib.Data.Bool.Count
import TaskLoop.Analytics.Summary
import TaskLoop.Proofs.Pattern.Table

/-!
Which way outcomes are going. A trend compares the latest three outcomes with those before them, of
which there may be three, fewer or none. Where there are some, the shares of success are compared
as exact shares would be, so outcomes of one kind have no direction, and the opposite outcomes have
the opposite one. Where there are none, a share of nought stands in, and any success is an
improvement on it.
-/

set_option autoImplicit false

namespace TaskLoop.Analytics

/-- The trend of the opposite outcomes. -/
def Trend.reversed : Trend → Trend
  | improving => declining
  | declining => improving
  | stable => stable
  | insufficient => insufficient

/-! ### The two windows -/

/-- The latest outcomes, which a trend is about. -/
def laterWindow (outcomes : List Bool) : List Bool := lastItems trendWindow outcomes

/-- The outcomes just before these, as far as there are any. -/
def earlierWindow (outcomes : List Bool) : List Bool :=
  lastItems trendWindow (outcomes.take (outcomes.length - trendWindow))

theorem lastItems_append {β : Type} {count : Nat} (front : List β) {items : List β}
    (long : count ≤ items.length) : lastItems count (front ++ items) = lastItems count items := by
  have far : (front ++ items).length - count = front.length + (items.length - count) := by
    rw [List.length_append]
    omega
  rw [lastItems, far, List.drop_length_add_append, lastItems]

section Windows

variable {outcomes : List Bool}

theorem length_laterWindow (long : trendWindow ≤ outcomes.length) :
    (laterWindow outcomes).length = trendWindow := by
  rw [laterWindow, length_lastItems]
  omega

theorem length_earlierWindow (outcomes : List Bool) :
    (earlierWindow outcomes).length = min trendWindow (outcomes.length - trendWindow) := by
  rw [earlierWindow, length_lastItems, List.length_take]
  omega

theorem laterWindow_map (change : Bool → Bool) (outcomes : List Bool) :
    laterWindow (outcomes.map change) = (laterWindow outcomes).map change :=
  (map_lastItems change _ outcomes).symm

theorem earlierWindow_map (change : Bool → Bool) (outcomes : List Bool) :
    earlierWindow (outcomes.map change) = (earlierWindow outcomes).map change := by
  rw [earlierWindow, List.length_map, ← List.map_take, ← map_lastItems, earlierWindow]

theorem laterWindow_append (front : List Bool) (long : trendWindow ≤ outcomes.length) :
    laterWindow (front ++ outcomes) = laterWindow outcomes :=
  lastItems_append front long

/-- Outcomes that both windows fit in are all that they see. -/
theorem earlierWindow_append (front : List Bool) (long : 2 * trendWindow ≤ outcomes.length) :
    earlierWindow (front ++ outcomes) = earlierWindow outcomes := by
  have far : (front ++ outcomes).length - trendWindow =
      front.length + (outcomes.length - trendWindow) := by
    rw [List.length_append]
    omega
  rw [earlierWindow, far, List.take_length_add_append, earlierWindow]
  apply lastItems_append
  rw [List.length_take]
  omega

theorem eq_of_mem_laterWindow {outcome : Bool} (same : ∀ other ∈ outcomes, other = outcome) :
    ∀ other ∈ laterWindow outcomes, other = outcome :=
  fun other member => same other (List.mem_of_mem_drop member)

theorem eq_of_mem_earlierWindow {outcome : Bool} (same : ∀ other ∈ outcomes, other = outcome) :
    ∀ other ∈ earlierWindow outcomes, other = outcome :=
  fun other member => same other (List.mem_of_mem_take (List.mem_of_mem_drop member))

end Windows

/-! ### Shares of few outcomes -/

/-- The trend from some successes among the outcomes before to some of the latest three. -/
def trendBetween (α : Type) [Arithmetic α] (before earlier later : Nat) : Trend :=
  let recent : α := rate later trendWindow
  let former : α := rate earlier before
  let margin : α := Arithmetic.quotient 1 10
  if Arithmetic.less (former + margin) recent then .improving
  else if Arithmetic.less recent (former - margin) then .declining
  else .stable

/-- The same by exact shares and without a margin. Nothing is a share of nought. -/
def exactTrend (before earlier later : Nat) : Trend :=
  if before = 0 then if later = 0 then .stable else .improving
  else if trendWindow * earlier < before * later then .improving
  else if before * later < trendWindow * earlier then .declining
  else .stable

theorem trendOf_eq {α : Type} [Arithmetic α] {outcomes : List Bool}
    (long : trendWindow ≤ outcomes.length) :
    trendOf α outcomes = trendBetween α (earlierWindow outcomes).length
      ((earlierWindow outcomes).count true) ((laterWindow outcomes).count true) := by
  have recent : (successShare (lastItems trendWindow outcomes) : α) =
      rate ((laterWindow outcomes).count true) trendWindow := by
    rw [successShare]
    exact congrArg (rate _) (length_laterWindow long)
  rw [trendOf, if_neg (Nat.not_lt.mpr long)]
  simp only [recent]
  rfl

/-- Shares of three outcomes and of up to three that differ at all differ by more than the margin,
also when they are rounded. -/
theorem trendBetween_eq {before earlier later : Nat} (few : before ≤ 3) (share : earlier ≤ before)
    (most : later ≤ 3) :
    trendBetween Float before earlier later = exactTrend before earlier later := by
  have each : ∀ before < 4, ∀ earlier < before + 1, ∀ later < 4,
      trendBetween Float before earlier later = exactTrend before earlier later := by
    decide +kernel
  exact each before (by omega) earlier (by omega) later (by omega)

section Shares

variable {before earlier later : Nat}

/-- The opposite outcomes have the opposite trend. -/
theorem exactTrend_opposite (some : 0 < before) (share : earlier ≤ before)
    (most : later ≤ trendWindow) : exactTrend before (before - earlier) (trendWindow - later) =
      (exactTrend before earlier later).reversed := by
  have early : trendWindow * earlier ≤ trendWindow * before := Nat.mul_le_mul_left _ share
  have late : before * later ≤ before * trendWindow := Nat.mul_le_mul_left _ most
  simp only [exactTrend, if_neg some.ne', Nat.mul_sub, Nat.mul_comm before trendWindow] at late ⊢
  rcases Nat.lt_trichotomy (trendWindow * earlier) (before * later) with less | same | more
  · rw [if_neg (by omega), if_pos (by omega), if_pos less, Trend.reversed]
  · rw [if_neg (by omega), if_neg (by omega), if_neg (by omega), if_neg (by omega), Trend.reversed]
  · rw [if_pos (by omega), if_neg (by omega), if_pos more, Trend.reversed]

theorem exactTrend_none (before : Nat) : exactTrend before 0 0 = .stable := by
  simp [exactTrend]

theorem exactTrend_all (some : 0 < before) : exactTrend before before trendWindow = .stable := by
  simp [exactTrend, some.ne', Nat.mul_comm]

end Shares

/-! ### Trends -/

section Trends

variable {outcomes : List Bool}

theorem trendOf_exact (long : trendWindow ≤ outcomes.length) :
    trendOf Float outcomes = exactTrend (earlierWindow outcomes).length
      ((earlierWindow outcomes).count true) ((laterWindow outcomes).count true) := by
  have most := List.count_le_length (a := true) (l := laterWindow outcomes)
  rw [length_laterWindow long] at most
  rw [trendOf_eq long]
  refine trendBetween_eq ?_ List.count_le_length most
  rw [length_earlierWindow]
  exact Nat.min_le_left _ _

theorem trendOf_short {α : Type} [Arithmetic α] (short : outcomes.length < trendWindow) :
    trendOf α outcomes = .insufficient := by
  rw [trendOf, if_pos short]

/-- Only the last six outcomes count. -/
theorem trendOf_append (front : List Bool) (long : 2 * trendWindow ≤ outcomes.length) :
    trendOf Float (front ++ outcomes) = trendOf Float outcomes := by
  have least : trendWindow ≤ outcomes.length := by omega
  rw [trendOf_exact least, trendOf_exact, earlierWindow_append front long,
    laterWindow_append front least]
  rw [List.length_append]
  omega

theorem trendOf_lastItems (long : 2 * trendWindow ≤ outcomes.length) :
    trendOf Float (lastItems (2 * trendWindow) outcomes) = trendOf Float outcomes := by
  have cut : outcomes.take (outcomes.length - 2 * trendWindow) ++
      lastItems (2 * trendWindow) outcomes = outcomes := List.take_append_drop _ outcomes
  have latest : 2 * trendWindow ≤ (lastItems (2 * trendWindow) outcomes).length := by
    rw [length_lastItems]
    omega
  have whole := trendOf_append (outcomes.take (outcomes.length - 2 * trendWindow)) latest
  rw [cut] at whole
  exact whole.symm

/-- With something to compare with, outcomes of one kind have no direction. -/
theorem trendOf_uniform {outcome : Bool} (same : ∀ other ∈ outcomes, other = outcome)
    (long : trendWindow < outcomes.length) : trendOf Float outcomes = .stable := by
  have some : 0 < (earlierWindow outcomes).length := by
    rw [length_earlierWindow]
    simp only [trendWindow] at long ⊢
    omega
  rw [trendOf_exact long.le]
  cases outcome with
  | true =>
    have early := List.count_eq_length.mpr fun other member =>
      (eq_of_mem_earlierWindow same other member).symm
    have late := List.count_eq_length.mpr fun other member =>
      (eq_of_mem_laterWindow same other member).symm
    rw [early, late, length_laterWindow long.le]
    exact exactTrend_all some
  | false =>
    have early : (earlierWindow outcomes).count true = 0 := by
      refine List.count_eq_zero.mpr fun member => ?_
      cases eq_of_mem_earlierWindow same _ member
    have late : (laterWindow outcomes).count true = 0 := by
      refine List.count_eq_zero.mpr fun member => ?_
      cases eq_of_mem_laterWindow same _ member
    rw [early, late]
    exact exactTrend_none _

theorem count_map_not (outcomes : List Bool) :
    (outcomes.map (!·)).count true = outcomes.length - outcomes.count true := by
  have both := List.count_not_add_count outcomes true
  have turned : (outcomes.map (!·)).count true = outcomes.count (!true) := by
    simp [List.count_eq_countP, List.countP_map, Function.comp_def]
  omega

/-- With something to compare with, the opposite outcomes have the opposite trend. -/
theorem trendOf_opposite (long : trendWindow < outcomes.length) :
    trendOf Float (outcomes.map (!·)) = (trendOf Float outcomes).reversed := by
  have most := List.count_le_length (a := true) (l := laterWindow outcomes)
  rw [length_laterWindow long.le] at most
  have some : 0 < (earlierWindow outcomes).length := by
    rw [length_earlierWindow]
    simp only [trendWindow] at long ⊢
    omega
  rw [trendOf_exact long.le, trendOf_exact (by rw [List.length_map]; exact long.le),
    earlierWindow_map, laterWindow_map, List.length_map, count_map_not, count_map_not,
    length_laterWindow long.le]
  exact exactTrend_opposite some List.count_le_length most

/-- Three outcomes have nothing to be compared with. One success among them is an improvement. -/
theorem trendOf_three (three : outcomes.length = trendWindow) :
    trendOf Float outcomes = if true ∈ outcomes then .improving else .stable := by
  have whole : laterWindow outcomes = outcomes := by
    rw [laterWindow, lastItems, three, Nat.sub_self, List.drop_zero]
  have nothing : (earlierWindow outcomes).length = 0 := by
    rw [length_earlierWindow, three, Nat.sub_self, Nat.min_zero]
  rw [trendOf_exact three.ge, whole, nothing, exactTrend, if_pos rfl]
  by_cases member : true ∈ outcomes
  · rw [if_neg (List.count_pos_iff.mpr member).ne', if_pos member]
  · rw [if_pos (List.count_eq_zero.mpr member), if_neg member]

end Trends

/-! ### Phases -/

/-- A phase that succeeded in every iteration has as many successes. -/
theorem phaseOutcomes_completed {history : List Iteration} {phase : Phase}
    (completed : ∀ iteration ∈ history, iteration.status.find? phase = some .completed) :
    phaseOutcomes history phase = List.replicate history.length true := by
  induction history with
  | nil => rfl
  | cons iteration history ih =>
    obtain ⟨first, others⟩ := List.forall_mem_cons.mp completed
    have found := ih others
    rw [phaseOutcomes] at found ⊢
    simp only [List.filterMap_cons, first, found]
    rfl

/-- The key of a phase, at whatever complexity, is about the outcomes of that phase. -/
theorem keyOutcomes_of_phase (history : List Iteration) {key : String} {phase : Phase}
    (isPhase : (Pattern.splitKey key).1 = phase.patternId) :
    keyOutcomes history key = phaseOutcomes history phase := by
  have found : (Phase.all.find? fun other => other.patternId == (Pattern.splitKey key).1) =
      some phase := by
    rw [isPhase]
    cases phase <;> rfl
  rw [keyOutcomes, found]

/-- Once there are six outcomes only the last six count. Unless there are exactly three, outcomes
of one kind neither improve nor decline, and for the opposite outcomes improving and declining
change places; of three outcomes the trend is an improvement if any is a success. So a phase that
succeeded in every iteration is reported as improving when there are three iterations, and never
when there are fewer or more. -/
theorem trends_compare_windows {β : Type} (outcomes : List Bool) (history : List Iteration)
    (table : Pattern.Table Float) (errors : ErrorIndex β) (phase : Phase) :
    (6 ≤ outcomes.length → trendOf Float outcomes = trendOf Float (lastItems 6 outcomes)) ∧
    (outcomes.length ≠ 3 →
      (∀ outcome, (∀ other ∈ outcomes, other = outcome) →
        trendOf Float outcomes ≠ .improving ∧ trendOf Float outcomes ≠ .declining) ∧
      trendOf Float (outcomes.map (!·)) = (trendOf Float outcomes).reversed) ∧
    (outcomes.length = 3 →
      trendOf Float outcomes = if true ∈ outcomes then .improving else .stable) ∧
    ((∀ iteration ∈ history, iteration.status.find? phase = some .completed) →
      ∀ trend ∈ (summarize history table errors).trends,
        (Pattern.splitKey trend.key).1 = phase.patternId →
        trend.trend = if history.length < 3 then .insufficient
          else if history.length = 3 then .improving else .stable) := by
  refine ⟨fun long => (trendOf_lastItems long).symm, fun notThree => ⟨?_, ?_⟩, trendOf_three, ?_⟩
  · intro outcome same
    rcases Nat.lt_or_ge outcomes.length trendWindow with short | long
    · rw [trendOf_short short]
      exact ⟨Trend.noConfusion, Trend.noConfusion⟩
    · rw [trendOf_uniform same (lt_of_le_of_ne long (Ne.symm notThree))]
      exact ⟨Trend.noConfusion, Trend.noConfusion⟩
  · rcases Nat.lt_or_ge outcomes.length trendWindow with short | long
    · rw [trendOf_short short, trendOf_short (by rwa [List.length_map]), Trend.reversed]
    · exact trendOf_opposite (lt_of_le_of_ne long (Ne.symm notThree))
  · intro completed trend member isPhase
    obtain ⟨⟨key, record⟩, -, rfl⟩ := List.mem_map.mp member
    have successes := (keyOutcomes_of_phase history isPhase).trans
      (phaseOutcomes_completed completed)
    have length := congrArg List.length successes
    rw [List.length_replicate] at length
    show trendOf Float (keyOutcomes history key) = _
    rcases Nat.lt_trichotomy history.length 3 with fewer | three | more
    · rw [if_pos fewer, trendOf_short (length ▸ fewer)]
    · rw [if_neg (by omega), if_pos three, trendOf_three (length.trans three), if_pos]
      rw [successes, three]
      exact List.mem_cons_self
    · rw [if_neg (by omega), if_neg (by omega)]
      have same : ∀ other ∈ keyOutcomes history key, other = true := by
        intro other among
        rw [successes] at among
        exact List.eq_of_mem_replicate among
      exact trendOf_uniform same (length ▸ more)

end TaskLoop.Analytics

namespace TaskLoop.Sample

open Analytics ErrorIndex

/-- Three successes are all alike, and yet an improvement; three failures are not the opposite. -/
theorem three_successes_improve : trendOf Float [true, true, true] = .improving ∧
    trendOf Float [false, false, false] ≠ .declining := by
  decide +kernel

/-- An iteration that produced an artifact. -/
def productive : Iteration :=
  { Iteration.new 1 "é" ⟨0, 0⟩ with status := OrderedMap.ofList [(.generation, .completed)] }

/-- A table with a record of the generation of simple artifacts. -/
def generationTable : Pattern.Table Float := OrderedMap.ofList [("GENERATION@low", .empty)]

theorem seven_outcomes_compared :
    trendOf Float [false, true, false, false, true, false, true] =
        trendOf Float [true, false, false, true, false, true] ∧
      trendOf Float [true, true, true, true] ≠ .improving ∧
      trendOf Float [false, true, true, false, false] =
        (trendOf Float [true, false, false, true, true]).reversed ∧
      trendOf Float [false, true, false] = .improving ∧
      ∀ trend ∈ (summarize (List.replicate 4 productive) generationTable
        (ErrorIndex.empty (0.3 : Float))).trends, trend.trend = .stable := by
  have compared (outcomes : List Bool) := trends_compare_windows outcomes
    (List.replicate 4 productive) generationTable (ErrorIndex.empty (0.3 : Float)) .generation
  refine ⟨(compared [false, true, false, false, true, false, true]).1 (by decide),
    (((compared [true, true, true, true]).2.1 (by decide)).1 true (by decide)).1,
    ((compared [true, false, false, true, true]).2.1 (by decide)).2,
    (compared [false, true, false]).2.2.1 (by decide), ?_⟩
  intro trend member
  have completed : ∀ iteration ∈ List.replicate 4 productive,
      iteration.status.find? .generation = some .completed := by
    intro iteration among
    rw [List.eq_of_mem_replicate among]
    decide
  have isPhase : (Pattern.splitKey trend.key).1 = Phase.generation.patternId := by
    obtain ⟨entry, among, rfl⟩ := List.mem_map.mp member
    obtain rfl := List.mem_singleton.mp among
    decide +kernel
  exact (compared []).2.2.2 completed trend member isPhase

end TaskLoop.Sample
