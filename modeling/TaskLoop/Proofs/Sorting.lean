import Mathlib.Data.List.Sort

/-!
Stable sorts by keys, and prefixes of what is sorted.
-/

set_option autoImplicit false

namespace TaskLoop

variable {α : Type} {le : α → α → Bool} {values : List α}

theorem mergeSort_congr {le' : α → α → Bool}
    (same : ∀ left ∈ values, ∀ right ∈ values, le left right = le' left right) :
    values.mergeSort le = values.mergeSort le' := by
  have mapped := List.map_mergeSort (f := id) same
  rwa [List.map_id, List.map_id] at mapped

/-- A sort by keys leaves values with one key in the order they came in. -/
theorem pairwise_mergeSort_key {κ : Type} [LinearOrder κ] (key : α → κ) {came : α → α → Prop}
    (ordered : values.Pairwise came) :
    (values.mergeSort fun left right => decide (key left ≤ key right)).Pairwise fun left right =>
      key left < key right ∨ key left = key right ∧ came left right := by
  have trans (first second third : α) (before : decide (key first ≤ key second) = true)
      (behind : decide (key second ≤ key third) = true) :
      decide (key first ≤ key third) = true := by
    rw [decide_eq_true_iff] at before behind ⊢
    exact before.trans behind
  have total (left right : α) :
      (decide (key left ≤ key right) || decide (key right ≤ key left)) = true := by
    rw [Bool.or_eq_true, decide_eq_true_iff, decide_eq_true_iff]
    exact le_total _ _
  rw [List.pairwise_iff_forall_sublist]
  intro left right inOrder
  have before := List.pairwise_iff_forall_sublist.mp (List.pairwise_mergeSort trans total values)
    inOrder
  refine (lt_or_eq_of_le (decide_eq_true_iff.mp before)).imp_right fun same => ⟨same, ?_⟩
  -- The values with the one key stand in the sorted list as they came in.
  let level (value : α) : Bool := decide (key value = key right)
  have tied : (values.filter level).Pairwise fun first second =>
      decide (key first ≤ key second) = true := by
    refine List.pairwise_of_forall_mem_list fun first isFirst second isSecond => ?_
    have first' := decide_eq_true_iff.mp (List.mem_filter.mp isFirst).2
    have second' := decide_eq_true_iff.mp (List.mem_filter.mp isSecond).2
    exact decide_eq_true_iff.mpr (first'.trans second'.symm).le
  have stays := (List.sublist_mergeSort trans total tied List.filter_sublist).filter level
  simp only [List.filter_filter, Bool.and_self] at stays
  have whole := stays.eq_of_length ((List.mergeSort_perm values _).filter level).length_eq.symm
  have both := inOrder.filter level
  have kept : [left, right].filter level = [left, right] := by
    simp only [List.filter_cons, level, same, decide_true, ↓reduceIte, List.filter_nil]
  rw [kept, ← whole] at both
  exact List.pairwise_iff_forall_sublist.mp ordered (both.trans List.filter_sublist)

/-- What passes a test is a prefix when nothing that fails it stands before. -/
theorem filter_prefix {test : α → Bool}
    (front : values.Pairwise fun left right => test right = true → test left = true) :
    values.filter test <+: values := by
  induction values with
  | nil => exact List.prefix_rfl
  | cons value values ih =>
    obtain ⟨first, others⟩ := List.pairwise_cons.mp front
    cases passes : test value with
    | true =>
      rw [List.filter_cons_of_pos passes, List.prefix_cons_inj]
      exact ih others
    | false =>
      have none : values.filter test = [] := by
        refine List.filter_eq_nil_iff.mpr fun other member passes' => ?_
        rw [first other member passes'] at passes
        cases passes
      rw [List.filter_cons_of_neg (by rw [passes]; exact Bool.false_ne_true), none]
      exact List.nil_prefix

end TaskLoop
