import TaskLoop.Proofs.ErrorIndex.Ranking

/-!
What is suggested for a failure. Records are cut off at the number that was asked for before the
overcome ones are picked out of them, so a way to overcome a failure is suggested just when fewer
records than that rank before the first one that tells a way.
-/

set_option autoImplicit false

namespace TaskLoop.ErrorIndex

variable {α β : Type} [Arithmetic α]

/-- A record that tells how a failure was overcome and is similar enough to a text. -/
structure IsFix (index : ErrorIndex α) (text note : String) (entry : String × ErrorRecord) :
    Prop where
  stored : entry ∈ index.records.entries
  high : Arithmetic.atMost index.threshold (scoreOf text entry) = true
  resolved : entry.2.resolved = true
  noted : entry.2.note = some note

/-- The first of such records in the order of the ranking. -/
structure IsBestFix (index : ErrorIndex α) (text note : String) (entry : String × ErrorRecord) :
    Prop extends IsFix index text note entry where
  first : ∀ other note', IsFix index text note' other →
    other = entry ∨ RanksBefore α text entry other

/-- How many records that are similar enough rank before one. -/
def countAhead (index : ErrorIndex α) (text : String) (entry : String × ErrorRecord) : Nat :=
  index.records.entries.countP fun other =>
    decide (RanksBefore α text other entry) &&
      Arithmetic.atMost index.threshold (scoreOf text other)

/-- The note that a record is suggested with, if it is. -/
def fixOf (entry : String × ErrorRecord) : Option String :=
  if entry.2.resolved then entry.2.note else none

section Fixes

variable {index : ErrorIndex α} {text note : String} {top : Nat}
  {entry : String × ErrorRecord} {front back : List (String × ErrorRecord)}

theorem suggest_eq_filterMap : index.suggest text top =
    ((index.ranking text index.threshold).take top).filterMap fixOf := by
  rw [suggest, findSimilar, findSimilarAt_eq_map, List.filterMap_map]
  rfl

theorem isFix_iff : IsFix index text note entry ↔
    entry ∈ index.ranking text index.threshold ∧ fixOf entry = some note := by
  rw [mem_ranking, fixOf]
  constructor
  · rintro ⟨stored, high, resolved, noted⟩
    exact ⟨⟨stored, high⟩, by rw [if_pos resolved, noted]⟩
  · rintro ⟨⟨stored, high⟩, noted⟩
    split at noted
    · rename_i resolved
      exact ⟨stored, high, resolved, noted⟩
    · cases noted

/-- What is suggested first when the ranking comes to a first fix. -/
theorem head?_suggest
    (ranks : index.ranking text index.threshold = front ++ entry :: back)
    (none : ∀ other ∈ front, fixOf other = none) (noted : fixOf entry = some note) :
    (index.suggest text top).head? = if front.length < top then some note else Option.none := by
  have nothing (within : Nat) : (front.take within).filterMap fixOf = [] :=
    List.filterMap_eq_nil_iff.mpr fun other member => none other (List.mem_of_mem_take member)
  rw [suggest_eq_filterMap, ranks, List.take_append, List.filterMap_append, nothing,
    List.nil_append]
  split
  · rename_i fewer
    rw [← Nat.succ_pred_eq_of_pos (Nat.sub_pos_of_lt fewer), List.take_succ_cons,
      List.filterMap_cons_some noted, List.head?_cons]
  · rename_i crowded
    rw [Nat.sub_eq_zero_of_le (Nat.le_of_not_lt crowded)]
    rfl

variable [LinearOrder β] {isNumber : α → Prop} {place : α → β}

/-- When a way to overcome the failure is known, the ranking comes to a best one. -/
theorem exists_best (ordered : Arithmetic.Ordered isNumber place)
    (known : IsFix index text note entry) : ∃ best note' front back,
      index.ranking text index.threshold = front ++ best :: back ∧
        (∀ other ∈ front, fixOf other = none) ∧ IsBestFix index text note' best := by
  have member := (isFix_iff.mp known).1
  have noted := (isFix_iff.mp known).2
  have told : ((index.ranking text index.threshold).find? fun other =>
      (fixOf other).isSome).isSome = true :=
    List.find?_isSome.mpr ⟨entry, member, Option.isSome_iff_exists.mpr ⟨note, noted⟩⟩
  obtain ⟨best, found⟩ := Option.isSome_iff_exists.mp told
  obtain ⟨tells, front, back, ranks, before⟩ := List.find?_eq_some_iff_append.mp found
  obtain ⟨note', noted'⟩ := Option.isSome_iff_exists.mp tells
  have none : ∀ other ∈ front, fixOf other = Option.none := by
    intro other isFront
    rw [← Option.not_isSome_iff_eq_none, Bool.not_eq_true, ← Bool.not_eq_true']
    exact before other isFront
  have ranked : (index.ranking text index.threshold).Pairwise (RanksBefore α text) :=
    pairwise_ranking ordered
  have isBest : best ∈ index.ranking text index.threshold := by
    rw [ranks]
    exact List.mem_append_right _ List.mem_cons_self
  refine ⟨best, note', front, back, ranks, none, isFix_iff.mpr ⟨isBest, noted'⟩,
    fun other note'' isFix => ?_⟩
  obtain ⟨isOther, noted''⟩ := isFix_iff.mp isFix
  rw [ranks] at ranked isOther
  rcases List.mem_append.mp isOther with isFront | isBehind
  · rw [none other isFront] at noted''
    cases noted''
  · rcases List.mem_cons.mp isBehind with same | later
    · exact .inl same
    · exact .inr ((List.pairwise_cons.mp (List.pairwise_append.mp ranked).2.1).1 other later)

/-- What ranks before an entry is what stands before it in the ranking. -/
theorem countAhead_eq (ordered : Arithmetic.Ordered isNumber place)
    (ranks : index.ranking text index.threshold = front ++ entry :: back) :
    countAhead index text entry = front.length := by
  have ranked : (index.ranking text index.threshold).Pairwise (RanksBefore α text) :=
    pairwise_ranking ordered
  have numbers : ∀ other ∈ index.ranking text index.threshold, isNumber (scoreOf text other) :=
    fun other => isNumber_of_mem ordered
  have counted : countAhead index text entry = (index.ranking text index.threshold).countP
      fun other => decide (RanksBefore α text other entry) := by
    rw [countAhead, ← List.countP_filter]
    exact ((List.mergeSort_perm _ _).countP_eq _).symm
  rw [ranks] at ranked numbers
  obtain ⟨-, behind, across⟩ := List.pairwise_append.mp ranked
  have isEntry := numbers entry (List.mem_append_right _ List.mem_cons_self)
  have all : front.countP (fun other => decide (RanksBefore α text other entry)) =
      front.length :=
    List.countP_eq_length.mpr fun other isFront =>
      decide_eq_true (across other isFront entry List.mem_cons_self)
  have no : (entry :: back).countP (fun other => decide (RanksBefore α text other entry)) = 0 := by
    refine List.countP_eq_zero.mpr fun other isBehind => ?_
    rw [decide_eq_true_iff]
    have isOther := numbers other (List.mem_append_right _ isBehind)
    rcases List.mem_cons.mp isBehind with rfl | later
    · exact fun before => before.asymm ordered isOther isOther before
    · exact ((List.pairwise_cons.mp behind).1 other later).asymm ordered isEntry isOther
  rw [counted, ranks, List.countP_append, all, no, Nat.add_zero]

end Fixes

/-- What is suggested for a failure: nothing when no way to overcome it is known; else the best one
first, just when fewer records than were asked for rank before it. -/
structure Suggests (index : ErrorIndex α) (text : String) (top : Nat) : Prop where
  unknown : (∀ note entry, ¬ IsFix index text note entry) → index.suggest text top = []
  known : (∃ note entry, IsFix index text note entry) → ∃ note entry,
    IsBestFix index text note entry ∧ (index.suggest text top).head? =
      if countAhead index text entry < top then some note else none

theorem suggests [LinearOrder β] {isNumber : α → Prop} {place : α → β}
    (ordered : Arithmetic.Ordered isNumber place) (index : ErrorIndex α) (text : String)
    (top : Nat) : Suggests index text top where
  unknown none := by
    rw [suggest_eq_filterMap, List.filterMap_eq_nil_iff]
    intro entry member
    rw [Option.eq_none_iff_forall_ne_some]
    exact fun note noted => none note entry (isFix_iff.mpr ⟨List.mem_of_mem_take member, noted⟩)
  known := by
    rintro ⟨note, entry, isFix⟩
    obtain ⟨best, note', front, back, ranks, none, isBest⟩ := exists_best ordered isFix
    refine ⟨note', best, isBest, ?_⟩
    rw [countAhead_eq ordered ranks]
    exact head?_suggest ranks none (isFix_iff.mp isBest.toIsFix).2

/-- Records that tell of no way to overcome a failure crowd the best way out just when as many of
them as are asked for rank before it. -/
theorem best_fix_suggested (text : String) (top : Nat) :
    (∀ index : ErrorIndex ℚ, Suggests index text top) ∧
      ∀ index : ErrorIndex Float, Suggests index text top :=
  ⟨fun index => suggests Arithmetic.ordered_fractions index text top,
    fun index => suggests Decimal.ordered_doubles index text top⟩

end TaskLoop.ErrorIndex

namespace TaskLoop.Sample

open ErrorIndex

/-- A failure with no known way out. -/
def unsolved : String × ErrorRecord := ("a", failure "a" "link error main" 1 none)

/-- A failure like it that was overcome. -/
def solved : String × ErrorRecord :=
  ("b", failure "b" "link error" 1 (some "add the library"))

def halfSolved : ErrorIndex Float where
  records := .ofList [unsolved, solved]
  threshold := defaultThreshold

theorem isFix_halfSolved (note : String) (entry : String × ErrorRecord) :
    IsFix halfSolved "link error main" note entry ↔
      note = "add the library" ∧ entry = solved := by
  have both : halfSolved.records.entries = [unsolved, solved] := by decide +kernel
  constructor
  · rintro ⟨stored, -, resolved, noted⟩
    rw [both, List.mem_pair] at stored
    rcases stored with rfl | rfl
    · exact absurd resolved (by decide)
    · exact ⟨(Option.some.inj noted).symm, rfl⟩
  · rintro ⟨rfl, rfl⟩
    exact ⟨both ▸ List.mem_cons_of_mem _ List.mem_cons_self, by decide +kernel, rfl, rfl⟩

/-- The note comes first when two records are asked for. -/
theorem suggested_of_two : IsFix halfSolved "link error main" "add the library" solved ∧
    (halfSolved.suggest "link error main" 2).head? = some "add the library" := by
  have isFix := (isFix_halfSolved _ _).mpr ⟨rfl, rfl⟩
  obtain ⟨note, entry, isBest, first⟩ :=
    ((best_fix_suggested "link error main" 2).2 halfSolved).known ⟨_, _, isFix⟩
  obtain ⟨rfl, rfl⟩ := (isFix_halfSolved note entry).mp isBest.toIsFix
  exact ⟨isFix, first.trans (if_pos (by decide +kernel))⟩

/-- Nothing is suggested when one record is asked for. -/
theorem crowded_out_of_one : IsFix halfSolved "link error main" "add the library" solved ∧
    halfSolved.suggest "link error main" 1 = [] := by
  have isFix := (isFix_halfSolved _ _).mpr ⟨rfl, rfl⟩
  obtain ⟨note, entry, isBest, first⟩ :=
    (suggests Decimal.ordered_doubles halfSolved "link error main" 1).known ⟨_, _, isFix⟩
  obtain ⟨rfl, rfl⟩ := (isFix_halfSolved note entry).mp isBest.toIsFix
  exact ⟨isFix, List.head?_eq_none_iff.mp (first.trans (if_neg (by decide +kernel)))⟩

end TaskLoop.Sample
