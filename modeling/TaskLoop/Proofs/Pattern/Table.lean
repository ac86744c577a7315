import TaskLoop.Pattern.Table
import TaskLoop.Proofs.Pattern.Merge

/-!
A table that outcomes of phases are taken into holds, for each phase that has any, the record that
reports them. The records of a phase at one complexity stand beside those.
-/

set_option autoImplicit false

namespace TaskLoop.Pattern

theorem key_patternId (phase : Phase) : key phase.patternId none = phase.patternId := by
  cases phase <;> decide +kernel

theorem patternId_injective {phase other : Phase} (same : phase.patternId = other.patternId) :
    phase = other := by
  cases phase <;> cases other <;> first | rfl | exact absurd same (by decide)

/-- The key of a phase at one complexity is not that of a phase. -/
theorem key_complexity_ne (phase other : Phase) (complexity : Complexity) :
    key phase.patternId (some complexity) ≠ other.patternId := by
  intro same
  have marked : separator ∈ (key phase.patternId (some complexity)).toList := by
    rw [key, String.toList_ofList]
    exact List.mem_append_right _ List.mem_cons_self
  rw [same] at marked
  revert marked
  cases other <;> decide

namespace Table

variable {α : Type} [Arithmetic α] {table : Table α} {outcomes : Phase → List Outcome}

theorem find?_recordOutcome (table : Table α) (phase asked : Phase) (complexity : Complexity)
    (outcome : Outcome) (now after : Timestamp) :
    (table.recordOutcome phase.patternId (some complexity) outcome now after).find?
        asked.patternId =
      if asked = phase then
        some (((table.find? phase.patternId).getD .empty).observe outcome now)
      else table.find? asked.patternId := by
  have beside : asked.patternId ≠ key phase.patternId (some complexity) :=
    (key_complexity_ne phase asked complexity).symm
  rw [recordOutcome, key_patternId, observeKey, OrderedMap.find?_insert_of_ne _ _ beside, observeKey]
  by_cases same : asked = phase
  · rw [if_pos same, same, OrderedMap.find?_insert_self]
  · rw [if_neg same]
    exact OrderedMap.find?_insert_of_ne _ _ fun equal => same (patternId_injective equal)

/-- The table holds a record for each phase that has outcomes, and it reports them. -/
def Reports (table : Table α) (outcomes : Phase → List Outcome) : Prop :=
  ∀ phase, match table.find? phase.patternId with
    | none => outcomes phase = []
    | some record => outcomes phase ≠ [] ∧ record.Reports (outcomes phase)

theorem reports_empty : Reports (.empty : Table α) fun _ => [] := by
  intro phase
  rw [OrderedMap.find?_empty]

theorem Reports.recordOutcome (reports : table.Reports outcomes) (phase : Phase)
    (complexity : Complexity) (outcome : Outcome) (now after : Timestamp) :
    (table.recordOutcome phase.patternId (some complexity) outcome now after).Reports
      fun asked => outcomes asked ++ if asked = phase then [outcome] else [] := by
  intro asked
  rw [find?_recordOutcome]
  by_cases same : asked = phase
  · subst same
    simp only [↓reduceIte]
    refine ⟨List.append_ne_nil_of_right_ne_nil _ (List.cons_ne_nil _ _), ?_⟩
    have before := reports asked
    cases found : table.find? asked.patternId with
    | none =>
      rw [found] at before
      rw [before]
      exact PatternRecord.reports_empty.observe outcome now
    | some record =>
      rw [found] at before
      exact before.2.observe outcome now
  · simp only [same, ↓reduceIte, List.append_nil]
    exact reports asked

/-- Over what another table holds the table has taken in outcomes of phases, for each phase some
among them in their order. -/
def Includes (table base : Table α) (outcomes : Phase → List Outcome) : Prop :=
  ∃ observed : Phase → List (Outcome × Timestamp), ∀ phase,
    (outcomes phase).Sublist ((observed phase).map Prod.fst) ∧
    table.find? phase.patternId =
      if observed phase = [] then base.find? phase.patternId
      else some (((base.find? phase.patternId).getD .empty).observeAll (observed phase))

namespace Includes

variable {base : Table α}

theorem refl (table : Table α) : table.Includes table fun _ => [] :=
  ⟨fun _ => [], fun _ => ⟨.slnil, rfl⟩⟩

theorem mono {fewer : Phase → List Outcome} (includes : table.Includes base outcomes)
    (part : ∀ phase, (fewer phase).Sublist (outcomes phase)) : table.Includes base fewer := by
  obtain ⟨observed, holds⟩ := includes
  exact ⟨observed, fun phase => ⟨(part phase).trans (holds phase).1, (holds phase).2⟩⟩

theorem recordOutcome (includes : table.Includes base outcomes) (phase : Phase)
    (complexity : Complexity) (outcome : Outcome) (now after : Timestamp) :
    (table.recordOutcome phase.patternId (some complexity) outcome now after).Includes base
      fun asked => outcomes asked ++ if asked = phase then [outcome] else [] := by
  obtain ⟨observed, holds⟩ := includes
  refine ⟨fun asked => observed asked ++ if asked = phase then [(outcome, now)] else [],
    fun asked => ?_⟩
  obtain ⟨among, found⟩ := holds asked
  rw [find?_recordOutcome]
  by_cases same : asked = phase
  · subst same
    simp only [↓reduceIte, List.map_append, List.map_singleton, List.append_eq_nil_iff,
      List.cons_ne_nil, and_false, PatternRecord.observeAll, List.foldl_append]
    refine ⟨among.append (List.Sublist.refl _), ?_⟩
    rw [found]
    split
    · rename_i none
      rw [none]
      rfl
    · rfl
  · simp only [same, ↓reduceIte, List.append_nil]
    exact ⟨among, found⟩

end Includes

end Table

end TaskLoop.Pattern
