import TaskLoop.ErrorIndex

/-!
An index that failures are recorded in holds a record for each hash that occurred, and the record
counts how often. To mark a record as overcome changes no count.
-/

set_option autoImplicit false

namespace TaskLoop.ErrorIndex

variable {α : Type} {index other : ErrorIndex α} {messages : List String}

/-! ### What one call does -/

/-- To record a failure puts in one record, under the failure's hash. -/
theorem find?_recordError (index : ErrorIndex α) (text : String) (now : Timestamp)
    (asked : String) : (index.recordError text now).2.records.find? asked =
      if asked = Similarity.errorHash text then some (index.recordError text now).1
      else index.records.find? asked := by
  split
  · rename_i same
    subst same
    exact OrderedMap.find?_insert_self _ _ _
  · rename_i apart
    exact OrderedMap.find?_insert_of_ne _ _ apart

/-- What a record becomes when its failure is overcome. -/
def overcome (known : ErrorRecord) (note : String) : ErrorRecord :=
  { known with resolved := true, note := some note }

theorem markResolved_eq_ok {record : ErrorRecord} {hash note : String}
    (marked : index.markResolved hash note = .ok (record, other)) :
    ∃ known, index.records.find? hash = some known ∧ known.resolved = false ∧
      record = overcome known note ∧
      other = { index with records := index.records.insert hash (overcome known note) } := by
  rw [markResolved] at marked
  split at marked
  · cases marked
  · rename_i known found
    split at marked
    · cases marked
    · rename_i unresolved
      cases marked
      exact ⟨known, found, eq_false_of_ne_true unresolved, rfl, rfl⟩

/-- Only a record that is there and not yet resolved can be marked. -/
theorem markResolved_eq_error {hash note : String} {failure : StoreError} :
    index.markResolved hash note = .error failure ↔
      (index.records.find? hash = none ∧ failure = .unknownHash hash) ∨
      ∃ known, index.records.find? hash = some known ∧ known.resolved = true ∧
        failure = .alreadyResolved hash := by
  rw [markResolved]
  cases found : index.records.find? hash with
  | none =>
    refine ⟨fun failed => .inl ⟨rfl, (Except.error.inj failed).symm⟩, ?_⟩
    rintro (⟨-, rfl⟩ | ⟨known, there, -⟩)
    · rfl
    · cases there
  | some known =>
    dsimp only
    cases resolved : known.resolved with
    | false =>
      refine ⟨fun failed => (by cases failed), ?_⟩
      rintro (⟨missing, -⟩ | ⟨other, there, already, -⟩)
      · cases missing
      · cases there
        rw [resolved] at already
        cases already
    | true =>
      refine ⟨fun failed => .inr ⟨known, rfl, resolved, (Except.error.inj failed).symm⟩, ?_⟩
      rintro (⟨missing, -⟩ | ⟨other, -, -, rfl⟩)
      · cases missing
      · rfl

/-! ### Counts -/

/-- How many of some messages have a hash. -/
def occurrences (messages : List String) (hash : String) : Nat :=
  messages.countP fun message => Similarity.errorHash message == hash

/-- The index counts some messages: it holds a record for each of their hashes and no other, with
the number of messages that have the hash. -/
def Counts (index : ErrorIndex α) (messages : List String) : Prop :=
  ∀ hash, (index.records.find? hash).map (·.occurrences) =
    if occurrences messages hash = 0 then none else some (occurrences messages hash)

theorem counts_empty (threshold : α) : Counts ⟨.empty, threshold⟩ [] := by
  intro hash
  rfl

theorem Counts.recordError (counts : index.Counts messages) (message : String) (now : Timestamp) :
    (index.recordError message now).2.Counts (messages ++ [message]) := by
  intro hash
  have before := counts hash
  rw [occurrences, List.countP_append, List.countP_singleton, ← occurrences]
  by_cases same : hash = Similarity.errorHash message
  · subst same
    simp only [ErrorIndex.recordError, OrderedMap.find?_insert_self, beq_self_eq_true, ↓reduceIte,
      Option.map_some, Nat.add_one_ne_zero]
    cases found : index.records.find? (Similarity.errorHash message) with
    | none =>
      rw [found] at before
      split at before
      · rename_i unseen
        rw [unseen]
        rfl
      · cases before
    | some record =>
      rw [found] at before
      split at before
      · cases before
      · rw [← Option.some.inj before]
  · have apart : (Similarity.errorHash message == hash) = false :=
      beq_eq_false_iff_ne.mpr (Ne.symm same)
    simp only [ErrorIndex.recordError, OrderedMap.find?_insert_of_ne _ _ same, apart,
      Bool.false_eq_true, ↓reduceIte, Nat.add_zero]
    exact before

theorem Counts.markResolved {record : ErrorRecord} {hash note : String}
    (counts : index.Counts messages)
    (marked : index.markResolved hash note = .ok (record, other)) : other.Counts messages := by
  obtain ⟨known, found, -, rfl, rfl⟩ := markResolved_eq_ok marked
  intro asked
  by_cases same : asked = hash
  · subst same
    rw [← counts asked, found, OrderedMap.find?_insert_self]
    rfl
  · rw [OrderedMap.find?_insert_of_ne _ _ same]
    exact counts asked

/-! ### Over an index at hand -/

/-- How often a failure of a hash has occurred. -/
def count (index : ErrorIndex α) (hash : String) : Nat :=
  ((index.records.find? hash).map (·.occurrences)).getD 0

/-- Over what another index holds the index has taken in failures, some messages among them in
their order. -/
def Includes (index base : ErrorIndex α) (messages : List String) : Prop :=
  ∃ seen, messages.Sublist seen ∧
    ∀ hash, index.count hash = base.count hash + occurrences seen hash

theorem count_recordError (index : ErrorIndex α) (message : String) (now : Timestamp)
    (hash : String) : (index.recordError message now).2.count hash =
      index.count hash + occurrences [message] hash := by
  rw [occurrences, List.countP_singleton]
  by_cases same : hash = Similarity.errorHash message
  · subst same
    simp only [count, ErrorIndex.recordError, OrderedMap.find?_insert_self, beq_self_eq_true,
      ↓reduceIte, Option.map_some, Option.getD_some]
    cases index.records.find? (Similarity.errorHash message) <;> rfl
  · have apart : (Similarity.errorHash message == hash) = false :=
      beq_eq_false_iff_ne.mpr (Ne.symm same)
    simp only [count, ErrorIndex.recordError, OrderedMap.find?_insert_of_ne _ _ same, apart,
      Bool.false_eq_true, ↓reduceIte, Nat.add_zero]

theorem count_markResolved {record : ErrorRecord} {hash note : String}
    (marked : index.markResolved hash note = .ok (record, other)) (asked : String) :
    other.count asked = index.count asked := by
  obtain ⟨known, found, -, rfl, rfl⟩ := markResolved_eq_ok marked
  by_cases same : asked = hash
  · subst same
    rw [count, count, found, OrderedMap.find?_insert_self]
    rfl
  · rw [count, OrderedMap.find?_insert_of_ne _ _ same, count]

namespace Includes

variable {base : ErrorIndex α}

theorem refl (index : ErrorIndex α) : index.Includes index [] :=
  ⟨[], .slnil, fun _ => rfl⟩

theorem mono {fewer : List String} (includes : index.Includes base messages)
    (part : fewer.Sublist messages) : index.Includes base fewer := by
  obtain ⟨seen, among, counts⟩ := includes
  exact ⟨seen, part.trans among, counts⟩

theorem recordError (includes : index.Includes base messages) (message : String)
    (now : Timestamp) : (index.recordError message now).2.Includes base (messages ++ [message]) := by
  obtain ⟨seen, among, counts⟩ := includes
  refine ⟨seen ++ [message], among.append (List.Sublist.refl _), fun hash => ?_⟩
  rw [count_recordError, counts, occurrences, occurrences, occurrences, List.countP_append,
    Nat.add_assoc]

theorem markResolved {record : ErrorRecord} {hash note : String}
    (includes : index.Includes base messages)
    (marked : index.markResolved hash note = .ok (record, other)) :
    other.Includes base messages := by
  obtain ⟨seen, among, counts⟩ := includes
  exact ⟨seen, among, fun asked => (count_markResolved marked asked).trans (counts asked)⟩

end Includes

end TaskLoop.ErrorIndex
