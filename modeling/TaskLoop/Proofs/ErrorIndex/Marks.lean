import TaskLoop.Proofs.ErrorIndex

/-!
What becomes of the marks in an index. To record failures leaves it as it is whether and how they
were overcome; to mark failures as overcome notes it on those that were not.
-/

set_option autoImplicit false

namespace TaskLoop.ErrorIndex

variable {α : Type} {index other : ErrorIndex α} {note : String}

/-- Every record stands under the hash it names. -/
def Keyed (index : ErrorIndex α) : Prop :=
  ∀ hash record, index.records.find? hash = some record → record.hash = hash

/-- Whether the failure of a hash was overcome. One that is unknown was not. -/
def isResolved (index : ErrorIndex α) (hash : String) : Bool :=
  (index.records.find? hash).any (·.resolved)

/-- The note on how the failure of a hash was overcome. -/
def noteOf (index : ErrorIndex α) (hash : String) : Option String :=
  (index.records.find? hash).bind (·.note)

/-! ### Recording -/

theorem Keyed.hash_recordError (keyed : index.Keyed) (text : String) (now : Timestamp) :
    (index.recordError text now).1.hash = Similarity.errorHash text := by
  rw [recordError]
  cases found : index.records.find? (Similarity.errorHash text) with
  | none => rfl
  | some known => exact keyed _ known found

theorem Keyed.recordError (keyed : index.Keyed) (text : String) (now : Timestamp) :
    (index.recordError text now).2.Keyed := by
  intro asked record found
  rw [find?_recordError] at found
  split at found
  · rename_i same
    cases found
    rw [same]
    exact keyed.hash_recordError text now
  · exact keyed asked record found

/-- To record a failure says nothing of whether it was overcome. -/
theorem isResolved_recordError (index : ErrorIndex α) (text : String) (now : Timestamp)
    (asked : String) :
    (index.recordError text now).2.isResolved asked = index.isResolved asked := by
  rw [isResolved, isResolved, find?_recordError]
  split
  · rename_i same
    rw [same, recordError]
    cases index.records.find? (Similarity.errorHash text) <;> rfl
  · rfl

/-- Nor does it say how. -/
theorem noteOf_recordError (index : ErrorIndex α) (text : String) (now : Timestamp)
    (asked : String) : (index.recordError text now).2.noteOf asked = index.noteOf asked := by
  rw [noteOf, noteOf, find?_recordError]
  split
  · rename_i same
    rw [same, recordError]
    cases index.records.find? (Similarity.errorHash text) <;> rfl
  · rfl

/-- What recording failures of some hashes makes of an index. -/
structure Recorded (before after : ErrorIndex α) (hashes : List String) : Prop where
  keyed : after.Keyed
  resolved : ∀ hash, after.isResolved hash = before.isResolved hash
  noted : ∀ hash, after.noteOf hash = before.noteOf hash
  known : ∀ hash ∈ hashes, ∃ record, after.records.find? hash = some record
  others : ∀ hash, hash ∉ hashes → after.records.find? hash = before.records.find? hash

theorem Recorded.refl (keyed : index.Keyed) : index.Recorded index [] where
  keyed := keyed
  resolved _ := rfl
  noted _ := rfl
  known _ member := by cases member
  others _ _ := rfl

/-- One failure is recorded before others. -/
theorem Recorded.cons {hashes : List String} {text : String} {now : Timestamp}
    (rest : (index.recordError text now).2.Recorded other hashes) :
    index.Recorded other (Similarity.errorHash text :: hashes) where
  keyed := rest.keyed
  resolved hash := (rest.resolved hash).trans (isResolved_recordError index text now hash)
  noted hash := (rest.noted hash).trans (noteOf_recordError index text now hash)
  known hash member := by
    by_cases later : hash ∈ hashes
    · exact rest.known hash later
    · obtain rfl : hash = Similarity.errorHash text :=
        (List.mem_cons.1 member).resolve_right later
      rw [rest.others _ later, find?_recordError, if_pos rfl]
      exact ⟨_, rfl⟩
  others hash apart := by
    obtain ⟨new, later⟩ := List.ne_and_not_mem_of_not_mem_cons apart
    rw [rest.others hash later, find?_recordError, if_neg new]

/-- The record of a failure that was recorded is as before in whether and how it was overcome. -/
theorem Recorded.hit {hashes : List String} (recorded : index.Recorded other hashes)
    {hash : String} (member : hash ∈ hashes) :
    ∃ record, other.records.find? hash = some record ∧
      record.resolved = index.isResolved hash ∧ record.note = index.noteOf hash := by
  obtain ⟨record, found⟩ := recorded.known hash member
  refine ⟨record, found, ?_, ?_⟩
  · rw [← recorded.resolved, isResolved, found]
    rfl
  · rw [← recorded.noted, noteOf, found]
    rfl

/-! ### Marking -/

/-- What a record becomes when its failure is overcome, perhaps not for the first time. -/
def settle (note : String) (known : ErrorRecord) : ErrorRecord :=
  if known.resolved then known else overcome known note

theorem settle_of_resolved {known : ErrorRecord} (resolved : known.resolved = true) :
    settle note known = known := if_pos resolved

theorem settle_of_unresolved {known : ErrorRecord} (unresolved : known.resolved = false) :
    settle note known = overcome known note := if_neg (ne_true_of_eq_false unresolved)

theorem hash_settle (known : ErrorRecord) : (settle note known).hash = known.hash := by
  rw [settle]
  split <;> rfl

theorem resolved_settle (known : ErrorRecord) : (settle note known).resolved = true := by
  rw [settle]
  split
  · assumption
  · rfl

theorem note_settle (known : ErrorRecord) :
    (settle note known).note = if known.resolved then known.note else some note := by
  rw [settle]
  split <;> rfl

/-- What marking the failures of some hashes as overcome makes of an index. -/
def Settles (before after : ErrorIndex α) (note : String) (hashes : List String) : Prop :=
  ∀ hash, after.records.find? hash =
    if hash ∈ hashes then (before.records.find? hash).map (settle note)
    else before.records.find? hash

theorem Settles.keyed {hashes : List String} (settles : index.Settles other note hashes)
    (keyed : index.Keyed) : other.Keyed := by
  intro hash record found
  rw [settles] at found
  split at found
  · obtain ⟨known, there, rfl⟩ := Option.map_eq_some_iff.1 found
    rw [hash_settle]
    exact keyed hash known there
  · exact keyed hash record found

/-- A failure that is unknown or overcome needs no mark. -/
theorem Settles.cons_of_done {hash : String} {hashes : List String}
    (settles : index.Settles other note hashes)
    (done : ∀ known, index.records.find? hash = some known → known.resolved = true) :
    index.Settles other note (hash :: hashes) := by
  intro asked
  rw [settles]
  by_cases same : asked = hash
  · subst same
    have nothing : (index.records.find? asked).map (settle note) = index.records.find? asked := by
      cases found : index.records.find? asked with
      | none => rfl
      | some known => rw [Option.map_some, settle_of_resolved (done known found)]
    rw [nothing, ite_self, ite_self]
  · simp only [List.mem_cons, same, false_or]

theorem markResolved_of_unresolved (note : String) {hash : String} {known : ErrorRecord}
    (found : index.records.find? hash = some known) (unresolved : known.resolved = false) :
    index.markResolved hash note = .ok (overcome known note,
      { index with records := index.records.insert hash (overcome known note) }) := by
  rw [markResolved, found]
  exact if_neg (ne_true_of_eq_false unresolved)

/-- One failure is marked before others. -/
theorem Settles.cons_of_marked {hash : String} {hashes : List String} {record : ErrorRecord}
    {between : ErrorIndex α} (settles : between.Settles other note hashes)
    (marked : index.markResolved hash note = .ok (record, between)) :
    index.Settles other note (hash :: hashes) := by
  obtain ⟨known, found, unresolved, -, rfl⟩ := markResolved_eq_ok marked
  intro asked
  rw [settles]
  by_cases same : asked = hash
  · subst same
    have once : settle note (overcome known note) = overcome known note := settle_of_resolved rfl
    simp only [OrderedMap.find?_insert_self, found, Option.map_some, once, ite_self,
      List.mem_cons_self, ↓reduceIte, settle_of_unresolved unresolved]
  · simp only [OrderedMap.find?_insert_of_ne _ _ same, List.mem_cons, same, false_or]

theorem Keyed.markResolved {hash : String} {record : ErrorRecord} (keyed : index.Keyed)
    (marked : index.markResolved hash note = .ok (record, other)) : other.Keyed := by
  have nothing : other.Settles other note [] := fun _ => rfl
  exact (nothing.cons_of_marked marked).keyed keyed

/-- The record of a failure that was recorded and then marked is resolved, and has the new note
unless it was resolved before. -/
theorem Recorded.settled_hit {hashes : List String} {counted : ErrorIndex α}
    (recorded : index.Recorded counted hashes) (settles : counted.Settles other note hashes)
    {hash : String} (member : hash ∈ hashes) :
    ∃ record, other.records.find? hash = some record ∧ record.resolved = true ∧
      record.note = if index.isResolved hash then index.noteOf hash else some note := by
  obtain ⟨record, found, resolved, noted⟩ := recorded.hit member
  refine ⟨settle note record, ?_, resolved_settle record, ?_⟩
  · rw [settles, if_pos member, found, Option.map_some]
  · rw [note_settle, resolved, noted]

end TaskLoop.ErrorIndex
