import TaskLoop.Proofs.ErrorIndex
import TaskLoop.Proofs.OrderedMap
import TaskLoop.Proofs.Similarity

/-!
An index that is only changed by calls says what the calls told it: under each hash stands a record
of that hash, which counts the failures recorded with it and carries the note of the one call that
marked it, from then on.
-/

set_option autoImplicit false

namespace TaskLoop.ErrorIndex

variable {α : Type}

/-! ### Calls and their log -/

/-- A call that changes an index. -/
inductive Call where
  | record (text : String) (now : Timestamp)
  | resolve (hash note : String)

/-- The answer to a call, and the index behind it. -/
def answer (index : ErrorIndex α) : Call → Except StoreError ErrorRecord × ErrorIndex α
  | .record text now => (.ok (index.recordError text now).1, (index.recordError text now).2)
  | .resolve hash note =>
    match index.markResolved hash note with
    | .ok (record, marked) => (.ok record, marked)
    | .error failure => (.error failure, index)

/-- Calls with their answers, in order. -/
abbrev Log := List (Call × Except StoreError ErrorRecord)

/-- What a run of calls is answered, and the index behind it. -/
def run (index : ErrorIndex α) : List Call → Log × ErrorIndex α
  | [] => ([], index)
  | call :: calls =>
    let rest := run (index.answer call).2 calls
    ((call, (index.answer call).1) :: rest.1, rest.2)

/-- The failure that a call records. -/
def Call.message? : Call → Option String
  | .record text _ => some text
  | .resolve _ _ => none

/-- The failures that some calls record. -/
def messages (calls : List Call) : List String := calls.filterMap Call.message?

/-- The failures recorded in a log. -/
def told (log : Log) : List String := messages (log.map (·.1))

/-- The note that an answered call put on the record of a hash. -/
def note? (hash : String) : Call × Except StoreError ErrorRecord → Option String
  | (.resolve marked note, .ok _) => if marked = hash then some note else none
  | _ => none

/-- The notes that answered calls put on the record of a hash. -/
def notes (log : Log) (hash : String) : List String := log.filterMap (note? hash)

theorem messages_cons (call : Call) (calls : List Call) :
    messages (call :: calls) = call.message?.toList ++ messages calls := by
  rw [messages, List.filterMap_cons]
  cases call.message? <;> rfl

theorem told_snoc (log : Log) (event : Call × Except StoreError ErrorRecord) :
    told (log ++ [event]) = told log ++ event.1.message?.toList := by
  rw [told, List.map_append, messages, List.filterMap_append, told, messages, List.map_singleton,
    List.filterMap_cons, List.filterMap_nil]
  cases event.1.message? <;> rfl

theorem notes_snoc (log : Log) (event : Call × Except StoreError ErrorRecord) (hash : String) :
    notes (log ++ [event]) hash = notes log hash ++ (note? hash event).toList := by
  rw [notes, List.filterMap_append, notes, List.filterMap_cons, List.filterMap_nil]
  cases note? hash event <;> rfl

theorem map_fst_run (index : ErrorIndex α) (calls : List Call) :
    (index.run calls).1.map (·.1) = calls := by
  induction calls generalizing index with
  | nil => rfl
  | cons call calls ih => rw [run, List.map_cons, ih]

theorem answer_resolve_eq_error {index : ErrorIndex α} {hash note : String}
    {failure : StoreError} : (index.answer (.resolve hash note)).1 = .error failure ↔
      index.markResolved hash note = .error failure := by
  rw [answer]
  cases index.markResolved hash note with
  | ok both => exact ⟨fun failed => (by cases failed), fun failed => (by cases failed)⟩
  | error other => exact ⟨fun failed => congrArg _ (Except.error.inj failed),
      fun failed => congrArg _ (Except.error.inj failed)⟩

/-- A call that fails leaves the index as it is. -/
theorem answer_eq_error {index : ErrorIndex α} {call : Call} {failure : StoreError}
    (failed : (index.answer call).1 = .error failure) : (index.answer call).2 = index := by
  cases call with
  | record text now => cases failed
  | resolve hash note =>
    rw [answer, answer_resolve_eq_error.mp failed]

/-! ### What the calls told -/

/-- Every record stands under its own hash, which is that of its text. -/
def Filed (index : ErrorIndex α) : Prop :=
  ∀ hash record, index.records.find? hash = some record →
    record.hash = hash ∧ Similarity.errorHash record.text = hash

/-- An index says what a log of calls told it. -/
structure Tells (index : ErrorIndex α) (log : Log) : Prop where
  filed : index.Filed
  counts : index.Counts (told log)
  noted : ∀ hash, notes log hash = ((index.records.find? hash).bind (·.note)).toList
  settled : ∀ hash record, index.records.find? hash = some record →
    record.resolved = record.note.isSome

theorem tells_empty (threshold : α) : Tells (⟨.empty, threshold⟩ : ErrorIndex α) [] where
  filed _ _ found := by cases found
  counts := counts_empty threshold
  noted _ := rfl
  settled _ _ found := by cases found

namespace Tells

variable {index other : ErrorIndex α} {log : Log}

/-- A record that a call puts in keeps the index true when it is filed and settled itself, and its
note is the one noted before or by the call. -/
theorem insert {event : Call × Except StoreError ErrorRecord} {hash : String}
    {record : ErrorRecord} (tells : index.Tells log)
    (filed : record.hash = hash ∧ Similarity.errorHash record.text = hash)
    (settled : record.resolved = record.note.isSome)
    (counts : Counts { index with records := index.records.insert hash record }
      (told (log ++ [event])))
    (noted : ((index.records.find? hash).bind (·.note)).toList ++ (note? hash event).toList =
      record.note.toList)
    (others : ∀ asked, asked ≠ hash → note? asked event = none) :
    Tells { index with records := index.records.insert hash record } (log ++ [event]) := by
  refine ⟨fun asked known => ?_, counts, fun asked => ?_, fun asked known => ?_⟩
  all_goals by_cases same : asked = hash
  · subst same
    rw [OrderedMap.find?_insert_self]
    rintro ⟨⟩
    exact filed
  · rw [OrderedMap.find?_insert_of_ne _ _ same]
    exact tells.filed asked known
  · subst same
    rw [OrderedMap.find?_insert_self, Option.bind_some, ← noted, notes_snoc, tells.noted]
  · rw [OrderedMap.find?_insert_of_ne _ _ same, notes_snoc, others asked same, tells.noted]
    exact List.append_nil _
  · subst same
    rw [OrderedMap.find?_insert_self]
    rintro ⟨⟩
    exact settled
  · rw [OrderedMap.find?_insert_of_ne _ _ same]
    exact tells.settled asked known

theorem recordError (tells : index.Tells log) (text : String) (now : Timestamp) :
    (index.recordError text now).2.Tells
      (log ++ [(.record text now, .ok (index.recordError text now).1)]) := by
  have counts : (index.recordError text now).2.Counts (told (log ++
      [(.record text now, .ok (index.recordError text now).1)])) := by
    rw [told_snoc]
    exact tells.counts.recordError text now
  have others : ∀ asked, asked ≠ Similarity.errorHash text → note? asked
      (.record text now, .ok (index.recordError text now).1) = none := fun _ _ => rfl
  cases found : index.records.find? (Similarity.errorHash text) with
  | none =>
    have new : (index.recordError text now).1 = newRecord text now := by
      rw [ErrorIndex.recordError, found]
    refine tells.insert ?_ ?_ counts ?_ others
    · rw [found]
      exact ⟨rfl, Similarity.errorHash_trim text⟩
    · rw [found]
      rfl
    · rw [found]
      rfl
  | some known =>
    refine tells.insert ?_ ?_ counts ?_ others
    · rw [found]
      exact tells.filed _ known found
    · rw [found]
      exact tells.settled _ known found
    · rw [found]
      exact List.append_nil _

theorem markResolved {record : ErrorRecord} {hash note : String} (tells : index.Tells log)
    (marked : index.markResolved hash note = .ok (record, other)) :
    other.Tells (log ++ [(.resolve hash note, .ok record)]) := by
  have counts : other.Counts (told (log ++ [(.resolve hash note, .ok record)])) := by
    rw [told_snoc, Call.message?, Option.toList_none, List.append_nil]
    exact tells.counts.markResolved marked
  obtain ⟨known, found, unresolved, rfl, rfl⟩ := markResolved_eq_ok marked
  have free : known.note = none := by
    rw [tells.settled hash known found] at unresolved
    exact Option.not_isSome_iff_eq_none.mp (ne_true_of_eq_false unresolved)
  refine tells.insert (tells.filed _ known found) rfl counts ?_ fun asked apart => ?_
  · rw [found, Option.bind_some, free, note?, if_pos rfl]
    rfl
  · exact if_neg (Ne.symm apart)

/-- One more call keeps the index true to the log. -/
theorem answer (tells : index.Tells log) (call : Call) :
    (index.answer call).2.Tells (log ++ [(call, (index.answer call).1)]) := by
  cases call with
  | record text now => exact tells.recordError text now
  | resolve hash note =>
    rw [ErrorIndex.answer]
    cases marked : index.markResolved hash note with
    | ok both => exact tells.markResolved marked
    | error failure =>
      refine ⟨tells.filed, ?_, fun asked => ?_, tells.settled⟩
      · rw [told_snoc, Call.message?, Option.toList_none, List.append_nil]
        exact tells.counts
      · rw [notes_snoc, tells.noted]
        exact List.append_nil _

theorem run (tells : index.Tells log) (calls : List Call) :
    (index.run calls).2.Tells (log ++ (index.run calls).1) := by
  induction calls generalizing index log with
  | nil =>
    rw [ErrorIndex.run, List.append_nil]
    exact tells
  | cons call calls ih =>
    have next := ih (tells.answer call)
    rwa [List.append_assoc] at next

end Tells

end TaskLoop.ErrorIndex
