import TaskLoop.Proofs.ErrorIndex.Calls

/-!
The counts over all records of an index. They do not depend on the order of the records, so that to
record a failure adds one to the count of its record's category and to mark a record adds nothing.
-/

set_option autoImplicit false

namespace TaskLoop.ErrorIndex

variable {α : Type} {index other : ErrorIndex α}

/-! ### Counts by category -/

theorem addCount_eq_raise (counts : OrderedMap Category Nat) (category : Category) (count : Nat) :
    addCount counts category count = counts.raise category count := rfl

theorem addCount_twice (counts : OrderedMap Category Nat) (category : Category) (first more : Nat) :
    addCount (addCount counts category first) category more =
      addCount counts category (first + more) :=
  counts.raise_twice category first more

/-- The counts by category over some records. -/
def countAll (records : List ErrorRecord) : OrderedMap Category Nat :=
  records.foldl (fun counts record => addCount counts record.category record.occurrences) .empty

theorem countAll_snoc (records : List ErrorRecord) (record : ErrorRecord) :
    countAll (records ++ [record]) =
      addCount (countAll records) record.category record.occurrences := by
  rw [countAll, List.foldl_append]
  rfl

/-- In which order the records are counted makes no difference. -/
theorem countAll_perm {records listed : List ErrorRecord} (same : records.Perm listed) :
    countAll records = countAll listed :=
  same.foldl_eq' (fun _ _ _ _ _ => OrderedMap.raise_comm _ _ _ _ _) _

theorem countAll_cons (record : ErrorRecord) (records : List ErrorRecord) :
    countAll (record :: records) =
      addCount (countAll records) record.category record.occurrences := by
  rw [countAll_perm (List.perm_append_singleton record records).symm, countAll_snoc]

theorem byCategory_eq (index : ErrorIndex α) :
    index.statistics.byCategory = countAll index.records.values := rfl

/-- With a record put in, the counts are those over it and over the records under other keys. -/
theorem countAll_insert (records : OrderedMap String ErrorRecord) (hash : String)
    (record : ErrorRecord) : countAll (records.insert hash record).values =
      addCount (countAll (records.erase hash).values) record.category record.occurrences := by
  rw [← countAll_cons]
  exact countAll_perm ((OrderedMap.perm_insert records hash record).map Prod.snd)

theorem countAll_of_find? {records : OrderedMap String ErrorRecord} {hash : String}
    {known : ErrorRecord} (found : records.find? hash = some known) : countAll records.values =
      addCount (countAll (records.erase hash).values) known.category known.occurrences := by
  rw [← countAll_cons]
  exact countAll_perm ((OrderedMap.perm_of_find? found).map Prod.snd)

/-- To record a failure adds one to the count of its record's category. -/
theorem byCategory_recordError (index : ErrorIndex α) (text : String) (now : Timestamp) :
    (index.recordError text now).2.statistics.byCategory =
      addCount index.statistics.byCategory (index.recordError text now).1.category 1 := by
  rw [byCategory_eq, byCategory_eq, recordError]
  cases found : index.records.find? (Similarity.errorHash text) with
  | none =>
    rw [countAll_insert, OrderedMap.erase_of_find?_eq_none found]
    rfl
  | some known => rw [countAll_insert, countAll_of_find? found, addCount_twice]

theorem byCategory_markResolved {record : ErrorRecord} {hash note : String}
    (marked : index.markResolved hash note = .ok (record, other)) :
    other.statistics.byCategory = index.statistics.byCategory := by
  obtain ⟨known, found, -, -, rfl⟩ := markResolved_eq_ok marked
  rw [byCategory_eq, byCategory_eq, countAll_insert, countAll_of_find? found]
  rfl

/-! ### Totals -/

/-- The counts by category add up to all occurrences. -/
theorem sum_byCategory (index : ErrorIndex α) :
    index.statistics.byCategory.values.sum = index.statistics.occurrences := by
  have counted (records : List ErrorRecord) (counts : OrderedMap Category Nat) :
      (records.foldl (fun counts record => addCount counts record.category record.occurrences)
          counts).values.sum =
        records.foldl (fun count record => count + record.occurrences) counts.values.sum := by
    induction records generalizing counts with
    | nil => rfl
    | cons record records ih =>
      rw [List.foldl_cons, List.foldl_cons, ih, addCount_eq_raise, OrderedMap.sum_values_raise]
  exact counted index.records.values .empty

theorem resolved_add_unresolved (index : ErrorIndex α) :
    index.statistics.resolved + index.statistics.unresolved = index.records.size := by
  have least : index.statistics.resolved ≤ index.records.values.length := List.length_filter_le _ _
  have size : index.records.values.length = index.records.size := List.length_map _
  have rest : index.statistics.unresolved =
      index.records.values.length - index.statistics.resolved := rfl
  omega

theorem occurrences_answer (index : ErrorIndex α) (call : Call) :
    (index.answer call).2.statistics.occurrences =
      index.statistics.occurrences + call.message?.toList.length := by
  rw [← sum_byCategory, ← sum_byCategory]
  cases call with
  | record text now =>
    rw [answer, byCategory_recordError, addCount_eq_raise, OrderedMap.sum_values_raise]
    rfl
  | resolve hash note =>
    rw [answer]
    cases marked : index.markResolved hash note with
    | ok both => rw [byCategory_markResolved marked]; rfl
    | error failure => rfl

/-- All occurrences are as many as the calls that recorded a failure. -/
theorem occurrences_run (index : ErrorIndex α) (calls : List Call) :
    (index.run calls).2.statistics.occurrences =
      index.statistics.occurrences + (messages calls).length := by
  induction calls generalizing index with
  | nil => rfl
  | cons call calls ih =>
    rw [run, ih, occurrences_answer, messages_cons, List.length_append, Nat.add_assoc]

/-! ### A whole run -/

/-- A note that some calls put on a record stays there, whatever is called later. -/
theorem Tells.note_stays {log : Log} {hash note : String} (tells : index.Tells log)
    (noted : notes log hash = [note]) (later : List Call) : ∃ record,
      (index.run later).2.records.find? hash = some record ∧ record.resolved = true ∧
        record.note = some note := by
  have after := tells.run later
  have both := after.noted hash
  rw [notes, List.filterMap_append, ← notes, noted] at both
  cases found : (index.run later).2.records.find? hash with
  | none =>
    rw [found] at both
    cases both
  | some record =>
    have kept : record.note = some note := by
      rw [found, Option.bind_some] at both
      cases noted : record.note with
      | none =>
        rw [noted] at both
        cases both
      | some other =>
        rw [noted] at both
        exact congrArg some (List.cons.inj both).1.symm
    refine ⟨record, rfl, ?_, kept⟩
    rw [after.settled hash record found, kept]
    rfl

/-- Whatever calls an index without records has answered, each of its records stands under the hash
of its text and counts the failures recorded with that hash; all occurrences, also when added up by
category, are as many as the recorded failures. A record is resolved when one call marked it, and
has that call's note from then on; a call that marks nothing leaves the index as it is. -/
theorem run_empty_told [Arithmetic α] (threshold : α) (calls : List Call) :
    let log := (run (empty threshold) calls).1
    let index := (run (empty threshold) calls).2
    index.Filed ∧ index.Counts (messages calls) ∧
    index.statistics.occurrences = (messages calls).length ∧
    index.statistics.byCategory.values.sum = (messages calls).length ∧
    (∀ hash record, index.records.find? hash = some record →
      (record.resolved = true ↔ (notes log hash).length = 1) ∧
      record.note = (notes log hash).head?) ∧
    (∀ hash note, notes log hash = [note] → ∀ later, ∃ record,
      (index.run later).2.records.find? hash = some record ∧ record.resolved = true ∧
        record.note = some note) ∧
    index.statistics.resolved + index.statistics.unresolved = index.records.size ∧
    ∀ hash note failure,
      ((index.answer (.resolve hash note)).1 = .error failure ↔
        (index.records.find? hash = none ∧ failure = .unknownHash hash) ∨
        ∃ known, index.records.find? hash = some known ∧ known.resolved = true ∧
          failure = .alreadyResolved hash) ∧
      ((index.answer (.resolve hash note)).1 = .error failure →
        (index.answer (.resolve hash note)).2 = index) := by
  intro log index
  have tells : index.Tells log := (tells_empty threshold).run calls
  have total : index.statistics.occurrences = (messages calls).length :=
    (occurrences_run (empty threshold) calls).trans (Nat.zero_add _)
  refine ⟨tells.filed, ?_, total, (sum_byCategory index).trans total, fun hash record found => ?_,
    fun hash note noted later => tells.note_stays noted later, resolved_add_unresolved index,
    fun hash note failure => ⟨?_, fun failed => answer_eq_error failed⟩⟩
  · have counts := tells.counts
    rwa [told, map_fst_run] at counts
  · have noted := tells.noted hash
    rw [found, Option.bind_some] at noted
    rw [noted, tells.settled hash record found]
    cases record.note with
    | none => exact ⟨⟨fun isNoted => (by cases isNoted), fun one => (by cases one)⟩, rfl⟩
    | some note => exact ⟨⟨fun _ => rfl, fun _ => rfl⟩, rfl⟩
  · rw [← markResolved_eq_error]
    exact answer_resolve_eq_error

end TaskLoop.ErrorIndex

namespace TaskLoop.Sample

open ErrorIndex

/-- A failure in two spellings, marked between them. -/
def spelledCalls : List Call :=
  [.record "no token" ⟨1, 0⟩, .resolve (Similarity.errorHash "no token") "add it",
    .record "  No\tTOKEN " ⟨2, 0⟩]

/-- The log of these calls on an index without records, and the index behind them. -/
def spelledRun : Log × ErrorIndex Float := run (ErrorIndex.empty defaultThreshold) spelledCalls

theorem spelledRun_told :
    let hash := Similarity.errorHash "no token"
    (spelledRun.2.records.find? hash).map (·.occurrences) = some 2 ∧
      spelledRun.2.statistics.occurrences = 2 ∧
      ∃ record, spelledRun.2.records.find? hash = some record ∧ record.resolved = true ∧
        record.note = some "add it" := by
  intro hash
  have told := run_empty_told (defaultThreshold : Float) spelledCalls
  rw [← spelledRun] at told
  obtain ⟨-, counts, total, -, -, stays, -⟩ := told
  have counted := counts hash
  have twice : occurrences (messages spelledCalls) hash = 2 := by decide +kernel
  rw [twice] at counted
  have noted : notes spelledRun.1 hash = ["add it"] := by decide +kernel
  have all : (messages spelledCalls).length = 2 := by decide
  have kept := stays hash "add it" noted []
  dsimp only [run] at kept
  exact ⟨counted, total.trans all, kept⟩

end TaskLoop.Sample
