import Mathlib.Data.List.Dedup
import TaskLoop.Proofs.Disk.Locks
import TaskLoop.Proofs.Pattern.Import

/-!
What an import adds to a table, counted. Outcomes are neither lost nor made up when the keys of a
file are settled nor when its records are taken in, and a file that is refused is refused before
any of them are.
-/

set_option autoImplicit false

namespace TaskLoop.Pattern.Table

open Arithmetic (Exact)

variable {α : Type} [Arithmetic α] {count : PatternRecord α → Nat}

/-- A count that adds up when records are merged. -/
def AddsUp (count : PatternRecord α → Nat) : Prop :=
  ∀ left right : PatternRecord α, count (left.merged right) = count left + count right

omit [Arithmetic α] in
/-- What a table counts under a key, nought if it has no record of it. -/
def countAt (count : PatternRecord α → Nat) (table : Table α) (key : String) : Nat :=
  ((table.find? key).map count).getD 0

omit [Arithmetic α] in
/-- What the records under keys of a kind count together. -/
def countOf (count : PatternRecord α → Nat) (asked : String → Bool)
    (entries : List (String × PatternRecord α)) : Nat :=
  ((entries.filter fun entry => asked entry.1).map fun entry => count entry.2).sum

/-! ### Records taken in -/

/-- A record is taken in under its key, together with the one that is there. -/
theorem mergeRecord_eq_insert (table : Table α) (key : String) (record : PatternRecord α) :
    mergeRecord table key record =
      OrderedMap.insert table key ((table.find? key).elim record (·.merged record)) := by
  rw [mergeRecord]
  cases table.find? key <;> rfl

theorem countAt_mergeRecord (adds : AddsUp count) (table : Table α) (key asked : String)
    (record : PatternRecord α) : countAt count (mergeRecord table key record) asked =
      countAt count table asked + if key = asked then count record else 0 := by
  rw [mergeRecord_eq_insert, countAt, countAt]
  by_cases same : key = asked
  · subst same
    rw [OrderedMap.find?_insert_self, if_pos rfl]
    cases table.find? key with
    | none => exact (Nat.zero_add _).symm
    | some known => exact adds known record
  · rw [OrderedMap.find?_insert_of_ne _ _ (Ne.symm same), if_neg same, Nat.add_zero]

/-- Under each key the records that are taken in add what they count. -/
theorem countAt_absorb (adds : AddsUp count) (table : Table α)
    (entries : List (String × PatternRecord α)) (key : String) :
    countAt count (absorb table entries) key =
      countAt count table key + countOf count (· == key) entries := by
  induction entries generalizing table with
  | nil => rfl
  | cons entry rest ih =>
    have step : absorb table (entry :: rest) =
        absorb (mergeRecord table entry.1 entry.2) rest := rfl
    rw [step, ih, countAt_mergeRecord adds, Nat.add_assoc]
    congr 1
    by_cases same : entry.1 = key
    · simp [countOf, same]
    · simp [countOf, same]

/-- Records under keys that are new and differ are put in as they are. -/
theorem absorb_eq_foldl {table : Table α} {entries : List (String × PatternRecord α)}
    (once : (entries.map Prod.fst).Nodup)
    (fresh : ∀ entry ∈ entries, table.find? entry.1 = none) :
    absorb table entries =
      entries.foldl (fun map binding => OrderedMap.insert map binding.1 binding.2) table := by
  induction entries generalizing table with
  | nil => rfl
  | cons entry rest ih =>
    obtain ⟨first, others⟩ := List.forall_mem_cons.mp fresh
    obtain ⟨apart, once⟩ := List.nodup_cons.mp once
    have put : mergeRecord table entry.1 entry.2 = OrderedMap.insert table entry.1 entry.2 := by
      rw [mergeRecord_eq_insert, first]
      rfl
    have step : absorb table (entry :: rest) =
        absorb (mergeRecord table entry.1 entry.2) rest := rfl
    rw [step, List.foldl_cons, put]
    refine ih once fun other member => ?_
    have differs : other.1 ≠ entry.1 := by
      intro same
      rw [← same] at apart
      exact apart (List.mem_map_of_mem member)
    rw [OrderedMap.find?_insert_of_ne _ _ differs]
    exact others other member

/-- To take a whole table in where nothing is gives that table. -/
theorem mergeFrom_empty (table : Table α) : mergeFrom .empty table = table :=
  (absorb_eq_foldl table.nodup_keys fun _ _ => rfl).trans (OrderedMap.ofList_entries table)

theorem countOf_entries (adds : AddsUp count) (table : Table α) (key : String) :
    countOf count (· == key) table.entries = countAt count table key := by
  have whole := countAt_absorb adds .empty table.entries key
  have same : absorb .empty table.entries = table := mergeFrom_empty table
  have nothing : countAt count (.empty : Table α) key = 0 := rfl
  rw [same, nothing, Nat.zero_add] at whole
  exact whole.symm

/-- Settling the keys of a table adds up what is counted under the spellings of each. -/
theorem countAt_folded (adds : AddsUp count) (raw : Table α) (key : String) :
    countAt count (folded raw) key = countOf count (settleKey · == key) raw.entries := by
  have nothing : countAt count (.empty : Table α) key = 0 := rfl
  rw [folded, countAt_absorb adds, nothing, Nat.zero_add, countOf, countOf, List.filter_map,
    List.map_map]
  rfl

/-- A table with those of a file taken in counts what both did. -/
theorem countAt_mergeFrom (adds : AddsUp count) (table raw : Table α) (key : String) :
    countAt count (mergeFrom table (folded raw)) key =
      countAt count table key + countOf count (settleKey · == key) raw.entries := by
  have taken : mergeFrom table (folded raw) = absorb table (folded raw).entries := rfl
  rw [taken, countAt_absorb adds, countOf_entries adds, countAt_folded adds]

/-! ### Keys taken in -/

/-- Records taken in under keys that differ make the table grow by those keys it did not have. -/
theorem size_absorb {table : Table α} {entries : List (String × PatternRecord α)}
    (once : (entries.map Prod.fst).Nodup) : (absorb table entries).size =
      table.size + ((entries.map Prod.fst).filter fun key => !table.contains key).length := by
  induction entries generalizing table with
  | nil => rfl
  | cons entry rest ih =>
    obtain ⟨apart, once⟩ := List.nodup_cons.mp once
    have step : absorb table (entry :: rest) =
        absorb (mergeRecord table entry.1 entry.2) rest := rfl
    have others : ((rest.map Prod.fst).filter fun key =>
        !(mergeRecord table entry.1 entry.2).contains key) =
          (rest.map Prod.fst).filter fun key => !table.contains key := by
      refine List.filter_congr fun key member => ?_
      have other : key ≠ entry.1 := fun same => apart (same ▸ member)
      rw [mergeRecord_eq_insert, OrderedMap.contains, OrderedMap.find?_insert_of_ne _ _ other,
        OrderedMap.contains]
    rw [step, ih once, others, mergeRecord_eq_insert, OrderedMap.size_insert, List.map_cons,
      List.filter_cons]
    cases table.contains entry.1 with
    | true => rfl
    | false =>
      simp only [Bool.false_eq_true, ↓reduceIte, Bool.not_false, List.length_cons]
      omega

/-- An import that merges reports how many keys it added and how many were there already. -/
theorem importFrom_summary (table incoming : Table α) :
    (mergeFrom table incoming).size = table.size + (table.importFrom incoming true).1.added ∧
      (table.importFrom incoming true).1.added + (table.importFrom incoming true).1.merged =
        incoming.size := by
  have grown : (mergeFrom table incoming).size =
      table.size + (incoming.keys.filter fun key => !table.contains key).length :=
    size_absorb incoming.nodup_keys
  have parted := incoming.keys.length_eq_length_filter_add table.contains
  have whole : incoming.keys.length = incoming.size := List.length_map _
  have added : (table.importFrom incoming true).1.added =
      (mergeFrom table incoming).size - table.size := rfl
  have merged : (table.importFrom incoming true).1.merged =
      (incoming.keys.filter table.contains).length := rfl
  omega

/-- The keys of a file that differ when they are settled. -/
theorem size_folded (raw : Table α) :
    (folded raw).size = (raw.keys.map settleKey).dedup.length := by
  have listed : (folded raw).keys.Perm (raw.keys.map settleKey).dedup := by
    refine (List.perm_ext_iff_of_nodup (folded raw).nodup_keys (List.nodup_dedup _)).mpr
      fun key => ?_
    rw [folded, mem_keys_absorb, List.mem_dedup, List.map_map, OrderedMap.keys, OrderedMap.keys,
      List.map_map]
    exact or_iff_right List.not_mem_nil
  rw [← listed.length_eq]
  exact (List.length_map _).symm

/-! ### Imports -/

/-- To read a table changes nothing. -/
theorem read_keeps {δ : Type} {view : Host → δ} (path : Path) :
    (Table.read path : Act StoreError (Table α)).Keeps view := by
  refine Act.Keeps.bind (Act.Keeps.look _) fun raw => ?_
  split
  · exact Act.Keeps.pure _
  · exact Act.Keeps.throw _

/-- An import goes as far as its file is read, whatever table it is for. -/
theorem importFile_eq_match (table : Table α) (path : Path) (merge : Bool) (host : Host) :
    table.importFile path merge host =
      match (Table.read path : Act StoreError (Table α)) host with
      | .ok incoming after => .ok (table.importFrom incoming merge) after
      | .error e after => .error e after := by
  rw [importFile]
  simp only [bind, EStateM.bind]
  cases (Table.read path : Act StoreError (Table α)) host <;> rfl

/-- An import that is refused changes nothing, and is refused for every table alike. -/
theorem importFile_refused {table : Table α} {path : Path} {merge : Bool} {host after : Host}
    {e : StoreError} (refused : table.importFile path merge host = .error e after) :
    after = host ∧ ∀ (other : Table α) (merge : Bool),
      other.importFile path merge host = .error e host := by
  rw [importFile_eq_match] at refused
  cases read : (Table.read path : Act StoreError (Table α)) host with
  | ok incoming between =>
    rw [read] at refused
    cases refused
  | error e' between =>
    rw [read] at refused
    cases refused
    obtain rfl : after = host := (read_keeps path : Act.Keeps id _).of_error read
    refine ⟨rfl, fun other merge => ?_⟩
    rw [importFile_eq_match, read]

/-- An import that replaces comes to what the same import into an empty table does. -/
theorem importFile_replacing (table : Table α) (path : Path) (host : Host) :
    table.importFile path false host =
      match importFile (.empty : Table α) path true host with
      | .ok (summary, result) after => .ok ({ summary with replaced := true }, result) after
      | .error e after => .error e after := by
  rw [importFile_eq_match, importFile_eq_match]
  cases (Table.read path : Act StoreError (Table α)) host with
  | error e after => rfl
  | ok incoming after =>
    have none : sharedKeys (.empty : Table α) incoming = 0 := by
      rw [sharedKeys, List.length_eq_zero_iff, List.filter_eq_nil_iff]
      exact fun _ _ => nofun
    simp only [importFrom, mergeFrom_empty, none, Bool.false_eq_true, ↓reduceIte]
    rfl

/-- What an import that merges takes in, whose records add up to what the table then counts. -/
theorem importFile_merging {table result : Table α} {path : Path} {host after : Host}
    {summary : ImportSummary}
    (imported : table.importFile path true host = .ok (summary, result) after) :
    ∃ raw : Table α, Holds host path raw ∧
      (∀ entry ∈ raw.entries, entry.2.flaw? entry.1 = none) ∧
      summary = (table.importFrom (folded raw) true).1 ∧
      result = mergeFrom table (folded raw) := by
  obtain ⟨incoming, read, rfl, rfl⟩ := importFile_eq_ok imported
  obtain ⟨rfl, raw, holds, settled⟩ := read_eq_ok_iff.mp read
  obtain ⟨flawless, rfl⟩ := settle_eq_ok_iff.mp settled
  exact ⟨raw, holds, flawless, rfl, rfl⟩

/-- What holds of the records of a table and of a file holds of all when the file is taken in. -/
theorem every_mergeFrom {kind : PatternRecord α → Prop}
    (merges : ∀ left right : PatternRecord α, kind left → kind right → kind (left.merged right))
    (sees : ∀ (record : PatternRecord α) key, record.flaw? key = none → kind record)
    {table raw : Table α} (flawless : ∀ entry ∈ table.entries, entry.2.flaw? entry.1 = none)
    (flawless' : ∀ entry ∈ raw.entries, entry.2.flaw? entry.1 = none) :
    Every kind (mergeFrom table (folded raw)) := by
  have kinds {table : Table α} (flawless : ∀ entry ∈ table.entries, entry.2.flaw? entry.1 = none) :
      Every kind table := fun entry member => sees entry.2 entry.1 (flawless entry member)
  exact (kinds flawless).absorb merges ((kinds flawless').folded merges)

end TaskLoop.Pattern.Table

namespace TaskLoop.Sample

open Pattern (Table)
open Pattern.Table

/-- A table that has one of the keys of the first file. -/
def grownTable : Table ℚ := .ofList
  [("GEN@high", ⟨3, 1, 2, 1, 1, none⟩), ("REVIEW", ⟨1, 1, 0, 2, 0, some ⟨5, 0⟩⟩)]

end TaskLoop.Sample
