import TaskLoop.Proofs.Pattern.Key
import TaskLoop.Proofs.Pattern.Merge
import TaskLoop.Proofs.Store.File
import TaskLoop.Store.Tables

/-!
Tables taken in one after the other. In exact arithmetic what a table holds of a key is the share
of that key in all that was taken in, so the order does not matter, nor how the tables were put
together before, nor how their keys were written.
-/

set_option autoImplicit false

namespace TaskLoop

open Arithmetic (Exact)

namespace PatternRecord

instance : Std.Commutative (merged (α := ℚ)) := ⟨merged_comm⟩

instance : Std.Associative (merged (α := ℚ)) := ⟨merged_assoc⟩

/-- Two shares together, where nothing is the share of what is not there. -/
def joined : Option (PatternRecord ℚ) → Option (PatternRecord ℚ) → Option (PatternRecord ℚ) :=
  Option.merge merged

theorem joined_comm (left right : Option (PatternRecord ℚ)) :
    joined left right = joined right left :=
  (Option.commutative_merge merged).comm left right

theorem joined_assoc (first second third : Option (PatternRecord ℚ)) :
    joined (joined first second) third = joined first (joined second third) :=
  (Option.associative_merge merged).assoc first second third

theorem joined_left_comm (first second third : Option (PatternRecord ℚ)) :
    joined first (joined second third) = joined second (joined first third) := by
  rw [← joined_assoc, joined_comm first, joined_assoc]

@[simp] theorem joined_none (share : Option (PatternRecord ℚ)) : joined share none = share :=
  Option.merge_none_right

@[simp] theorem none_joined (share : Option (PatternRecord ℚ)) : joined none share = share :=
  Option.merge_none_left

/-- All shares together. -/
def joinedAll (shares : List (Option (PatternRecord ℚ))) : Option (PatternRecord ℚ) :=
  shares.foldr joined none

instance : LeftCommutative joined := ⟨joined_left_comm⟩

theorem joinedAll_perm {shares others : List (Option (PatternRecord ℚ))}
    (same : shares.Perm others) : joinedAll shares = joinedAll others :=
  same.foldr_eq none

/-- A record that outcomes can have: no more successes than outcomes, and no average below
nought. -/
structure Sound (record : PatternRecord ℚ) : Prop where
  successes : record.successes ≤ record.usage
  avgRetries : 0 ≤ record.avgRetries
  avgDuration : 0 ≤ record.avgDuration
  avgSuccessRetries : 0 ≤ record.avgSuccessRetries

theorem weighted_nonneg {left right : ℚ} (leftCount rightCount : Nat) (notBelow : 0 ≤ left)
    (notBelow' : 0 ≤ right) : 0 ≤ weighted left leftCount right rightCount := by
  rw [weighted_eq]
  positivity

theorem Sound.merged {left right : PatternRecord ℚ} (sound : left.Sound) (sound' : right.Sound) :
    (left.merged right).Sound where
  successes := Nat.add_le_add sound.successes sound'.successes
  avgRetries := weighted_nonneg _ _ sound.avgRetries sound'.avgRetries
  avgDuration := weighted_nonneg _ _ sound.avgDuration sound'.avgDuration
  avgSuccessRetries := weighted_nonneg _ _ sound.avgSuccessRetries sound'.avgSuccessRetries

end PatternRecord

/-- Numbers that are compared as the fractions they stand for, none of them beyond all numbers. -/
structure Arithmetic.Compares {α : Type} [Arithmetic α] (value : α → ℚ) : Prop where
  less : ∀ left right : α, less left right = decide (value left < value right)
  isFinite : ∀ x : α, isFinite x = true

theorem Arithmetic.compares_fractions : Arithmetic.Compares (id : ℚ → ℚ) where
  less _ _ := rfl
  isFinite _ := rfl

namespace PatternRecord

variable {α : Type} [Arithmetic α] {value : α → ℚ}

omit [Arithmetic α] in
/-- The averages of a record. -/
def averages (record : PatternRecord α) : List α :=
  [record.avgRetries, record.avgDuration, record.avgSuccessRetries]

/-- A record has no flaw if it counts no more successes than outcomes and none of its averages is
infinite or below nought. -/
theorem flaw?_eq_none_iff (record : PatternRecord α) (key : String) :
    record.flaw? key = none ↔ record.successes ≤ record.usage ∧ ∀ average ∈ record.averages,
      Arithmetic.isFinite average = true ∧ Arithmetic.less average Arithmetic.zero = false := by
  have listed : record.averages =
      [record.avgRetries, record.avgDuration, record.avgSuccessRetries] := rfl
  rw [flaw?, ← listed]
  by_cases counted : record.usage < record.successes
  · rw [if_pos counted]
    exact ⟨nofun, fun whole => absurd whole.1 (Nat.not_le.mpr counted)⟩
  · simp [counted, Nat.not_lt.mp counted]

/-- In exact arithmetic a record has no flaw if it can be one of outcomes. -/
theorem flaw?_eq_none_iff_sound (exact : Exact value) (compares : Arithmetic.Compares value)
    (record : PatternRecord α) (key : String) :
    record.flaw? key = none ↔ (record.exactly value).Sound := by
  have zero : value Arithmetic.zero = 0 := by
    rw [Arithmetic.zero, exact.ofNat, Nat.cast_zero]
  have notBelow (average : α) : (Arithmetic.isFinite average = true ∧
      Arithmetic.less average Arithmetic.zero = false) ↔ 0 ≤ value average := by
    rw [compares.isFinite, compares.less, zero, decide_eq_false_iff_not, not_lt,
      eq_self_iff_true, true_and]
  simp only [flaw?_eq_none_iff, notBelow, averages, List.forall_mem_cons]
  constructor
  · rintro ⟨counted, retries, duration, successRetries, -⟩
    exact ⟨counted, retries, duration, successRetries⟩
  · intro sound
    exact ⟨sound.successes, sound.avgRetries, sound.avgDuration, sound.avgSuccessRetries, List.forall_mem_nil _⟩

end PatternRecord

namespace Pattern.Table

open PatternRecord (joined joinedAll joinedAll_perm joined_assoc joined_comm)

/-! ### Shares -/

/-- What records hold of the keys that are asked for. -/
def shareOf (asked : String → Bool) (entries : List (String × PatternRecord ℚ)) :
    Option (PatternRecord ℚ) :=
  joinedAll (entries.map fun entry => if asked entry.1 then some entry.2 else none)

theorem shareOf_cons (asked : String → Bool) (entry : String × PatternRecord ℚ)
    (rest : List (String × PatternRecord ℚ)) : shareOf asked (entry :: rest) =
      joined (if asked entry.1 then some entry.2 else none) (shareOf asked rest) := rfl

theorem shareOf_perm (asked : String → Bool) {entries others : List (String × PatternRecord ℚ)}
    (same : entries.Perm others) : shareOf asked entries = shareOf asked others :=
  joinedAll_perm (same.map _)

theorem shareOf_eq_none {asked : String → Bool} {entries : List (String × PatternRecord ℚ)}
    (others : ∀ entry ∈ entries, asked entry.1 = false) : shareOf asked entries = none := by
  induction entries with
  | nil => rfl
  | cons entry rest ih =>
    obtain ⟨first, others⟩ := List.forall_mem_cons.mp others
    rw [shareOf_cons, first, ih others]
    rfl

/-- What is found under a key is what the table holds of that key. -/
theorem shareOf_key (table : Table ℚ) (key : String) :
    shareOf (· == key) table.entries = table.find? key := by
  have others : ∀ entry ∈ (OrderedMap.erase key table).entries, (entry.1 == key) = false := by
    intro entry member
    have found : (OrderedMap.erase key table).find? entry.1 = some entry.2 :=
      OrderedMap.mem_entries_iff.mp member
    rw [beq_eq_false_iff_ne]
    intro same
    rw [same, OrderedMap.find?_erase_self] at found
    cases found
  cases found : table.find? key with
  | none =>
    rw [OrderedMap.erase_of_find?_eq_none found] at others
    exact shareOf_eq_none others
  | some record =>
    rw [shareOf_perm _ (OrderedMap.perm_of_find? found), shareOf_cons, shareOf_eq_none others]
    simp

/-- A record taken in is one more share. -/
theorem shareOf_mergeRecord (asked : String → Bool) (table : Table ℚ) (key : String)
    (record : PatternRecord ℚ) :
    shareOf asked (mergeRecord table key record).entries =
      joined (shareOf asked table.entries) (if asked key then some record else none) := by
  rw [mergeRecord]
  cases found : table.find? key with
  | none =>
    rw [shareOf_perm asked (OrderedMap.perm_insert table key record), shareOf_cons,
      OrderedMap.erase_of_find?_eq_none found, joined_comm]
  | some known =>
    dsimp only
    rw [shareOf_perm asked (OrderedMap.perm_insert table key _), shareOf_cons,
      shareOf_perm asked (OrderedMap.perm_of_find? found), shareOf_cons]
    cases asked key with
    | false => simp
    | true =>
      have pair : some (known.merged record) = joined (some known) (some record) := rfl
      simp only [↓reduceIte, pair]
      rw [joined_assoc, joined_assoc, joined_comm (some record)]

/-- Takes records in under their keys. -/
def absorb {α : Type} [Arithmetic α] (table : Table α) (entries : List (String × PatternRecord α)) :
    Table α :=
  entries.foldl (fun table entry => mergeRecord table entry.1 entry.2) table

theorem mem_keys_absorb {α : Type} [Arithmetic α] {table : Table α}
    {entries : List (String × PatternRecord α)} {asked : String} :
    asked ∈ (absorb table entries).keys ↔ asked ∈ table.keys ∨ asked ∈ entries.map Prod.fst := by
  induction entries generalizing table with
  | nil => simp [absorb]
  | cons entry rest ih =>
    have step : absorb table (entry :: rest) = absorb (mergeRecord table entry.1 entry.2) rest := rfl
    rw [step, ih, mem_keys_mergeRecord, List.map_cons, List.mem_cons]
    tauto

theorem shareOf_absorb (asked : String → Bool) (table : Table ℚ)
    (entries : List (String × PatternRecord ℚ)) :
    shareOf asked (absorb table entries).entries =
      joined (shareOf asked table.entries) (shareOf asked entries) := by
  induction entries generalizing table with
  | nil =>
    rw [absorb, List.foldl_nil]
    exact (PatternRecord.joined_none _).symm
  | cons entry rest ih =>
    rw [absorb, List.foldl_cons, ← absorb, ih, shareOf_mergeRecord, shareOf_cons, joined_assoc]

/-- Tables merged one after the other. -/
def mergeAll {α : Type} [Arithmetic α] (start : Table α) (tables : List (Table α)) : Table α :=
  tables.foldl mergeFrom start

theorem shareOf_mergeAll (asked : String → Bool) (start : Table ℚ) (tables : List (Table ℚ)) :
    shareOf asked (mergeAll start tables).entries =
      joined (shareOf asked start.entries)
        (joinedAll (tables.map fun table => shareOf asked table.entries)) := by
  induction tables generalizing start with
  | nil => exact (PatternRecord.joined_none _).symm
  | cons table rest ih =>
    have whole : joinedAll ((table :: rest).map fun table => shareOf asked table.entries) =
        joined (shareOf asked table.entries)
          (joinedAll (rest.map fun table => shareOf asked table.entries)) := rfl
    have first : shareOf asked (mergeFrom start table).entries =
        joined (shareOf asked start.entries) (shareOf asked table.entries) :=
      shareOf_absorb asked start table.entries
    rw [mergeAll, List.foldl_cons, ← mergeAll, ih, first, whole, joined_assoc]

/-- Tables that hold the same of every key are the same. -/
theorem eq_of_shareOf {left right : Table ℚ}
    (same : ∀ key, shareOf (· == key) left.entries = shareOf (· == key) right.entries) :
    left = right := by
  refine OrderedMap.ext_find? fun key => ?_
  rw [← shareOf_key, ← shareOf_key, same]

theorem mergeAll_perm (start : Table ℚ) {tables others : List (Table ℚ)}
    (same : tables.Perm others) : mergeAll start tables = mergeAll start others := by
  refine eq_of_shareOf fun key => ?_
  rw [shareOf_mergeAll, shareOf_mergeAll, joinedAll_perm (same.map _)]

/-! ### Keys settled -/

/-- A table with its keys as they are looked up, and the records of keys that become one
together. -/
def folded {α : Type} [Arithmetic α] (raw : Table α) : Table α :=
  absorb .empty (raw.entries.map fun entry => (settleKey entry.1, entry.2))

/-- What is then held of a key is what was held of all spellings of it. -/
theorem shareOf_folded (key : String) (raw : Table ℚ) :
    shareOf (· == key) (folded raw).entries =
      shareOf (fun spelling => settleKey spelling == key) raw.entries := by
  have start : shareOf (· == key) (OrderedMap.empty : Table ℚ).entries = none := rfl
  rw [folded, shareOf_absorb, start, PatternRecord.none_joined, shareOf, List.map_map]
  rfl

/-- Tables may be merged before their keys are settled or after. -/
theorem mergeFrom_folded (start : Table ℚ) (raws : List (Table ℚ)) :
    mergeFrom start (folded (mergeAll .empty raws)) = mergeAll start (raws.map folded) := by
  refine eq_of_shareOf fun key => ?_
  have merged : shareOf (· == key) (mergeFrom start (folded (mergeAll .empty raws))).entries =
      joined (shareOf (· == key) start.entries)
        (shareOf (· == key) (folded (mergeAll .empty raws)).entries) :=
    shareOf_absorb _ start _
  have nothing : shareOf (fun spelling => settleKey spelling == key)
      (OrderedMap.empty : Table ℚ).entries = none := rfl
  rw [merged, shareOf_folded, shareOf_mergeAll, shareOf_mergeAll, nothing,
    PatternRecord.none_joined, List.map_map]
  congr 2
  exact List.map_congr_left fun raw _ => (shareOf_folded key raw).symm

theorem folded_of_settled {table : Table ℚ} (settled : Settled table) : folded table = table := by
  refine eq_of_shareOf fun key => ?_
  rw [shareOf_folded, shareOf, shareOf]
  congr 1
  refine List.map_congr_left fun entry member => ?_
  rw [settled entry.1 (List.mem_map_of_mem member)]

/-! ### Records of a kind -/

section

variable {α : Type}

/-- All records of a table are of a kind. -/
def Every (kind : PatternRecord α → Prop) (table : Table α) : Prop :=
  ∀ entry ∈ table.entries, kind entry.2

variable {kind : PatternRecord α → Prop} {table : Table α}

theorem every_empty : Every kind (.empty : Table α) := fun _ => nofun

theorem Every.insert {record : PatternRecord α} (every : Every kind table) (key : String)
    (isKind : kind record) : Every kind (OrderedMap.insert table key record) := by
  intro entry member
  rcases OrderedMap.mem_insertEntry member with rfl | known
  · exact isKind
  · exact every entry known

theorem Every.find? {key : String} {record : PatternRecord α} (every : Every kind table)
    (found : table.find? key = some record) : kind record :=
  every _ (OrderedMap.mem_entries_iff.mpr found)

variable [Arithmetic α]
  (merges : ∀ left right : PatternRecord α, kind left → kind right → kind (left.merged right))

include merges

/-- Records of a kind that is kept by merging are taken in. -/
theorem Every.absorb (every : Every kind table) {entries : List (String × PatternRecord α)}
    (all : ∀ entry ∈ entries, kind entry.2) : Every kind (absorb table entries) := by
  induction entries generalizing table with
  | nil => exact every
  | cons entry rest ih =>
    obtain ⟨first, others⟩ := List.forall_mem_cons.mp all
    refine ih ?_ others
    show Every kind (mergeRecord table entry.1 entry.2)
    rw [mergeRecord]
    cases found : table.find? entry.1 with
    | none => exact every.insert _ first
    | some known => exact every.insert _ (merges _ _ (every.find? found) first)

theorem Every.mergeAll (every : Every kind table) {tables : List (Table α)}
    (all : ∀ other ∈ tables, Every kind other) : Every kind (mergeAll table tables) := by
  induction tables generalizing table with
  | nil => exact every
  | cons other rest ih =>
    obtain ⟨first, others⟩ := List.forall_mem_cons.mp all
    exact ih (every.absorb merges first) others

theorem Every.folded {raw : Table α} (every : Every kind raw) : Every kind (folded raw) := by
  refine every_empty.absorb merges fun entry member => ?_
  obtain ⟨spelt, isSpelt, rfl⟩ := List.mem_map.mp member
  exact every spelt isSpelt

end

/-- All records of a table can be those of outcomes. -/
def Sound (table : Table ℚ) : Prop := Every PatternRecord.Sound table

theorem merges_sound (left right : PatternRecord ℚ) (sound : left.Sound) (sound' : right.Sound) :
    (left.merged right).Sound := sound.merged sound'

/-! ### Accepted tables -/

section

variable {α : Type} [Arithmetic α]

/-- A table of a file is accepted if its records have no flaw, and is then taken with its keys
settled. -/
theorem settle_eq_ok_iff {raw table : Table α} :
    Table.settle raw = .ok table ↔
      (∀ entry ∈ raw.entries, entry.2.flaw? entry.1 = none) ∧ table = folded raw := by
  have steps (entries : List (String × PatternRecord α)) (start : Table α) :
      entries.foldlM settleStep start = .ok table ↔
        (∀ entry ∈ entries, entry.2.flaw? entry.1 = none) ∧
          table = absorb start (entries.map fun entry => (settleKey entry.1, entry.2)) := by
    induction entries generalizing start with
    | nil =>
      refine ⟨fun taken => ⟨List.forall_mem_nil _, (Except.ok.inj taken).symm⟩, fun taken => ?_⟩
      rw [taken.2]
      rfl
    | cons entry rest ih =>
      rw [List.foldlM_cons, List.forall_mem_cons]
      cases flawed : entry.2.flaw? entry.1 with
      | some flaw =>
        have refused : settleStep start entry = .error flaw := by rw [settleStep, flawed]
        rw [refused]
        exact ⟨fun taken => (by cases taken), fun taken => (by cases taken.1.1)⟩
      | none =>
        have taken : settleStep start entry =
            .ok (mergeRecord start (settleKey entry.1) entry.2) := by rw [settleStep, flawed]
        rw [taken]
        refine (ih _).trans ?_
        exact ⟨fun rest => ⟨⟨rfl, rest.1⟩, rest.2⟩, fun whole => ⟨whole.1.2, whole.2⟩⟩
  exact steps raw.entries .empty

end

/-! ### Exact values -/

section

variable {α : Type} [Arithmetic α] {value : α → ℚ}

omit [Arithmetic α] in
/-- The table with the fractions its averages stand for. -/
def exactly (value : α → ℚ) (table : Table α) : Table ℚ :=
  table.mapValues fun _ record => record.exactly value

/-- Entries of a table with the fractions their averages stand for. -/
def exactEntries (value : α → ℚ) (entries : List (String × PatternRecord α)) :
    List (String × PatternRecord ℚ) :=
  entries.map fun entry => (entry.1, entry.2.exactly value)

section

variable (exact : Exact value)

include exact

theorem exactly_mergeRecord (table : Table α) (key : String) (record : PatternRecord α) :
    exactly value (mergeRecord table key record) =
      mergeRecord (exactly value table) key (record.exactly value) := by
  rw [mergeRecord, mergeRecord, exactly, exactly, OrderedMap.find?_mapValues]
  cases table.find? key with
  | none => exact OrderedMap.mapValues_insert _ _ _ _
  | some known =>
    simp only [Option.map_some, OrderedMap.mapValues_insert, PatternRecord.exactly_merged exact]

theorem exactly_absorb (table : Table α) (entries : List (String × PatternRecord α)) :
    exactly value (absorb table entries) =
      absorb (exactly value table) (exactEntries value entries) := by
  induction entries generalizing table with
  | nil => rfl
  | cons entry rest ih =>
    rw [absorb, List.foldl_cons, ← absorb, ih, exactly_mergeRecord exact]
    rfl

theorem exactly_folded (raw : Table α) :
    exactly value (folded raw) = folded (exactly value raw) := by
  have spelt : exactEntries value (raw.entries.map fun entry => (settleKey entry.1, entry.2)) =
      (exactly value raw).entries.map fun entry => (settleKey entry.1, entry.2) := by
    simp only [exactEntries, exactly, OrderedMap.mapValues, List.map_map]
    rfl
  rw [folded, exactly_absorb exact, folded, spelt]
  rfl

theorem exactly_mergeAll (table : Table α) (tables : List (Table α)) :
    exactly value (mergeAll table tables) =
      mergeAll (exactly value table) (tables.map (exactly value)) := by
  induction tables generalizing table with
  | nil => rfl
  | cons other rest ih =>
    have first : exactly value (mergeFrom table other) =
        mergeFrom (exactly value table) (exactly value other) :=
      exactly_absorb exact table other.entries
    rw [mergeAll, List.foldl_cons, ← mergeAll, ih, first]
    rfl

/-- A table of a file is accepted if all of its records can be those of outcomes. -/
theorem settle_eq_ok_iff_sound (compares : Arithmetic.Compares value) {raw table : Table α} :
    Table.settle raw = .ok table ↔ Sound (exactly value raw) ∧ table = folded raw := by
  rw [settle_eq_ok_iff]
  have each : (∀ entry ∈ raw.entries, entry.2.flaw? entry.1 = none) ↔
      Sound (exactly value raw) := by
    constructor
    · intro flawless entry member
      obtain ⟨known, isKnown, rfl⟩ := List.mem_map.mp member
      exact (PatternRecord.flaw?_eq_none_iff_sound exact compares known.2 known.1).mp
        (flawless known isKnown)
    · intro sound entry member
      refine (PatternRecord.flaw?_eq_none_iff_sound exact compares entry.2 entry.1).mpr ?_
      exact sound (entry.1, entry.2.exactly value) (List.mem_map.mpr ⟨entry, member, rfl⟩)
  rw [each]

end

/-! ### Files -/

/-- A file holds a table as it stands there. -/
def Holds (host : Host) (path : Path) (raw : Table α) : Prop :=
  Store.readJson path Table.ofJson? host = .ok raw host

/-- A file that is read holds a table that is accepted. -/
theorem read_eq_ok_iff {host after : Host} {path : Path} {table : Table α} :
    Table.read path host = .ok table after ↔
      after = host ∧ ∃ raw, Holds host path raw ∧ Table.settle raw = .ok table := by
  rw [Table.read, Act.bind_eq_ok]
  constructor
  · rintro ⟨raw, between, found, rest⟩
    obtain rfl : between = host := (Act.look_eq_ok.mp found).2
    cases taken : Table.settle raw with
    | error flaw =>
      rw [taken] at rest
      cases rest
    | ok settled =>
      rw [taken] at rest
      cases rest
      exact ⟨rfl, raw, found, taken⟩
  · rintro ⟨rfl, raw, found, taken⟩
    refine ⟨raw, after, found, ?_⟩
    rw [taken]
    rfl

/-- Each path leads to a file that is accepted, of which a table is read. -/
def Reads (host : Host) : List Path → List (Table α) → Prop :=
  List.Forall₂ fun path incoming => Table.read path host = .ok incoming host

/-- Takes the tables of files in, one after the other. -/
def importAll (table : Table α) : List Path → Act StoreError (Table α)
  | [] => return table
  | path :: rest => do
    let (_, table) ← table.importFile path true
    importAll table rest

theorem importFile_eq {host : Host} {path : Path} {incoming : Table α}
    (accepted : Table.read path host = .ok incoming host) (table : Table α) :
    table.importFile path true host = .ok (table.importFrom incoming true) host :=
  Act.bind_eq_ok.mpr ⟨incoming, host, accepted, rfl⟩

theorem importAll_eq {host : Host} {paths : List Path} {incomings : List (Table α)}
    (accepted : Reads host paths incomings) (table : Table α) :
    importAll table paths host = .ok (mergeAll table incomings) host := by
  induction accepted generalizing table with
  | nil => rfl
  | cons first others ih =>
    exact Act.bind_eq_ok.mpr ⟨_, host, importFile_eq first table, ih _⟩

/-- What an import takes in was read of an accepted file. -/
theorem importFile_eq_ok {table result : Table α} {merge : Bool} {host after : Host} {path : Path}
    {summary : ImportSummary}
    (imported : table.importFile path merge host = .ok (summary, result) after) :
    ∃ incoming, Table.read path host = .ok incoming after ∧
      summary = (table.importFrom incoming merge).1 ∧
      result = (table.importFrom incoming merge).2 := by
  obtain ⟨incoming, between, read, rest⟩ := Act.bind_eq_ok.mp imported
  obtain ⟨same, rfl⟩ := Act.pure_eq_ok.mp rest
  exact ⟨incoming, read, by rw [same], by rw [same]⟩

/-- One file that holds the merge of some tables comes to the same as those tables. -/
theorem importFile_merged (exact : Exact value) (compares : Arithmetic.Compares value)
    {host : Host} {path : Path} {raw : Table α} {raws : List (Table α)} (table : Table α)
    (sound : ∀ other ∈ raws, Sound (exactly value other)) (holds : Holds host path raw)
    (same : exactly value raw = exactly value (mergeAll .empty raws)) :
    ∃ summary single, table.importFile path true host = .ok (summary, single) host ∧
      exactly value single = exactly value (mergeAll table (raws.map folded)) := by
  have whole : Sound (exactly value raw) := by
    rw [same, exactly_mergeAll exact]
    refine every_empty.mergeAll merges_sound fun other member => ?_
    obtain ⟨exactRaw, isRaw, rfl⟩ := List.mem_map.mp member
    exact sound exactRaw isRaw
  have taken : Table.settle raw = .ok (folded raw) :=
    (settle_eq_ok_iff_sound exact compares).mpr ⟨whole, rfl⟩
  have accepted : Table.read path host = .ok (folded raw) host :=
    read_eq_ok_iff.mpr ⟨rfl, raw, holds, taken⟩
  refine ⟨_, _, importFile_eq accepted table, ?_⟩
  have step : exactly value (mergeFrom table (folded raw)) =
      mergeFrom (exactly value table) (exactly value (folded raw)) :=
    exactly_absorb exact table (folded raw).entries
  have start : exactly value (.empty : Table α) = .empty := rfl
  calc exactly value (mergeFrom table (folded raw))
      = mergeFrom (exactly value table) (folded (exactly value (mergeAll .empty raws))) := by
        rw [step, exactly_folded exact, same]
    _ = mergeAll (exactly value table) ((raws.map (exactly value)).map folded) := by
        rw [exactly_mergeAll exact, start, mergeFrom_folded]
    _ = exactly value (mergeAll table (raws.map folded)) := by
        rw [exactly_mergeAll exact, List.map_map, List.map_map]
        congr 1
        exact List.map_congr_left fun other _ => (exactly_folded exact other).symm

/-- What is read of a file is the table in it, whose records can be those of outcomes, with its
keys settled. -/
theorem sound_of_read (exact : Exact value) (compares : Arithmetic.Compares value) {host : Host}
    {path : Path} {raw incoming : Table α} (holds : Holds host path raw)
    (accepted : Table.read path host = .ok incoming host) :
    Sound (exactly value raw) ∧ incoming = folded raw := by
  obtain ⟨-, found, holds', taken⟩ := read_eq_ok_iff.mp accepted
  obtain rfl : found = raw := by
    have same := holds'.symm.trans holds
    cases same
    rfl
  exact (settle_eq_ok_iff_sound exact compares).mp taken

theorem exactly_folded_read (exact : Exact value) {host : Host} {path : Path} {incoming : Table α}
    (accepted : Table.read path host = .ok incoming host) :
    exactly value (folded incoming) = exactly value incoming := by
  obtain ⟨-, raw, -, taken⟩ := read_eq_ok_iff.mp accepted
  have settled : Settled (exactly value incoming) := by
    intro key member
    have same : OrderedMap.keys (exactly value incoming) = OrderedMap.keys incoming := by
      simp only [OrderedMap.keys, exactly, OrderedMap.mapValues, List.map_map]
      rfl
    rw [same] at member
    exact settled_of_settle taken key member
  rw [exactly_folded exact, folded_of_settled settled]

theorem Reads.unique {host : Host} {paths : List Path} {incomings others : List (Table α)}
    (reads : Reads host paths incomings) (reads' : Reads host paths others) :
    incomings = others := by
  have functional : Relator.RightUnique fun path (incoming : Table α) =>
      Table.read path host = .ok incoming host := by
    intro path incoming other read read'
    exact (EStateM.Result.ok.inj (read.symm.trans read')).1
  exact List.right_unique_forall₂' functional reads reads'

/-- The tables that stand in accepted files are sound, and what is read are these with their keys
settled. -/
theorem folded_of_holds (exact : Exact value) (compares : Arithmetic.Compares value) {host : Host}
    {paths : List Path} {raws incomings : List (Table α)}
    (held : List.Forall₂ (Holds host) paths raws) (reads : Reads host paths incomings) :
    (∀ raw ∈ raws, Sound (exactly value raw)) ∧ raws.map folded = incomings := by
  induction held generalizing incomings with
  | nil =>
    cases reads
    exact ⟨nofun, rfl⟩
  | cons first _ ih =>
    cases reads with
    | cons read reads =>
      obtain ⟨sound, same⟩ := sound_of_read exact compares first read
      obtain ⟨sounds, sames⟩ := ih reads
      refine ⟨List.forall_mem_cons.mpr ⟨sound, sounds⟩, ?_⟩
      rw [List.map_cons, sames, same]

/-- The tables that are read are sound, and their keys are settled. -/
theorem folded_of_reads (exact : Exact value) (compares : Arithmetic.Compares value) {host : Host}
    {paths : List Path} {incomings : List (Table α)} (reads : Reads host paths incomings) :
    (∀ incoming ∈ incomings, Sound (exactly value incoming)) ∧
      incomings.map (fun incoming => exactly value (folded incoming)) =
        incomings.map (exactly value) := by
  have each : ∀ incoming ∈ incomings, ∃ path, Table.read path host = .ok incoming host := by
    induction reads with
    | nil => exact nofun
    | cons first _ ih => exact List.forall_mem_cons.mpr ⟨⟨_, first⟩, ih⟩
  refine ⟨fun incoming member => ?_, List.map_congr_left fun incoming member => ?_⟩
  all_goals obtain ⟨path, read⟩ := each incoming member
  · obtain ⟨-, raw, holds, -⟩ := read_eq_ok_iff.mp read
    obtain ⟨sound, rfl⟩ := sound_of_read exact compares holds read
    rw [exactly_folded exact]
    exact Every.folded merges_sound sound
  · exact exactly_folded_read exact read

end

end Pattern.Table

namespace Sample

open Pattern (Table)
open Pattern.Table

deriving instance DecidableEq for PatternRecord

/-- A table that spells a key in two ways, once without an outcome. -/
def spelledTwice : Table ℚ := .ofList
  [(" gen@HIGH", ⟨0, 0, 7, 9, 2, some ⟨30, 0⟩⟩), ("GEN@high ", ⟨2, 1, 3, 5 / 2, 1, some ⟨10, 0⟩⟩)]

/-- Another with one of those keys and a second. -/
def otherTable : Table ℚ := .ofList
  [("Gen@High", ⟨1, 0, 6, 4, 0, some ⟨20, 0⟩⟩), ("review", ⟨0, 0, 1, 1, 1, none⟩)]

/-- A host with two tables and their merge in files. -/
def tablesHost : Host :=
  let file (table : Table ℚ) : Node := .file (Text.Utf8.encode table.toJson.fileText)
  .new ⟨.ofList [(["first"], file spelledTwice), (["second"], file otherTable),
    (["both"], file (mergeFrom spelledTwice otherTable))], []⟩ (fun _ => ⟨0, 0⟩) toString

theorem holds_of_found {path : Path} {raw : Table ℚ}
    (reads : (match Store.readJson path Table.ofJson? tablesHost with
      | .ok found _ => decide (found = raw)
      | .error _ _ => false) = true) : Holds tablesHost path raw := by
  split at reads
  · rename_i found after read
    obtain rfl := of_decide_eq_true reads
    obtain rfl : after = tablesHost := (Act.look_eq_ok.mp read).2
    exact read
  · cases reads

end Sample

end TaskLoop
