import TaskLoop.Proofs.Decimal.Rounding
import TaskLoop.Proofs.Engine.Reload
import TaskLoop.Proofs.Pattern.Import
import TaskLoop.Proofs.Store.History

/-!
A pattern table and its file. What is learnt never brings an average below nought, so a table that
is saved is accepted when it is loaded, and it is the same table as long as its keys are looked up
as they were made.
-/

set_option autoImplicit false

namespace TaskLoop

open Decimal (NonNegative)

/-! ### Records -/

namespace PatternRecord

/-- The averages of a record are numbers, and not beyond all numbers. -/
structure Finite (record : PatternRecord Float) : Prop where
  avgRetries : Decimal.isFinite record.avgRetries = true
  avgDuration : Decimal.isFinite record.avgDuration = true
  avgSuccessRetries : Decimal.isFinite record.avgSuccessRetries = true

/-- What holds of a record whatever outcomes it takes in, at times that clocks show. -/
structure Steady (record : PatternRecord Float) : Prop where
  successes : record.successes ≤ record.usage
  avgRetries : NonNegative record.avgRetries
  avgDuration : NonNegative record.avgDuration
  avgSuccessRetries : NonNegative record.avgSuccessRetries
  lastUpdated : ∀ time ∈ record.lastUpdated, time.Shown

variable {record left right : PatternRecord Float}

theorem nonNegative_count (count : Nat) : NonNegative (Arithmetic.ofNat count) :=
  Decimal.nonNegative_nearest count 1

theorem nonNegative_inSeconds (duration : Duration) : NonNegative duration.inSeconds :=
  (nonNegative_count _).add ((nonNegative_count _).div (Decimal.atLeastOne_ofNat (by decide)))

theorem nonNegative_nextMean {mean value : Float} {count : Nat} (nonNegative : NonNegative mean)
    (nonNegative' : NonNegative value) (some : 0 < count) :
    NonNegative (nextMean mean value count) :=
  nonNegative.step nonNegative' (Decimal.atLeastOne_ofNat some)

theorem nonNegative_weighted {average other : Float} (count count' : Nat)
    (nonNegative : NonNegative average) (nonNegative' : NonNegative other) :
    NonNegative (weighted average count other count') := by
  unfold weighted
  split
  · exact nonNegative_count 0
  · rename_i some
    have weight : 0 < count + count' := Nat.pos_of_ne_zero (by simpa using some)
    exact ((nonNegative.mul (nonNegative_count _)).add
      (nonNegative'.mul (nonNegative_count _))).div (Decimal.atLeastOne_ofNat weight)

theorem steady_empty : (empty : PatternRecord Float).Steady where
  successes := le_rfl
  avgRetries := nonNegative_count 0
  avgDuration := nonNegative_count 0
  avgSuccessRetries := nonNegative_count 0
  lastUpdated _ := nofun

theorem Steady.observe (steady : record.Steady) (outcome : Outcome) {now : Timestamp}
    (shown : now.Shown) : (record.observe outcome now).Steady where
  successes := by
    have before := steady.successes
    simp only [PatternRecord.observe]
    split <;> omega
  avgRetries := nonNegative_nextMean steady.avgRetries (nonNegative_count _) (Nat.succ_pos _)
  avgDuration := nonNegative_nextMean steady.avgDuration (nonNegative_inSeconds _) (Nat.succ_pos _)
  avgSuccessRetries := by
    simp only [PatternRecord.observe]
    split
    · exact nonNegative_nextMean steady.avgSuccessRetries (nonNegative_count _) (Nat.succ_pos _)
    · exact steady.avgSuccessRetries
  lastUpdated time isTime := by
    cases isTime
    exact shown

theorem Steady.merged (steady : left.Steady) (steady' : right.Steady) :
    (left.merged right).Steady where
  successes := Nat.add_le_add steady.successes steady'.successes
  avgRetries := nonNegative_weighted _ _ steady.avgRetries steady'.avgRetries
  avgDuration := nonNegative_weighted _ _ steady.avgDuration steady'.avgDuration
  avgSuccessRetries :=
    nonNegative_weighted _ _ steady.avgSuccessRetries steady'.avgSuccessRetries
  lastUpdated time isTime := by
    have either := (later_spec left.lastUpdated right.lastUpdated).1
    rcases either with same | same
    · exact steady.lastUpdated time (same ▸ isTime)
    · exact steady'.lastUpdated time (same ▸ isTime)

/-- A steady record of finite averages has no flaw. -/
theorem Steady.flaw?_eq_none (steady : record.Steady) (finite : record.Finite) (key : String) :
    record.flaw? key = none := by
  refine (flaw?_eq_none_iff record key).mpr ⟨steady.successes, ?_⟩
  refine List.forall_mem_cons.mpr ⟨⟨finite.avgRetries, ?_⟩, List.forall_mem_cons.mpr
    ⟨⟨finite.avgDuration, ?_⟩, List.forall_mem_singleton.mpr ⟨finite.avgSuccessRetries, ?_⟩⟩⟩
  · exact (Decimal.less_zero_iff _).mpr steady.avgRetries
  · exact (Decimal.less_zero_iff _).mpr steady.avgDuration
  · exact (Decimal.less_zero_iff _).mpr steady.avgSuccessRetries

/-- A record without a flaw, of a time that clocks show, is steady. -/
theorem steady_of_flaw? {key : String} (flawless : record.flaw? key = none)
    (shown : ∀ time ∈ record.lastUpdated, time.Shown) : record.Steady := by
  obtain ⟨counted, averages⟩ := (flaw?_eq_none_iff record key).mp flawless
  obtain ⟨retries, averages⟩ := List.forall_mem_cons.mp averages
  obtain ⟨duration, averages⟩ := List.forall_mem_cons.mp averages
  have successRetries := List.forall_mem_singleton.mp averages
  exact ⟨counted, (Decimal.less_zero_iff _).mp retries.2, (Decimal.less_zero_iff _).mp duration.2,
    (Decimal.less_zero_iff _).mp successRetries.2, shown⟩

/-- A steady record of finite averages that fits reads back. -/
theorem ofJson?_toJson (steady : record.Steady) (finite : record.Finite)
    (fits : record.usage < powerOfTwo 64) : ofJson? record.toJson = some record := by
  have toJson_eq : record.toJson = .object record.members := rfl
  have updated : record.members.lookup "last_updated" =
      record.lastUpdated.map Json.ofTimestamp := by
    simp [members, Json.lookup_optionalMember, List.lookup_cons]
  have fewer : record.successes < powerOfTwo 64 := Nat.lt_of_le_of_lt steady.successes fits
  have timeBack : ∀ time ∈ record.lastUpdated,
      Json.option? Json.timestamp? (.ofTimestamp time) = some (some time) := by
    intro time isTime
    have read := Json.timestamp?_ofTimestamp (steady.lastUpdated time isTime)
    show (Json.timestamp? (.ofTimestamp time)).map some = some (some time)
    rw [read, Option.map_some]
  have back {average : Float} (finite : Decimal.isFinite average = true) :
      Arithmetic.ofJson? (Json.ofFloat average) = some average := Json.float?_ofFloat finite
  rw [ofJson?, toJson_eq]
  refine (Timestamp.bind_read (Json.fields?_object record.once_members) _).trans ?_
  rw [Timestamp.bind_read (Json.orElse_read (by decide) rfl (Json.nat64?_ofNat fits)),
    Timestamp.bind_read (Json.orElse_read (by decide) rfl (Json.nat64?_ofNat fewer))]
  dsimp only
  rw [Timestamp.bind_read (Json.orElse_read (by decide) rfl (back finite.avgRetries)),
    Timestamp.bind_read (Json.orElse_read (by decide) rfl (back finite.avgDuration)),
    Timestamp.bind_read (Json.orElse_read (by decide) rfl (back finite.avgSuccessRetries)),
    Timestamp.bind_read (Json.optional_known (by decide) updated timeBack)]
  rfl

/-- The time of a record that is read is one that clocks show. -/
theorem shown_of_ofJson? {json : Json} (read : ofJson? json = some record) :
    ∀ time ∈ record.lastUpdated, time.Shown := by
  simp only [ofJson?, Option.bind_eq_bind, Option.bind_eq_some_iff] at read
  obtain ⟨fields, -, _, -, _, -, _, -, _, -, _, -, updated, found, same⟩ := read
  cases same
  intro time isTime
  cases isTime
  obtain ⟨_, read⟩ := Json.of_optional found
  exact Json.shown_of_timestamp? read

end PatternRecord

/-! ### Tables -/

namespace Pattern.Table

open PatternRecord (Steady Finite)

variable {table : Table Float}

theorem merges_steady (left right : PatternRecord Float) (steady : left.Steady)
    (steady' : right.Steady) : (left.merged right).Steady := steady.merged steady'

/-- What is read of an accepted file is steady. -/
theorem every_steady_of_read {host after : Host} {path : Path}
    (accepted : Table.read path host = .ok table after) : Every Steady table := by
  obtain ⟨-, raw, holds, taken⟩ := read_eq_ok_iff.mp accepted
  obtain ⟨flawless, rfl⟩ := settle_eq_ok_iff.mp taken
  have shown : ∀ record ∈ raw.values, ∀ time ∈ record.lastUpdated, time.Shown := by
    have found := (Act.look_eq_ok.mp holds).1
    split at found
    · cases found
    · rename_i text _
      cases decoded : (Json.ofText? text).bind (Table.ofJson? : Json → Option (Table Float)) with
      | none =>
        rw [decoded] at found
        cases found
      | some value =>
        rw [decoded] at found
        cases found
        obtain ⟨json, -, read⟩ := Option.bind_eq_some_iff.mp decoded
        intro record member
        obtain ⟨_, recordRead⟩ := Json.of_map? read record member
        exact PatternRecord.shown_of_ofJson? recordRead
  refine Every.folded merges_steady fun entry member => ?_
  exact PatternRecord.steady_of_flaw? (flawless entry member)
    (shown entry.2 (List.mem_map_of_mem member))

theorem every_steady_observeKey (steady : Every Steady table) (key : String) (outcome : Outcome)
    {now : Timestamp} (shown : now.Shown) : Every Steady (observeKey table key outcome now) := by
  refine steady.insert key (Steady.observe ?_ outcome shown)
  cases found : table.find? key with
  | none => exact PatternRecord.steady_empty
  | some record => exact steady.find? found

/-- A table that outcomes were taken into at times that clocks show, and accepted files, with the
phases of the outcomes since a file was last put in place of all before. -/
inductive Reached : List String → Table Float → Prop
  | empty : Reached [] .empty
  | recorded {phases : List String} {table : Table Float} {now after : Timestamp} (phase : String)
      (complexity : Option Complexity) (outcome : Outcome) :
      now.Shown → after.Shown → Reached phases table →
        Reached (phase :: phases) (table.recordOutcome phase complexity outcome now after)
  | merged {phases : List String} {table result : Table Float} {host after : Host} {path : Path}
      {summary : ImportSummary} :
      table.importFile path true host = .ok (summary, result) after → Reached phases table →
        Reached phases result
  | replaced {phases : List String} {table result : Table Float} {host after : Host} {path : Path}
      {summary : ImportSummary} :
      table.importFile path false host = .ok (summary, result) after → Reached phases table →
        Reached [] result

theorem Reached.steady {phases : List String} (reached : Reached phases table) :
    Every Steady table := by
  induction reached with
  | empty => exact every_empty
  | recorded phase complexity outcome shown shown' _ ih =>
    have first := every_steady_observeKey ih (key phase none) outcome shown
    cases complexity with
    | none => exact first
    | some complexity => exact every_steady_observeKey first _ outcome shown'
  | merged imported _ ih =>
    obtain ⟨incoming, read, -, rfl⟩ := importFile_eq_ok imported
    exact ih.absorb merges_steady (every_steady_of_read read)
  | replaced imported _ _ =>
    obtain ⟨incoming, read, -, rfl⟩ := importFile_eq_ok imported
    exact every_steady_of_read read

/-! ### Keys -/

theorem mem_keys_observeKey {known asked : String} {outcome : Outcome} {now : Timestamp} :
    asked ∈ (observeKey table known outcome now).keys ↔ asked = known ∨ asked ∈ table.keys :=
  OrderedMap.mem_keys_insert

theorem settled_of_read {host after : Host} {path : Path}
    (accepted : Table.read path host = .ok table after) : Settled table := by
  obtain ⟨-, raw, -, taken⟩ := read_eq_ok_iff.mp accepted
  exact settled_of_settle taken

/-- The keys of a table are as they are looked up, or were made for a phase. -/
structure Keyed (phases : List String) (table : Table Float) : Prop where
  either : ∀ asked ∈ table.keys,
    settleKey asked = asked ∨ ∃ phase ∈ phases, ∃ complexity, asked = key phase complexity
  made : ∀ phase ∈ phases, key phase none ∈ table.keys

theorem keyed_of_settled (settled : Settled table) : Keyed [] table where
  either asked member := .inl (settled asked member)
  made _ := nofun

variable {phases : List String}

theorem Keyed.observeKey (keyed : Keyed phases table) {phase : String} (member : phase ∈ phases)
    (complexity : Option Complexity) (outcome : Outcome) (now : Timestamp) :
    Keyed phases (observeKey table (key phase complexity) outcome now) where
  either asked isKey := by
    rcases mem_keys_observeKey.mp isKey with rfl | known
    · exact .inr ⟨phase, member, complexity, rfl⟩
    · exact keyed.either asked known
  made phase isPhase := mem_keys_observeKey.mpr (.inr (keyed.made phase isPhase))

theorem Keyed.recordOutcome (keyed : Keyed phases table) (phase : String)
    (complexity : Option Complexity) (outcome : Outcome) (now after : Timestamp) :
    Keyed (phase :: phases) (table.recordOutcome phase complexity outcome now after) := by
  have first : Keyed (phase :: phases) (Table.observeKey table (key phase none) outcome now) := by
    constructor
    · intro asked isKey
      rcases mem_keys_observeKey.mp isKey with rfl | known
      · exact .inr ⟨phase, List.mem_cons_self, none, rfl⟩
      · exact (keyed.either asked known).imp_right fun ⟨other, isPhase, made⟩ =>
          ⟨other, List.mem_cons_of_mem _ isPhase, made⟩
    · intro other isPhase
      rcases List.mem_cons.mp isPhase with rfl | isPhase
      · exact mem_keys_observeKey.mpr (.inl rfl)
      · exact mem_keys_observeKey.mpr (.inr (keyed.made other isPhase))
  cases complexity with
  | none => exact first
  | some complexity => exact first.observeKey List.mem_cons_self (some complexity) outcome after

theorem Reached.keyed (reached : Reached phases table) : Keyed phases table := by
  induction reached with
  | empty => exact keyed_of_settled settled_empty
  | recorded phase complexity outcome _ _ _ ih => exact ih.recordOutcome phase complexity outcome _ _
  | merged imported _ ih =>
    obtain ⟨incoming, read, -, rfl⟩ := importFile_eq_ok imported
    constructor
    · intro asked isKey
      rcases mem_keys_absorb.mp isKey with known | incomes
      · exact ih.either asked known
      · exact .inl (settled_of_read read asked incomes)
    · exact fun phase isPhase => mem_keys_absorb.mpr (.inl (ih.made phase isPhase))
  | replaced imported _ _ =>
    obtain ⟨incoming, read, -, rfl⟩ := importFile_eq_ok imported
    exact keyed_of_settled (settled_of_read read)

/-- The keys of a table are as they are looked up if case changes nothing behind the first mark of
the phases that outcomes were recorded of. -/
theorem Keyed.settled_iff (keyed : Keyed phases table) :
    Settled table ↔ ∀ phase ∈ phases, KeepsKey phase := by
  constructor
  · intro settled phase isPhase
    exact (settleKey_key_iff phase none).mp (settled _ (keyed.made phase isPhase))
  · intro keeps asked isKey
    rcases keyed.either asked isKey with settled | ⟨phase, isPhase, complexity, rfl⟩
    · exact settled
    · exact (settleKey_key_iff phase complexity).mpr (keeps phase isPhase)

/-! ### What is loaded -/

/-- The counts of all records fit the numbers they are kept in. -/
def Fits (table : Table Float) : Prop := Every (fun record => record.usage < powerOfTwo 64) table

theorem ofJson?_toJson (steady : Every Steady table) (finite : Every Finite table)
    (fits : Fits table) : Table.ofJson? table.toJson = some table := by
  refine Json.map?_ofMap (fun _ => rfl) fun record member => ?_
  obtain ⟨entry, isEntry, rfl⟩ := List.mem_map.mp member
  exact PatternRecord.ofJson?_toJson (steady entry isEntry) (finite entry isEntry)
    (fits entry isEntry)

theorem settle_eq_folded (steady : Every Steady table) (finite : Every Finite table) :
    Table.settle table = .ok (folded table) := by
  refine settle_eq_ok_iff.mpr ⟨fun entry isEntry => ?_, rfl⟩
  exact (steady entry isEntry).flaw?_eq_none (finite entry isEntry) entry.1

/-- A table that is saved is accepted when it is loaded, with its keys settled. So it is the same
table just when case changes nothing behind the first mark of the phases in it. -/
theorem reload_saved (reached : Reached phases table) (finite : Every Finite table)
    (fits : Fits table) {before after : Host} {path : Path} (tidy : path.Tidy)
    (saved : Table.save table path before = .ok () after) :
    Table.load path after = .ok (folded table) after ∧
      (folded table = table ↔ ∀ phase ∈ phases, KeepsKey phase) := by
  have taken := settle_eq_folded reached.steady finite
  have written : Store.writeJson path table.toJson before = .ok () after :=
    Act.mapError_eq_ok.mp saved
  have holds : Holds after path table :=
    Store.readJson_writeJson tidy (Table.printable_toJson table)
      (ofJson?_toJson reached.steady finite fits) written
  have accepted : Table.read path after = .ok (folded table) after :=
    read_eq_ok_iff.mpr ⟨rfl, table, holds, taken⟩
  have isThere : after.disk.pathExists path = true :=
    Disk.pathExists_of_read (Disk.read_writeAtomic tidy written)
  constructor
  · have loaded : Table.load path after =
        (if after.disk.pathExists path then Table.read path else return (.empty : Table Float))
          after := rfl
    rw [loaded, if_pos isThere]
    exact accepted
  · rw [← reached.keyed.settled_iff]
    constructor
    · intro same
      have settled := settled_of_settle taken
      rwa [same] at settled
    · exact fun settled => settle_of_settled settled taken

end Pattern.Table

namespace Sample

open Pattern Pattern.Table

/-- A table of one outcome, of a phase that has a letter behind a mark. -/
def markedTable : Table Float :=
  Table.recordOutcome .empty "a@b" none ⟨true, .ofMilliseconds 2000, 1⟩ ⟨0, 0⟩ ⟨0, 0⟩

theorem reached_markedTable : Reached ["a@b"] markedTable := by
  have shown : (⟨0, 0⟩ : Timestamp).Shown := ⟨by decide +kernel, .inl (by decide)⟩
  exact .recorded "a@b" none _ shown shown .empty

theorem finite_markedTable : Every PatternRecord.Finite markedTable := by
  have all : ∀ entry ∈ markedTable.entries, Decimal.isFinite entry.2.avgRetries = true ∧
      Decimal.isFinite entry.2.avgDuration = true ∧
      Decimal.isFinite entry.2.avgSuccessRetries = true := by decide +kernel
  intro entry member
  obtain ⟨retries, duration, successRetries⟩ := all entry member
  exact ⟨retries, duration, successRetries⟩

theorem fits_markedTable : Fits markedTable := by
  show ∀ entry ∈ markedTable.entries, entry.2.usage < powerOfTwo 64
  decide +kernel

theorem saves_markedTable :
    ∃ after, Table.save markedTable ⟨"patterns"⟩ emptyHost = .ok () after := by
  have completes : (match Table.save markedTable ⟨"patterns"⟩ emptyHost with
    | .ok _ _ => true
    | .error _ _ => false) = true := by decide +kernel
  split at completes
  · rename_i after saved
    exact ⟨after, saved⟩
  · cases completes

/-- The letter is a capital in the table that is saved, and is not in what is loaded of it. -/
theorem mark_lowered_on_reload :
    ∃ after, Table.save markedTable ⟨"patterns"⟩ emptyHost = .ok () after ∧
      Table.load ⟨"patterns"⟩ after = .ok (folded markedTable) after ∧
      folded markedTable ≠ markedTable ∧
      OrderedMap.keys markedTable = ["A@B"] ∧ OrderedMap.keys (folded markedTable) = ["A@b"] := by
  have tidy : Path.Tidy ⟨"patterns"⟩ :=
    Path.tidy_of_last (c := 's') (by decide) (by decide) (by decide)
  obtain ⟨after, saved⟩ := saves_markedTable
  obtain ⟨loaded, same⟩ := reload_saved reached_markedTable finite_markedTable fits_markedTable
    tidy saved
  have lowered : ¬ KeepsKey "a@b" := by
    show ¬ (Text.lower (Text.upper ['b']) = Text.upper ['b'])
    decide +kernel
  refine ⟨after, saved, loaded, ?_, by decide +kernel, by decide +kernel⟩
  intro isSame
  exact lowered (same.mp isSame "a@b" List.mem_cons_self)

end Sample

end TaskLoop
