import TaskLoop.Pattern.Table
import TaskLoop.Proofs.OrderedMap
import TaskLoop.Proofs.Text.Case

/-!
Keys as they are looked up. A key that has been settled is settled, and a table of settled keys is
taken from a file as it stands there.
-/

set_option autoImplicit false

namespace TaskLoop

namespace Text

variable {separator : Char} {text before after : List Char}

/-- A text without a separator is not parted. -/
theorem splitFirst?_eq_none (free : separator ∉ text) : splitFirst? separator text = none := by
  induction text with
  | nil => rfl
  | cons c rest ih =>
    rw [List.mem_cons, not_or] at free
    obtain ⟨apart, free⟩ := free
    rw [splitFirst?, if_neg fun same => apart (beq_iff_eq.mp same).symm, ih free, Option.map_none]

/-- A text is parted at its first separator. -/
theorem splitFirst?_append (free : separator ∉ before) :
    splitFirst? separator (before ++ separator :: after) = some (before, after) := by
  induction before with
  | nil => rw [List.nil_append, splitFirst?, if_pos (beq_self_eq_true separator)]
  | cons c rest ih =>
    rw [List.mem_cons, not_or] at free
    obtain ⟨apart, free⟩ := free
    rw [List.cons_append, splitFirst?, if_neg fun same => apart (beq_iff_eq.mp same).symm, ih free,
      Option.map_some]

/-- Either a text has no separator, or it is parted at the first. -/
theorem splitFirst?_cases (separator : Char) (text : List Char) :
    (separator ∉ text ∧ splitFirst? separator text = none) ∨
      ∃ before after, separator ∉ before ∧ text = before ++ separator :: after ∧
        splitFirst? separator text = some (before, after) := by
  by_cases free : separator ∉ text
  · exact .inl ⟨free, splitFirst?_eq_none free⟩
  · right
    obtain ⟨before, after, rfl, first⟩ := List.eq_append_cons_of_mem (not_not.mp free)
    exact ⟨before, after, first, rfl, splitFirst?_append first⟩

end Text

namespace OrderedMap

variable {κ α : Type} [Ord κ]

/-- A key behind all others is not bound. -/
theorem findBinding?_eq_none_of_lt [Std.OrientedOrd κ] {entries : List (κ × α)} {key : κ}
    (above : ∀ entry ∈ entries, compare entry.1 key = .lt) : findBinding? key entries = none := by
  induction entries with
  | nil => rfl
  | cons entry rest ih =>
    obtain ⟨first, others⟩ := List.forall_mem_cons.mp above
    have apart : (compare key entry.1 == .eq) = false := by
      rw [Std.OrientedCmp.gt_iff_lt.mpr first]
      rfl
    rw [findBinding?, apart, ih others]
    rfl

end OrderedMap

namespace Pattern

open Text (Tight splitFirst?_append splitFirst?_eq_none splitFirst?_cases)

/-- A key with a mark whose ends are no blanks keeps such ends when its parts are settled. -/
theorem tight_settled {phase bucket : List Char} (tight : Tight (phase ++ separator :: bucket)) :
    Tight (Text.upper phase ++ separator :: Text.lower bucket) := by
  have atMark : Text.isBlank separator = false := by decide
  refine ⟨?_, ?_⟩
  · cases phase with
    | nil =>
      intro c first
      cases first
      exact atMark
    | cons c rest =>
      have some : Text.upper (c :: rest) ≠ [] :=
        List.append_ne_nil_of_left_ne_nil (Text.upperChar_ne_nil c) _
      rw [List.head?_append_of_ne_nil _ some]
      exact Text.head?_upper fun d first => tight.first d first
  · rw [List.getLast?_append_of_ne_nil _ (List.cons_ne_nil _ _)]
    have last := tight.last
    rw [List.getLast?_append_of_ne_nil _ (List.cons_ne_nil _ _)] at last
    cases bucket with
    | nil =>
      intro c isLast
      cases isLast
      exact atMark
    | cons c rest =>
      have some : Text.lower (c :: rest) ≠ [] := by
        rw [Text.lower, Text.lowerAfter_cons]
        exact List.append_ne_nil_of_left_ne_nil (Text.lowerAt_ne_nil _ _ _) _
      rw [List.getLast?_cons_cons] at last
      obtain ⟨front, tail, bucket⟩ := List.exists_cons_of_ne_nil some
      rw [bucket, List.getLast?_cons_cons, ← bucket]
      exact Text.getLast?_lowerAfter last

/-- What is settled is settled. -/
theorem settleKey_settleKey (key : String) : settleKey (settleKey key) = settleKey key := by
  have tight := Text.tight_trim key.toList
  rcases splitFirst?_cases separator (Text.trim key.toList) with
    ⟨free, whole⟩ | ⟨phase, bucket, free, parted, split⟩
  · have settled : settleKey key = String.ofList (Text.upper (Text.trim key.toList)) := by
      simp only [settleKey, whole]
    have still : Text.splitFirst? separator (Text.upper (Text.trim key.toList)) = none :=
      splitFirst?_eq_none (Text.mark_not_mem_upper free)
    rw [settled, settleKey, String.toList_ofList, Text.trim_of_tight tight.upper]
    simp only [still, Text.upper_upper]
  · have settled : settleKey key =
        String.ofList (Text.upper phase ++ separator :: Text.lower bucket) := by
      simp only [settleKey, split]
    have still : Text.splitFirst? separator (Text.upper phase ++ separator :: Text.lower bucket) =
        some (Text.upper phase, Text.lower bucket) :=
      splitFirst?_append (Text.mark_not_mem_upper free)
    rw [parted] at tight
    rw [settled, settleKey, String.toList_ofList, Text.trim_of_tight (tight_settled tight)]
    simp only [still, Text.upper_upper, Text.lower_lower]

/-- A phase whose keys are looked up as they were made: case changes nothing behind its first
mark. -/
def KeepsKey (phase : String) : Prop :=
  match Text.splitFirst? separator (Text.trim phase.toList) with
  | none => True
  | some (_, behind) => Text.lower (Text.upper behind) = Text.upper behind

theorem keepsKey_of_unmarked {phase : String}
    (unmarked : separator ∉ Text.trim phase.toList) : KeepsKey phase := by
  rw [KeepsKey, splitFirst?_eq_none unmarked]
  trivial

theorem lower_name (complexity : Complexity) :
    ∀ c ∈ separator :: complexity.name.toList, Text.lowerChar c = [c] ∧ c ≠ 'Σ' := by
  have all : (separator :: complexity.name.toList).all
      (fun c => Text.lowerChar c == [c] && c != 'Σ') = true := by
    cases complexity <;> decide +kernel
  simpa only [List.all_eq_true, Bool.and_eq_true, beq_iff_eq, bne_iff_ne] using all

theorem last_name (complexity : Complexity) :
    ∀ c ∈ complexity.name.toList.getLast?, Text.isBlank c = false := by
  have last : (complexity.name.toList.getLast?).all (fun c => !Text.isBlank c) = true := by
    cases complexity <;> decide +kernel
  simpa only [Option.all_eq_true, Option.mem_def, Bool.not_eq_true'] using last

/-- The key of a phase is that of the phase alone, or has a complexity behind a further mark. -/
theorem key_eq (phase : String) (complexity : Option Complexity) :
    ∃ tail, key phase complexity = String.ofList (Text.upper (Text.trim phase.toList) ++ tail) ∧
      Tight (Text.upper (Text.trim phase.toList) ++ tail) ∧
      (∀ c ∈ tail, Text.lowerChar c = [c] ∧ c ≠ 'Σ') ∧
      (tail = [] ∨ ∃ bucket, tail = separator :: bucket) := by
  have tight := (Text.tight_trim phase.toList).upper
  cases complexity with
  | none => exact ⟨[], by rw [List.append_nil]; rfl, by rwa [List.append_nil], nofun, .inl rfl⟩
  | some complexity =>
    exact ⟨separator :: complexity.name.toList, rfl, tight.mark (by decide) (last_name complexity),
      lower_name complexity, .inr ⟨_, rfl⟩⟩

/-- The key that an outcome of a phase is taken into is looked up as it is just when case changes
nothing behind the first mark of the phase. -/
theorem settleKey_key_iff (phase : String) (complexity : Option Complexity) :
    settleKey (key phase complexity) = key phase complexity ↔ KeepsKey phase := by
  obtain ⟨tail, made, tight, plain, shape⟩ := key_eq phase complexity
  rw [made, settleKey, String.toList_ofList, Text.trim_of_tight tight, KeepsKey]
  rcases splitFirst?_cases separator (Text.trim phase.toList) with
    ⟨free, whole⟩ | ⟨before, behind, free, parted, split⟩
  · have unmarked : separator ∉ Text.upper (Text.trim phase.toList) :=
      Text.mark_not_mem_upper free
    simp only [whole, iff_true]
    rcases shape with rfl | ⟨bucket, rfl⟩
    · rw [List.append_nil, splitFirst?_eq_none unmarked]
      dsimp only
      rw [Text.upper_upper]
    · obtain ⟨-, plainBucket⟩ := List.forall_mem_cons.mp plain
      rw [splitFirst?_append unmarked]
      dsimp only
      rw [Text.upper_upper, Text.lower_eq_self_iff.mpr plainBucket]
  · have unmarked : separator ∉ Text.upper before := Text.mark_not_mem_upper free
    have mark : Text.upper (before ++ separator :: behind) =
        Text.upper before ++ separator :: Text.upper behind := by
      have atMark : Text.upper (separator :: behind) = separator :: Text.upper behind := rfl
      rw [Text.upper_append, atMark]
    rw [split, parted, mark, List.append_assoc, List.cons_append, splitFirst?_append unmarked]
    dsimp only
    rw [Text.upper_upper]
    rw [String.ofList_inj, List.append_cancel_left_eq, List.cons.injEq,
      eq_self_iff_true, true_and, Text.lower_eq_self_iff, Text.lower_eq_self_iff]
    exact ⟨fun all c member => all c (List.mem_append_left _ member), fun all c member =>
      (List.mem_append.mp member).elim (all c) (plain c)⟩

theorem keepsKey_patternId (phase : Phase) : KeepsKey phase.patternId := by
  apply keepsKey_of_unmarked
  cases phase <;> decide +kernel

namespace Table

variable {α : Type} {table raw : Table α}

/-- The keys of a table are as they are looked up. -/
def Settled (table : Table α) : Prop := ∀ key ∈ table.keys, settleKey key = key

theorem settled_empty : Settled (OrderedMap.empty : Table α) := fun _ => nofun

theorem Settled.insert {key : String} (settled : Settled table) (isSettled : settleKey key = key)
    (record : PatternRecord α) : Settled (OrderedMap.insert table key record) := by
  intro asked member
  rcases OrderedMap.mem_keys_insert.mp member with rfl | known
  · exact isSettled
  · exact settled asked known

variable [Arithmetic α]

theorem mem_keys_mergeRecord {key asked : String} {record : PatternRecord α} :
    asked ∈ (Table.mergeRecord table key record).keys ↔ asked = key ∨ asked ∈ table.keys := by
  rw [Table.mergeRecord]
  split <;> exact OrderedMap.mem_keys_insert

theorem Settled.mergeRecord {key : String} (settled : Settled table)
    (isSettled : settleKey key = key) (record : PatternRecord α) :
    Settled (Table.mergeRecord table key record) := by
  intro asked member
  rcases mem_keys_mergeRecord.mp member with rfl | known
  · exact isSettled
  · exact settled asked known

theorem Settled.recordOutcome (settled : Settled table) (phase : Phase)
    (complexity : Option Complexity) (outcome : Outcome) (now after : Timestamp) :
    Settled (Table.recordOutcome table phase.patternId complexity outcome now after) := by
  have isSettled (complexity : Option Complexity) :=
    (settleKey_key_iff phase.patternId complexity).mpr (keepsKey_patternId phase)
  have first : Settled (observeKey table (key phase.patternId none) outcome now) :=
    settled.insert (isSettled none) _
  cases complexity with
  | none => exact first
  | some complexity => exact first.insert (isSettled (some complexity)) _

/-- One record of a file is taken in. -/
def settleStep (table : Table α) (entry : String × PatternRecord α) : Except String (Table α) :=
  match entry.2.flaw? entry.1 with
  | some flaw => .error flaw
  | none => .ok (mergeRecord table (settleKey entry.1) entry.2)

theorem settleStep_eq_ok {entry : String × PatternRecord α} {next : Table α}
    (taken : settleStep table entry = .ok next) :
    next = mergeRecord table (settleKey entry.1) entry.2 := by
  rw [settleStep] at taken
  split at taken
  · cases taken
  · exact (Except.ok.inj taken).symm

theorem foldlM_cons_eq_ok {entry : String × PatternRecord α}
    {rest : List (String × PatternRecord α)} {start : Table α}
    (taken : (entry :: rest).foldlM settleStep start = .ok table) :
    ∃ next, settleStep start entry = .ok next ∧ rest.foldlM settleStep next = .ok table := by
  rw [List.foldlM_cons] at taken
  cases first : settleStep start entry with
  | error flaw =>
    rw [first] at taken
    cases taken
  | ok next =>
    rw [first] at taken
    exact ⟨next, rfl, taken⟩

/-- A table that is taken from a file has settled keys. -/
theorem settled_of_settle (taken : Table.settle raw = .ok table) : Settled table := by
  have steps (entries : List (String × PatternRecord α)) {start : Table α}
      (settled : Settled start) (taken : entries.foldlM settleStep start = .ok table) :
      Settled table := by
    induction entries generalizing start with
    | nil =>
      cases taken
      exact settled
    | cons entry rest ih =>
      obtain ⟨next, first, others⟩ := foldlM_cons_eq_ok taken
      rw [settleStep_eq_ok first] at others
      exact ih (settled.mergeRecord (settleKey_settleKey entry.1) entry.2) others
  exact steps raw.entries settled_empty taken

/-- A table of settled keys is taken from a file as it stands there, or not at all. -/
theorem settle_of_settled (settled : Settled raw) (taken : Table.settle raw = .ok table) :
    table = raw := by
  have steps (more : List (String × PatternRecord α)) {start : Table α}
      (ascending : (start.entries ++ more).Pairwise fun before after =>
        compare before.1 after.1 = .lt)
      (settled : ∀ entry ∈ more, settleKey entry.1 = entry.1)
      (taken : more.foldlM settleStep start = .ok table) :
      table = more.foldl (fun map binding => map.insert binding.1 binding.2) start := by
    induction more generalizing start with
    | nil =>
      cases taken
      rfl
    | cons entry rest ih =>
      obtain ⟨first, others⟩ := List.forall_mem_cons.mp settled
      obtain ⟨next, taking, taken⟩ := foldlM_cons_eq_ok taken
      have above : ∀ known ∈ start.entries, compare known.1 entry.1 = .lt := fun known member =>
        (List.pairwise_append.mp ascending).2.2 known member entry List.mem_cons_self
      have unbound : OrderedMap.find? start entry.1 = none :=
        OrderedMap.findBinding?_eq_none_of_lt above
      have merged : next = OrderedMap.insert start entry.1 entry.2 := by
        rw [settleStep_eq_ok taking, Table.mergeRecord, first, unbound]
      have inserted : (OrderedMap.insert start entry.1 entry.2).entries =
          start.entries ++ [entry] := OrderedMap.insertEntry_last above
      rw [merged] at taken
      refine ih ?_ others taken
      rw [inserted, List.append_assoc]
      exact ascending
  have ascending : ((OrderedMap.empty : Table α).entries ++ raw.entries).Pairwise
      fun before after => compare before.1 after.1 = .lt := raw.ascending
  have whole := steps raw.entries ascending
    (fun entry member => settled entry.1 (List.mem_map_of_mem member)) taken
  exact whole.trans (OrderedMap.ofList_entries raw)

end Table

end Pattern

end TaskLoop
