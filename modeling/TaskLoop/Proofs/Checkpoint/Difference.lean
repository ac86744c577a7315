import TaskLoop.Checkpoint.Difference
import TaskLoop.Json.Value
import TaskLoop.Proofs.OrderedMap

/-!
The difference of two checkpoints as a patch: applied to the entries of the older context it gives
those of the newer, and the other way round it is the difference with the parts exchanged. Values
are compared as they mean: both zeros are one number, and apart from that two values are equal only
if they are the same.
-/

set_option autoImplicit false

namespace TaskLoop

namespace Json

/-! ### Equality of values -/

mutual

/-- The value with every minus zero as zero. -/
def plain : Json → Json
  | .number spelling => .number (comparable spelling)
  | .array items => .array (plainItems items)
  | .object members => .object (plainMembers members)
  | value => value

/-- The items of an array with every minus zero as zero. -/
def plainItems : List Json → List Json
  | [] => []
  | item :: rest => plain item :: plainItems rest

/-- The members of an object with every minus zero as zero. -/
def plainMembers : List (String × Json) → List (String × Json)
  | [] => []
  | (name, value) :: rest => (name, plain value) :: plainMembers rest

end

mutual

/-- Two values are equal if they are the same but for the signs of zeros. -/
theorem same_iff : ∀ left right : Json, left.same right = true ↔ left.plain = right.plain
  | .null, right => by cases right <;> simp [same, plain]
  | .bool _, right => by cases right <;> simp [same, plain]
  | .number _, right => by cases right <;> simp [same, plain]
  | .string _, right => by cases right <;> simp [same, plain]
  | .unpaired, right => by cases right <;> simp [same, plain]
  | .array items, right => by
    cases right with
    | array others => simp [same, plain, sameItems_iff items others]
    | _ => simp [same, plain]
  | .object members, right => by
    cases right with
    | object others => simp [same, plain, sameMembers_iff members others]
    | _ => simp [same, plain]

theorem sameItems_iff : ∀ left right : List Json,
    sameItems left right = true ↔ plainItems left = plainItems right
  | [], right => by cases right <;> simp [sameItems, plainItems]
  | left :: rest, right => by
    cases right with
    | nil => simp [sameItems, plainItems]
    | cons other others =>
      simp [sameItems, plainItems, same_iff left other, sameItems_iff rest others]

theorem sameMembers_iff : ∀ left right : List (String × Json),
    sameMembers left right = true ↔ plainMembers left = plainMembers right
  | [], right => by cases right <;> simp [sameMembers, plainMembers]
  | (_, left) :: rest, right => by
    cases right with
    | nil => simp [sameMembers, plainMembers]
    | cons other others =>
      simp [sameMembers, plainMembers, same_iff left other.2, sameMembers_iff rest others]

end

@[simp] theorem same_self (value : Json) : value.same value = true :=
  (same_iff value value).mpr rfl

theorem same_comm (left right : Json) : left.same right = right.same left := by
  rw [Bool.eq_iff_iff, same_iff, same_iff, eq_comm]

end Json

/-! ### Differences -/

namespace TaskContext

/-- The entry of a context that has a name of its own. -/
def named? (context : TaskContext) (name : String) : Option Json :=
  if name = "phase_tag" then context.phaseTag.map .string
  else if name = "status_tag" then context.statusTag.map .string
  else if name = "project" then context.project.map .string
  else if name = "strategy" then context.strategy.map .string
  else if name = "complexity" then some (.string context.complexity.name)
  else none

/-- An addition is found under its name, before the entry that has that name of its own. -/
theorem find?_toMap (context : TaskContext) (name : String) :
    context.toMap.find? name = (context.extensions.find? name).or (context.named? name) := by
  rw [toMap, OrderedMap.find?_insertAll]
  congr 1
  obtain ⟨phaseTag, statusTag, project, strategy, complexity, extensions⟩ := context
  -- Entries that are missing are not listed, so the list to look in differs from case to case.
  cases phaseTag <;> cases statusTag <;> cases project <;> cases strategy <;>
    simp only [Json.optionalMember, OrderedMap.ofList, OrderedMap.find?_insert, named?,
      List.nil_append, List.cons_append, List.foldl_cons, List.foldl_nil, beq_iff_eq,
      Std.LawfulEqCmp.compare_eq_iff_eq, OrderedMap.find?_empty, Option.map_some,
      Option.map_none] <;> grind

end TaskContext

namespace Checkpoint

/-- The entries of a checkpoint that are compared. -/
abbrev entries (checkpoint : Checkpoint) : OrderedMap String Json :=
  checkpoint.payload.session.context.toMap

/-- Two maps bind the same keys, and each of them to equal values. -/
def SameEntries (left right : OrderedMap String Json) : Prop :=
  ∀ key, Option.Rel (fun before after => before.same after = true) (left.find? key)
    (right.find? key)

namespace Difference

/-- A map without the entries removed, with those changed set to their new values, and with those
added put in. -/
def patch (difference : Difference) (map : OrderedMap String Json) : OrderedMap String Json :=
  ((map.filter fun key _ => !difference.removed.contains key).insertAll
    (difference.changed.mapValues fun _ values => values.2)).insertAll difference.added

/-- The line on an entry that was removed. -/
def removedLine (entry : String × Json) : String := s!"- {entry.1}: {describe entry.2}"

/-- The line on an entry that was changed. -/
def changedLine (entry : String × Json × Json) : String :=
  s!"~ {entry.1}: {describe entry.2.1} -> {describe entry.2.2}"

/-- The line on an entry that was added. -/
def addedLine (entry : String × Json) : String := s!"+ {entry.1}: {describe entry.2}"

end Difference

section

variable (older newer : Checkpoint)

/-! ### What is found in a difference -/

theorem find?_added (key : String) : (difference older newer).added.find? key =
    (newer.entries.find? key).filter fun _ => (older.entries.find? key).isNone := by
  simp only [difference, OrderedMap.find?_filter, OrderedMap.contains, Option.not_isSome]

theorem find?_removed (key : String) : (difference older newer).removed.find? key =
    (older.entries.find? key).filter fun _ => (newer.entries.find? key).isNone :=
  find?_added newer older key

theorem find?_changed (key : String) : (difference older newer).changed.find? key =
    match older.entries.find? key, newer.entries.find? key with
    | some before, some after => if before.same after then none else some (before, after)
    | _, _ => none := by
  simp only [difference, changedEntries, OrderedMap.find?_mapValues_key, OrderedMap.find?_filter]
  cases older.entries.find? key with
  | none => rfl
  | some before =>
    cases newer.entries.find? key with
    | none => rfl
    | some after => cases same : before.same after <;> simp [same]

/-! ### The difference as a patch -/

/-- What a patched context binds a key to. -/
theorem patch_difference (key : String) :
    Option.Rel (fun before after => before.same after = true)
      (((difference older newer).patch older.entries).find? key) (newer.entries.find? key) := by
  simp only [Difference.patch, OrderedMap.find?_insertAll, OrderedMap.find?_mapValues,
    OrderedMap.find?_filter, OrderedMap.contains, find?_added, find?_removed, find?_changed]
  cases older.entries.find? key with
  | none =>
    cases newer.entries.find? key with
    | none => exact .none
    | some after => exact .some (Json.same_self after)
  | some before =>
    cases newer.entries.find? key with
    | none => exact .none
    | some after =>
      cases same : before.same after <;> simp [same, Option.filter]

/-- A key is in one part of a difference at most. -/
theorem parts_disjoint (key : String) :
    (key ∈ (difference older newer).added.keys → key ∉ (difference older newer).removed.keys ∧
      key ∉ (difference older newer).changed.keys) ∧
    (key ∈ (difference older newer).removed.keys →
      key ∉ (difference older newer).changed.keys) := by
  simp only [OrderedMap.mem_keys_iff, find?_added, find?_removed, find?_changed]
  cases older.entries.find? key <;> cases newer.entries.find? key <;> simp

/-- Of two checkpoints taken the other way round the changed entries are the same with their values
exchanged. -/
theorem changed_swap : (difference newer older).changed =
    (difference older newer).changed.mapValues fun _ values => values.swap := by
  refine OrderedMap.ext_find? fun key => ?_
  rw [OrderedMap.find?_mapValues, find?_changed, find?_changed]
  cases older.entries.find? key with
  | none => cases newer.entries.find? key <;> rfl
  | some before =>
    cases newer.entries.find? key with
    | none => rfl
    | some after =>
      simp only [Json.same_comm after before]
      cases before.same after <;> rfl

/-- Nothing changed just when the contexts are equal value by value. -/
theorem isEmpty_iff : (difference older newer).isEmpty = true ↔
    SameEntries older.entries newer.entries := by
  have nothing : (difference older newer).isEmpty = true ↔ ∀ key,
      (difference older newer).added.find? key = none ∧
      (difference older newer).removed.find? key = none ∧
      (difference older newer).changed.find? key = none := by
    simp only [Difference.isEmpty, Bool.and_eq_true, OrderedMap.isEmpty_entries_iff, and_assoc,
      forall_and]
  rw [nothing]
  refine forall_congr' fun key => ?_
  rw [find?_added, find?_removed, find?_changed]
  cases older.entries.find? key with
  | none => cases newer.entries.find? key <;> simp
  | some before =>
    cases newer.entries.find? key with
    | none => simp
    | some after => cases same : before.same after <;> simp [same]

/-! ### Its summary -/

/-- The lines on the entries of an older context: one on each that is removed or changed. -/
theorem oldLines_perm (new : OrderedMap String Json) (entries : List (String × Json)) :
    (entries.filterMap fun (key, value) => oldLine? new key value).Perm
      ((entries.filter fun (key, _) => !new.contains key).map Difference.removedLine ++
        ((entries.filter fun (key, value) => match new.find? key with
            | some other => !value.same other
            | none => false).map fun (key, value) =>
              (key, value, (new.find? key).getD .null)).map Difference.changedLine) := by
  induction entries with
  | nil => exact .refl _
  | cons entry rest ih =>
    obtain ⟨key, value⟩ := entry
    cases found : new.find? key with
    | none =>
      have line : oldLine? new key value = some (Difference.removedLine (key, value)) := by
        rw [oldLine?, found]
        rfl
      simpa [line, found, OrderedMap.contains] using
        ih.cons (Difference.removedLine (key, value))
    | some other =>
      cases same : value.same other with
      | true =>
        have line : oldLine? new key value = none := by
          rw [oldLine?, found]
          simp only [same, ↓reduceIte]
        simpa [line, found, same, OrderedMap.contains] using ih
      | false =>
        have line : oldLine? new key value = some (Difference.changedLine (key, value, other)) := by
          rw [oldLine?, found]
          simp only [same, Bool.false_eq_true, ↓reduceIte]
          rfl
        simpa [line, found, same, OrderedMap.contains] using
          (ih.cons (Difference.changedLine (key, value, other))).trans List.perm_middle.symm

/-- A summary has one line on each entry that changed, and the lines on what else did. -/
theorem summary_perm : (difference older newer).summary.Perm
    ((difference older newer).removed.entries.map Difference.removedLine ++
      (difference older newer).changed.entries.map Difference.changedLine ++
      (difference older newer).added.entries.map Difference.addedLine ++
      sessionLines older.payload.session newer.payload.session) :=
  ((oldLines_perm newer.entries older.entries.entries).append_right _).append_right _

theorem length_sessionLines (old new : Session) : (sessionLines old new).length =
    (if old.completedIterations = new.completedIterations then 0 else 1) +
      (if old.status = new.status then 0 else 1) := by
  simp only [sessionLines, List.length_append, beq_iff_eq]
  congr 1
  · split <;> rfl
  · split <;> rfl

end

/-- The difference of two checkpoints is a complete patch. No key is in two of its parts; what is
removed taken out of the entries of the older context, what is changed set to its new values and
what is added put in, they are those of the newer one value by value; every changed entry has two
values that differ. Taken the other way round what was added is what is removed, and each changed
entry has its values exchanged. All parts are empty just when the contexts are equal value by value.
The summary has one line on each entry of each part, one on the iterations if their count differs
and one on the status if that does. -/
theorem difference_patches (older newer : Checkpoint) :
    (∀ key, (key ∈ (difference older newer).added.keys →
        key ∉ (difference older newer).removed.keys ∧
        key ∉ (difference older newer).changed.keys) ∧
      (key ∈ (difference older newer).removed.keys →
        key ∉ (difference older newer).changed.keys)) ∧
    SameEntries ((difference older newer).patch older.entries) newer.entries ∧
    (∀ key before after, (difference older newer).changed.find? key = some (before, after) →
      before.same after = false) ∧
    ((difference newer older).added = (difference older newer).removed ∧
      (difference newer older).removed = (difference older newer).added ∧
      (difference newer older).changed =
        (difference older newer).changed.mapValues fun _ values => values.swap) ∧
    ((difference older newer).isEmpty = true ↔ SameEntries older.entries newer.entries) ∧
    (difference older newer).summary.Perm
      ((difference older newer).removed.entries.map Difference.removedLine ++
        (difference older newer).changed.entries.map Difference.changedLine ++
        (difference older newer).added.entries.map Difference.addedLine ++
        sessionLines older.payload.session newer.payload.session) ∧
    (difference older newer).summary.length = (difference older newer).count +
      ((if older.payload.session.completedIterations = newer.payload.session.completedIterations
          then 0 else 1) +
        (if older.payload.session.status = newer.payload.session.status then 0 else 1)) := by
  refine ⟨parts_disjoint older newer, patch_difference older newer, ?_,
    ⟨rfl, rfl, changed_swap older newer⟩, isEmpty_iff older newer, summary_perm older newer, ?_⟩
  · intro key before after found
    rw [find?_changed] at found
    split at found
    · split at found
      · cases found
      · rename_i differ
        cases found
        exact eq_false_of_ne_true differ
    · cases found
  · rw [(summary_perm older newer).length_eq, List.length_append, length_sessionLines,
      List.length_append, List.length_append, List.length_map, List.length_map, List.length_map,
      Difference.count, OrderedMap.size, OrderedMap.size, OrderedMap.size]
    omega

end Checkpoint

end TaskLoop
