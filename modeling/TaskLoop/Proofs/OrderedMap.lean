import Mathlib.Algebra.GroupWithZero.Nat
import TaskLoop.OrderedMap

/-!
An ordered map is the map of its own bindings, and a change of its values goes along with every
insertion and look-up. In which order counts are raised makes no difference.
-/

set_option autoImplicit false

namespace TaskLoop.OrderedMap

variable {κ α : Type} [Ord κ]

theorem ext_entries {left right : OrderedMap κ α} (same : left.entries = right.entries) :
    left = right := by
  cases left
  cases right
  cases same
  rfl

theorem insertEntry_last [Std.OrientedOrd κ] {key : κ} {value : α} {entries : List (κ × α)}
    (above : ∀ entry ∈ entries, compare entry.1 key = .lt) :
    insertEntry key value entries = entries ++ [(key, value)] := by
  induction entries with
  | nil => rfl
  | cons head rest ih =>
    obtain ⟨other, old⟩ := head
    have after : compare key other = .gt :=
      Std.OrientedCmp.gt_iff_lt.mpr (above (other, old) List.mem_cons_self)
    have rest_above : ∀ entry ∈ rest, compare entry.1 key = .lt :=
      fun entry member => above entry (List.mem_cons_of_mem _ member)
    rw [insertEntry, after]
    simp only [ih rest_above, List.cons_append]

variable [Std.TransOrd κ] [Std.LawfulEqOrd κ]

theorem foldl_insert_entries (map : OrderedMap κ α) (more : List (κ × α))
    (ascending : (map.entries ++ more).Pairwise fun before after =>
      compare before.1 after.1 = .lt) :
    (more.foldl (fun map binding => map.insert binding.1 binding.2) map).entries =
      map.entries ++ more := by
  induction more generalizing map with
  | nil => exact (List.append_nil _).symm
  | cons binding more ih =>
    have above : ∀ entry ∈ map.entries, compare entry.1 binding.1 = .lt := by
      intro entry member
      exact (List.pairwise_append.mp ascending).2.2 entry member binding List.mem_cons_self
    have inserted : (map.insert binding.1 binding.2).entries = map.entries ++ [binding] :=
      insertEntry_last above
    have next := ih (map.insert binding.1 binding.2) (by
      rw [inserted, List.append_assoc]
      exact ascending)
    rw [List.foldl_cons, next, inserted, List.append_assoc]
    rfl

/-- The map of a map's own bindings is that map. -/
theorem ofList_entries (map : OrderedMap κ α) : ofList map.entries = map := by
  apply ext_entries
  rw [ofList, foldl_insert_entries empty map.entries map.ascending]
  rfl

/-- What a map of a list binds stands in the list. -/
theorem mem_of_mem_ofList {bindings : List (κ × α)} {entry : κ × α}
    (member : entry ∈ (ofList bindings).entries) : entry ∈ bindings := by
  have inserted (map : OrderedMap κ α) (more : List (κ × α))
      (member : entry ∈ (more.foldl (fun map binding => map.insert binding.1 binding.2)
        map).entries) : entry ∈ map.entries ∨ entry ∈ more := by
    induction more generalizing map with
    | nil => exact Or.inl member
    | cons binding more ih =>
      rcases ih (map.insert binding.1 binding.2) member with old | new
      · rcases mem_insertEntry old with rfl | old
        · exact Or.inr List.mem_cons_self
        · exact Or.inl old
      · exact Or.inr (List.mem_cons_of_mem _ new)
  exact (inserted empty bindings member).resolve_left (List.not_mem_nil)

/-! ### Keys taken out -/

section Erased

variable {κ α : Type} [Ord κ] [Std.LawfulEqOrd κ]

theorem findBinding?_filter_ne {key asked : κ} (apart : asked ≠ key) (entries : List (κ × α)) :
    findBinding? asked (entries.filter fun entry => compare entry.1 key != .eq) =
      findBinding? asked entries := by
  induction entries with
  | nil => rfl
  | cons head rest ih =>
    rw [List.filter_cons]
    split
    · simp only [findBinding?, ih]
    · rename_i erased
      have same : compare head.1 key = .eq := by simpa using erased
      have other : compare asked head.1 ≠ .eq := by
        intro equal
        apply apart
        rw [Std.LawfulEqCmp.eq_of_compare equal, Std.LawfulEqCmp.eq_of_compare same]
      simp only [findBinding?, ih, beq_iff_eq, other, ↓reduceIte]

theorem find?_erase_of_ne (map : OrderedMap κ α) {key asked : κ} (apart : asked ≠ key) :
    (map.erase key).find? asked = map.find? asked :=
  findBinding?_filter_ne apart map.entries

theorem findBinding?_filter_self (key : κ) (entries : List (κ × α)) :
    findBinding? key (entries.filter fun entry => compare entry.1 key != .eq) = none := by
  induction entries with
  | nil => rfl
  | cons head rest ih =>
    rw [List.filter_cons]
    split
    · rename_i kept
      have apart : compare key head.1 ≠ .eq := by
        intro equal
        obtain rfl := Std.LawfulEqCmp.eq_of_compare equal
        simp only [equal, bne_self_eq_false, Bool.false_eq_true] at kept
      simp only [findBinding?, beq_iff_eq, apart, ↓reduceIte, ih]
    · exact ih

theorem find?_erase_self (map : OrderedMap κ α) (key : κ) : (map.erase key).find? key = none :=
  findBinding?_filter_self key map.entries

end Erased

/-! ### Maps told apart by their look-ups -/

section Lookups

variable {κ α : Type} [Ord κ]

variable [Std.TransOrd κ] [Std.LawfulEqOrd κ]

omit [Std.TransOrd κ] in
/-- What stands in a map is what is found under its key. -/
theorem mem_entries_iff {map : OrderedMap κ α} {key : κ} {value : α} :
    (key, value) ∈ map.entries ↔ map.find? key = some value := by
  suffices lists : ∀ entries : List (κ × α),
      (entries.Pairwise fun before after => compare before.1 after.1 = .lt) →
        ((key, value) ∈ entries ↔ findBinding? key entries = some value) from
    lists map.entries map.ascending
  intro entries ascending
  induction entries with
  | nil => exact ⟨nofun, nofun⟩
  | cons head rest ih =>
    obtain ⟨above, inner⟩ := List.pairwise_cons.1 ascending
    rw [findBinding?, List.mem_cons]
    by_cases same : compare key head.1 = .eq
    · obtain rfl := Std.LawfulEqCmp.eq_of_compare same
      have later : ∀ value, (head.1, value) ∉ rest := by
        intro value member
        have twice := above _ member
        rw [same] at twice
        cases twice
      simp only [same, beq_self_eq_true, ↓reduceIte, Option.some.injEq, later, or_false]
      exact ⟨fun whole => (Prod.mk.inj whole).2.symm, fun found => by rw [← found]⟩
    · have apart : (key, value) ≠ head := by
        rintro rfl
        exact same Std.ReflCmp.compare_self
      simp only [beq_iff_eq, same, ↓reduceIte, apart, false_or]
      exact ih inner

omit [Std.TransOrd κ] in
theorem nodup_entries (map : OrderedMap κ α) : map.entries.Nodup := by
  refine map.ascending.imp fun {before after} below same => ?_
  have level : compare before.1 after.1 = .eq := by
    rw [same]
    exact Std.ReflCmp.compare_self
  rw [level] at below
  cases below

omit [Std.TransOrd κ] in
theorem nodup_keys (map : OrderedMap κ α) : map.keys.Nodup := by
  apply List.pairwise_map.mpr
  apply map.ascending.imp
  intro before after below same
  have level : compare before.1 after.1 = .eq := by
    rw [same]
    exact Std.ReflCmp.compare_self
  rw [level] at below
  cases below

/-- Maps in which the same is found are the same. -/
theorem ext_find? {left right : OrderedMap κ α} (same : ∀ key, left.find? key = right.find? key) :
    left = right := by
  have listed : left.entries.Perm right.entries := by
    refine (List.perm_ext_iff_of_nodup left.nodup_entries right.nodup_entries).mpr fun entry => ?_
    rw [mem_entries_iff, mem_entries_iff, same]
  apply ext_entries
  refine listed.eq_of_pairwise (fun before after _ _ below above => ?_) left.ascending
    right.ascending
  rw [Std.OrientedCmp.gt_iff_lt.mpr below] at above
  cases above

/-- A map with a binding put in lists it and what it listed under other keys. -/
theorem perm_insert (map : OrderedMap κ α) (key : κ) (value : α) :
    (map.insert key value).entries.Perm ((key, value) :: (map.erase key).entries) := by
  have erased : (key, value) ∉ (map.erase key).entries := by
    rw [mem_entries_iff, find?_erase_self]
    exact nofun
  have once := List.nodup_cons.mpr ⟨erased, (map.erase key).nodup_entries⟩
  refine (List.perm_ext_iff_of_nodup (nodup_entries _) once).mpr fun entry => ?_
  obtain ⟨other, old⟩ := entry
  rw [List.mem_cons, mem_entries_iff, mem_entries_iff, Prod.mk.injEq]
  by_cases same : other = key
  · subst same
    rw [find?_insert_self, find?_erase_self]
    simp [eq_comm]
  · rw [find?_insert_of_ne _ _ same, find?_erase_of_ne _ same]
    simp [same]

/-- A map lists what is found under a key and what it lists under others. -/
theorem perm_of_find? {map : OrderedMap κ α} {key : κ} {value : α}
    (found : map.find? key = some value) :
    map.entries.Perm ((key, value) :: (map.erase key).entries) := by
  have same : map.insert key value = map := by
    refine ext_find? fun asked => ?_
    by_cases same : asked = key
    · rw [same, find?_insert_self, found]
    · rw [find?_insert_of_ne _ _ same]
  have whole := perm_insert map key value
  rwa [same] at whole

theorem erase_of_find?_eq_none {map : OrderedMap κ α} {key : κ} (unbound : map.find? key = none) :
    map.erase key = map := by
  refine ext_find? fun asked => ?_
  by_cases same : asked = key
  · rw [same, find?_erase_self, unbound]
  · rw [find?_erase_of_ne _ same]

/-- Putting a binding in changes a sum over the values by the new value less the old one. -/
theorem sum_values_insert (map : OrderedMap κ α) (key : κ) (value : α) (weigh : α → Nat) :
    ((map.insert key value).values.map weigh).sum + ((map.find? key).map weigh).getD 0 =
      (map.values.map weigh).sum + weigh value := by
  have listed {entries rest : List (κ × α)} {value : α}
      (same : entries.Perm ((key, value) :: rest)) : ((entries.map (·.2)).map weigh).sum =
        weigh value + ((rest.map (·.2)).map weigh).sum := by
    rw [((same.map (·.2)).map weigh).sum_nat, List.map_cons, List.map_cons, List.sum_cons]
  rw [values, values, listed (perm_insert map key value)]
  cases found : map.find? key with
  | none =>
    rw [erase_of_find?_eq_none found, Option.map_none, Option.getD_none]
    omega
  | some old =>
    rw [listed (perm_of_find? found), Option.map_some, Option.getD_some]
    omega

theorem size_insert (map : OrderedMap κ α) (key : κ) (value : α) :
    (map.insert key value).size = if map.contains key then map.size else map.size + 1 := by
  have counted := sum_values_insert map key value fun _ => 1
  have ones (values : List α) : (values.map fun _ => 1).sum = values.length := by
    rw [List.map_const', List.sum_replicate_nat, Nat.mul_one]
  rw [ones, ones, values, values, List.length_map, List.length_map] at counted
  rw [size, size, contains]
  cases found : map.find? key with
  | none =>
    rw [found] at counted
    exact counted
  | some old =>
    rw [found] at counted
    exact Nat.add_right_cancel counted

omit [Std.TransOrd κ] in
theorem mem_keys_iff {map : OrderedMap κ α} {key : κ} :
    key ∈ map.keys ↔ ∃ value, map.find? key = some value := by
  constructor
  · intro member
    obtain ⟨entry, isEntry, rfl⟩ := List.mem_map.mp member
    exact ⟨entry.2, mem_entries_iff.mp isEntry⟩
  · rintro ⟨value, found⟩
    exact List.mem_map.mpr ⟨(key, value), mem_entries_iff.mpr found, rfl⟩

theorem mem_keys_insert {map : OrderedMap κ α} {key asked : κ} {value : α} :
    asked ∈ (map.insert key value).keys ↔ asked = key ∨ asked ∈ map.keys := by
  rw [mem_keys_iff, mem_keys_iff]
  by_cases same : asked = key
  · subst same
    simp
  · rw [find?_insert_of_ne _ _ same]
    simp [same]

omit [Std.TransOrd κ] [Std.LawfulEqOrd κ] in
theorem length_insertEntry_le (key : κ) (value : α) (entries : List (κ × α)) :
    (insertEntry key value entries).length ≤ entries.length + 1 := by
  induction entries with
  | nil => exact Nat.le_refl 1
  | cons head rest ih =>
    simp only [insertEntry]
    cases compare key head.1 with
    | lt => exact Nat.le_refl _
    | eq => exact Nat.le_succ _
    | gt => exact Nat.succ_le_succ ih

/-- A map of a list has no more keys than the list has bindings. -/
theorem size_ofList_le (bindings : List (κ × α)) : (ofList bindings).size ≤ bindings.length := by
  have inserted (map : OrderedMap κ α) : (bindings.foldl
      (fun map binding => map.insert binding.1 binding.2) map).size ≤
        map.size + bindings.length := by
    induction bindings generalizing map with
    | nil => exact Nat.le_refl _
    | cons binding bindings ih =>
      have next := ih (map.insert binding.1 binding.2)
      have one : (map.insert binding.1 binding.2).size ≤ map.size + 1 :=
        length_insertEntry_le binding.1 binding.2 map.entries
      rw [List.foldl_cons, List.length_cons]
      omega
  exact Nat.le_trans (inserted empty) (Nat.le_of_eq (Nat.zero_add _))

theorem mem_keys_ofList {bindings : List (κ × α)} {key : κ} :
    key ∈ (ofList bindings).keys ↔ key ∈ bindings.map (·.1) := by
  suffices inserted : ∀ map : OrderedMap κ α, key ∈ (bindings.foldl
      (fun map binding => map.insert binding.1 binding.2) map).keys ↔
        key ∈ map.keys ∨ key ∈ bindings.map (·.1) from
    (inserted empty).trans (or_iff_right List.not_mem_nil)
  induction bindings with
  | nil => exact fun map => (or_iff_left List.not_mem_nil).symm
  | cons binding bindings ih =>
    intro map
    rw [List.foldl_cons, ih, mem_keys_insert, List.map_cons, List.mem_cons]
    exact or_assoc.trans or_left_comm

omit [Std.TransOrd κ] in
theorem isEmpty_entries_iff {map : OrderedMap κ α} :
    map.entries.isEmpty = true ↔ ∀ key, map.find? key = none := by
  rw [List.isEmpty_iff, List.eq_nil_iff_forall_not_mem, Prod.forall]
  refine forall_congr' fun key => ?_
  simp only [mem_entries_iff, Option.eq_none_iff_forall_ne_some]

omit [Std.TransOrd κ] in
/-- What passes a test is found where it was. -/
@[simp] theorem find?_filter (map : OrderedMap κ α) (keep : κ → α → Bool) (key : κ) :
    (map.filter keep).find? key = (map.find? key).filter (keep key) := by
  refine Option.ext fun value => ?_
  rw [Option.filter_eq_some_iff, ← mem_entries_iff, ← mem_entries_iff]
  exact List.mem_filter

omit [Std.TransOrd κ] in
theorem findBinding?_eq_none {key : κ} {entries : List (κ × α)}
    (others : ∀ entry ∈ entries, entry.1 ≠ key) : findBinding? key entries = none := by
  induction entries with
  | nil => rfl
  | cons head rest ih =>
    obtain ⟨apart, later⟩ := List.forall_mem_cons.mp others
    have unequal : compare key head.1 ≠ .eq := fun equal =>
      apart (Std.LawfulEqCmp.eq_of_compare equal).symm
    simp only [findBinding?, beq_iff_eq, unequal, ↓reduceIte, ih later]

/-- Bindings put in are found, and elsewhere what was there. -/
@[simp] theorem find?_insertAll (map other : OrderedMap κ α) (key : κ) :
    (map.insertAll other).find? key = (other.find? key).or (map.find? key) := by
  suffices inserted : ∀ (entries : List (κ × α)) (map : OrderedMap κ α),
      (entries.Pairwise fun before after => compare before.1 after.1 = .lt) →
        (entries.foldl (fun map binding => map.insert binding.1 binding.2) map).find? key =
          (findBinding? key entries).or (map.find? key) from
    inserted other.entries map other.ascending
  intro entries
  induction entries with
  | nil => exact fun _ _ => rfl
  | cons head rest ih =>
    intro map ascending
    obtain ⟨above, inner⟩ := List.pairwise_cons.mp ascending
    rw [List.foldl_cons, ih _ inner, find?_insert, findBinding?]
    by_cases same : compare key head.1 = .eq
    · obtain rfl := Std.LawfulEqCmp.eq_of_compare same
      have last : findBinding? head.1 rest = none := by
        refine findBinding?_eq_none fun entry member equal => ?_
        have below := above entry member
        rw [equal, same] at below
        cases below
      simp only [last, same, beq_self_eq_true, ↓reduceIte, Option.none_or, Option.some_or]
    · simp only [beq_iff_eq, same, ↓reduceIte]

end Lookups

/-! ### Changed values -/

section Changed

variable {κ α β : Type} [Ord κ]

theorem insertEntry_map (change : κ → α → β) (key : κ) (value : α) (entries : List (κ × α)) :
    (insertEntry key value entries).map (fun entry => (entry.1, change entry.1 entry.2)) =
      insertEntry key (change key value)
        (entries.map fun entry => (entry.1, change entry.1 entry.2)) := by
  induction entries with
  | nil => rfl
  | cons head rest ih =>
    simp only [insertEntry, List.map_cons]
    cases compare key head.1 with
    | lt => rfl
    | eq => rfl
    | gt => simp only [List.map_cons, ih]

theorem findBinding?_map (change : α → β) (key : κ) (entries : List (κ × α)) :
    findBinding? key (entries.map fun entry => (entry.1, change entry.2)) =
      (findBinding? key entries).map change := by
  induction entries with
  | nil => rfl
  | cons head rest ih =>
    simp only [List.map_cons, findBinding?]
    split
    · rfl
    · exact ih

@[simp] theorem find?_mapValues (change : α → β) (map : OrderedMap κ α) (key : κ) :
    (map.mapValues fun _ value => change value).find? key = (map.find? key).map change :=
  findBinding?_map change key map.entries

theorem find?_mapValues_key [Std.LawfulEqOrd κ] (change : κ → α → β) (map : OrderedMap κ α)
    (key : κ) : (map.mapValues change).find? key = (map.find? key).map (change key) := by
  suffices lists : ∀ entries : List (κ × α),
      findBinding? key (entries.map fun entry => (entry.1, change entry.1 entry.2)) =
        (findBinding? key entries).map (change key) from lists map.entries
  intro entries
  induction entries with
  | nil => rfl
  | cons head rest ih =>
    simp only [List.map_cons, findBinding?, beq_iff_eq]
    split
    · rename_i same
      rw [Std.LawfulEqCmp.eq_of_compare same]
      rfl
    · exact ih

@[simp] theorem values_mapValues (change : α → β) (map : OrderedMap κ α) :
    (map.mapValues fun _ value => change value).values = map.values.map change := by
  simp only [values, mapValues, List.map_map]
  rfl

@[simp] theorem mapValues_insert [Std.TransOrd κ] [Std.LawfulEqOrd κ] (change : κ → α → β)
    (map : OrderedMap κ α) (key : κ) (value : α) :
    (map.insert key value).mapValues change =
      (map.mapValues change).insert key (change key value) :=
  ext_entries (insertEntry_map change key value map.entries)

end Changed

/-! ### Keys taken one by one -/

section Listed

variable {κ α : Type} [Ord κ] [Std.TransOrd κ] [Std.LawfulEqOrd κ] {keys : List κ}

/-- A map made from what each of some ascending keys is given, if it is given anything. -/
theorem entries_ofList_filterMap
    (ascending : keys.Pairwise fun before after => compare before after = .lt)
    (value? : κ → Option α) :
    (ofList (keys.filterMap fun key => (value? key).map (key, ·))).entries =
      keys.filterMap fun key => (value? key).map (key, ·) := by
  have inOrder : (keys.filterMap fun key => (value? key).map (key, ·)).Pairwise
      fun before after => compare before.1 after.1 = .lt := by
    refine List.Pairwise.filterMap _ (fun left right below entry given other given' => ?_) ascending
    obtain ⟨value, -, rfl⟩ := Option.map_eq_some_iff.mp given
    obtain ⟨value', -, rfl⟩ := Option.map_eq_some_iff.mp given'
    exact below
  exact foldl_insert_entries empty _ inOrder

theorem find?_ofList_filterMap
    (ascending : keys.Pairwise fun before after => compare before after = .lt)
    (all : ∀ key, key ∈ keys) (value? : κ → Option α) (key : κ) :
    (ofList (keys.filterMap fun key => (value? key).map (key, ·))).find? key = value? key := by
  refine Option.ext fun value => ?_
  rw [← mem_entries_iff, entries_ofList_filterMap ascending, List.mem_filterMap]
  constructor
  · rintro ⟨other, -, given⟩
    obtain ⟨value', found, same⟩ := Option.map_eq_some_iff.mp given
    cases same
    exact found
  · intro found
    exact ⟨key, all key, by rw [found, Option.map_some]⟩

/-- Where all keys can be listed, the sum of a map's values is the sum of what is found under
each. -/
theorem sum_values_of_forall_mem
    (ascending : keys.Pairwise fun before after => compare before after = .lt)
    (all : ∀ key, key ∈ keys) (map : OrderedMap κ Nat) :
    map.values.sum = (keys.map fun key => (map.find? key).getD 0).sum := by
  have same : map = ofList (keys.filterMap fun key => (map.find? key).map (key, ·)) :=
    ext_find? fun key => (find?_ofList_filterMap ascending all map.find? key).symm
  have listed : map.entries = keys.filterMap fun key => (map.find? key).map (key, ·) :=
    (congrArg entries same).trans (entries_ofList_filterMap ascending map.find?)
  rw [values, listed]
  clear all ascending same listed
  induction keys with
  | nil => rfl
  | cons key keys ih =>
    rw [List.filterMap_cons, List.map_cons, List.sum_cons, ← ih]
    cases map.find? key with
    | none => exact (Nat.zero_add _).symm
    | some value => rfl

end Listed

/-! ### Counts -/

section Counts

variable {κ : Type} [Ord κ] [Std.TransOrd κ] [Std.LawfulEqOrd κ] [DecidableEq κ]

/-- Counts with more under a key. -/
def raise (counts : OrderedMap κ Nat) (key : κ) (more : Nat) : OrderedMap κ Nat :=
  counts.insert key ((counts.find? key).getD 0 + more)

theorem find?_raise (counts : OrderedMap κ Nat) (key asked : κ) (more : Nat) :
    (counts.raise key more).find? asked =
      if asked = key then some ((counts.find? key).getD 0 + more) else counts.find? asked := by
  split
  · rename_i same
    subst same
    exact find?_insert_self _ _ _
  · rename_i apart
    exact find?_insert_of_ne _ _ apart

theorem raise_twice (counts : OrderedMap κ Nat) (key : κ) (first more : Nat) :
    (counts.raise key first).raise key more = counts.raise key (first + more) := by
  refine ext_find? fun asked => ?_
  simp only [find?_raise, ↓reduceIte, Option.getD_some, Nat.add_assoc]
  split <;> rfl

theorem raise_comm (counts : OrderedMap κ Nat) (left right : κ) (first second : Nat) :
    (counts.raise left first).raise right second =
      (counts.raise right second).raise left first := by
  by_cases same : left = right
  · rw [same, raise_twice, raise_twice, Nat.add_comm]
  · refine ext_find? fun asked => ?_
    simp only [find?_raise, same, Ne.symm same, ↓reduceIte]
    by_cases isLeft : asked = left
    · simp only [isLeft, same, ↓reduceIte]
    · simp only [isLeft, ↓reduceIte]

omit [DecidableEq κ] in
/-- What is put in under a key adds to the sum of the counts. -/
theorem sum_values_raise (counts : OrderedMap κ Nat) (key : κ) (more : Nat) :
    (counts.raise key more).values.sum = counts.values.sum + more := by
  have changed := sum_values_insert counts key ((counts.find? key).getD 0 + more) id
  rw [List.map_id, List.map_id, Option.map_id] at changed
  rw [raise]
  simp only [id_eq] at changed
  omega

end Counts

end TaskLoop.OrderedMap
