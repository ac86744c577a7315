/-!
Maps listed in ascending order of their keys, each key once. Two maps with the same bindings are
equal, because the list is determined by them.
-/

set_option autoImplicit false

namespace TaskLoop

/-- Bindings in ascending order of their keys. -/
structure OrderedMap (κ : Type) (α : Type) [Ord κ] where
  entries : List (κ × α)
  ascending : entries.Pairwise fun before after => compare before.1 after.1 = .lt

namespace OrderedMap

section Entries

variable {κ α : Type} [Ord κ]

/-- Puts a binding in its place, instead of the one its key had. -/
def insertEntry (key : κ) (value : α) : List (κ × α) → List (κ × α)
  | [] => [(key, value)]
  | (other, old) :: rest =>
    match compare key other with
    | .lt => (key, value) :: (other, old) :: rest
    | .eq => (key, value) :: rest
    | .gt => (other, old) :: insertEntry key value rest

/-- The binding of a key in a list of bindings. -/
def findBinding? (key : κ) : List (κ × α) → Option α
  | [] => none
  | (other, value) :: rest => if compare key other == .eq then some value else findBinding? key rest

theorem mem_insertEntry {key : κ} {value : α} {entries : List (κ × α)} {entry : κ × α}
    (member : entry ∈ insertEntry key value entries) :
    entry = (key, value) ∨ entry ∈ entries := by
  induction entries with
  | nil => exact Or.inl (List.mem_singleton.1 member)
  | cons head rest ih =>
    obtain ⟨other, old⟩ := head
    simp only [insertEntry] at member
    split at member
    · rcases List.mem_cons.1 member with rfl | member
      · exact Or.inl rfl
      · exact Or.inr member
    · rcases List.mem_cons.1 member with rfl | member
      · exact Or.inl rfl
      · exact Or.inr (List.mem_cons_of_mem _ member)
    · rcases List.mem_cons.1 member with rfl | member
      · exact Or.inr List.mem_cons_self
      · exact (ih member).imp_right (List.mem_cons_of_mem _)

theorem insertEntry_ascending [Std.TransOrd κ] [Std.LawfulEqOrd κ] (key : κ) (value : α)
    {entries : List (κ × α)}
    (ascending : entries.Pairwise fun before after => compare before.1 after.1 = .lt) :
    (insertEntry key value entries).Pairwise fun before after =>
      compare before.1 after.1 = .lt := by
  induction entries with
  | nil => exact List.pairwise_singleton _ _
  | cons head rest ih =>
    obtain ⟨other, old⟩ := head
    obtain ⟨above, inner⟩ := List.pairwise_cons.1 ascending
    simp only [insertEntry]
    split
    next order =>
      refine List.pairwise_cons.2 ⟨?_, ascending⟩
      intro entry member
      rcases List.mem_cons.1 member with rfl | member
      · exact order
      · exact Std.TransCmp.lt_trans order (above entry member)
    next order =>
      obtain rfl := Std.LawfulEqCmp.eq_of_compare order
      exact List.pairwise_cons.2 ⟨above, inner⟩
    next order =>
      refine List.pairwise_cons.2 ⟨?_, ih inner⟩
      intro entry member
      rcases mem_insertEntry member with rfl | member
      · exact Std.OrientedCmp.gt_iff_lt.1 order
      · exact above entry member

end Entries

section Maps

variable {κ α β : Type} [Ord κ]

instance [DecidableEq κ] [DecidableEq α] : DecidableEq (OrderedMap κ α) := fun left right =>
  if same : left.entries = right.entries then
    isTrue (by cases left; cases right; cases same; rfl)
  else isFalse (fun equal => same (equal ▸ rfl))

/-- The map without bindings. -/
def empty : OrderedMap κ α := ⟨[], List.Pairwise.nil⟩

instance : Inhabited (OrderedMap κ α) := ⟨empty⟩

/-- The value of a key. -/
def find? (map : OrderedMap κ α) (key : κ) : Option α := findBinding? key map.entries

/-- Whether the map binds a key. -/
def contains (map : OrderedMap κ α) (key : κ) : Bool := (map.find? key).isSome

/-- The keys, ascending. -/
def keys (map : OrderedMap κ α) : List κ := map.entries.map (·.1)

/-- The values in the order of their keys. -/
def values (map : OrderedMap κ α) : List α := map.entries.map (·.2)

/-- How many keys the map binds. -/
def size (map : OrderedMap κ α) : Nat := map.entries.length

/-- The map with every value replaced, its key at hand. -/
def mapValues (change : κ → α → β) (map : OrderedMap κ α) : OrderedMap κ β where
  entries := map.entries.map fun (key, value) => (key, change key value)
  ascending := by
    rw [List.pairwise_map]
    exact map.ascending

/-- The bindings that pass a test. -/
def filter (keep : κ → α → Bool) (map : OrderedMap κ α) : OrderedMap κ α where
  entries := map.entries.filter fun (key, value) => keep key value
  ascending := map.ascending.filter _

/-- The map without a key. -/
def erase (key : κ) (map : OrderedMap κ α) : OrderedMap κ α :=
  map.filter fun other _ => compare other key != .eq

variable [Std.TransOrd κ] [Std.LawfulEqOrd κ]

/-- The map that binds a key to a value and every other key as before. -/
def insert (map : OrderedMap κ α) (key : κ) (value : α) : OrderedMap κ α :=
  ⟨insertEntry key value map.entries, insertEntry_ascending key value map.ascending⟩

/-- The map of a list of bindings; of several for one key the last counts. -/
def ofList (bindings : List (κ × α)) : OrderedMap κ α :=
  bindings.foldl (fun map binding => map.insert binding.1 binding.2) empty

/-- Every binding of the second map put into the first. -/
def insertAll (map other : OrderedMap κ α) : OrderedMap κ α :=
  other.entries.foldl (fun map binding => map.insert binding.1 binding.2) map

end Maps

section Laws

variable {κ α : Type} [Ord κ]

@[simp] theorem find?_empty (asked : κ) : (empty : OrderedMap κ α).find? asked = none := rfl

variable [Std.LawfulEqOrd κ]

theorem findBinding?_insertEntry (key asked : κ) (value : α) (entries : List (κ × α)) :
    findBinding? asked (insertEntry key value entries) =
      if compare asked key == .eq then some value else findBinding? asked entries := by
  induction entries with
  | nil => simp [insertEntry, findBinding?]
  | cons head rest ih =>
    obtain ⟨other, old⟩ := head
    simp only [insertEntry]
    split
    next order => simp [findBinding?]
    next order =>
      obtain rfl := Std.LawfulEqCmp.eq_of_compare order
      by_cases same : compare asked key = .eq <;> simp [findBinding?, same]
    next order =>
      by_cases same : compare asked other = .eq
      · have apart : compare asked key ≠ .eq := by
          intro equal
          obtain rfl := Std.LawfulEqCmp.eq_of_compare equal
          rw [same] at order
          cases order
        simp [findBinding?, same, apart]
      · simp [findBinding?, same, ih]

variable [Std.TransOrd κ]

/-- After an insertion the key has its new value and every other key its old one. -/
theorem find?_insert (map : OrderedMap κ α) (key asked : κ) (value : α) :
    (map.insert key value).find? asked =
      if compare asked key == .eq then some value else map.find? asked :=
  findBinding?_insertEntry key asked value map.entries

@[simp] theorem find?_insert_self (map : OrderedMap κ α) (key : κ) (value : α) :
    (map.insert key value).find? key = some value := by
  simp [find?_insert]

theorem find?_insert_of_ne (map : OrderedMap κ α) {key asked : κ} (value : α)
    (apart : asked ≠ key) : (map.insert key value).find? asked = map.find? asked := by
  rw [find?_insert, if_neg]
  intro same
  exact apart (Std.LawfulEqCmp.eq_of_compare (beq_iff_eq.1 same))

end Laws

end OrderedMap

end TaskLoop
