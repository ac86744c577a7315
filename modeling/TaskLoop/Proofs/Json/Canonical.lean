import TaskLoop.Proofs.Json.Reals
import TaskLoop.Proofs.Json.Records

/-!
Free-form values in canonical form. Settling makes such a value of whatever it accepts, within
the room it is given, and leaves one that has the room as it is.
-/

set_option autoImplicit false

namespace TaskLoop.Json

/-! ### Numbers -/

/-- The spelling of a number that is kept means that number. -/
theorem ofSpelling?_spelling {number : JsonNumber} (kept : Kept number) :
    JsonNumber.ofSpelling? number.spelling = some number := by
  cases number with
  | natural value => exact ofSpelling?_digitsOf kept
  | negative magnitude => exact ofSpelling?_negative kept.1 kept.2
  | real value =>
    obtain ⟨text, written, meaning⟩ := ofSpelling?_text kept
    rw [JsonNumber.spelling, written]
    exact meaning

theorem numberText_spelling {number : JsonNumber} (kept : Kept number) :
    NumberText number.spelling := by
  cases number with
  | natural value => exact numberText_digitsOf value
  | negative magnitude => exact numberText_negative magnitude
  | real value =>
    obtain ⟨text, written, -⟩ := ofSpelling?_text kept
    have printable := printable_ofFloat value
    rw [ofFloat, written] at printable
    rw [JsonNumber.spelling, written]
    exact printable

/-! ### Canonical values -/

mutual

/-- A value in canonical form: numbers in the spelling of their meaning, the members of objects
in the order of their names and each once. -/
def Canonical : Json → Prop
  | .number spelling => ∃ number, Kept number ∧ spelling = number.spelling
  | .unpaired => False
  | .array items => CanonicalItems items
  | .object members =>
    (members.Pairwise fun before after => compare before.1 after.1 = .lt) ∧ CanonicalMembers members
  | _ => True

/-- Every item is canonical. -/
def CanonicalItems : List Json → Prop
  | [] => True
  | item :: rest => Canonical item ∧ CanonicalItems rest

/-- The value of every member is canonical. -/
def CanonicalMembers : List (String × Json) → Prop
  | [] => True
  | (_, value) :: rest => Canonical value ∧ CanonicalMembers rest

end

mutual

/-- How many arrays and objects stand inside each other at most. -/
def nesting : Json → Nat
  | .array items => nestingItems items + 1
  | .object members => nestingMembers members + 1
  | _ => 0

/-- The deepest nesting of the items. -/
def nestingItems : List Json → Nat
  | [] => 0
  | item :: rest => max (nesting item) (nestingItems rest)

/-- The deepest nesting of the values of the members. -/
def nestingMembers : List (String × Json) → Nat
  | [] => 0
  | (_, value) :: rest => max (nesting value) (nestingMembers rest)

end

theorem canonicalMembers_iff {members : List (String × Json)} :
    CanonicalMembers members ↔ ∀ member ∈ members, Canonical member.2 := by
  induction members with
  | nil => simp only [CanonicalMembers, List.not_mem_nil, false_imp_iff, implies_true]
  | cons member members ih => rw [CanonicalMembers, ih, List.forall_mem_cons]

theorem nestingMembers_le_iff {members : List (String × Json)} {room : Nat} :
    nestingMembers members ≤ room ↔ ∀ member ∈ members, nesting member.2 ≤ room := by
  induction members with
  | nil => simp only [nestingMembers, Nat.zero_le, List.not_mem_nil, false_imp_iff, implies_true]
  | cons member members ih =>
    rw [nestingMembers, Nat.max_le, ih, List.forall_mem_cons]

mutual

/-- A canonical value can be written. -/
theorem printable_of_canonical : ∀ {value : Json}, Canonical value → Printable value
  | .null, _ => trivial
  | .bool _, _ => trivial
  | .string _, _ => trivial
  | .number _, ⟨_, kept, spelt⟩ => by
    rw [spelt]
    exact numberText_spelling kept
  | .array _, settled => printableItems_of_canonical settled
  | .object _, settled => printableMembers_of_canonical settled.2

theorem printableItems_of_canonical : ∀ {items : List Json}, CanonicalItems items →
    PrintableItems items
  | [], _ => trivial
  | _ :: _, settled =>
    ⟨printable_of_canonical settled.1, printableItems_of_canonical settled.2⟩

theorem printableMembers_of_canonical : ∀ {members : List (String × Json)},
    CanonicalMembers members → PrintableMembers members
  | [], _ => trivial
  | _ :: _, settled =>
    ⟨printable_of_canonical settled.1, printableMembers_of_canonical settled.2⟩

end

mutual

/-- A canonical value that has room for its nesting stays as it is. -/
theorem settle?_of_canonical : ∀ {value : Json} {room : Nat}, Canonical value →
    nesting value ≤ room → settle? room value = some value
  | .null, _, _, _ => rfl
  | .bool _, _, _, _ => rfl
  | .string _, _, _, _ => rfl
  | .number _, _, ⟨_, kept, spelt⟩, _ => by
    rw [settle?, spelt, ofSpelling?_spelling kept, Option.map_some]
  | .array _, 0, _, deep => absurd deep (Nat.not_succ_le_zero _)
  | .array items, room + 1, settled, deep => by
    have inner := settleItems?_of_canonical settled (Nat.le_of_succ_le_succ deep)
    rw [settle?, Nat.add_sub_cancel, inner]
    rfl
  | .object _, 0, _, deep => absurd deep (Nat.not_succ_le_zero _)
  | .object members, room + 1, settled, deep => by
    have inner := settleMembers?_of_canonical settled.2 (Nat.le_of_succ_le_succ deep)
    have ordered := OrderedMap.ofList_entries ⟨members, settled.1⟩
    rw [settle?, Nat.add_sub_cancel, inner, Option.map_some, ordered]
    rfl

theorem settleItems?_of_canonical : ∀ {items : List Json} {room : Nat}, CanonicalItems items →
    nestingItems items ≤ room → settleItems? room items = some items
  | [], _, _, _ => rfl
  | _ :: _, _, settled, deep => by
    obtain ⟨first, others⟩ := Nat.max_le.mp deep
    rw [settleItems?, settle?_of_canonical settled.1 first,
      settleItems?_of_canonical settled.2 others]
    rfl

theorem settleMembers?_of_canonical : ∀ {members : List (String × Json)} {room : Nat},
    CanonicalMembers members → nestingMembers members ≤ room →
    settleMembers? room members = some members
  | [], _, _, _ => rfl
  | (_, _) :: _, _, settled, deep => by
    obtain ⟨first, others⟩ := Nat.max_le.mp deep
    rw [settleMembers?, settle?_of_canonical settled.1 first,
      settleMembers?_of_canonical settled.2 others]
    rfl

end

mutual

/-- What settling comes to is canonical and has the room it was given. -/
theorem canonical_of_settle? : ∀ {value result : Json} {room : Nat},
    settle? room value = some result → Canonical result ∧ nesting result ≤ room
  | .null, _, _, rfl => ⟨trivial, Nat.zero_le _⟩
  | .bool _, _, _, rfl => ⟨trivial, Nat.zero_le _⟩
  | .string _, _, _, rfl => ⟨trivial, Nat.zero_le _⟩
  | .number _, _, _, settled => by
    obtain ⟨number, meaning, rfl⟩ := Option.map_eq_some_iff.mp settled
    exact ⟨⟨number, kept_of_ofSpelling? meaning, rfl⟩, Nat.zero_le _⟩
  | .array _, _, 0, settled => by cases settled
  | .array items, _, room + 1, settled => by
    obtain ⟨results, inner, rfl⟩ := Option.map_eq_some_iff.mp settled
    obtain ⟨all, deep⟩ := canonicalItems_of_settle? inner
    exact ⟨all, Nat.succ_le_succ deep⟩
  | .object _, _, 0, settled => by cases settled
  | .object members, _, room + 1, settled => by
    obtain ⟨results, inner, rfl⟩ := Option.map_eq_some_iff.mp settled
    obtain ⟨all, deep⟩ := canonicalMembers_of_settle? inner
    have from_results {member : String × Json}
        (isMember : member ∈ (OrderedMap.ofList results).entries) : member ∈ results :=
      OrderedMap.mem_of_mem_ofList isMember
    refine ⟨⟨(OrderedMap.ofList results).ascending, canonicalMembers_iff.mpr ?_⟩,
      Nat.succ_le_succ (nestingMembers_le_iff.mpr ?_)⟩
    · exact fun member isMember => canonicalMembers_iff.mp all member (from_results isMember)
    · exact fun member isMember => nestingMembers_le_iff.mp deep member (from_results isMember)

theorem canonicalItems_of_settle? : ∀ {items results : List Json} {room : Nat},
    settleItems? room items = some results →
    CanonicalItems results ∧ nestingItems results ≤ room
  | [], _, _, rfl => ⟨trivial, Nat.zero_le _⟩
  | _ :: _, _, _, settled => by
    simp only [settleItems?, Option.bind_eq_bind, Option.bind_eq_some_iff] at settled
    obtain ⟨first, head, others, tail, same⟩ := settled
    cases same
    obtain ⟨firstSettled, firstDeep⟩ := canonical_of_settle? head
    obtain ⟨othersSettled, othersDeep⟩ := canonicalItems_of_settle? tail
    exact ⟨⟨firstSettled, othersSettled⟩, Nat.max_le.mpr ⟨firstDeep, othersDeep⟩⟩

theorem canonicalMembers_of_settle? : ∀ {members results : List (String × Json)} {room : Nat},
    settleMembers? room members = some results →
    CanonicalMembers results ∧ nestingMembers results ≤ room
  | [], _, _, rfl => ⟨trivial, Nat.zero_le _⟩
  | (_, _) :: _, _, _, settled => by
    simp only [settleMembers?, Option.bind_eq_bind, Option.bind_eq_some_iff] at settled
    obtain ⟨first, head, others, tail, same⟩ := settled
    cases same
    obtain ⟨firstSettled, firstDeep⟩ := canonical_of_settle? head
    obtain ⟨othersSettled, othersDeep⟩ := canonicalMembers_of_settle? tail
    exact ⟨⟨firstSettled, othersSettled⟩, Nat.max_le.mpr ⟨firstDeep, othersDeep⟩⟩

end

mutual

/-- What can be settled nests no deeper than there is room. -/
theorem nesting_le_of_settle? : ∀ {value result : Json} {room : Nat},
    settle? room value = some result → nesting value ≤ room
  | .null, _, _, _ => Nat.zero_le _
  | .bool _, _, _, _ => Nat.zero_le _
  | .string _, _, _, _ => Nat.zero_le _
  | .number _, _, _, _ => Nat.zero_le _
  | .unpaired, _, _, _ => Nat.zero_le _
  | .array _, _, 0, settled => by cases settled
  | .array _, _, _ + 1, settled => by
    obtain ⟨_, inner, -⟩ := Option.map_eq_some_iff.mp settled
    exact Nat.succ_le_succ (nestingItems_le_of_settle? inner)
  | .object _, _, 0, settled => by cases settled
  | .object _, _, _ + 1, settled => by
    obtain ⟨_, inner, -⟩ := Option.map_eq_some_iff.mp settled
    exact Nat.succ_le_succ (nestingMembers_le_of_settle? inner)

theorem nestingItems_le_of_settle? : ∀ {items results : List Json} {room : Nat},
    settleItems? room items = some results → nestingItems items ≤ room
  | [], _, _, _ => Nat.zero_le _
  | _ :: _, _, _, settled => by
    simp only [settleItems?, Option.bind_eq_bind, Option.bind_eq_some_iff] at settled
    obtain ⟨_, head, _, tail, -⟩ := settled
    exact Nat.max_le.mpr ⟨nesting_le_of_settle? head, nestingItems_le_of_settle? tail⟩

theorem nestingMembers_le_of_settle? : ∀ {members results : List (String × Json)} {room : Nat},
    settleMembers? room members = some results → nestingMembers members ≤ room
  | [], _, _, _ => Nat.zero_le _
  | (_, _) :: _, _, _, settled => by
    simp only [settleMembers?, Option.bind_eq_bind, Option.bind_eq_some_iff] at settled
    obtain ⟨_, head, _, tail, -⟩ := settled
    exact Nat.max_le.mpr ⟨nesting_le_of_settle? head, nestingMembers_le_of_settle? tail⟩

end

end TaskLoop.Json
