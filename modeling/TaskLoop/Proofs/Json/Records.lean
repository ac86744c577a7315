import TaskLoop.ErrorIndex
import TaskLoop.Proofs.Json.ReadBack
import TaskLoop.Proofs.OrderedMap
import TaskLoop.Proofs.Timestamp

/-!
Records, lists, maps and points in time that were written as JSON read back.
-/

set_option autoImplicit false

namespace TaskLoop.Json

/-! ### Records -/

/-- The members that have one of the names. -/
def known (names : List String) (members : List (String × Json)) : List (String × Json) :=
  members.filter fun (name, _) => names.contains name

theorem length_filter_le_one {members : List (String × Json)}
    (once : (members.map Prod.fst).Nodup) (name : String) :
    (members.filter fun other => other.1 == name).length ≤ 1 := by
  have count := List.nodup_iff_count.mp once name
  rw [List.count, List.countP_map, List.countP_eq_length_filter] at count
  exact count

theorem fields?_object {names : List String} {members : List (String × Json)}
    (once : (members.map Prod.fst).Nodup) :
    fields? names (.object members) = some ⟨known names members, false⟩ := by
  have knownOnce : ((known names members).map Prod.fst).Nodup :=
    once.sublist (List.filter_sublist.map Prod.fst)
  have noneTwice : ((known names members).any fun (name, _) =>
      1 < ((known names members).filter fun other => other.1 == name).length) = false := by
    rw [List.any_eq_false]
    intro member _
    have atMost := length_filter_le_one knownOnce member.1
    simp only [decide_eq_true_eq]
    omega
  rw [fields?]
  exact if_neg (Bool.eq_false_iff.mp noneTwice)

theorem lookup_known {names : List String} {name : String} (isKnown : name ∈ names)
    (members : List (String × Json)) : (known names members).lookup name = members.lookup name := by
  induction members with
  | nil => rfl
  | cons member members ih =>
    obtain ⟨other, value⟩ := member
    by_cases same : name = other
    · subst same
      have kept : names.contains name = true := List.contains_iff_mem.mpr isKnown
      rw [known, List.filter_cons, if_pos kept, List.lookup_cons, List.lookup_cons]
      simp only [beq_self_eq_true]
    · have apart : (name == other) = false := beq_eq_false_iff_ne.mpr same
      rw [List.lookup_cons, apart, ← ih, known, List.filter_cons]
      by_cases kept : names.contains other = true
      · rw [if_pos kept, List.lookup_cons, apart]
        rfl
      · rw [if_neg kept]
        rfl

section

variable {α : Type} {names : List String} {name : String} {members : List (String × Json)}

theorem required_known (isKnown : name ∈ names) (decode : Json → Option α) :
    (Fields.mk (known names members) false).required name decode =
      (members.lookup name).bind decode := by
  rw [Fields.required, lookup_known isKnown]

theorem orElse_known (isKnown : name ∈ names) (decode : Json → Option α) (missing : α) :
    (Fields.mk (known names members) false).orElse name decode missing =
      (members.lookup name).elim (some missing) decode := by
  rw [Fields.orElse, lookup_known isKnown]
  cases members.lookup name <;> rfl

/-- A field that is there reads back. -/
theorem required_read {value : Json} {result : α} (isKnown : name ∈ names) {decode : Json → Option α}
    (written : members.lookup name = some value) (back : decode value = some result) :
    (Fields.mk (known names members) false).required name decode = some result := by
  rw [required_known isKnown, written, Option.bind_some, back]

theorem orElse_read {value : Json} {result missing : α} (isKnown : name ∈ names)
    {decode : Json → Option α} (written : members.lookup name = some value)
    (back : decode value = some result) :
    (Fields.mk (known names members) false).orElse name decode missing = some result := by
  rw [orElse_known isKnown, written, Option.elim_some, back]

theorem lookup_optionalMember (encode : α → Json) (value : Option α) (asked : String) :
    (optionalMember name encode value).lookup asked =
      if asked == name then value.map encode else none := by
  cases value with
  | none =>
    rw [Option.map_none, ite_self]
    rfl
  | some value =>
    rw [optionalMember, List.lookup_cons]
    cases asked == name <;> rfl

/-- A member that may be left out is one that has the name, or none. -/
theorem names_optionalMember (name : String) (encode : α → Json) (value : Option α) :
    ((optionalMember name encode value).map Prod.fst).Sublist [name] := by
  cases value with
  | none => exact List.nil_sublist _
  | some value => exact List.Sublist.refl _

/-- A member that is left out when its value is missing reads back. -/
theorem optional_known {encode : α → Json} {decode : Json → Option α} {value : Option α}
    (isKnown : name ∈ names) (written : members.lookup name = value.map encode)
    (back : ∀ value' ∈ value, option? decode (encode value') = some (some value')) :
    (Fields.mk (known names members) false).optional name decode = some value := by
  rw [Fields.optional, orElse_known isKnown, written]
  cases value with
  | none => rfl
  | some value => exact back value rfl

end

/-! ### Lists, maps, names and points in time -/

theorem mapM_map_eq_some {α β : Type} {encode : α → β} {decode : β → Option α} {values : List α}
    (back : ∀ value ∈ values, decode (encode value) = some value) :
    (values.map encode).mapM decode = some values := by
  induction values with
  | nil => rfl
  | cons value values ih =>
    obtain ⟨first, others⟩ := List.forall_mem_cons.mp back
    rw [List.map_cons, List.mapM_cons, first, ih others]
    rfl

theorem list?_array {α : Type} {encode : α → Json} {decode : Json → Option α} {values : List α}
    (back : ∀ value ∈ values, decode (encode value) = some value) :
    list? decode (.array (values.map encode)) = some values := mapM_map_eq_some back

theorem map?_ofMap {κ α : Type} [Ord κ] [Std.TransOrd κ] [Std.LawfulEqOrd κ] {key : κ → String}
    {key? : String → Option κ} {encode : α → Json} {decode : Json → Option α}
    {map : OrderedMap κ α} (key_back : ∀ name, key? (key name) = some name)
    (back : ∀ value ∈ map.values, decode (encode value) = some value) :
    map? key? decode (.ofMap key encode map) = some map := by
  have entries : (map.entries.map fun entry => (key entry.1, encode entry.2)).mapM
      (fun member => do return (← key? member.1, ← decode member.2)) = some map.entries := by
    apply mapM_map_eq_some
    intro entry member
    simp only [key_back, back entry.2 (List.mem_map_of_mem member)]
    rfl
  refine (congrArg (Option.map OrderedMap.ofList) entries).trans ?_
  rw [Option.map_some, OrderedMap.ofList_entries]

theorem printable_ofMap {κ α : Type} [Ord κ] {key : κ → String} {encode : α → Json}
    {map : OrderedMap κ α} (all : ∀ value ∈ map.values, Printable (encode value)) :
    Printable (.ofMap key encode map) := by
  apply printable_object
  intro member isMember
  obtain ⟨entry, isEntry, rfl⟩ := List.mem_map.mp isMember
  exact all entry.2 (List.mem_map_of_mem isEntry)

theorem string?_string (value : String) : string? (.string value) = some value := rfl

theorem choice?_string {α : Type} {ofName? : String → Option α} {name : String} {value : α}
    (named : ofName? name = some value) : choice? ofName? (.string name) = some value := named

theorem timestamp?_ofTimestamp {time : Timestamp} (shown : time.Shown) :
    timestamp? (.ofTimestamp time) = some time := by
  rw [ofTimestamp, ofText, timestamp?, String.toList_ofList, Timestamp.ofText?_text shown]

/-! ### What is read -/

section

variable {α : Type} {decode : Json → Option α} {json : Json}

theorem of_required {fields : Fields} {name : String} {value : α}
    (read : fields.required name decode = some value) : ∃ json, decode json = some value := by
  obtain ⟨json, -, read⟩ := Option.bind_eq_some_iff.mp read
  exact ⟨json, read⟩

theorem of_orElse {fields : Fields} {name : String} {missing value : α}
    (read : fields.orElse name decode missing = some value) :
    value = missing ∨ ∃ json, decode json = some value := by
  unfold Fields.orElse at read
  split at read
  · rename_i json _
    exact Or.inr ⟨json, read⟩
  · exact Or.inl (Option.some.inj read).symm

theorem of_optional {fields : Fields} {name : String} {value : α}
    (read : fields.optional name decode = some (some value)) : ∃ json, decode json = some value := by
  rcases of_orElse read with none | ⟨json, read⟩
  · cases none
  · unfold option? at read
    split at read
    · cases read
    · obtain ⟨_, read, same⟩ := Option.map_eq_some_iff.mp read
      cases same
      exact ⟨_, read⟩

theorem lt_of_natBelow? {bound n : Nat} (read : natBelow? bound json = some n) : n < bound := by
  unfold natBelow? at read
  split at read
  · split at read
    · obtain ⟨below, same⟩ := Option.ite_none_right_eq_some.mp read
      cases same
      exact below
    · cases read
  · cases read

theorem shown_of_timestamp? {time : Timestamp} (read : timestamp? json = some time) :
    time.Shown := by
  unfold timestamp? at read
  split at read
  · exact Timestamp.shown_of_ofText? read
  · cases read

/-- Whatever is in a list that was read was itself read. -/
theorem of_mapM {β : Type} {read : β → Option α} {items : List β} {values : List α}
    (all : items.mapM read = some values) :
    ∀ value ∈ values, ∃ item ∈ items, read item = some value := by
  induction items generalizing values with
  | nil =>
    cases all
    exact fun _ => nofun
  | cons item items ih =>
    simp only [List.mapM_cons, Option.bind_eq_bind, Option.bind_eq_some_iff] at all
    obtain ⟨first, head, others, tail, same⟩ := all
    cases same
    intro value member
    rcases List.mem_cons.mp member with rfl | member
    · exact ⟨item, List.mem_cons_self, head⟩
    · obtain ⟨found, isItem, read⟩ := ih tail value member
      exact ⟨found, List.mem_cons_of_mem _ isItem, read⟩

theorem of_list? {values : List α} (read : list? decode json = some values) :
    ∀ value ∈ values, ∃ json, decode json = some value := by
  unfold list? at read
  split at read
  · intro value member
    obtain ⟨item, -, read⟩ := of_mapM read value member
    exact ⟨item, read⟩
  · cases read

theorem of_map? {κ : Type} [Ord κ] [Std.TransOrd κ] [Std.LawfulEqOrd κ]
    {key? : String → Option κ} {map : OrderedMap κ α} (read : map? key? decode json = some map) :
    ∀ value ∈ map.values, ∃ json, decode json = some value := by
  unfold map? at read
  split at read
  · obtain ⟨bindings, all, rfl⟩ := Option.map_eq_some_iff.mp read
    intro value member
    obtain ⟨entry, isEntry, rfl⟩ := List.mem_map.mp member
    obtain ⟨⟨name, json⟩, -, read⟩ := of_mapM all entry (OrderedMap.mem_of_mem_ofList isEntry)
    simp only [Option.bind_eq_bind, Option.bind_eq_some_iff] at read
    obtain ⟨_, -, _, read, same⟩ := read
    cases same
    exact ⟨json, read⟩
  · cases read

end

/-! ### What is read of what was written -/

/-- What is read of a natural number, if anything is, is that number. -/
theorem eq_of_natBelow? {bound n m : Nat} (read : natBelow? bound (.ofNat n) = some m) : m = n := by
  by_cases fits : n < powerOfTwo 64
  · simp only [ofNat, natBelow?, ofSpelling?_digitsOf fits] at read
    exact (Option.some.inj (Option.ite_none_right_eq_some.mp read).2).symm
  · simp only [ofNat, natBelow?] at read
    split at read
    · rename_i meaning
      exact absurd meaning (not_natural_digitsOf fits)
    · cases read

section

variable {α β γ : Type}

theorem map_eq_of_mapM {encode : α → β} {decode : β → Option α} {view : α → γ}
    {values results : List α}
    (back : ∀ value ∈ values, ∀ result, decode (encode value) = some result →
      view result = view value)
    (read : (values.map encode).mapM decode = some results) :
    results.map view = values.map view := by
  induction values generalizing results with
  | nil =>
    cases read
    rfl
  | cons value values ih =>
    obtain ⟨first, others⟩ := List.forall_mem_cons.mp back
    simp only [List.map_cons, List.mapM_cons, Option.bind_eq_bind, Option.bind_eq_some_iff] at read
    obtain ⟨result, head, rest, tail, same⟩ := read
    cases same
    rw [List.map_cons, List.map_cons, first result head, ih others tail]

theorem map_eq_of_list? {encode : α → Json} {decode : Json → Option α} {view : α → γ}
    {values results : List α}
    (back : ∀ value ∈ values, ∀ result, decode (encode value) = some result →
      view result = view value)
    (read : list? decode (.array (values.map encode)) = some results) :
    results.map view = values.map view := map_eq_of_mapM back read

/-- Each item of a list that could be read can itself be read. -/
theorem each_of_mapM {decode : β → Option α} {items : List β} {results : List α}
    (read : items.mapM decode = some results) :
    ∀ item ∈ items, ∃ result, decode item = some result := by
  induction items generalizing results with
  | nil => exact List.forall_mem_nil _
  | cons item items ih =>
    simp only [List.mapM_cons, Option.bind_eq_bind, Option.bind_eq_some_iff] at read
    obtain ⟨first, head, rest, tail, -⟩ := read
    exact List.forall_mem_cons.mpr ⟨⟨first, head⟩, ih tail⟩

theorem each_of_list? {encode : α → Json} {decode : Json → Option α} {values results : List α}
    (read : list? decode (.array (values.map encode)) = some results) :
    ∀ value ∈ values, ∃ result, decode (encode value) = some result := fun _ member =>
  each_of_mapM read _ (List.mem_map_of_mem member)

theorem each_of_map? {κ : Type} [Ord κ] [Std.TransOrd κ] [Std.LawfulEqOrd κ] {key : κ → String}
    {key? : String → Option κ} {encode : α → Json} {decode : Json → Option α}
    {map result : OrderedMap κ α} (read : map? key? decode (.ofMap key encode map) = some result) :
    ∀ value ∈ map.values, ∃ result, decode (encode value) = some result := by
  obtain ⟨entries, all, -⟩ := Option.map_eq_some_iff.mp read
  intro value member
  obtain ⟨entry, isEntry, rfl⟩ := List.mem_map.mp member
  obtain ⟨_, decoded⟩ := each_of_mapM all _ (List.mem_map_of_mem isEntry)
  simp only [Option.bind_eq_bind, Option.bind_eq_some_iff] at decoded
  obtain ⟨_, -, result, decoded, -⟩ := decoded
  exact ⟨result, decoded⟩

theorem mapValues_eq_of_map? {κ : Type} [Ord κ] [Std.TransOrd κ] [Std.LawfulEqOrd κ]
    {key : κ → String} {key? : String → Option κ} {encode : α → Json} {decode : Json → Option α}
    {view : α → γ} {map result : OrderedMap κ α} (key_back : ∀ name, key? (key name) = some name)
    (back : ∀ value ∈ map.values, ∀ result, decode (encode value) = some result →
      view result = view value)
    (read : map? key? decode (.ofMap key encode map) = some result) :
    result.mapValues (fun _ => view) = map.mapValues fun _ => view := by
  obtain ⟨entries, all, rfl⟩ := Option.map_eq_some_iff.mp read
  have same : entries.map (fun entry => (entry.1, view entry.2)) =
      map.entries.map fun entry => (entry.1, view entry.2) := by
    refine map_eq_of_mapM (fun entry member found decoded => ?_) all
    simp only [key_back, Option.bind_eq_bind, Option.bind_some, Option.bind_eq_some_iff] at decoded
    obtain ⟨value, decoded, same⟩ := decoded
    cases same
    rw [back entry.2 (List.mem_map_of_mem member) value decoded]
  have ascending : entries.Pairwise fun before after => compare before.1 after.1 = .lt := by
    have keys : entries.map Prod.fst = map.entries.map Prod.fst := by
      simpa only [List.map_map, Function.comp_def] using congrArg (List.map Prod.fst) same
    have ordered : (map.entries.map Prod.fst).Pairwise fun before after =>
        compare before after = .lt := List.pairwise_map.mpr map.ascending
    rw [← keys] at ordered
    exact List.pairwise_map.mp ordered
  have kept : OrderedMap.ofList entries = ⟨entries, ascending⟩ :=
    OrderedMap.ofList_entries ⟨entries, ascending⟩
  rw [kept]
  exact OrderedMap.ext_entries same

end

section

variable {α : Type} {names : List String} {name : String} {members : List (String × Json)}
  {value : Json} {decode : Json → Option α} {result missing : α}

theorem of_required_known (isKnown : name ∈ names) (written : members.lookup name = some value)
    (read : (Fields.mk (known names members) false).required name decode = some result) :
    decode value = some result := by
  rwa [required_known isKnown, written, Option.bind_some] at read

theorem of_orElse_known (isKnown : name ∈ names) (written : members.lookup name = some value)
    (read : (Fields.mk (known names members) false).orElse name decode missing = some result) :
    decode value = some result := by
  rwa [orElse_known isKnown, written, Option.elim_some] at read

end

/-! ### Free-form values -/

theorem isSome_settle?_ofNat {room n : Nat} (fits : n < powerOfTwo 64) :
    (settle? room (.ofNat n)).isSome = true := by
  rw [ofNat, settle?, ofSpelling?_digitsOf fits]
  rfl

theorem isSome_settleItems? {room : Nat} {items : List Json}
    (all : ∀ item ∈ items, (settle? room item).isSome = true) :
    (settleItems? room items).isSome = true := by
  induction items with
  | nil => rfl
  | cons item items ih =>
    obtain ⟨first, others⟩ := List.forall_mem_cons.mp all
    obtain ⟨settled, first_settled⟩ := Option.isSome_iff_exists.mp first
    obtain ⟨rest, others_settled⟩ := Option.isSome_iff_exists.mp (ih others)
    rw [settleItems?, first_settled, others_settled]
    rfl

theorem isSome_settleMembers? {room : Nat} {members : List (String × Json)}
    (all : ∀ member ∈ members, (settle? room member.2).isSome = true) :
    (settleMembers? room members).isSome = true := by
  induction members with
  | nil => rfl
  | cons member members ih =>
    obtain ⟨first, others⟩ := List.forall_mem_cons.mp all
    obtain ⟨settled, first_settled⟩ := Option.isSome_iff_exists.mp first
    obtain ⟨rest, others_settled⟩ := Option.isSome_iff_exists.mp (ih others)
    rw [settleMembers?, first_settled, others_settled]
    rfl

theorem isSome_settle?_array {room : Nat} {items : List Json}
    (all : ∀ item ∈ items, (settle? room item).isSome = true) :
    (settle? (room + 1) (.array items)).isSome = true := by
  obtain ⟨settled, items_settled⟩ := Option.isSome_iff_exists.mp (isSome_settleItems? all)
  rw [settle?, Nat.add_sub_cancel, items_settled]
  rfl

theorem isSome_settle?_object {room : Nat} {members : List (String × Json)}
    (all : ∀ member ∈ members, (settle? room member.2).isSome = true) :
    (settle? (room + 1) (.object members)).isSome = true := by
  obtain ⟨settled, members_settled⟩ := Option.isSome_iff_exists.mp (isSome_settleMembers? all)
  rw [settle?, Nat.add_sub_cancel, members_settled]
  rfl

theorem isSome_settle?_ofMap {κ α : Type} [Ord κ] {key : κ → String} {encode : α → Json}
    {map : OrderedMap κ α} {room : Nat}
    (all : ∀ value ∈ map.values, (settle? room (encode value)).isSome = true) :
    (settle? (room + 1) (.ofMap key encode map)).isSome = true := by
  apply isSome_settle?_object
  intro member isMember
  obtain ⟨entry, isEntry, rfl⟩ := List.mem_map.mp isMember
  exact all entry.2 (List.mem_map_of_mem isEntry)

theorem isSome_mapM {α β : Type} {decode : α → Option β} {values : List α}
    (all : ∀ value ∈ values, (decode value).isSome = true) :
    (values.mapM decode).isSome = true := by
  induction values with
  | nil => rfl
  | cons value values ih =>
    obtain ⟨first, others⟩ := List.forall_mem_cons.mp all
    obtain ⟨decoded, first_decoded⟩ := Option.isSome_iff_exists.mp first
    obtain ⟨rest, others_decoded⟩ := Option.isSome_iff_exists.mp (ih others)
    rw [List.mapM_cons, first_decoded, others_decoded]
    rfl

end TaskLoop.Json
