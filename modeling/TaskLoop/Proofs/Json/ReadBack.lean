import TaskLoop.Json.Printer
import TaskLoop.Json.Reader
import TaskLoop.Proofs.Json.Numbers

/-!
The texts of a JSON value, with blanks between the tokens or without, and that each of them reads
back as the value. Both printers write such texts.
-/

set_option autoImplicit false

namespace TaskLoop.Json

/-! ### Strings -/

/-- The four digits of the escape of a control character are its number. -/
theorem hexWord?_control : ∀ n < 0x20,
    (if n < 0x10 then ['0'] else []) ++ Nat.toDigits 16 n =
        [if n < 0x10 then '0' else '1', Nat.digitChar (n % 0x10)] ∧
      hexWord? '0' '0' (if n < 0x10 then '0' else '1') (Nat.digitChar (n % 0x10)) = some n := by
  decide

theorem readPoints_plain {c : Char} (printable : 0x20 ≤ c.toNat) (notQuote : c ≠ '"')
    (notBackslash : c ≠ '\\') (rest : List Char) :
    readPoints (c :: rest) =
      (readPoints rest).map fun (points, rest) => (c.toNat :: points, rest) := by
  have allowed : (decide (c.toNat < 0x20) || c == '\\') = false := by
    rw [decide_eq_false (Nat.not_lt_of_le printable), beq_eq_false_iff_ne.mpr notBackslash]
    rfl
  rw [readPoints.eq_5]
  · rw [allowed]
    rfl
  · intro isQuote
    exact absurd isQuote notQuote
  · intro a b c d more isBackslash
    exact absurd isBackslash notBackslash
  · intro c more isBackslash
    exact absurd isBackslash notBackslash

theorem readPoints_escapeChar (c : Char) (rest : List Char) :
    readPoints (escapeChar c ++ rest) =
      (readPoints rest).map fun (points, rest) => (c.toNat :: points, rest) := by
  unfold escapeChar
  split
  · rfl
  · rfl
  · rfl
  · rfl
  · rfl
  · rfl
  · rfl
  · next notQuote notBackslash _ _ _ _ _ =>
    split
    · next control =>
      obtain ⟨spelt, digits⟩ := hexWord?_control c.toNat control
      rw [List.append_assoc ['\\', 'u', '0', '0'], spelt]
      simp only [List.cons_append, List.nil_append, readPoints, digits]
    · next printable =>
      exact readPoints_plain (Nat.le_of_not_lt printable) notQuote notBackslash rest

theorem readPoints_flatMap (text rest : List Char) :
    readPoints (text.flatMap escapeChar ++ '"' :: rest) = some (text.map Char.toNat, rest) := by
  induction text with
  | nil => rfl
  | cons c text ih =>
    rw [List.flatMap_cons, List.append_assoc, readPoints_escapeChar, ih]
    rfl

theorem isHalf_toNat (c : Char) :
    isLeadingHalf c.toNat = false ∧ isTrailingHalf c.toNat = false := by
  have scalar : c.toNat < 0xD800 ∨ 0xDFFF < c.toNat ∧ c.toNat < 0x110000 := c.valid
  simp only [isLeadingHalf, isTrailingHalf, Bool.and_eq_false_iff, decide_eq_false_iff_not]
  omega

theorem pairUp?_toNat (text : List Char) : pairUp? (text.map Char.toNat) = some text := by
  induction text with
  | nil => rfl
  | cons c text ih =>
    obtain ⟨notLeading, notTrailing⟩ := isHalf_toNat c
    cases text with
    | nil =>
      simp only [List.map_cons, List.map_nil, pairUp?, notLeading, notTrailing, Bool.or_self,
        Bool.false_eq_true, ↓reduceIte, Char.ofNat_toNat]
    | cons next text =>
      rw [List.map_cons] at ih
      simp only [List.map_cons, pairUp?, notLeading, notTrailing, Bool.false_eq_true,
        ↓reduceIte, ih, Option.map_some, Char.ofNat_toNat]

theorem readString_quoted (text rest : List Char) :
    readString (text.flatMap escapeChar ++ '"' :: rest) = some (some text, rest) := by
  rw [readString, readPoints_flatMap]
  simp only [Option.map_some, pairUp?_toNat]

/-! ### Blanks -/

/-- Nothing but blanks that may stand between tokens. -/
def Blanks (text : List Char) : Prop := ∀ c ∈ text, isJsonBlank c = true

theorem blanks_nil : Blanks [] := by
  intro c member
  cases member

theorem skipBlanks_append {before : List Char} (blanks : Blanks before) (rest : List Char) :
    skipBlanks (before ++ rest) = skipBlanks rest := by
  rw [skipBlanks, List.dropWhile_append_of_pos blanks, skipBlanks]

theorem skipBlanks_cons {c : Char} {rest : List Char} (visible : isJsonBlank c = false) :
    skipBlanks (c :: rest) = c :: rest := by
  rw [skipBlanks, List.dropWhile_cons, visible]
  rfl

theorem skipBlanks_idem (text : List Char) : skipBlanks (skipBlanks text) = skipBlanks text := by
  induction text with
  | nil => rfl
  | cons c text ih =>
    by_cases blank : isJsonBlank c = true
    · have skipped : skipBlanks (c :: text) = skipBlanks text := by
        rw [skipBlanks, List.dropWhile_cons, if_pos blank, skipBlanks]
      rw [skipped, ih]
    · have visible : isJsonBlank c = false := Bool.eq_false_iff.mpr blank
      rw [skipBlanks_cons visible, skipBlanks_cons visible]

theorem readValue_skipBlanks (steps : Nat) (text : List Char) :
    readValue steps (skipBlanks text) = readValue steps text := by
  cases steps with
  | zero => rfl
  | succ steps => rw [readValue, readValue, skipBlanks_idem]

theorem readItems_skipBlanks (steps : Nat) (text : List Char) :
    readItems steps (skipBlanks text) = readItems steps text := by
  cases steps with
  | zero => rfl
  | succ steps => rw [readItems, readItems, readValue_skipBlanks]

theorem readMembers_skipBlanks (steps : Nat) (text : List Char) :
    readMembers steps (skipBlanks text) = readMembers steps text := by
  cases steps with
  | zero => rfl
  | succ steps => rw [readMembers, readMembers, skipBlanks_idem]

/-! ### The texts of a value -/

mutual

/-- The text is one of the value, without blanks around it. -/
inductive Spells : List Char → Json → Prop where
  | null : Spells ['n', 'u', 'l', 'l'] .null
  | yes : Spells ['t', 'r', 'u', 'e'] (.bool true)
  | no : Spells ['f', 'a', 'l', 's', 'e'] (.bool false)
  | number {spelling : List Char} : NumberText spelling → Spells spelling (.number spelling)
  | string (value : String) : Spells (quoted value.toList) (.string value)
  | noItems : Spells ['[', ']'] (.array [])
  | array {text : List Char} {items : List Json} : SpellsItems text items →
      Spells ('[' :: text ++ [']']) (.array items)
  | noMembers : Spells ['{', '}'] (.object [])
  | object {text : List Char} {members : List (String × Json)} : SpellsMembers text members →
      Spells ('{' :: text ++ ['}']) (.object members)

/-- The text is one of the items of an array, at least one, with commas between them. -/
inductive SpellsItems : List Char → List Json → Prop where
  | last {before text after : List Char} {item : Json} : Blanks before → Spells text item →
      Blanks after → SpellsItems (before ++ text ++ after) [item]
  | more {before text rest : List Char} {item : Json} {items : List Json} : Blanks before →
      Spells text item → SpellsItems rest items →
      SpellsItems (before ++ text ++ ',' :: rest) (item :: items)

/-- The text is one of the members of an object, at least one, with commas between them. -/
inductive SpellsMembers : List Char → List (String × Json) → Prop where
  | last {before gap text after : List Char} {name : String} {value : Json} : Blanks before →
      Blanks gap → Spells text value → Blanks after →
      SpellsMembers (before ++ quoted name.toList ++ ':' :: gap ++ text ++ after) [(name, value)]
  | more {before gap text rest : List Char} {name : String} {value : Json}
      {members : List (String × Json)} : Blanks before → Blanks gap → Spells text value →
      SpellsMembers rest members →
      SpellsMembers (before ++ quoted name.toList ++ ':' :: gap ++ text ++ ',' :: rest)
        ((name, value) :: members)

end

/-- The sign or the first digit of a number is neither a blank nor a closing bracket. -/
theorem visible_of_numeric {c : Char} (numeric : c.isDigit = true ∨ c = '-') :
    isJsonBlank c = false ∧ c ≠ ']' := by
  rcases numeric with digit | rfl
  · simp only [isJsonBlank, Bool.or_eq_false_iff, beq_eq_false_iff_ne]
    refine ⟨⟨⟨⟨?_, ?_⟩, ?_⟩, ?_⟩, ?_⟩ <;> rintro rfl <;> exact absurd digit (by decide)
  · decide

/-- A text of a value begins with neither a blank nor a closing bracket or brace. -/
theorem Spells.start {text : List Char} {value : Json} (spells : Spells text value) :
    ∃ c more, text = c :: more ∧ isJsonBlank c = false ∧ c ≠ ']' := by
  cases spells with
  | null => exact ⟨_, _, rfl, by decide, by decide⟩
  | yes => exact ⟨_, _, rfl, by decide, by decide⟩
  | no => exact ⟨_, _, rfl, by decide, by decide⟩
  | number spelt =>
    obtain ⟨c, more, rfl, numeric⟩ := spelt.start
    exact ⟨c, more, rfl, visible_of_numeric numeric⟩
  | string value => exact ⟨_, _, rfl, by decide, by decide⟩
  | noItems => exact ⟨_, _, rfl, by decide, by decide⟩
  | array items => exact ⟨_, _, rfl, by decide, by decide⟩
  | noMembers => exact ⟨_, _, rfl, by decide, by decide⟩
  | object members => exact ⟨_, _, rfl, by decide, by decide⟩

theorem Spells.length_pos {text : List Char} {value : Json} (spells : Spells text value) :
    0 < text.length := by
  obtain ⟨c, more, rfl, -, -⟩ := spells.start
  exact Nat.succ_pos _

/-- The items of an array begin, after blanks, with no closing bracket. -/
theorem SpellsItems.start {text : List Char} {items : List Json} (spells : SpellsItems text items)
    (rest more : List Char) : skipBlanks (text ++ rest) ≠ ']' :: more := by
  intro closing
  cases spells with
  | last blanks item after =>
    obtain ⟨c, others, rfl, visible, open_⟩ := item.start
    rw [List.append_assoc, List.append_assoc, skipBlanks_append blanks, List.cons_append,
      skipBlanks_cons visible] at closing
    exact open_ (List.cons.inj closing).1
  | more blanks item others =>
    obtain ⟨c, others, rfl, visible, open_⟩ := item.start
    rw [List.append_assoc, List.append_assoc, skipBlanks_append blanks, List.cons_append,
      skipBlanks_cons visible] at closing
    exact open_ (List.cons.inj closing).1

/-- The members of an object begin, after blanks, with a quote. -/
theorem SpellsMembers.start {text : List Char} {members : List (String × Json)}
    (spells : SpellsMembers text members) (rest : List Char) :
    ∃ more, skipBlanks (text ++ rest) = '"' :: more := by
  cases spells with
  | last blanks gap value after =>
    simp only [List.append_assoc, skipBlanks_append blanks, quoted, List.cons_append]
    exact ⟨_, skipBlanks_cons (by decide)⟩
  | more blanks gap value others =>
    simp only [List.append_assoc, skipBlanks_append blanks, quoted, List.cons_append]
    exact ⟨_, skipBlanks_cons (by decide)⟩

/-! ### Reading them back -/

/-- What may stand between tokens, or ends an array or an object, goes on no number. -/
theorem endsNumber_blanks {after rest : List Char} (blanks : Blanks after)
    (ends : EndsNumber rest) : EndsNumber (after ++ rest) := by
  cases after with
  | nil => exact ends
  | cons c after =>
    have blank := blanks c List.mem_cons_self
    simp only [isJsonBlank, Bool.or_eq_true, beq_iff_eq] at blank
    rcases blank with ((rfl | rfl) | rfl) | rfl <;>
      exact endsNumber_cons (by decide) (by decide) (by decide)

theorem readValue_numeric {c : Char} (numeric : c.isDigit = true ∨ c = '-') (steps : Nat)
    (text : List Char) :
    readValue (steps + 1) (c :: text) =
      (readNumber (c :: text)).map fun (spelling, rest) => (.number spelling, rest) := by
  rw [readValue, skipBlanks_cons (visible_of_numeric numeric).1]
  split
  all_goals
    first
    | next first => obtain ⟨rfl, -⟩ := List.cons.inj first; exact absurd numeric (by decide)
    | rfl

theorem readValue_array {steps : Nat} {text rest : List Char} {items : List Json}
    (someItem : ∀ more, skipBlanks text ≠ ']' :: more)
    (read : readItems steps text = some (items, rest)) :
    readValue (steps + 1) ('[' :: text) = some (.array items, rest) := by
  rw [readValue, skipBlanks_cons (by decide)]
  simp only [readItems_skipBlanks, read, Option.map_some]

theorem readValue_object {steps : Nat} {text rest : List Char} {members : List (String × Json)}
    (someMember : ∃ more, skipBlanks text = '"' :: more)
    (read : readMembers steps text = some (members, rest)) :
    readValue (steps + 1) ('{' :: text) = some (.object members, rest) := by
  have notEmpty : ∀ more, skipBlanks text ≠ '}' :: more := by
    intro more closing
    obtain ⟨others, quote⟩ := someMember
    rw [quote] at closing
    exact absurd (List.cons.inj closing).1 (by decide)
  rw [readValue, skipBlanks_cons (by decide)]
  simp only [readMembers_skipBlanks, read, Option.map_some]

theorem readMembers_name {steps : Nat} {before text rest : List Char} (name : String)
    {value : Json} (blanks : Blanks before) (read : readValue steps text = some (value, rest)) :
    readMembers (steps + 1) (before ++ quoted name.toList ++ ':' :: text) =
      match skipBlanks rest with
      | ',' :: rest => (readMembers steps rest).map fun (members, rest) =>
          ((name, value) :: members, rest)
      | '}' :: rest => some ([(name, value)], rest)
      | _ => none := by
  rw [readMembers, List.append_assoc, skipBlanks_append blanks, quoted]
  simp only [List.cons_append, List.append_assoc, List.nil_append]
  rw [skipBlanks_cons (by decide)]
  simp only [readString_quoted]
  rw [skipBlanks_cons (by decide)]
  simp only [read, String.ofList_toList] <;> rfl

mutual

theorem readValue_spells {text : List Char} {value : Json} (spells : Spells text value)
    {steps : Nat} {rest : List Char} (enough : 2 * text.length ≤ steps) (ends : EndsNumber rest) :
    readValue steps (text ++ rest) = some (value, rest) := by
  obtain ⟨steps, rfl⟩ : ∃ fewer, steps = fewer + 1 :=
    Nat.exists_eq_add_one.mpr (by have := spells.length_pos; omega)
  cases spells with
  | null => rfl
  | yes => rfl
  | no => rfl
  | number spelt =>
    have read := spelt.read rest ends
    obtain ⟨c, more, rfl, numeric⟩ := spelt.start
    rw [List.cons_append] at read ⊢
    rw [readValue_numeric numeric, read]
    rfl
  | string value =>
    rw [readValue, quoted, List.cons_append, List.cons_append, skipBlanks_cons (by decide),
      List.append_assoc]
    simp only [List.cons_append, List.nil_append, readString_quoted, Option.map_some,
      String.ofList_toList]
  | noItems => rfl
  | array items =>
    rw [List.cons_append, List.cons_append, List.append_assoc]
    simp only [List.length_cons, List.length_append, List.length_nil] at enough
    exact readValue_array (items.start _) (readItems_spells items (by omega))
  | noMembers => rfl
  | object members =>
    rw [List.cons_append, List.cons_append, List.append_assoc]
    simp only [List.length_cons, List.length_append, List.length_nil] at enough
    exact readValue_object (members.start _) (readMembers_spells members (by omega))

theorem readItems_spells {text : List Char} {items : List Json} (spells : SpellsItems text items)
    {steps : Nat} {rest : List Char} (enough : 2 * text.length + 1 ≤ steps) :
    readItems steps (text ++ (']' :: rest)) = some (items, rest) := by
  obtain ⟨steps, rfl⟩ : ∃ fewer, steps = fewer + 1 := Nat.exists_eq_add_one.mpr (by omega)
  cases spells with
  | last blanks item after =>
    simp only [List.length_append] at enough
    rw [readItems, List.append_assoc, List.append_assoc, ← readValue_skipBlanks,
      skipBlanks_append blanks, readValue_skipBlanks, readValue_spells item (by omega)
        (endsNumber_blanks after (endsNumber_cons (by decide) (by decide) (by decide)))]
    simp only
    rw [skipBlanks_append after, skipBlanks_cons (by decide)]
    rfl
  | @more before text others item items blanks item' others' =>
    simp only [List.length_append, List.length_cons] at enough
    have others_read : readItems steps (others ++ ']' :: rest) = some (items, rest) :=
      readItems_spells others' (by omega)
    rw [readItems, List.append_assoc, List.append_assoc, ← readValue_skipBlanks,
      skipBlanks_append blanks, readValue_skipBlanks, List.cons_append,
      readValue_spells item' (by omega) (endsNumber_cons (by decide) (by decide) (by decide))]
    simp only
    rw [skipBlanks_cons (by decide)]
    simp only [others_read, Option.map_some]

theorem readMembers_spells {text : List Char} {members : List (String × Json)}
    (spells : SpellsMembers text members) {steps : Nat} {rest : List Char}
    (enough : 2 * text.length + 1 ≤ steps) :
    readMembers steps (text ++ ('}' :: rest)) = some (members, rest) := by
  obtain ⟨steps, rfl⟩ : ∃ fewer, steps = fewer + 1 := Nat.exists_eq_add_one.mpr (by omega)
  cases spells with
  | @last before gap text after name value blanks inGap value' blanks' =>
    simp only [List.length_append, List.length_cons] at enough
    have read : readValue steps (gap ++ (text ++ (after ++ '}' :: rest))) =
        some (value, after ++ '}' :: rest) := by
      rw [← readValue_skipBlanks, skipBlanks_append inGap, readValue_skipBlanks]
      exact readValue_spells value' (by omega)
        (endsNumber_blanks blanks' (endsNumber_cons (by decide) (by decide) (by decide)))
    have name_read := readMembers_name name blanks read
    simp only [List.append_assoc, List.cons_append] at name_read ⊢
    rw [name_read, skipBlanks_append blanks', skipBlanks_cons (by decide)]
    rfl
  | @more before gap text others name value members blanks inGap value' others' =>
    simp only [List.length_append, List.length_cons] at enough
    have others_read : readMembers steps (others ++ '}' :: rest) = some (members, rest) :=
      readMembers_spells others' (by omega)
    have read : readValue steps (gap ++ (text ++ ',' :: (others ++ '}' :: rest))) =
        some (value, ',' :: (others ++ '}' :: rest)) := by
      rw [← readValue_skipBlanks, skipBlanks_append inGap, readValue_skipBlanks]
      exact readValue_spells value' (by omega)
        (endsNumber_cons (by decide) (by decide) (by decide))
    have name_read := readMembers_name name blanks read
    simp only [List.append_assoc, List.cons_append] at name_read ⊢
    rw [name_read, skipBlanks_cons (by decide)]
    simp only [others_read, Option.map_some]

end

/-- A text of a value, blanks after it or not, is read as the value. -/
theorem ofText?_spells {text after : List Char} {value : Json} (spells : Spells text value)
    (blanks : Blanks after) : ofText? (text ++ after) = some value := by
  have ends : EndsNumber after := by
    have ends := endsNumber_blanks blanks endsNumber_nil
    rwa [List.append_nil] at ends
  have nothing : skipBlanks after = [] := by
    have skipped := skipBlanks_append blanks []
    rwa [List.append_nil] at skipped
  have enough : 2 * text.length ≤ 2 * (text ++ after).length + 2 := by
    rw [List.length_append]
    omega
  rw [ofText?, readValue_spells spells enough ends]
  simp only [nothing, List.isEmpty_nil, ↓reduceIte]

/-! ### What the printers write -/

mutual

/-- A value whose numbers are spelt as numbers and whose strings are all texts. -/
def Printable : Json → Prop
  | .number spelling => NumberText spelling
  | .unpaired => False
  | .array items => PrintableItems items
  | .object members => PrintableMembers members
  | _ => True

/-- Every item is printable. -/
def PrintableItems : List Json → Prop
  | [] => True
  | item :: rest => Printable item ∧ PrintableItems rest

/-- The value of every member is printable. -/
def PrintableMembers : List (String × Json) → Prop
  | [] => True
  | (_, value) :: rest => Printable value ∧ PrintableMembers rest

end

theorem printableItems_iff {items : List Json} :
    PrintableItems items ↔ ∀ item ∈ items, Printable item := by
  induction items with
  | nil => simp only [PrintableItems, List.not_mem_nil, false_imp_iff, implies_true]
  | cons item items ih => rw [PrintableItems, ih, List.forall_mem_cons]

theorem printableMembers_iff {members : List (String × Json)} :
    PrintableMembers members ↔ ∀ member ∈ members, Printable member.2 := by
  induction members with
  | nil => simp only [PrintableMembers, List.not_mem_nil, false_imp_iff, implies_true]
  | cons member members ih => rw [PrintableMembers, ih, List.forall_mem_cons]

theorem printable_ofNat (n : Nat) : Printable (.ofNat n) := numberText_digitsOf n

/-- An array of printable items is printable. -/
theorem printable_array {items : List Json} (all : ∀ item ∈ items, Printable item) :
    Printable (.array items) := printableItems_iff.mpr all

/-- An object of printable values is printable. -/
theorem printable_object {members : List (String × Json)}
    (all : ∀ member ∈ members, Printable member.2) : Printable (.object members) :=
  printableMembers_iff.mpr all

theorem spells_array_of {text : List Char} {items : List Json} (none : items = [] → text = [])
    (some : items ≠ [] → SpellsItems text items) : Spells ('[' :: text ++ [']']) (.array items) := by
  cases items with
  | nil => rw [none rfl]; exact .noItems
  | cons item items => exact .array (some (List.cons_ne_nil _ _))

theorem spells_object_of {text : List Char} {members : List (String × Json)}
    (none : members = [] → text = []) (some : members ≠ [] → SpellsMembers text members) :
    Spells ('{' :: text ++ ['}']) (.object members) := by
  cases members with
  | nil => rw [none rfl]; exact .noMembers
  | cons member members => exact .object (some (List.cons_ne_nil _ _))

mutual

theorem spells_compact : ∀ {value : Json}, Printable value → Spells (compact value) value
  | .null, _ => .null
  | .bool true, _ => .yes
  | .bool false, _ => .no
  | .number _, printable => .number printable
  | .string value, _ => .string value
  | .array items, printable => by
    rw [compact]
    exact spells_array_of (by rintro rfl; rfl) fun some => spellsItems_compact some printable
  | .object members, printable => by
    rw [compact]
    exact spells_object_of (by rintro rfl; rfl) fun some => spellsMembers_compact some printable

theorem spellsItems_compact : ∀ {items : List Json}, items ≠ [] → PrintableItems items →
    SpellsItems (compactItems items) items
  | [], empty, _ => absurd rfl empty
  | [item], _, printable => by
    have spelt := SpellsItems.last blanks_nil (spells_compact printable.1) blanks_nil
    rwa [List.nil_append, List.append_nil] at spelt
  | item :: next :: rest, _, printable => by
    have others := spellsItems_compact (List.cons_ne_nil next rest) printable.2
    have spelt := SpellsItems.more blanks_nil (spells_compact printable.1) others
    rwa [List.nil_append] at spelt

theorem spellsMembers_compact : ∀ {members : List (String × Json)}, members ≠ [] →
    PrintableMembers members → SpellsMembers (compactMembers members) members
  | [], empty, _ => absurd rfl empty
  | [(name, value)], _, printable => by
    have spelt := @SpellsMembers.last [] [] _ [] name _ blanks_nil blanks_nil
      (spells_compact printable.1) blanks_nil
    simp only [List.nil_append, List.append_nil, List.append_assoc, List.cons_append] at spelt
    exact spelt
  | (name, value) :: next :: rest, _, printable => by
    have others := spellsMembers_compact (List.cons_ne_nil next rest) printable.2
    have spelt := @SpellsMembers.more [] [] _ _ name _ _ blanks_nil blanks_nil
      (spells_compact printable.1) others
    simp only [compactMembers, List.nil_append, List.append_assoc, List.cons_append] at spelt ⊢
    exact spelt

end

theorem newline_not_mem_quoted (text : List Char) : '\n' ∉ quoted text := by
  have escaped (c : Char) : '\n' ∉ escapeChar c := by
    have control : ∀ n < 0x20, '\n' ∉ ['\\', 'u', '0', '0'] ++
        (if n < 0x10 then ['0'] else []) ++ Nat.toDigits 16 n := by
      decide
    unfold escapeChar
    split
    · decide
    · decide
    · decide
    · decide
    · decide
    · decide
    · decide
    · next notNewline _ _ =>
      split
      · next small => exact control c.toNat small
      · intro member
        exact notNewline (List.mem_singleton.mp member).symm
  intro member
  simp only [quoted, List.cons_append, List.mem_cons, List.mem_append, List.mem_flatMap,
    List.not_mem_nil, or_false] at member
  rcases member with quote | ⟨c, -, inside⟩ | quote
  · exact absurd quote (by decide)
  · exact escaped c inside
  · exact absurd quote (by decide)

mutual

/-- A value without blanks stands on one line. -/
theorem newline_not_mem_compact : ∀ {value : Json}, Printable value → '\n' ∉ compact value
  | .null, _ => by decide
  | .bool true, _ => by decide
  | .bool false, _ => by decide
  | .number _, printable => printable.oneLine
  | .string value, _ => newline_not_mem_quoted value.toList
  | .array items, printable => by
    have inner := newline_not_mem_compactItems printable
    simp only [compact, List.cons_append, List.mem_cons, List.mem_append, List.not_mem_nil, inner,
      or_false, false_or]
    decide
  | .object members, printable => by
    have inner := newline_not_mem_compactMembers printable
    simp only [compact, List.cons_append, List.mem_cons, List.mem_append, List.not_mem_nil, inner,
      or_false, false_or]
    decide

theorem newline_not_mem_compactItems : ∀ {items : List Json}, PrintableItems items →
    '\n' ∉ compactItems items
  | [], _ => List.not_mem_nil
  | [item], printable => newline_not_mem_compact printable.1
  | item :: next :: rest, printable => by
    have first := newline_not_mem_compact printable.1
    have others := newline_not_mem_compactItems printable.2
    simp only [compactItems, List.mem_append, List.mem_cons, first, others, or_false, false_or]
    decide

theorem newline_not_mem_compactMembers : ∀ {members : List (String × Json)},
    PrintableMembers members → '\n' ∉ compactMembers members
  | [], _ => List.not_mem_nil
  | [(name, value)], printable => by
    have name_line := newline_not_mem_quoted name.toList
    have first := newline_not_mem_compact printable.1
    simp only [compactMembers, List.mem_append, List.mem_cons, name_line, first, or_false,
      false_or]
    decide
  | (name, value) :: next :: rest, printable => by
    have name_line := newline_not_mem_quoted name.toList
    have first := newline_not_mem_compact printable.1
    have others := newline_not_mem_compactMembers printable.2
    simp only [compactMembers, List.cons_append, List.append_assoc, List.mem_append, List.mem_cons,
      name_line, first, others, or_false, false_or]
    decide

end

theorem blanks_newLine (level : Nat) : Blanks (newLine level) := by
  intro c member
  rcases List.mem_cons.mp member with rfl | space
  · rfl
  · rw [(List.mem_replicate.mp space).2]
    rfl

theorem blanks_space : Blanks [' '] := by
  intro c member
  rw [List.mem_singleton.mp member]
  rfl

mutual

theorem spells_pretty : ∀ {value : Json} (level : Nat), Printable value →
    Spells (pretty level value) value
  | .null, _, _ => .null
  | .bool true, _, _ => .yes
  | .bool false, _, _ => .no
  | .number _, _, printable => .number printable
  | .string value, _, _ => .string value
  | .array [], _, _ => .noItems
  | .array (item :: items), level, printable => by
    have spelt := spellsItems_pretty (level + 1) (List.cons_ne_nil item items) printable
      (blanks_newLine level)
    exact .array spelt
  | .object [], _, _ => .noMembers
  | .object (member :: members), level, printable => by
    have spelt := spellsMembers_pretty (level + 1) (List.cons_ne_nil member members) printable
      (blanks_newLine level)
    exact .object spelt

theorem spellsItems_pretty : ∀ {items : List Json} (level : Nat), items ≠ [] →
    PrintableItems items → ∀ {after : List Char}, Blanks after →
    SpellsItems (prettyItems level items ++ after) items
  | [], _, empty, _, _, _ => absurd rfl empty
  | [item], level, _, printable, _, blanks =>
    .last (blanks_newLine level) (spells_pretty level printable.1) blanks
  | item :: next :: rest, level, _, printable, after, blanks => by
    have others := spellsItems_pretty level (List.cons_ne_nil next rest) printable.2 blanks
    have spelt := SpellsItems.more (blanks_newLine level) (spells_pretty level printable.1) others
    simp only [prettyItems, List.append_assoc, List.cons_append] at spelt ⊢
    exact spelt

theorem spellsMembers_pretty : ∀ {members : List (String × Json)} (level : Nat), members ≠ [] →
    PrintableMembers members → ∀ {after : List Char}, Blanks after →
    SpellsMembers (prettyMembers level members ++ after) members
  | [], _, empty, _, _, _ => absurd rfl empty
  | [(name, value)], level, _, printable, _, blanks => by
    have spelt := @SpellsMembers.last _ _ _ _ name _ (blanks_newLine level) blanks_space
      (spells_pretty level printable.1) blanks
    simp only [prettyMembers, List.append_assoc, List.cons_append, List.nil_append] at spelt ⊢
    exact spelt
  | (name, value) :: next :: rest, level, _, printable, after, blanks => by
    have others := spellsMembers_pretty level (List.cons_ne_nil next rest) printable.2 blanks
    have spelt := @SpellsMembers.more _ _ _ _ name _ _ (blanks_newLine level) blanks_space
      (spells_pretty level printable.1) others
    simp only [prettyMembers, List.append_assoc, List.cons_append, List.nil_append] at spelt ⊢
    exact spelt

end

/-- A value without blanks reads back. -/
theorem ofText?_compact {value : Json} (printable : Printable value) :
    ofText? value.compact = some value := by
  have read := ofText?_spells (spells_compact printable) blanks_nil
  rwa [List.append_nil] at read

/-- The text of a file that holds a value reads back as the value. -/
theorem ofText?_fileText {value : Json} (printable : Printable value) :
    ofText? (fileText value) = some value :=
  ofText?_spells (spells_pretty 0 printable) (blanks_newLine 0)

end TaskLoop.Json
