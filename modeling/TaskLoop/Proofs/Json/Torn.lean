import TaskLoop.Proofs.Json.ReadBack

/-!
What reading a text says about the same text with more after it: the same value is read, unless it
is a number that the text ends with. So the beginning of an object's text is no value.
-/

set_option autoImplicit false

namespace TaskLoop.Json

open TaskLoop.Decimal

theorem skipBlanks_append_of_cons {text rest : List Char} {c : Char}
    (skipped : skipBlanks text = c :: rest) (more : List Char) :
    skipBlanks (text ++ more) = c :: (rest ++ more) := by
  induction text with
  | nil => cases skipped
  | cons first text ih =>
    by_cases blank : isJsonBlank first = true
    · rw [skipBlanks, List.dropWhile_cons, if_pos blank] at skipped
      rw [List.cons_append, skipBlanks, List.dropWhile_cons, if_pos blank]
      exact ih skipped
    · have visible : isJsonBlank first = false := Bool.eq_false_iff.mpr blank
      rw [skipBlanks_cons visible] at skipped
      rw [List.cons_append, skipBlanks_cons visible, (List.cons.inj skipped).1,
        (List.cons.inj skipped).2]

theorem readPoints_append {text rest : List Char} {points : List Nat}
    (read : readPoints text = some (points, rest)) (more : List Char) :
    readPoints (text ++ more) = some (points, rest ++ more) := by
  fun_induction readPoints text generalizing points rest with
  | case1 => cases read
  | case2 after => cases read; rfl
  | case3 a b c d after point word ih =>
    obtain ⟨⟨others, left⟩, others_read, same⟩ := Option.map_eq_some_iff.mp read
    cases same
    simp only [List.cons_append, readPoints, word, ih others_read, Option.map_some]
  | case4 => cases read
  | case5 c after notNumbered meant escape ih =>
    obtain ⟨⟨others, left⟩, others_read, same⟩ := Option.map_eq_some_iff.mp read
    cases same
    have notU : c ≠ 'u' := by
      rintro rfl
      cases escape
    rw [List.cons_append, List.cons_append, readPoints.eq_4]
    · simp only [escape, ih others_read, Option.map_some]
    · intro a b c d rest isU
      exact absurd isU notU
  | case6 => cases read
  | case7 => cases read
  | case8 c after notQuote notNumbered notEscape allowed ih =>
    obtain ⟨⟨others, left⟩, others_read, same⟩ := Option.map_eq_some_iff.mp read
    cases same
    simp only [Bool.or_eq_true, decide_eq_true_eq, beq_iff_eq, not_or, Nat.not_lt] at allowed
    rw [List.cons_append, readPoints_plain allowed.1 notQuote allowed.2, ih others_read]
    rfl

theorem readString_append {text rest : List Char} {content : Option (List Char)}
    (read : readString text = some (content, rest)) (more : List Char) :
    readString (text ++ more) = some (content, rest ++ more) := by
  obtain ⟨⟨points, after⟩, points_read, same⟩ := Option.map_eq_some_iff.mp read
  cases same
  rw [readString, readPoints_append points_read]
  rfl

/-! ### Numbers -/

/-- Reading digits cuts the text after its last leading digit. -/
theorem readDigits_eq_some {text rest digits : List Char}
    (read : readDigits text = some (digits, rest)) :
    text = digits ++ rest ∧ digits ≠ [] ∧ (∀ c ∈ digits, c.isDigit = true) ∧
      EndsDigits rest := by
  simp only [readDigits, List.isEmpty_iff] at read
  split at read
  · cases read
  next notEmpty =>
  cases read
  have cut : text.takeWhile Char.isDigit ++ text.dropWhile Char.isDigit = text :=
    List.takeWhile_append_dropWhile
  have dropped : text.drop (text.takeWhile Char.isDigit).length = text.dropWhile Char.isDigit := by
    conv => lhs; arg 2; rw [← cut]
    exact List.drop_left
  rw [dropped]
  refine ⟨cut.symm, notEmpty, ?_, ?_⟩
  · intro c member
    exact List.all_eq_true.mp List.all_takeWhile c member
  · intro c first
    have stop := List.head?_dropWhile_not Char.isDigit text
    rw [Option.mem_def.mp first] at stop
    exact stop

theorem readDigits_append_of {text rest digits : List Char}
    (read : readDigits text = some (digits, rest)) (goesOn : rest ≠ []) (more : List Char) :
    readDigits (text ++ more) = some (digits, rest ++ more) := by
  obtain ⟨rfl, some, all, ends⟩ := readDigits_eq_some read
  rw [List.append_assoc]
  apply readDigits_append all some
  cases rest with
  | nil => exact absurd rfl goesOn
  | cons next rest => exact endsDigits_cons (ends next rfl)

theorem readFraction_append {text rest fraction : List Char}
    (read : readFraction text = some (fraction, rest)) (goesOn : rest ≠ []) (more : List Char) :
    readFraction (text ++ more) = some (fraction, rest ++ more) ∧ text ≠ [] := by
  cases text with
  | nil => cases read; exact absurd rfl goesOn
  | cons c text =>
    refine ⟨?_, List.cons_ne_nil _ _⟩
    by_cases point : c = '.'
    · subst point
      obtain ⟨⟨digits, left⟩, digits_read, same⟩ := Option.map_eq_some_iff.mp read
      cases same
      rw [List.cons_append, readFraction, readDigits_append_of digits_read goesOn]
      rfl
    · have plain {after : List Char} : readFraction (c :: after) = some ([], c :: after) := by
        unfold readFraction
        split
        · next first => exact absurd (List.cons.inj first).1 point
        · rfl
      rw [plain] at read
      cases read
      rw [List.cons_append, plain]

theorem readExponent_append {text rest exponent : List Char}
    (read : readExponent text = some (exponent, rest)) (goesOn : rest ≠ []) (more : List Char) :
    readExponent (text ++ more) = some (exponent, rest ++ more) ∧ text ≠ [] := by
  cases text with
  | nil => cases read; exact absurd rfl goesOn
  | cons e text =>
    refine ⟨?_, List.cons_ne_nil _ _⟩
    rw [readExponent.eq_def] at read ⊢
    simp only [List.cons_append] at read ⊢
    by_cases mark : (e == 'e' || e == 'E') = true
    · rw [if_pos mark] at read ⊢
      split at read
      all_goals
        obtain ⟨⟨digits, left⟩, digits_read, same⟩ := Option.map_eq_some_iff.mp read
        cases same
      · simp only [List.cons_append, readDigits_append_of digits_read goesOn, Option.map_some]
      · simp only [List.cons_append, readDigits_append_of digits_read goesOn, Option.map_some]
      · next notPlus notMinus =>
        have digits_read' := readDigits_append_of digits_read goesOn more
        cases text with
        | nil => cases digits_read
        | cons c text =>
          rw [List.cons_append] at digits_read' ⊢
          split
          · next first => exact (notPlus text (by rw [(List.cons.inj first).1])).elim
          · next first => exact (notMinus text (by rw [(List.cons.inj first).1])).elim
          · rw [digits_read']
            rfl
    · rw [if_neg mark] at read ⊢
      cases read
      rfl

theorem readUnsigned_append {text rest spelling : List Char}
    (read : readUnsigned text = some (spelling, rest)) (goesOn : rest ≠ []) (more : List Char) :
    readUnsigned (text ++ more) = some (spelling, rest ++ more) := by
  simp only [readUnsigned, Option.bind_eq_bind, Option.bind_eq_some_iff] at read
  obtain ⟨⟨whole, afterWhole⟩, whole_read, read⟩ := read
  split at read
  · cases read
  next leading =>
  obtain ⟨⟨fraction, afterFraction⟩, fraction_read, read⟩ := Option.bind_eq_some_iff.mp read
  obtain ⟨⟨exponent, afterExponent⟩, exponent_read, same⟩ := Option.bind_eq_some_iff.mp read
  cases same
  obtain ⟨exponent_more, fraction_some⟩ := readExponent_append exponent_read goesOn more
  obtain ⟨fraction_more, whole_some⟩ := readFraction_append fraction_read fraction_some more
  rw [readUnsigned, readDigits_append_of whole_read whole_some]
  simp only [Option.bind_eq_bind, Option.bind_some, leading, Bool.false_eq_true, ↓reduceIte,
    fraction_more, exponent_more]
  rfl

theorem readNumber_plain {c : Char} (notMinus : c ≠ '-') (text : List Char) :
    readNumber (c :: text) = readUnsigned (c :: text) := by
  unfold readNumber
  split
  · next first => exact absurd (List.cons.inj first).1 notMinus
  · rfl

theorem numeric_of_readNumber {text rest spelling : List Char}
    (read : readNumber text = some (spelling, rest)) :
    ∃ c others, text = c :: others ∧ (c.isDigit = true ∨ c = '-') := by
  cases text with
  | nil => cases read
  | cons c text =>
    refine ⟨c, text, rfl, ?_⟩
    by_cases minus : c = '-'
    · exact Or.inr minus
    · left
      rw [readNumber_plain minus] at read
      obtain ⟨⟨whole, afterWhole⟩, whole_read, -⟩ := Option.bind_eq_some_iff.mp read
      obtain ⟨split, some, all, -⟩ := readDigits_eq_some whole_read
      cases whole with
      | nil => exact absurd rfl some
      | cons digit whole =>
        rw [(List.cons.inj split).1]
        exact all digit List.mem_cons_self

/-- A number before the end of a text does not depend on what comes after the text. -/
theorem readNumber_append {text rest spelling : List Char}
    (read : readNumber text = some (spelling, rest)) (goesOn : rest ≠ []) (more : List Char) :
    readNumber (text ++ more) = some (spelling, rest ++ more) := by
  obtain ⟨c, text, rfl, -⟩ := numeric_of_readNumber read
  by_cases minus : c = '-'
  · subst minus
    obtain ⟨⟨unsigned, left⟩, unsigned_read, same⟩ := Option.map_eq_some_iff.mp read
    cases same
    rw [List.cons_append, readNumber, readUnsigned_append unsigned_read goesOn]
    rfl
  · rw [readNumber_plain minus] at read
    rw [List.cons_append, readNumber_plain minus]
    exact readUnsigned_append read goesOn more

/-! ### Values -/

/-- Whether more text after a value that was read leaves the value as it is: the value did not
reach the end of the text, or nothing follows, or it is no number. -/
def Settled (value : Json) (rest more : List Char) : Prop :=
  rest = [] → more = [] ∨ ∀ spelling, value ≠ .number spelling

theorem settled_of_ne_nil {value : Json} {rest more : List Char} (goesOn : rest ≠ []) :
    Settled value rest more := fun none => absurd none goesOn

theorem exists_cons_of_readValue {steps : Nat} {text rest : List Char} {value : Json}
    (read : readValue steps text = some (value, rest)) :
    ∃ c others, skipBlanks text = c :: others := by
  cases steps with
  | zero => cases read
  | succ steps =>
    cases start : skipBlanks text with
    | nil => rw [readValue, start] at read; cases read
    | cons c others => exact ⟨c, others, rfl⟩

theorem exists_cons_of_readItems {steps : Nat} {text rest : List Char} {items : List Json}
    (read : readItems steps text = some (items, rest)) :
    ∃ c others, skipBlanks text = c :: others := by
  cases steps with
  | zero => cases read
  | succ steps =>
    rw [readItems] at read
    split at read
    · cases read
    · next item_read => exact exists_cons_of_readValue item_read

theorem exists_quote_of_readMembers {steps : Nat} {text rest : List Char}
    {members : List (String × Json)} (read : readMembers steps text = some (members, rest)) :
    ∃ others, skipBlanks text = '"' :: others := by
  cases steps with
  | zero => cases read
  | succ steps =>
    rw [readMembers] at read
    split at read
    · next others quote => exact ⟨others, quote⟩
    · cases read

mutual

/-- Reading a value from more text, with as many steps or more. -/
theorem readValue_append {steps most : Nat} {text rest more : List Char} {value : Json}
    (read : readValue steps text = some (value, rest)) (enough : steps ≤ most)
    (settled : Settled value rest more) :
    readValue most (text ++ more) = some (value, rest ++ more) := by
  cases steps with
  | zero => cases read
  | succ steps =>
    obtain ⟨most, rfl⟩ : ∃ fewer, most = fewer + 1 := Nat.exists_eq_add_one.mpr (by omega)
    have fewer : steps ≤ most := by omega
    rw [readValue] at read
    split at read
    · next start => cases read; rw [readValue, skipBlanks_append_of_cons start]; rfl
    · next start => cases read; rw [readValue, skipBlanks_append_of_cons start]; rfl
    · next start => cases read; rw [readValue, skipBlanks_append_of_cons start]; rfl
    · next start =>
      obtain ⟨⟨content, left⟩, content_read, same⟩ := Option.map_eq_some_iff.mp read
      cases same
      rw [readValue, skipBlanks_append_of_cons start]
      simp only [readString_append content_read, Option.map_some]
    · next inside start =>
      rw [readValue, skipBlanks_append_of_cons start]
      split at read
      · next closing =>
        cases read
        simp only [skipBlanks_append_of_cons closing]
      · next notEmpty =>
        obtain ⟨⟨items, left⟩, items_read, same⟩ := Option.map_eq_some_iff.mp read
        cases same
        rw [readItems_skipBlanks] at items_read
        obtain ⟨c, others, someItem⟩ := exists_cons_of_readItems items_read
        have notClosing : ∀ more', skipBlanks (inside ++ more) ≠ ']' :: more' := by
          intro more' closing
          rw [skipBlanks_append_of_cons someItem] at closing
          exact notEmpty others (by rw [someItem, (List.cons.inj closing).1])
        simp only [readItems_skipBlanks, readItems_append items_read fewer more, Option.map_some]
    · next inside start =>
      rw [readValue, skipBlanks_append_of_cons start]
      split at read
      · next closing =>
        cases read
        simp only [skipBlanks_append_of_cons closing]
      · next notEmpty =>
        obtain ⟨⟨members, left⟩, members_read, same⟩ := Option.map_eq_some_iff.mp read
        cases same
        rw [readMembers_skipBlanks] at members_read
        obtain ⟨others, someMember⟩ := exists_quote_of_readMembers members_read
        have notClosing : ∀ more', skipBlanks (inside ++ more) ≠ '}' :: more' := by
          intro more' closing
          rw [skipBlanks_append_of_cons someMember] at closing
          exact absurd (List.cons.inj closing).1 (by decide)
        simp only [readMembers_skipBlanks, readMembers_append members_read fewer more,
          Option.map_some]
    · obtain ⟨⟨spelling, left⟩, number_read, same⟩ := Option.map_eq_some_iff.mp read
      cases same
      obtain ⟨c, others, start, numeric⟩ := numeric_of_readNumber number_read
      have number_read' : readNumber (c :: (others ++ more)) = some (spelling, rest ++ more) := by
        rw [start] at number_read
        by_cases goesOn : rest = []
        · rcases settled goesOn with rfl | other
          · rw [List.append_nil, List.append_nil, number_read]
          · exact absurd rfl (other spelling)
        · exact readNumber_append number_read goesOn more
      rw [← readValue_skipBlanks, skipBlanks_append_of_cons start, readValue_numeric numeric,
        number_read']
      rfl

theorem readItems_append {steps most : Nat} {text rest : List Char} {items : List Json}
    (read : readItems steps text = some (items, rest)) (enough : steps ≤ most)
    (more : List Char) : readItems most (text ++ more) = some (items, rest ++ more) := by
  cases steps with
  | zero => cases read
  | succ steps =>
    obtain ⟨most, rfl⟩ : ∃ fewer, most = fewer + 1 := Nat.exists_eq_add_one.mpr (by omega)
    have fewer : steps ≤ most := by omega
    rw [readItems] at read
    split at read
    · cases read
    next item after item_read =>
    have goesOn : after ≠ [] := by
      rintro rfl
      cases read
    have item_read' := readValue_append item_read fewer (@settled_of_ne_nil _ _ more goesOn)
    rw [readItems, item_read']
    split at read
    · next comma =>
      obtain ⟨⟨others, left⟩, others_read, same⟩ := Option.map_eq_some_iff.mp read
      cases same
      simp only [skipBlanks_append_of_cons comma, readItems_append others_read fewer more,
        Option.map_some]
    · next closing =>
      cases read
      simp only [skipBlanks_append_of_cons closing]
    · cases read

theorem readMembers_append {steps most : Nat} {text rest : List Char}
    {members : List (String × Json)} (read : readMembers steps text = some (members, rest))
    (enough : steps ≤ most) (more : List Char) :
    readMembers most (text ++ more) = some (members, rest ++ more) := by
  cases steps with
  | zero => cases read
  | succ steps =>
    obtain ⟨most, rfl⟩ : ∃ fewer, most = fewer + 1 := Nat.exists_eq_add_one.mpr (by omega)
    have fewer : steps ≤ most := by omega
    rw [readMembers] at read
    split at read
    case h_2 => cases read
    next inside quote =>
    split at read
    case h_2 => cases read
    next name afterName name_read =>
    split at read
    case h_2 => cases read
    next afterColon colon =>
    split at read
    · cases read
    next value after value_read =>
    have goesOn : after ≠ [] := by
      rintro rfl
      cases read
    have value_read' := readValue_append value_read fewer (@settled_of_ne_nil _ _ more goesOn)
    rw [readMembers, skipBlanks_append_of_cons quote]
    simp only [readString_append name_read, skipBlanks_append_of_cons colon, value_read']
    split at read
    · next comma =>
      obtain ⟨⟨others, left⟩, others_read, same⟩ := Option.map_eq_some_iff.mp read
      cases same
      simp only [skipBlanks_append_of_cons comma, readMembers_append others_read fewer more,
        Option.map_some]
    · next closing =>
      cases read
      simp only [skipBlanks_append_of_cons closing]
    · cases read

end

/-! ### The texts of objects -/

/-- What begins with a brace is read as an object or not at all. -/
theorem object_of_readValue {steps : Nat} {text rest : List Char} {value : Json}
    (read : readValue steps ('{' :: text) = some (value, rest)) :
    ∃ members, value = .object members := by
  cases steps with
  | zero => cases read
  | succ steps =>
    rw [readValue, skipBlanks_cons (by decide)] at read
    simp only at read
    split at read
    · cases read
      exact ⟨[], rfl⟩
    · obtain ⟨⟨members, left⟩, -, same⟩ := Option.map_eq_some_iff.mp read
      cases same
      exact ⟨members, rfl⟩

theorem settled_object (members : List (String × Json)) (rest more : List Char) :
    Settled (.object members) rest more := by
  intro _
  exact Or.inr fun spelling => Json.noConfusion

theorem Spells.brace {text : List Char} {members : List (String × Json)}
    (spells : Spells text (.object members)) : ∃ inside, text = '{' :: inside := by
  cases spells with
  | noMembers => exact ⟨_, rfl⟩
  | object => exact ⟨_, rfl⟩

/-- The text of an object without its last characters is no text of a value. -/
theorem ofText?_torn {part more : List Char} {members : List (String × Json)}
    (spells : Spells (part ++ more) (.object members)) (some : part ≠ []) (notAll : more ≠ []) :
    ofText? part = none := by
  have whole : readValue (2 * (part ++ more).length + 2) (part ++ more) =
      .some (.object members, []) := by
    have read := readValue_spells spells (Nat.le_add_right _ 2) endsNumber_nil
    rwa [List.append_nil] at read
  cases partRead : readValue (2 * part.length + 2) part with
  | none => rw [ofText?, partRead]
  | some read =>
    obtain ⟨value, rest⟩ := read
    obtain ⟨inside, brace⟩ := spells.brace
    obtain - | ⟨c, others⟩ := part
    · exact absurd rfl some
    obtain rfl := (List.cons.inj brace).1
    obtain ⟨members', rfl⟩ := object_of_readValue partRead
    have enough : 2 * ('{' :: others).length + 2 ≤ 2 * ('{' :: others ++ more).length + 2 := by
      rw [List.length_append]
      omega
    have read := readValue_append partRead enough (settled_object members' rest more)
    rw [whole] at read
    have left := (Prod.mk.inj (Option.some.inj read)).2
    exact absurd (List.append_eq_nil_iff.mp left.symm).2 notAll

/-- The text of an object with more than blanks after it is no text of a value. -/
theorem ofText?_overlong {text after : List Char} {members : List (String × Json)}
    (spells : Spells text (.object members)) (notBlank : skipBlanks after ≠ []) :
    ofText? (text ++ after) = none := by
  have read := readValue_spells spells (Nat.le_refl _) endsNumber_nil
  rw [List.append_nil] at read
  have enough : 2 * text.length ≤ 2 * (text ++ after).length + 2 := by
    rw [List.length_append]
    omega
  have longer := readValue_append read enough (settled_object members [] after)
  have notEmpty : (skipBlanks after).isEmpty = false := List.isEmpty_eq_false_iff.mpr notBlank
  simp only [ofText?, longer, List.nil_append, notEmpty, Bool.false_eq_true, ↓reduceIte]

end TaskLoop.Json
