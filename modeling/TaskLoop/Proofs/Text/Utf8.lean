import TaskLoop.Text.Utf8

/-!
Reading UTF-8 gives back the text that was written. Bytes cut off inside a character are no text.
-/

set_option autoImplicit false

namespace TaskLoop.Text.Utf8

/-- How a character is written: a lead byte and the bytes it owes. They are read as the character
whatever follows, and if some of them are cut off as no character. -/
structure Encodes (c : Char) (lead : UInt8) (owed : List UInt8) : Prop where
  written : String.utf8EncodeChar c = lead :: owed
  read : ∃ low high point, lead? lead.toNat = some (owed.length, low, high, point) ∧
    (∀ rest, readOwed owed.length low high point (owed ++ rest) = (some c.toNat, rest)) ∧
    ∀ count < owed.length, readOwed owed.length low high point (owed.take count) = (none, [])

theorem toNat_ofNat_lt {n : Nat} (small : n < 256) : (UInt8.ofNat n).toNat = n := by
  rw [UInt8.toNat_ofNat']
  omega

theorem lead?_one {n : Nat} (small : n < 0x80) : lead? n = some (0, 0x80, 0xBF, n) := by
  simp only [lead?, small, ↓reduceIte]

theorem lead?_two {n : Nat} (least : 0xC2 ≤ n) (most : n < 0xE0) :
    lead? n = some (1, 0x80, 0xBF, n - 0xC0) := by
  have first : ¬ n < 0x80 := by omega
  have second : ¬ n < 0xC2 := by omega
  simp only [lead?, first, second, most, ↓reduceIte]

/-- Three bytes: the first range leaves out what two bytes hold and the surrogates. -/
theorem lead?_three {n : Nat} (least : 0xE0 ≤ n) (most : n < 0xF0) :
    lead? n = some (2, if n = 0xE0 then 0xA0 else 0x80, if n = 0xED then 0x9F else 0xBF,
      n - 0xE0) := by
  have first : ¬ n < 0x80 := by omega
  have second : ¬ n < 0xC2 := by omega
  have third : ¬ n < 0xE0 := by omega
  simp only [lead?, first, second, third, most, ↓reduceIte, beq_iff_eq]
  by_cases isFirst : n = 0xE0
  · subst isFirst
    rfl
  · by_cases isSurrogate : n = 0xED
    · subst isSurrogate
      rfl
    · simp only [isFirst, isSurrogate, ↓reduceIte]

/-- Four bytes: the first range leaves out what three bytes hold and what is no code point. -/
theorem lead?_four {n : Nat} (least : 0xF0 ≤ n) (most : n < 0xF5) :
    lead? n = some (3, if n = 0xF0 then 0x90 else 0x80, if n = 0xF4 then 0x8F else 0xBF,
      n - 0xF0) := by
  have first : ¬ n < 0x80 := by omega
  have second : ¬ n < 0xC2 := by omega
  have third : ¬ n < 0xE0 := by omega
  have fourth : ¬ n < 0xF0 := by omega
  have apart : n ≠ 0xE0 ∧ n ≠ 0xED := by omega
  simp only [lead?, first, second, third, fourth, apart.1, apart.2, ↓reduceIte, beq_iff_eq]
  by_cases isFirst : n = 0xF0
  · subst isFirst
    rfl
  · by_cases isLast : n = 0xF4
    · subst isLast
      rfl
    · have inner : n < 0xF4 := by omega
      simp only [isFirst, isLast, inner, ↓reduceIte]

theorem readOwed_cons {owed low high point : Nat} {byte : UInt8} {rest : List UInt8}
    (least : low ≤ byte.toNat) (most : byte.toNat ≤ high) :
    readOwed (owed + 1) low high point (byte :: rest) =
      readOwed owed 0x80 0xBF (point * 64 + (byte.toNat - 0x80)) rest := by
  simp only [readOwed, least, most, decide_true, Bool.and_self, ↓reduceIte]

theorem readOwed_tail {owed point n : Nat} {rest : List UInt8} :
    readOwed (owed + 1) 0x80 0xBF point (UInt8.ofNat (n % 0x40 + 0x80) :: rest) =
      readOwed owed 0x80 0xBF (point * 64 + n % 0x40) rest := by
  have byte : (UInt8.ofNat (n % 0x40 + 0x80)).toNat = n % 0x40 + 0x80 := toNat_ofNat_lt (by omega)
  rw [readOwed_cons (by omega) (by omega), byte, Nat.add_sub_cancel]

theorem utf8EncodeChar_one {c : Char} (most : c.toNat ≤ 0x7F) :
    String.utf8EncodeChar c = [UInt8.ofNat c.toNat] := by
  simp only [String.utf8EncodeChar]
  exact if_pos most

theorem utf8EncodeChar_two {c : Char} (least : 0x7F < c.toNat) (most : c.toNat ≤ 0x7FF) :
    String.utf8EncodeChar c =
      [UInt8.ofNat (c.toNat / 64 % 0x20 + 0xC0), UInt8.ofNat (c.toNat % 0x40 + 0x80)] := by
  have first : ¬ c.val.toNat ≤ 0x7F := Nat.not_le_of_lt least
  simp only [String.utf8EncodeChar]
  rw [if_neg first]
  exact if_pos most

theorem utf8EncodeChar_three {c : Char} (least : 0x7FF < c.toNat) (most : c.toNat ≤ 0xFFFF) :
    String.utf8EncodeChar c =
      [UInt8.ofNat (c.toNat / 4096 % 0x10 + 0xE0), UInt8.ofNat (c.toNat / 64 % 0x40 + 0x80),
        UInt8.ofNat (c.toNat % 0x40 + 0x80)] := by
  have second : ¬ c.val.toNat ≤ 0x7FF := Nat.not_le_of_lt least
  have first : ¬ c.val.toNat ≤ 0x7F := by omega
  simp only [String.utf8EncodeChar]
  rw [if_neg first, if_neg second]
  exact if_pos most

theorem utf8EncodeChar_four {c : Char} (least : 0xFFFF < c.toNat) :
    String.utf8EncodeChar c =
      [UInt8.ofNat (c.toNat / 262144 % 0x08 + 0xF0), UInt8.ofNat (c.toNat / 4096 % 0x40 + 0x80),
        UInt8.ofNat (c.toNat / 64 % 0x40 + 0x80), UInt8.ofNat (c.toNat % 0x40 + 0x80)] := by
  have third : ¬ c.val.toNat ≤ 0xFFFF := Nat.not_le_of_lt least
  have second : ¬ c.val.toNat ≤ 0x7FF := by omega
  have first : ¬ c.val.toNat ≤ 0x7F := by omega
  simp only [String.utf8EncodeChar]
  rw [if_neg first, if_neg second]
  exact if_neg third

/-- The surrogates are no characters. -/
theorem toNat_scalar (c : Char) :
    c.toNat < 0xD800 ∨ 0xDFFF < c.toNat ∧ c.toNat < 0x110000 := c.valid

theorem encodes_one {c : Char} (most : c.toNat ≤ 0x7F) :
    Encodes c (UInt8.ofNat c.toNat) [] := by
  have byte : (UInt8.ofNat c.toNat).toNat = c.toNat := toNat_ofNat_lt (by omega)
  refine ⟨utf8EncodeChar_one most, 0x80, 0xBF, c.toNat, ?_, fun rest => rfl,
    fun count none => by cases none⟩
  rw [byte, lead?_one (by omega)]
  rfl

theorem encodes_two {c : Char} (least : 0x7F < c.toNat) (most : c.toNat ≤ 0x7FF) :
    Encodes c (UInt8.ofNat (c.toNat / 64 % 0x20 + 0xC0)) [UInt8.ofNat (c.toNat % 0x40 + 0x80)] := by
  have byte : (UInt8.ofNat (c.toNat / 64 % 0x20 + 0xC0)).toNat = c.toNat / 64 % 0x20 + 0xC0 :=
    toNat_ofNat_lt (by omega)
  refine ⟨utf8EncodeChar_two least most, 0x80, 0xBF, c.toNat / 64 % 0x20, ?_, fun rest => ?_,
    fun count few => ?_⟩
  · rw [byte, lead?_two (by omega) (by omega), Nat.add_sub_cancel]
    rfl
  · have sum : c.toNat / 64 % 0x20 * 64 + c.toNat % 0x40 = c.toNat := by omega
    rw [List.length_singleton, List.singleton_append, readOwed_tail, sum]
    rfl
  · have none : count = 0 := by rw [List.length_singleton] at few; omega
    subst none
    rfl

theorem encodes_three {c : Char} (least : 0x7FF < c.toNat) (most : c.toNat ≤ 0xFFFF) :
    Encodes c (UInt8.ofNat (c.toNat / 4096 % 0x10 + 0xE0))
      [UInt8.ofNat (c.toNat / 64 % 0x40 + 0x80), UInt8.ofNat (c.toNat % 0x40 + 0x80)] := by
  have byte : (UInt8.ofNat (c.toNat / 4096 % 0x10 + 0xE0)).toNat = c.toNat / 4096 % 0x10 + 0xE0 :=
    toNat_ofNat_lt (by omega)
  have second : (UInt8.ofNat (c.toNat / 64 % 0x40 + 0x80)).toNat = c.toNat / 64 % 0x40 + 0x80 :=
    toNat_ofNat_lt (by omega)
  have scalar := toNat_scalar c
  have low : (if c.toNat / 4096 % 0x10 + 0xE0 = 0xE0 then 0xA0 else 0x80) ≤
      (UInt8.ofNat (c.toNat / 64 % 0x40 + 0x80)).toNat := by
    split <;> omega
  have high : (UInt8.ofNat (c.toNat / 64 % 0x40 + 0x80)).toNat ≤
      if c.toNat / 4096 % 0x10 + 0xE0 = 0xED then 0x9F else 0xBF := by
    split <;> omega
  refine ⟨utf8EncodeChar_three least most,
    if c.toNat / 4096 % 0x10 + 0xE0 = 0xE0 then 0xA0 else 0x80,
    if c.toNat / 4096 % 0x10 + 0xE0 = 0xED then 0x9F else 0xBF,
    c.toNat / 4096 % 0x10, ?_, fun rest => ?_, fun count few => ?_⟩
  · rw [byte, lead?_three (by omega) (by omega), Nat.add_sub_cancel]
    rfl
  · have sum : (c.toNat / 4096 % 0x10 * 64 + c.toNat / 64 % 0x40) * 64 + c.toNat % 0x40 =
        c.toNat := by
      omega
    simp only [List.length_cons, List.length_nil, List.cons_append, List.nil_append]
    rw [readOwed_cons low high, second, Nat.add_sub_cancel, readOwed_tail, sum]
    rfl
  · match count, few with
    | 0, _ => rfl
    | 1, _ =>
      simp only [List.length_cons, List.length_nil, List.take_succ_cons, List.take_zero]
      rw [readOwed_cons low high]
      rfl

theorem encodes_four {c : Char} (least : 0xFFFF < c.toNat) :
    Encodes c (UInt8.ofNat (c.toNat / 262144 % 0x08 + 0xF0))
      [UInt8.ofNat (c.toNat / 4096 % 0x40 + 0x80), UInt8.ofNat (c.toNat / 64 % 0x40 + 0x80),
        UInt8.ofNat (c.toNat % 0x40 + 0x80)] := by
  have byte : (UInt8.ofNat (c.toNat / 262144 % 0x08 + 0xF0)).toNat =
      c.toNat / 262144 % 0x08 + 0xF0 := toNat_ofNat_lt (by omega)
  have second : (UInt8.ofNat (c.toNat / 4096 % 0x40 + 0x80)).toNat =
      c.toNat / 4096 % 0x40 + 0x80 := toNat_ofNat_lt (by omega)
  have scalar := toNat_scalar c
  have low : (if c.toNat / 262144 % 0x08 + 0xF0 = 0xF0 then 0x90 else 0x80) ≤
      (UInt8.ofNat (c.toNat / 4096 % 0x40 + 0x80)).toNat := by
    split <;> omega
  have high : (UInt8.ofNat (c.toNat / 4096 % 0x40 + 0x80)).toNat ≤
      if c.toNat / 262144 % 0x08 + 0xF0 = 0xF4 then 0x8F else 0xBF := by
    split <;> omega
  refine ⟨utf8EncodeChar_four least,
    if c.toNat / 262144 % 0x08 + 0xF0 = 0xF0 then 0x90 else 0x80,
    if c.toNat / 262144 % 0x08 + 0xF0 = 0xF4 then 0x8F else 0xBF,
    c.toNat / 262144 % 0x08, ?_, fun rest => ?_, fun count few => ?_⟩
  · rw [byte, lead?_four (by omega) (by omega), Nat.add_sub_cancel]
    rfl
  · have sum : ((c.toNat / 262144 % 0x08 * 64 + c.toNat / 4096 % 0x40) * 64 +
        c.toNat / 64 % 0x40) * 64 + c.toNat % 0x40 = c.toNat := by
      omega
    simp only [List.length_cons, List.length_nil, List.cons_append, List.nil_append]
    rw [readOwed_cons low high, second, Nat.add_sub_cancel, readOwed_tail, readOwed_tail, sum]
    rfl
  · simp only [List.length_cons, List.length_nil] at few ⊢
    match count, few with
    | 0, _ => rfl
    | 1, _ =>
      simp only [List.take_succ_cons, List.take_zero]
      rw [readOwed_cons low high]
      rfl
    | 2, _ =>
      simp only [List.take_succ_cons, List.take_zero]
      rw [readOwed_cons low high, readOwed_tail]
      rfl

/-- Every character is written as a lead byte and the bytes it owes. -/
theorem encodes (c : Char) : ∃ lead owed, Encodes c lead owed := by
  by_cases one : c.toNat ≤ 0x7F
  · exact ⟨_, _, encodes_one one⟩
  by_cases two : c.toNat ≤ 0x7FF
  · exact ⟨_, _, encodes_two (by omega) two⟩
  by_cases three : c.toNat ≤ 0xFFFF
  · exact ⟨_, _, encodes_three (by omega) three⟩
  · exact ⟨_, _, encodes_four (by omega)⟩

theorem encode_cons (c : Char) (text : List Char) :
    encode (c :: text) = String.utf8EncodeChar c ++ encode text := List.flatMap_cons

theorem encode_append (left right : List Char) :
    encode (left ++ right) = encode left ++ encode right := List.flatMap_append

/-- A byte below 0x80 stands for the character it is the number of. -/
theorem eq_of_mem_utf8EncodeChar {c : Char} {byte : UInt8} (small : byte.toNat < 0x80)
    (member : byte ∈ String.utf8EncodeChar c) : c.toNat = byte.toNat := by
  have big {n k : Nat} (least : 0x80 ≤ k) (most : n + k < 256) (same : byte = UInt8.ofNat (n + k)) :
      c.toNat = byte.toNat := by
    rw [same, toNat_ofNat_lt most] at small
    omega
  by_cases one : c.toNat ≤ 0x7F
  · rw [utf8EncodeChar_one one, List.mem_singleton] at member
    rw [member, toNat_ofNat_lt (by omega)]
  by_cases two : c.toNat ≤ 0x7FF
  · rw [utf8EncodeChar_two (by omega) two] at member
    simp only [List.mem_cons, List.not_mem_nil, or_false] at member
    rcases member with same | same
    · exact big (by omega) (by omega) same
    · exact big (by omega) (by omega) same
  by_cases three : c.toNat ≤ 0xFFFF
  · rw [utf8EncodeChar_three (by omega) three] at member
    simp only [List.mem_cons, List.not_mem_nil, or_false] at member
    rcases member with same | same | same
    · exact big (by omega) (by omega) same
    · exact big (by omega) (by omega) same
    · exact big (by omega) (by omega) same
  · rw [utf8EncodeChar_four (by omega)] at member
    simp only [List.mem_cons, List.not_mem_nil, or_false] at member
    rcases member with same | same | same | same
    · exact big (by omega) (by omega) same
    · exact big (by omega) (by omega) same
    · exact big (by omega) (by omega) same
    · exact big (by omega) (by omega) same

theorem newline_not_mem_encode {text : List Char} (oneLine : '\n' ∉ text) : 10 ∉ encode text := by
  intro member
  obtain ⟨c, isChar, inside⟩ := List.mem_flatMap.mp member
  have same : c = '\n' := Char.toNat_inj.mp (eq_of_mem_utf8EncodeChar (by decide) inside)
  rw [same] at isChar
  exact oneLine isChar

theorem decodeParts_nil : decodeParts [] = [] := by
  rw [decodeParts]

theorem decodeParts_cons (byte : UInt8) (rest : List UInt8) :
    decodeParts (byte :: rest) = (readChar byte rest).1 :: decodeParts (readChar byte rest).2 := by
  rw [decodeParts]

theorem readChar_owed {c : Char} {lead : UInt8} {owed : List UInt8} (wrote : Encodes c lead owed)
    (rest : List UInt8) : readChar lead (owed ++ rest) = (some c, rest) := by
  obtain ⟨low, high, point, start, whole, cut⟩ := wrote.read
  simp only [readChar, start, whole, Option.map_some, Char.ofNat_toNat]

theorem readChar_cut {c : Char} {lead : UInt8} {owed : List UInt8} (wrote : Encodes c lead owed)
    {count : Nat} (few : count < owed.length) : readChar lead (owed.take count) = (none, []) := by
  obtain ⟨low, high, point, start, whole, cut⟩ := wrote.read
  simp only [readChar, start, cut count few, Option.map_none]

theorem decodeParts_encode (text : List Char) (rest : List UInt8) :
    decodeParts (encode text ++ rest) = text.map some ++ decodeParts rest := by
  induction text with
  | nil => rfl
  | cons c text ih =>
    obtain ⟨lead, owed, wrote⟩ := encodes c
    rw [encode_cons, wrote.written, List.cons_append, List.cons_append, List.append_assoc,
      decodeParts_cons, readChar_owed wrote, ih]
    rfl

theorem mapM_known (text : List Char) (parts : List (Option Char)) :
    (text.map some ++ parts).mapM id = (parts.mapM id).map (text ++ ·) := by
  induction text with
  | nil => simp only [List.map_nil, List.nil_append, Option.map_id_fun', id]
  | cons c text ih =>
    simp only [List.map_cons, List.cons_append, List.mapM_cons, ih]
    cases parts.mapM id <;> rfl

/-- Reading gives back the text that was written. -/
theorem decode?_encode (text : List Char) : decode? (encode text) = some text := by
  have parts := decodeParts_encode text []
  rw [List.append_nil, decodeParts_nil] at parts
  rw [decode?, parts, mapM_known]
  exact congrArg some (List.append_nil text)

/-- Some bytes of a character, but not all of them. -/
structure CutOf (part : List UInt8) (c : Char) : Prop where
  start : part <+: String.utf8EncodeChar c
  some : part ≠ []
  notAll : part ≠ String.utf8EncodeChar c

/-- A text that ends inside a character is no text. -/
theorem decode?_cut {part : List UInt8} {c : Char} (cut : CutOf part c) (text : List Char) :
    decode? (encode text ++ part) = none := by
  obtain ⟨lead, owed, wrote⟩ := encodes c
  have start := cut.start
  have notAll := cut.notAll
  rw [wrote.written] at start notAll
  obtain - | ⟨first, more⟩ := part
  · exact absurd rfl cut.some
  obtain ⟨rfl, starts⟩ := List.cons_prefix_cons.mp start
  have taken := List.prefix_iff_eq_take.mp starts
  have few : more.length < owed.length := by
    have atMost := starts.length_le
    have unequal : more.length ≠ owed.length := by
      intro full
      exact notAll (by rw [starts.eq_of_length full])
    omega
  have none : decodeParts (first :: more) = [Option.none] := by
    rw [decodeParts_cons, taken, readChar_cut wrote few, decodeParts_nil]
  rw [decode?, decodeParts_encode, none, mapM_known]
  rfl

/-- The first bytes of a text are the first characters of it, with or without a part of the
next one. -/
theorem prefix_encode {text : List Char} {bytes : List UInt8} (start : bytes <+: encode text) :
    ∃ before after, text = before ++ after ∧
      (bytes = encode before ∨
        ∃ c rest part, after = c :: rest ∧ CutOf part c ∧ bytes = encode before ++ part) := by
  induction text generalizing bytes with
  | nil => exact ⟨[], [], rfl, Or.inl (List.prefix_nil.mp start)⟩
  | cons c text ih =>
    rw [encode_cons] at start
    by_cases none : bytes = []
    · exact ⟨[], c :: text, rfl, Or.inl none⟩
    by_cases whole : String.utf8EncodeChar c <+: bytes
    · obtain ⟨others, rfl⟩ := whole
      obtain ⟨before, after, rfl, ends⟩ := ih ((List.prefix_append_right_inj _).mp start)
      refine ⟨c :: before, after, rfl, ?_⟩
      rcases ends with rfl | ⟨next, rest, part, rfl, cut, rfl⟩
      · exact Or.inl (encode_cons c before).symm
      · exact Or.inr ⟨next, rest, part, rfl, cut, by rw [encode_cons, List.append_assoc]⟩
    · have short : bytes <+: String.utf8EncodeChar c :=
        (List.prefix_or_prefix_of_prefix start (List.prefix_append _ _)).resolve_right whole
      have notAll : bytes ≠ String.utf8EncodeChar c := by
        rintro rfl
        exact whole List.prefix_rfl
      exact ⟨[], c :: text, rfl, Or.inr ⟨c, text, bytes, rfl, ⟨short, none, notAll⟩, rfl⟩⟩

end TaskLoop.Text.Utf8
