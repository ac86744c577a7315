import TaskLoop.Json.Reader
import TaskLoop.Json.Decode
import TaskLoop.Proofs.Decimal.Digits

/-!
The spelling of a number reads back as that spelling, and that of a natural number as the number.
-/

set_option autoImplicit false

namespace TaskLoop.Json

open TaskLoop.Decimal

/-- Whether the text goes on with nothing that would belong to a number before it. -/
def EndsNumber (rest : List Char) : Prop :=
  ∀ c ∈ rest.head?, c.isDigit = false ∧ c ≠ '.' ∧ c ≠ 'e' ∧ c ≠ 'E'

theorem EndsNumber.digits {rest : List Char} (ends : EndsNumber rest) : EndsDigits rest :=
  fun c member => (ends c member).1

theorem endsNumber_nil : EndsNumber [] := by
  intro c member
  cases member

theorem endsNumber_cons {c : Char} {rest : List Char} (notDigit : c.isDigit = false)
    (notPoint : c ≠ '.') (notExponent : c ≠ 'e' ∧ c ≠ 'E') : EndsNumber (c :: rest) := by
  intro first member
  cases member
  exact ⟨notDigit, notPoint, notExponent⟩

theorem readFraction_none {rest : List Char} (ends : EndsNumber rest) :
    readFraction rest = some ([], rest) := by
  cases rest with
  | nil => rfl
  | cons c rest =>
    unfold readFraction
    split
    · next first => cases first; exact absurd rfl (ends '.' rfl).2.1
    · rfl

theorem readExponent_none {rest : List Char} (ends : EndsNumber rest) :
    readExponent rest = some ([], rest) := by
  cases rest with
  | nil => rfl
  | cons c rest =>
    obtain ⟨-, -, notLower, notUpper⟩ := ends c rfl
    have none : (c == 'e' || c == 'E') = false := by
      rw [beq_eq_false_iff_ne.mpr notLower, beq_eq_false_iff_ne.mpr notUpper]
      rfl
    rw [readExponent.eq_def]
    simp only [none, Bool.false_eq_true, ↓reduceIte]

theorem readDigits_append {digits rest : List Char} (all : ∀ c ∈ digits, c.isDigit = true)
    (some : digits ≠ []) (ends : EndsDigits rest) :
    readDigits (digits ++ rest) = .some (digits, rest) := by
  have notEmpty : digits.isEmpty = false := List.isEmpty_eq_false_iff.mpr some
  simp only [readDigits, takeWhile_digits all ends, notEmpty, Bool.false_eq_true, ↓reduceIte,
    List.drop_left]

/-- A spelling on one line that is read as a number as a whole, and that no other value begins
with. -/
structure NumberText (spelling : List Char) : Prop where
  oneLine : '\n' ∉ spelling
  start : ∃ c more, spelling = c :: more ∧ (c.isDigit = true ∨ c = '-')
  read : ∀ rest, EndsNumber rest → readNumber (spelling ++ rest) = some (spelling, rest)

/-- Digits before a number that has no sign are read as a number without a sign. -/
theorem readNumber_digits {c : Char} {rest : List Char} (digit : c.isDigit = true) :
    readNumber (c :: rest) = readUnsigned (c :: rest) := by
  unfold readNumber
  split
  · next first => cases first; exact absurd digit (by decide)
  · rfl

theorem exists_cons_digitsOf (n : Nat) :
    ∃ c more, digitsOf n = c :: more ∧ c.isDigit = true := by
  have all := @isDigit_digitsOf n
  cases digits : digitsOf n with
  | nil => exact absurd digits digitsOf_ne_nil
  | cons c more =>
    rw [digits] at all
    exact ⟨c, more, rfl, all c List.mem_cons_self⟩

/-- The digits of a natural number have no leading zero, except those of nought. -/
theorem leadingZero_digitsOf (n : Nat) :
    ((digitsOf n).head? == some '0' && (digitsOf n).length != 1) = false := by
  by_cases zero : n = 0
  · subst zero
    rfl
  · rw [beq_eq_false_iff_ne.mpr (head?_digitsOf zero)]
    rfl

/-- The digits of a natural number are read as a number as a whole. -/
theorem readUnsigned_digitsOf (n : Nat) {rest : List Char} (ends : EndsNumber rest) :
    readUnsigned (digitsOf n ++ rest) = some (digitsOf n, rest) := by
  have whole : readDigits (digitsOf n ++ rest) = some (digitsOf n, rest) :=
    readDigits_append isDigit_digitsOf digitsOf_ne_nil ends.digits
  rw [readUnsigned, whole]
  simp only [Option.bind_eq_bind, Option.bind_some, leadingZero_digitsOf, Bool.false_eq_true,
    ↓reduceIte, readFraction_none ends, readExponent_none ends, List.append_nil]
  rfl

theorem newline_not_mem_digitsOf (n : Nat) : '\n' ∉ digitsOf n := by
  intro member
  exact absurd (isDigit_digitsOf _ member) (by decide)

theorem numberText_digitsOf (n : Nat) : NumberText (digitsOf n) := by
  obtain ⟨c, more, spelt, digit⟩ := exists_cons_digitsOf n
  refine ⟨newline_not_mem_digitsOf n, ⟨c, more, spelt, Or.inl digit⟩, ?_⟩
  intro rest ends
  have unsigned : readNumber (digitsOf n ++ rest) = readUnsigned (digitsOf n ++ rest) := by
    rw [spelt, List.cons_append, readNumber_digits digit]
  rw [unsigned, readUnsigned_digitsOf n ends]

/-- The digits of a natural number behind a minus sign. -/
theorem numberText_negative (n : Nat) : NumberText ('-' :: digitsOf n) := by
  refine ⟨List.not_mem_cons_of_ne_of_not_mem (by decide) (newline_not_mem_digitsOf n),
    ⟨_, _, rfl, Or.inr rfl⟩, ?_⟩
  intro rest ends
  rw [List.cons_append, readNumber, readUnsigned_digitsOf n ends]
  rfl

/-- The digits before the point of a natural number are all of them. -/
theorem parts_digitsOf (n : Nat) : (JsonNumber.parts (digitsOf n)).1 = digitsOf n := by
  have run := takeWhile_digits (@isDigit_digitsOf n) endsDigits_nil
  rwa [List.append_nil] at run

theorem unsigned_digitsOf (n : Nat) : ((digitsOf n).head? == some '-') = false := by
  obtain ⟨c, more, spelt, digit⟩ := exists_cons_digitsOf n
  rw [spelt, beq_eq_false_iff_ne]
  intro first
  cases first
  exact absurd digit (by decide)

theorem ofSpelling?_digitsOf {n : Nat} (fits : n < powerOfTwo 64) :
    JsonNumber.ofSpelling? (digitsOf n) = some (.natural n) := by
  have all : (digitsOf n).all Char.isDigit = true := List.all_eq_true.mpr isDigit_digitsOf
  simp only [JsonNumber.ofSpelling?, unsigned_digitsOf, Bool.false_eq_true, ↓reduceIte, all,
    parts_digitsOf, ofDigits_digitsOf, fits]

/-- A number that does not fit is none that is kept as a natural one. -/
theorem not_natural_digitsOf {n value : Nat} (large : ¬ n < powerOfTwo 64) :
    JsonNumber.ofSpelling? (digitsOf n) ≠ some (.natural value) := by
  have all : (digitsOf n).all Char.isDigit = true := List.all_eq_true.mpr isDigit_digitsOf
  simp only [JsonNumber.ofSpelling?, unsigned_digitsOf, Bool.false_eq_true, ↓reduceIte, all,
    parts_digitsOf, ofDigits_digitsOf, large]
  split
  · exact fun same => JsonNumber.noConfusion (Option.some.inj same)
  · exact nofun

theorem ofSpelling?_negative {n : Nat} (some : 0 < n) (fits : n ≤ powerOfTwo 63) :
    JsonNumber.ofSpelling? ('-' :: digitsOf n) = .some (.negative n) := by
  have all : (digitsOf n).all Char.isDigit = true := List.all_eq_true.mpr isDigit_digitsOf
  have inside : (n == 0 || decide (powerOfTwo 63 < n)) = false := by
    rw [beq_eq_false_iff_ne.mpr (Nat.ne_of_gt some), decide_eq_false (Nat.not_lt.mpr fits)]
    rfl
  simp only [JsonNumber.ofSpelling?, List.head?_cons, BEq.rfl, ↓reduceIte, List.drop_succ_cons,
    List.drop_zero, all, parts_digitsOf, ofDigits_digitsOf, inside, Bool.false_eq_true]

/-- A natural number below a bound of at most 64 bits reads back. -/
theorem natBelow?_ofNat {bound n : Nat} (fits : n < bound) (most : bound ≤ powerOfTwo 64) :
    natBelow? bound (.ofNat n) = some n := by
  rw [ofNat, natBelow?, ofSpelling?_digitsOf (Nat.lt_of_lt_of_le fits most)]
  exact if_pos fits

theorem nat32?_ofNat {n : Nat} (fits : n < powerOfTwo 32) : nat32? (.ofNat n) = some n :=
  natBelow?_ofNat fits (by decide)

theorem nat64?_ofNat {n : Nat} (fits : n < powerOfTwo 64) : nat64? (.ofNat n) = some n :=
  natBelow?_ofNat fits (Nat.le_refl _)

end TaskLoop.Json
