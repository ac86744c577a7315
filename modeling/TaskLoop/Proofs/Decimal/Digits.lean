import TaskLoop.Timestamp

/-!
The digits of a natural number: what is written reads back, and where a run of digits ends.
-/

set_option autoImplicit false

namespace TaskLoop.Decimal

/-- Whether the text goes on with no digit. -/
def EndsDigits (rest : List Char) : Prop := ∀ c ∈ rest.head?, c.isDigit = false

theorem endsDigits_nil : EndsDigits [] := by
  intro c member
  cases member

theorem endsDigits_cons {c : Char} {rest : List Char} (other : c.isDigit = false) :
    EndsDigits (c :: rest) := by
  intro first member
  cases member
  exact other

theorem takeWhile_endsDigits {rest : List Char} (ends : EndsDigits rest) :
    rest.takeWhile Char.isDigit = [] := by
  cases rest with
  | nil => rfl
  | cons c rest => rw [List.takeWhile_cons, ends c rfl]; rfl

theorem takeWhile_digits {digits rest : List Char} (all : ∀ c ∈ digits, c.isDigit = true)
    (ends : EndsDigits rest) : (digits ++ rest).takeWhile Char.isDigit = digits := by
  rw [List.takeWhile_append_of_pos all, takeWhile_endsDigits ends, List.append_nil]

theorem ofDigits_eq_ofDigitChars (digits : List Char) :
    ofDigits digits = Nat.ofDigitChars 10 digits 0 := by
  rw [Nat.ofDigitChars_eq_foldl, ofDigits]
  congr 1
  funext value c
  rw [Nat.mul_comm]
  rfl

theorem ofDigits_append (left right : List Char) :
    ofDigits (left ++ right) = ofDigits left * powerOfTen right.length + ofDigits right := by
  simp only [ofDigits_eq_ofDigitChars]
  rw [Nat.ofDigitChars_append, Nat.ofDigitChars_eq_ofDigitChars_zero, Nat.mul_comm]
  rfl

theorem ofDigits_cons (c : Char) (digits : List Char) :
    ofDigits (c :: digits) = digitValue c * powerOfTen digits.length + ofDigits digits := by
  have split := ofDigits_append [c] digits
  rw [List.singleton_append] at split
  rw [split]
  simp only [ofDigits, List.foldl_cons, List.foldl_nil, Nat.zero_mul, Nat.zero_add]

theorem digitValue_le {c : Char} (digit : c.isDigit = true) : digitValue c ≤ 9 := by
  simp only [Char.isDigit, Bool.and_eq_true, decide_eq_true_eq, UInt32.le_iff_toNat_le] at digit
  have upper : c.toNat ≤ 57 := digit.2
  rw [digitValue]
  omega

theorem ofDigits_lt {digits : List Char} (all : ∀ c ∈ digits, c.isDigit = true) :
    ofDigits digits < powerOfTen digits.length := by
  induction digits with
  | nil => decide
  | cons c digits ih =>
    obtain ⟨first, others⟩ := List.forall_mem_cons.mp all
    have rest := ih others
    have nine := Nat.mul_le_mul_right (powerOfTen digits.length) (digitValue_le first)
    rw [ofDigits_cons, List.length_cons]
    simp only [powerOfTen, Nat.pow_eq, Nat.pow_succ] at rest nine ⊢
    omega

theorem ofDigits_zeros (count : Nat) (digits : List Char) :
    ofDigits (List.replicate count '0' ++ digits) = ofDigits digits := by
  rw [ofDigits_eq_ofDigitChars, Nat.ofDigitChars_append, Nat.ofDigitChars_replicate_zero,
    Nat.mul_zero, ofDigits_eq_ofDigitChars]

theorem ofDigits_digitsOf (n : Nat) : ofDigits (digitsOf n) = n := by
  rw [ofDigits_eq_ofDigitChars, digitsOf, Nat.ofDigitChars_ten_toDigits]

theorem isDigit_digitsOf {n : Nat} : ∀ c ∈ digitsOf n, c.isDigit = true := by
  intro c member
  exact Nat.isDigit_of_mem_toDigits (by decide) (by decide) member

theorem digitsOf_ne_nil {n : Nat} : digitsOf n ≠ [] := Nat.toDigits_ne_nil

theorem length_digitsOf_le {n count : Nat} (some : 0 < count) :
    (digitsOf n).length ≤ count ↔ n < powerOfTen count :=
  Nat.length_toDigits_le_iff (by decide) some

/-- Only nought is written with a leading zero. -/
theorem head?_digitsOf {n : Nat} (positive : n ≠ 0) : (digitsOf n).head? ≠ some '0' := by
  induction n using Nat.strongRecOn with
  | ind n ih =>
    rw [digitsOf, Nat.toDigits_eq_if (by decide)]
    split
    · next small =>
      intro first
      have zero : n.digitChar = '0' := Option.some.inj first
      have digit : n.digitChar.toNat - 48 = n := Nat.toNat_digitChar_sub_48_of_lt_ten small
      rw [zero] at digit
      exact positive digit.symm
    · next large =>
      have fewer := ih (n / 10) (by omega) (by omega)
      rw [List.head?_append]
      cases head : (Nat.toDigits 10 (n / 10)).head? with
      | none => exact absurd (List.head?_eq_none_iff.mp head) Nat.toDigits_ne_nil
      | some c =>
        rw [digitsOf, head] at fewer
        exact fewer

end TaskLoop.Decimal

namespace TaskLoop.Timestamp

open TaskLoop.Decimal

theorem ofDigits_padded (width n : Nat) : ofDigits (padded width n) = n := by
  rw [padded, ofDigits_zeros, ofDigits_digitsOf]

theorem isDigit_padded {width n : Nat} : ∀ c ∈ padded width n, c.isDigit = true := by
  intro c member
  rcases List.mem_append.mp member with zero | digit
  · rw [(List.mem_replicate.mp zero).2]
    decide
  · exact isDigit_digitsOf c digit

theorem length_padded {width n : Nat} (fits : n < powerOfTen width) (some : 0 < width) :
    (padded width n).length = width := by
  have few := (length_digitsOf_le some).mpr fits
  rw [padded, List.length_append, List.length_replicate]
  omega

theorem padded_ne_nil {width n : Nat} : padded width n ≠ [] := by
  intro none
  exact digitsOf_ne_nil (List.append_eq_nil_iff.mp none).2

end TaskLoop.Timestamp
