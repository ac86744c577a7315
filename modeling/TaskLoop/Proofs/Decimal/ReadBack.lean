import TaskLoop.Decimal.Read
import TaskLoop.Proofs.Decimal.Shortest

/-!
A decimal near to a number is read as that number.
-/

set_option autoImplicit false

namespace TaskLoop.Decimal

/-! ### Runs of digits -/

theorem ofDigits_dropZeros (digits : List Char) :
    ofDigits (digits.dropWhile (· == '0')) = ofDigits digits := by
  induction digits with
  | nil => rfl
  | cons c digits ih =>
    rw [List.dropWhile_cons]
    split
    · rename_i zero
      rw [beq_iff_eq] at zero
      subst zero
      rw [ih, ofDigits_cons]
      change _ = 0 * _ + _
      rw [Nat.zero_mul, Nat.zero_add]
    · rfl

/-- Digits without leading zeros count the size of their number. -/
theorem le_ofDigits {digits : List Char} (all : ∀ c ∈ digits, c.isDigit = true)
    (some : ofDigits digits ≠ 0) :
    powerOfTen ((digits.dropWhile (· == '0')).length - 1) ≤ ofDigits digits := by
  rw [← ofDigits_dropZeros] at some ⊢
  have allLeft : ∀ c ∈ digits.dropWhile (· == '0'), c.isDigit = true :=
    fun c member => all c ((List.dropWhile_suffix _).subset member)
  cases left : digits.dropWhile (· == '0') with
  | nil =>
    rw [left] at some
    exact absurd rfl some
  | cons c rest =>
    rw [left] at allLeft
    have notZero : c ≠ '0' := by
      have first := List.head?_dropWhile_not (· == '0') digits
      rw [left] at first
      exact beq_eq_false_iff_ne.mp first
    have atLeast : 1 ≤ digitValue c := by
      have digit := allLeft c List.mem_cons_self
      simp only [Char.isDigit, Bool.and_eq_true, decide_eq_true_eq, UInt32.le_iff_toNat_le] at digit
      have lower : 48 ≤ c.toNat := digit.1
      have other : c.toNat ≠ 48 := fun same => notZero (Char.toNat_inj.mp same)
      rw [digitValue]
      omega
    have whole := Nat.mul_le_mul_right (powerOfTen rest.length) atLeast
    rw [ofDigits_cons, List.length_cons, Nat.add_sub_cancel]
    omega

/-! ### Nearness and size -/

theorem Near.positive {mantissa : Nat} {exponent : Int} {fraction : ℚ}
    (near : Near mantissa exponent fraction) (some : 0 < mantissa) : 0 < fraction := by
  have unit : (0 : ℚ) < 2 ^ exponent := by positivity
  have least : (1 : ℚ) ≤ mantissa := by exact_mod_cast some
  have half := near.half
  nlinarith

theorem two_zpow_le_ten_zpow (n : Nat) : (2 : ℚ) ^ (3 * n : Int) ≤ 10 ^ (n : Int) := by
  have whole := two_pow_le_ten_pow n
  have cast : (3 * n : Int) = ((3 * n : Nat) : Int) := by push_cast; rfl
  rw [cast, zpow_natCast, zpow_natCast]
  exact_mod_cast whole

/-- A fraction near to a number is not too small for its decimals. -/
theorem Near.not_small {mantissa : Nat} {exponent : Int} {fraction : ℚ}
    (near : Near mantissa exponent fraction) (representable : Representable mantissa exponent)
    (some : 0 < mantissa) : (10 : ℚ) ^ (-400 : Int) < fraction := by
  obtain ⟨n, enough, few⟩ : ∃ n : Nat, 359 ≤ n ∧ n < 400 := ⟨359, by decide, by decide⟩
  have least : (1 : ℚ) ≤ mantissa := by exact_mod_cast some
  have unit : (2 : ℚ) ^ (-(3 * n : Int) + 1) ≤ 2 ^ exponent :=
    zpow_le_zpow_right₀ (by norm_num) (by have := representable.least; omega)
  rw [zpow_add_one₀ (by norm_num)] at unit
  have inverse : ((10 : ℚ) ^ (n : Int))⁻¹ ≤ (2 ^ (3 * n : Int))⁻¹ :=
    inv_anti₀ (by positivity) (two_zpow_le_ten_zpow n)
  rw [← zpow_neg, ← zpow_neg] at inverse
  have below : (10 : ℚ) ^ (-400 : Int) < 10 ^ (-(n : Int)) :=
    zpow_lt_zpow_right₀ (by norm_num) (by omega)
  have half := near.half
  have positive : (0 : ℚ) < 2 ^ exponent := by positivity
  nlinarith

/-- A fraction near to a number is not too large for its decimals. -/
theorem Near.not_large {mantissa : Nat} {exponent : Int} {fraction : ℚ}
    (near : Near mantissa exponent fraction) (representable : Representable mantissa exponent) :
    fraction < (10 : ℚ) ^ (400 : Int) := by
  obtain ⟨n, enough, few⟩ : ∃ n : Nat, 359 ≤ n ∧ n < 400 := ⟨359, by decide, by decide⟩
  have short : (mantissa : ℚ) + 1 ≤ 2 ^ (53 : Int) := by
    have short : mantissa + 1 ≤ 2 ^ 53 := representable.short
    have shortRat : (mantissa : ℚ) + 1 ≤ 2 ^ 53 := by exact_mod_cast short
    exact shortRat
  have positive : (0 : ℚ) < 2 ^ exponent := by positivity
  calc fraction ≤ (mantissa + 1 / 2) * 2 ^ exponent := near.high
    _ ≤ 2 ^ (53 : Int) * 2 ^ exponent := by gcongr; linarith
    _ = 2 ^ (53 + exponent) := (zpow_add₀ (by norm_num) _ _).symm
    _ ≤ 2 ^ (3 * n : Int) :=
      zpow_le_zpow_right₀ (by norm_num) (by have := representable.most; omega)
    _ ≤ 10 ^ (n : Int) := two_zpow_le_ten_zpow n
    _ < 10 ^ (400 : Int) := zpow_lt_zpow_right₀ (by norm_num) (by omega)

/-! ### Reading -/

/-- A fraction near to a number is read as that number. -/
theorem nearest_eq {x : Float} {negative : Bool} {mantissa : Nat} {exponent : Int}
    (finite : Binary.ofFloat x = .finite negative mantissa exponent) {numerator denominator : Nat}
    (some : 0 < mantissa) (positive : 0 < denominator)
    (near : Near mantissa exponent (numerator / denominator)) :
    nearest negative numerator denominator = x := by
  obtain ⟨representable, -⟩ := toBits_of_finite finite
  have nonzero : numerator ≠ 0 := by
    rintro rfl
    have := near.positive some
    rw [Nat.cast_zero, zero_div] at this
    exact absurd this (lt_irrefl 0)
  rw [nearest, nearestPattern_eq nonzero positive representable near, ofBits_pattern finite]

/-- A decimal near to a number is read as that number. -/
theorem ofScaled_eq {x : Float} {negative : Bool} {mantissa : Nat} {exponent : Int}
    (finite : Binary.ofFloat x = .finite negative mantissa exponent) (some : 0 < mantissa)
    {digits count : Nat} {places : Int} (low : powerOfTen (count - 1) ≤ digits)
    (high : digits < powerOfTen count)
    (near : Near mantissa exponent (digits * 10 ^ places)) :
    ofScaled negative digits count places = x := by
  obtain ⟨representable, -⟩ := toBits_of_finite finite
  have nonzero : digits ≠ 0 := by
    rintro rfl
    have := near.positive some
    simp only [Nat.cast_zero, zero_mul, lt_self_iff_false] at this
  have scale : (0 : ℚ) < 10 ^ places := by positivity
  have ten : (10 : ℚ) ≠ 0 := by norm_num
  have lowRat : (10 : ℚ) ^ (count - 1) ≤ digits := by exact_mod_cast low
  have highRat : (digits : ℚ) < 10 ^ count := by exact_mod_cast high
  have notSmall : ¬ places + count < -400 := by
    intro small
    have far : (10 : ℚ) ^ (count + places : Int) < 10 ^ (-400 : Int) :=
      zpow_lt_zpow_right₀ (by norm_num) (by omega)
    have bound : (digits : ℚ) * 10 ^ places < 10 ^ (count + places : Int) := by
      rw [zpow_add₀ ten, zpow_natCast]
      exact mul_lt_mul_of_pos_right highRat scale
    exact absurd (near.not_small representable some) (not_lt.mpr (bound.trans far).le)
  have notLarge : ¬ 400 < places + count := by
    intro large
    have far : (10 : ℚ) ^ (400 : Int) ≤ 10 ^ ((count - 1 : Nat) + places : Int) :=
      zpow_le_zpow_right₀ (by norm_num) (by omega)
    have bound : (10 : ℚ) ^ ((count - 1 : Nat) + places : Int) ≤ digits * 10 ^ places := by
      rw [zpow_add₀ ten, zpow_natCast]
      exact mul_le_mul_of_nonneg_right lowRat scale.le
    exact absurd (near.not_large representable) (not_lt.mpr (far.trans bound))
  rw [ofScaled, if_neg (by simp only [Bool.or_eq_true, beq_iff_eq, decide_eq_true_eq]; omega),
    if_neg notLarge]
  split
  · rename_i up
    obtain ⟨zeros, rfl⟩ := Int.eq_ofNat_of_zero_le up
    apply nearest_eq finite some Nat.one_pos
    simpa only [zpow_natCast, Int.toNat_natCast, Nat.cast_mul, Nat.cast_one, div_one,
      Nat.cast_pow, powerOfTen, Nat.pow_eq, Nat.cast_ofNat] using near
  · rename_i down
    obtain ⟨zeros, same⟩ := Int.eq_ofNat_of_zero_le (show 0 ≤ -places by omega)
    apply nearest_eq finite some (Nat.pow_pos (by decide))
    have back : places = -(zeros : Int) := by omega
    rw [same]
    rw [back, zpow_neg, zpow_natCast, ← div_eq_mul_inv] at near
    simpa only [Int.toNat_natCast, Nat.cast_pow, powerOfTen, Nat.pow_eq, Nat.cast_ofNat] using near

/-- Digits with a point and an exponent are read as the number that they are near to. -/
theorem ofParts_eq {x : Float} {negative : Bool} {mantissa : Nat} {exponent : Int}
    (finite : Binary.ofFloat x = .finite negative mantissa exponent) (some : 0 < mantissa)
    {whole fraction : List Char} {places : Int}
    (all : ∀ c ∈ whole ++ fraction, c.isDigit = true)
    (near : Near mantissa exponent
      (ofDigits (whole ++ fraction) * 10 ^ (places - fraction.length))) :
    ofParts negative whole fraction places = x := by
  have nonzero : ofDigits (whole ++ fraction) ≠ 0 := by
    intro none
    have := near.positive some
    rw [none, Nat.cast_zero, zero_mul] at this
    exact absurd this (lt_irrefl 0)
  have fewer := @ofDigits_lt ((whole ++ fraction).dropWhile (· == '0'))
    fun c member => all c ((List.dropWhile_suffix _).subset member)
  rw [ofDigits_dropZeros] at fewer
  exact ofScaled_eq finite some (le_ofDigits all nonzero) fewer near

/-- Nought is read with its sign. -/
theorem ofParts_zero {x : Float} {negative : Bool} {exponent : Int}
    (finite : Binary.ofFloat x = .finite negative 0 exponent) :
    ofParts negative ['0'] ['0'] 0 = x := by
  have lowest : exponent = -1074 := by
    by_contra other
    exact absurd ((toBits_of_finite finite).1.normal other) (by decide)
  subst lowest
  have none : ofDigits (['0'] ++ ['0']) = 0 := by decide
  have nought : nearestPattern 0 1 = pattern 0 (-1074) := by decide
  rw [ofParts, none, ofScaled, if_pos (by rfl), nearest, nought, ofBits_pattern finite]

/-! ### Positional notation -/

/-- A text in positional notation: digits, a point and more digits, without a needless nought
before others. -/
structure Pointed (text whole fraction : List Char) : Prop where
  spelt : text = whole ++ '.' :: fraction
  wholeDigits : ∀ c ∈ whole, c.isDigit = true
  fractionDigits : ∀ c ∈ fraction, c.isDigit = true
  some : whole ≠ [] ∧ fraction ≠ []
  leading : (whole.head? == Option.some '0' && whole.length != 1) = false

theorem isDigit_nought : ∀ c ∈ ['0'], c.isDigit = true := List.forall_mem_singleton.mpr rfl

theorem isDigit_noughts_append {count : Nat} {digits : List Char}
    (all : ∀ c ∈ digits, c.isDigit = true) :
    ∀ c ∈ List.replicate count '0' ++ digits, c.isDigit = true := by
  intro c member
  rcases List.mem_append.mp member with zero | digit
  · rw [(List.mem_replicate.mp zero).2]
    decide
  · exact all c digit

theorem head?_digitsOf_append {n : Nat} (some : n ≠ 0) (more : List Char) :
    ((digitsOf n ++ more).head? == Option.some '0') = false := by
  rw [List.head?_append_of_ne_nil _ digitsOf_ne_nil]
  exact beq_eq_false_iff_ne.mpr (head?_digitsOf some)

theorem digits_ne_zero {decimal : Scaled} {mantissa : Nat} {exponent : Int}
    (near : Near mantissa exponent decimal.value) (some : 0 < mantissa) : decimal.digits ≠ 0 := by
  intro none
  have positive := near.positive some
  rw [Scaled.value, none, Nat.cast_zero, zero_mul] at positive
  exact absurd positive (lt_irrefl 0)

theorem pointed_nought : Pointed ['0', '.', '0'] ['0'] ['0'] :=
  ⟨rfl, isDigit_nought, isDigit_nought, by decide, by decide⟩

/-- Digits with noughts behind them are a number with a fraction of nought. -/
theorem pointed_raised {n : Nat} (some : n ≠ 0) (zeros : Nat) :
    Pointed (digitsOf n ++ List.replicate zeros '0' ++ ['.', '0'])
      (digitsOf n ++ List.replicate zeros '0') ['0'] where
  spelt := rfl
  wholeDigits c member := by
    rcases List.mem_append.mp member with digit | zero
    · exact isDigit_digitsOf c digit
    · rw [(List.mem_replicate.mp zero).2]
      decide
  fractionDigits := isDigit_nought
  some := ⟨List.append_ne_nil_of_left_ne_nil digitsOf_ne_nil _, by decide⟩
  leading := by
    rw [head?_digitsOf_append some]
    rfl

/-- Digits are cut before the last places, with noughts in front where there are too few. -/
theorem pointed_lowered {n places : Nat} {padded : List Char} (some : n ≠ 0) (below : 0 < places)
    (spelt : List.replicate (places + 1 - (digitsOf n).length) '0' ++ digitsOf n = padded) :
    Pointed (padded.take (padded.length - places) ++ '.' :: padded.drop (padded.length - places))
        (padded.take (padded.length - places)) (padded.drop (padded.length - places)) ∧
      (padded.drop (padded.length - places)).length = places := by
  have someDigit : 0 < (digitsOf n).length := List.length_pos_iff.mpr digitsOf_ne_nil
  have length : padded.length = max (places + 1) (digitsOf n).length := by
    rw [← spelt, List.length_append, List.length_replicate]
    omega
  have all : ∀ c ∈ padded, c.isDigit = true := spelt ▸ isDigit_noughts_append isDigit_digitsOf
  have wholeLength : (padded.take (padded.length - places)).length = padded.length - places :=
    List.length_take_of_le (Nat.sub_le _ _)
  have fractionLength : (padded.drop (padded.length - places)).length = places := by
    rw [List.length_drop]
    omega
  refine ⟨⟨rfl, fun c member => all c (List.mem_of_mem_take member),
    fun c member => all c (List.mem_of_mem_drop member), ⟨?_, ?_⟩, ?_⟩, fractionLength⟩
  · rw [← List.length_pos_iff, wholeLength]
    omega
  · rw [← List.length_pos_iff, fractionLength]
    exact below
  · by_cases zeros : places + 1 ≤ (digitsOf n).length
    · have bare : padded = digitsOf n := by
        rw [← spelt, Nat.sub_eq_zero_of_le zeros]
        rfl
      have first := head?_digitsOf_append some []
      rw [List.append_nil, ← bare] at first
      rw [List.head?_take, if_neg (by omega), first]
      rfl
    · rw [wholeLength, show padded.length - places = 1 by omega, bne_self_eq_false, Bool.and_false]

/-- The positional text of a decimal has its value. -/
theorem pointed_positional {decimal : Scaled} (some : decimal.digits ≠ 0) :
    ∃ whole fraction, Pointed decimal.positional whole fraction ∧
      (ofDigits (whole ++ fraction) : ℚ) * 10 ^ (-fraction.length : Int) = decimal.value := by
  rw [Scaled.positional]
  dsimp only
  split
  · rename_i up
    obtain ⟨zeros, same⟩ := Int.eq_ofNat_of_zero_le up
    rw [same, Int.toNat_natCast]
    refine ⟨_, _, pointed_raised some zeros, ?_⟩
    have nought : ofDigits ['0'] = 0 := by decide
    rw [List.append_assoc, ofDigits_append, ofDigits_zeros, ofDigits_digitsOf, nought,
      Scaled.value, same]
    simp only [List.length_append, List.length_replicate, powerOfTen, Nat.pow_eq,
      List.length_cons, List.length_nil]
    have ten : (10 : ℚ) ≠ 0 := by norm_num
    push_cast
    rw [zpow_natCast, add_zero, zpow_neg, zpow_one, pow_succ]
    field_simp
  · rename_i down
    obtain ⟨places, same⟩ := Int.eq_ofNat_of_zero_le (show 0 ≤ -decimal.exponent by omega)
    rw [same, Int.toNat_natCast]
    generalize spelt : List.replicate (places + 1 - (digitsOf decimal.digits).length) '0' ++
      digitsOf decimal.digits = padded
    obtain ⟨pointed, fractionLength⟩ := pointed_lowered some (show 0 < places by omega) spelt
    refine ⟨_, _, pointed, ?_⟩
    rw [List.take_append_drop, fractionLength, ← spelt, ofDigits_zeros, ofDigits_digitsOf,
      Scaled.value]
    congr 2
    omega

section Plain

variable {text whole fraction : List Char}

theorem Pointed.point_not_mem (pointed : Pointed text whole fraction) :
    '.' ∉ whole ∧ '.' ∉ fraction :=
  ⟨fun member => absurd (pointed.wholeDigits _ member) (by decide),
    fun member => absurd (pointed.fractionDigits _ member) (by decide)⟩

/-- A fraction of nought alone can be told by the end of the text, and taken away there. -/
theorem Pointed.strip (pointed : Pointed text whole fraction) :
    (if text.drop (text.length - 2) == ['.', '0'] then text.dropLast.dropLast else text) =
      if fraction = ['0'] then whole else text := by
  obtain ⟨inWhole, inFraction⟩ := pointed.point_not_mem
  have two : text.drop (text.length - 2) = ['.', '0'] ↔ fraction = ['0'] := by
    constructor
    · intro ends
      have cut := List.take_append_drop (text.length - 2) text
      rw [ends] at cut
      exact ((List.append_cons_inj_of_notMem inWhole inFraction).mp
        (pointed.spelt.symm.trans cut.symm)).2.2
    · rintro rfl
      rw [pointed.spelt, List.length_append, List.length_cons, List.length_singleton,
        Nat.add_sub_cancel, List.drop_left]
  by_cases nought : fraction = ['0']
  · rw [if_pos (beq_iff_eq.mpr (two.mpr nought)), if_pos nought, pointed.spelt, nought,
      List.dropLast_append_cons]
    exact List.dropLast_concat
  · rw [if_neg (mt beq_iff_eq.mp (mt two.mp nought)), if_neg nought]

/-- The plain text of a finite number is a sign, if it has one, and a positional text that is read
as that number, of which a fraction of nought is left out. -/
theorem plainText_finite {x : Float} {negative : Bool} {mantissa : Nat} {exponent : Int}
    (finite : Binary.ofFloat x = .finite negative mantissa exponent) :
    ∃ text whole fraction, Pointed text whole fraction ∧
      (plainText x = let bare := if fraction = ['0'] then whole else text
        if negative then '-' :: bare else bare) ∧
      ofParts negative whole fraction 0 = x := by
  obtain ⟨representable, -⟩ := toBits_of_finite finite
  rw [plainText, finite]
  dsimp only
  by_cases none : mantissa = 0
  · subst none
    have nought : (shortest 0 exponent).positional = ['0', '.', '0'] := by
      rw [shortest, if_pos BEq.rfl]
      decide
    rw [nought]
    exact ⟨_, ['0'], ['0'], pointed_nought, by rw [pointed_nought.strip], ofParts_zero finite⟩
  · have positive := Nat.pos_of_ne_zero none
    have near := near_shortest representable positive
    obtain ⟨whole, fraction, pointed, value⟩ := pointed_positional (digits_ne_zero near positive)
    refine ⟨_, whole, fraction, pointed, ?_, ?_⟩
    · rw [pointed.strip]
    · have all : ∀ c ∈ whole ++ fraction, c.isDigit = true := fun c member =>
        (List.mem_append.mp member).elim (pointed.wholeDigits c) (pointed.fractionDigits c)
      exact ofParts_eq finite positive all (by rw [zero_sub, value]; exact near)

end Plain

end TaskLoop.Decimal
