import TaskLoop.Decimal.Shortest
import TaskLoop.Proofs.Decimal.Digits
import TaskLoop.Proofs.Decimal.Nearest

/-!
The shortest decimal of a number lies nearer to it than to its neighbours: seventeen digits are
always enough.
-/

set_option autoImplicit false

namespace TaskLoop.Decimal

/-- The fraction that a decimal stands for. -/
def Scaled.value (decimal : Scaled) : ℚ := decimal.digits * 10 ^ decimal.exponent

theorem scaleDecimal_value (numerator : Nat) {denominator : Nat} (positive : 0 < denominator)
    (shift : Int) :
    0 < (scaleDecimal numerator denominator shift).2 ∧
      ((scaleDecimal numerator denominator shift).1 : ℚ) /
          (scaleDecimal numerator denominator shift).2 =
        numerator / denominator * 10 ^ shift :=
  scale_value (by decide) numerator positive shift rfl

/-! ### The leading digit -/

/-- A positive number lies between the powers of ten that its digits count. -/
theorem digitCount_spec {n : Nat} (positive : n ≠ 0) :
    (10 : ℚ) ^ ((digitCount n : Int) - 1) ≤ n ∧ (n : ℚ) + 1 ≤ 10 ^ (digitCount n : Int) := by
  have some : 0 < digitCount n := List.length_pos_iff.mpr digitsOf_ne_nil
  obtain ⟨fewer, counted⟩ := Nat.exists_eq_add_one.mpr some
  have high : n < 10 ^ digitCount n := (length_digitsOf_le some).mp (Nat.le_refl _)
  have low : 10 ^ fewer ≤ n := by
    by_contra less
    rw [not_le] at less
    cases fewer with
    | zero => exact positive (Nat.lt_one_iff.mp less)
    | succ fewer =>
      have := (length_digitsOf_le (Nat.succ_pos fewer)).mpr less
      rw [digitCount, ← digitsOf] at counted
      omega
  constructor
  · rw [counted]
    push_cast
    rw [add_sub_cancel_right, zpow_natCast]
    exact_mod_cast low
  · rw [zpow_natCast]
    exact_mod_cast high

/-- The leading digit of a fraction that is not below one is that of its whole part. -/
theorem leadingExponent_of_le {numerator denominator : Nat} (positive : 0 < denominator)
    (whole : denominator ≤ numerator) (tries : Nat) :
    (10 : ℚ) ^ leadingExponent numerator denominator (tries + 1) ≤ numerator / denominator ∧
      (numerator : ℚ) / denominator <
        10 ^ (leadingExponent numerator denominator (tries + 1) + 1) := by
  have below : (0 : ℚ) < denominator := by exact_mod_cast positive
  have some : numerator / denominator ≠ 0 := (Nat.div_pos whole positive).ne'
  obtain ⟨low, high⟩ := digitCount_spec some
  have parts : ((numerator / denominator : Nat) : ℚ) * denominator ≤ numerator := by
    exact_mod_cast Nat.div_mul_le_self numerator denominator
  have rest : (numerator : ℚ) < ((numerator / denominator : Nat) + 1) * denominator := by
    exact_mod_cast Nat.lt_mul_of_div_lt (Nat.lt_succ_self _) positive
  rw [leadingExponent, if_pos whole, sub_add_cancel, le_div_iff₀ below, div_lt_iff₀ below]
  constructor
  · exact le_trans (mul_le_mul_of_nonneg_right low below.le) parts
  · exact lt_of_lt_of_le rest (mul_le_mul_of_nonneg_right high below.le)

/-- The leading digit of a fraction is found if enough zeros are tried. -/
theorem leadingExponent_spec {numerator denominator tries : Nat} (positive : 0 < denominator)
    (enough : denominator ≤ numerator * 10 ^ tries) :
    (10 : ℚ) ^ leadingExponent numerator denominator (tries + 1) ≤ numerator / denominator ∧
      (numerator : ℚ) / denominator <
        10 ^ (leadingExponent numerator denominator (tries + 1) + 1) := by
  induction tries generalizing numerator with
  | zero =>
    rw [Nat.pow_zero, Nat.mul_one] at enough
    exact leadingExponent_of_le positive enough 0
  | succ tries ih =>
    by_cases whole : denominator ≤ numerator
    · exact leadingExponent_of_le positive whole _
    · rw [Nat.pow_succ', ← Nat.mul_assoc] at enough
      obtain ⟨low, high⟩ := ih enough
      have ten : (10 : ℚ) ≠ 0 := by norm_num
      have shift : ((numerator * 10 : Nat) : ℚ) / denominator = numerator / denominator * 10 := by
        push_cast
        ring
      rw [leadingExponent, if_neg whole, sub_add_cancel]
      rw [shift] at low high
      rw [zpow_add_one₀ ten] at high
      rw [zpow_sub_one₀ ten]
      constructor
      · linarith
      · linarith

/-! ### The interval of a number -/

section Interval

variable {mantissa : Nat} {exponent : Int}

/-- How far the interval of a number reaches, in units of its last place. -/
theorem interval_value (positive : 0 < mantissa) :
    0 < (Interval.of mantissa exponent).denominator ∧
      ((Interval.of mantissa exponent).low : ℚ) / (Interval.of mantissa exponent).denominator =
        (mantissa - (if mantissa = powerOfTwo 52 ∧ exponent ≠ -1074 then 1 / 4 else 1 / 2 : ℚ)) *
          2 ^ exponent ∧
      ((Interval.of mantissa exponent).value : ℚ) / (Interval.of mantissa exponent).denominator =
        mantissa * 2 ^ exponent ∧
      ((Interval.of mantissa exponent).high : ℚ) / (Interval.of mantissa exponent).denominator =
        (mantissa + 1 / 2) * 2 ^ exponent := by
  obtain ⟨below, value⟩ := scaleBinary_value 1 (show 0 < 4 by decide) exponent
  simp only [Interval.of]
  refine ⟨below, ?_, ?_, ?_⟩
  · have atLeast : (if mantissa = powerOfTwo 52 ∧ exponent ≠ -1074 then 1 else 2) ≤
        4 * mantissa := by
      split <;> omega
    simp only [Bool.and_eq_true, beq_iff_eq, bne_iff_ne]
    rw [Nat.cast_mul, mul_div_assoc, value, Nat.cast_sub atLeast]
    split
    · push_cast
      ring
    · push_cast
      ring
  · push_cast
    rw [mul_div_assoc, value]
    push_cast
    ring
  · push_cast
    rw [mul_div_assoc, value]
    push_cast
    ring

theorem cross_le_iff {a b c d : Nat} (left : 0 < b) (right : 0 < d) :
    a * d ≤ c * b ↔ (a : ℚ) / b ≤ c / d := by
  rw [div_le_div_iff₀ (by exact_mod_cast left) (by exact_mod_cast right)]
  exact_mod_cast Iff.rfl

theorem cross_lt_iff {a b c d : Nat} (left : 0 < b) (right : 0 < d) :
    a * d < c * b ↔ (a : ℚ) / b < c / d := by
  rw [div_lt_div_iff₀ (by exact_mod_cast left) (by exact_mod_cast right)]
  exact_mod_cast Iff.rfl

/-- Whether a decimal lies between the ends of the interval, which belong to it when the mantissa
is even. -/
theorem holds_iff (positive : 0 < mantissa) {decimal : Scaled} :
    (Interval.of mantissa exponent).holds decimal = true ↔
      if mantissa % 2 = 0 then
        (mantissa - (if mantissa = powerOfTwo 52 ∧ exponent ≠ -1074 then 1 / 4 else 1 / 2 : ℚ)) *
            2 ^ exponent ≤ decimal.value ∧
          decimal.value ≤ (mantissa + 1 / 2) * 2 ^ exponent
      else
        (mantissa - (if mantissa = powerOfTwo 52 ∧ exponent ≠ -1074 then 1 / 4 else 1 / 2 : ℚ)) *
            2 ^ exponent < decimal.value ∧
          decimal.value < (mantissa + 1 / 2) * 2 ^ exponent := by
  obtain ⟨below, low, -, high⟩ := @interval_value mantissa exponent positive
  obtain ⟨some, value⟩ := scaleDecimal_value decimal.digits Nat.one_pos decimal.exponent
  have closed : (Interval.of mantissa exponent).closed = (mantissa % 2 == 0) := rfl
  rw [Nat.cast_one, div_one, ← Scaled.value] at value
  rw [← low, ← high, ← value, ← cross_le_iff below some, ← cross_le_iff some below,
    ← cross_lt_iff below some, ← cross_lt_iff some below, Interval.holds, closed]
  by_cases even : mantissa % 2 = 0
  · simp only [even, BEq.rfl, ↓reduceIte, Bool.and_eq_true, decide_eq_true_eq]
  · simp only [beq_eq_false_iff_ne.mpr even, even, Bool.false_eq_true, ↓reduceIte,
      Bool.and_eq_true, decide_eq_true_eq]

/-- A decimal in the interval of a number is near to it. -/
theorem near_of_holds (positive : 0 < mantissa) {decimal : Scaled}
    (holds : (Interval.of mantissa exponent).holds decimal = true) :
    Near mantissa exponent decimal.value := by
  rw [holds_iff positive] at holds
  split at holds
  · rename_i even
    exact ⟨holds.1, holds.2, fun odd => absurd (even.symm.trans odd) (by decide)⟩
  · rename_i odd
    have notEdge : ¬ (mantissa = powerOfTwo 52 ∧ exponent ≠ -1074) := by
      rintro ⟨rfl, -⟩
      exact odd (by decide)
    refine ⟨holds.1.le, holds.2.le, fun _ => ⟨?_, holds.2⟩⟩
    have low := holds.1
    rwa [if_neg notEdge] at low

/-- A decimal that lies strictly between the ends of the interval is in it. -/
theorem holds_of_between (positive : 0 < mantissa) {decimal : Scaled}
    (low : (mantissa - (if mantissa = powerOfTwo 52 ∧ exponent ≠ -1074 then 1 / 4 else 1 / 2 : ℚ)) *
      2 ^ exponent < decimal.value)
    (high : decimal.value < (mantissa + 1 / 2) * 2 ^ exponent) :
    (Interval.of mantissa exponent).holds decimal = true := by
  rw [holds_iff positive]
  by_cases even : mantissa % 2 = 0
  · rw [if_pos even]
    exact ⟨low.le, high.le⟩
  · rw [if_neg even]
    exact ⟨low, high⟩

/-- One of the decimals next to the value is no more than half a step away from it. -/
theorem exists_neighbour (positive : 0 < mantissa) (leading : Int) (count : Nat) :
    ∃ decimal ∈ (Interval.of mantissa exponent).neighbours leading count,
      |decimal.value - mantissa * 2 ^ exponent| ≤ 10 ^ (leading - count + 1) / 2 := by
  obtain ⟨below, -, middle, -⟩ := @interval_value mantissa exponent positive
  obtain ⟨some, value⟩ := scaleDecimal_value (Interval.of mantissa exponent).value below
    (-(leading - count + 1))
  have step : (0 : ℚ) < 10 ^ (leading - count + 1) := by positivity
  rw [middle, zpow_neg] at value
  simp only [Interval.neighbours]
  generalize scaleDecimal (Interval.of mantissa exponent).value
    (Interval.of mantissa exponent).denominator (-(leading - count + 1)) = point at *
  have someRat : (0 : ℚ) < point.2 := by exact_mod_cast some
  have parts : (point.1 : ℚ) / point.2 =
      (point.1 / point.2 : Nat) + (point.1 % point.2 : Nat) / (point.2 : ℚ) := by
    have whole : (point.1 : ℚ) =
        (point.1 / point.2 : Nat) * point.2 + (point.1 % point.2 : Nat) := by
      exact_mod_cast (Nat.div_add_mod' point.1 point.2).symm
    rw [div_eq_iff someRat.ne', add_mul, div_mul_cancel₀ _ someRat.ne']
    exact whole
  have exact : (mantissa : ℚ) * 2 ^ exponent =
      ((point.1 / point.2 : Nat) + (point.1 % point.2 : Nat) / (point.2 : ℚ)) *
        10 ^ (leading - count + 1) := by
    rw [← parts, value, inv_mul_cancel_right₀ step.ne']
  have fewer : ((point.1 % point.2 : Nat) : ℚ) / point.2 ≤ 1 := by
    rw [div_le_one someRat]
    exact_mod_cast (Nat.mod_lt point.1 some).le
  have least : (0 : ℚ) ≤ ((point.1 % point.2 : Nat) : ℚ) / point.2 := by positivity
  split
  · rename_i lower
    refine ⟨_, List.mem_cons_self, ?_⟩
    have half : ((point.1 % point.2 : Nat) : ℚ) / point.2 ≤ 1 / 2 := by
      have twice : 2 * (point.1 % point.2) ≤ point.2 := by
        simp only [Bool.or_eq_true, decide_eq_true_eq, Bool.and_eq_true, beq_iff_eq] at lower
        omega
      have twice : (2 : ℚ) * (point.1 % point.2 : Nat) ≤ point.2 := by exact_mod_cast twice
      rw [div_le_div_iff₀ someRat (by norm_num)]
      linarith
    rw [exact, Scaled.value, abs_le]
    constructor
    · nlinarith
    · nlinarith
  · rename_i upper
    refine ⟨_, List.mem_cons_self, ?_⟩
    have half : (1 : ℚ) / 2 ≤ ((point.1 % point.2 : Nat) : ℚ) / point.2 := by
      have twice : point.2 ≤ 2 * (point.1 % point.2) := by
        simp only [Bool.or_eq_true, decide_eq_true_eq, Bool.and_eq_true, beq_iff_eq] at upper
        omega
      have twice : (point.2 : ℚ) ≤ 2 * (point.1 % point.2 : Nat) := by exact_mod_cast twice
      rw [div_le_div_iff₀ (by norm_num) someRat]
      linarith
    rw [exact, Scaled.value, abs_le]
    push_cast
    constructor
    · nlinarith
    · nlinarith

/-- Decimals of seventeen digits are dense enough. -/
theorem holds_of_seventeen (representable : Representable mantissa exponent)
    (positive : 0 < mantissa) {leading : Int} (leads : (10 : ℚ) ^ leading ≤ mantissa * 2 ^ exponent)
    {decimal : Scaled}
    (close : |decimal.value - mantissa * 2 ^ exponent| ≤ 10 ^ (leading - 17 + 1) / 2) :
    (Interval.of mantissa exponent).holds decimal = true := by
  have unit : (0 : ℚ) < 2 ^ exponent := by positivity
  have step : (10 : ℚ) ^ (leading - 17 + 1) = 10 ^ leading / 10 ^ 16 := by
    rw [← zpow_natCast 10 16, ← zpow_sub₀ (by norm_num : (10 : ℚ) ≠ 0)]
    congr 1
    push_cast
    ring
  have short : (mantissa : ℚ) < 2 ^ 53 := by exact_mod_cast representable.short
  rw [step, abs_le] at close
  have small : (10 : ℚ) ^ leading / 10 ^ 16 / 2 < 1 / 2 * 2 ^ exponent := by
    nlinarith
  apply holds_of_between positive
  · split
    · rename_i edge
      have size : (mantissa : ℚ) = 2 ^ 52 := by
        rw [edge.1]
        norm_num
      rw [size] at leads close ⊢
      nlinarith
    · linarith
  · linarith

/-! ### The shortest decimal -/

theorem shortestFrom_holds {interval : Interval} {leading : Int} {count tries : Nat}
    (found : ∃ more < tries, ∃ decimal ∈ interval.neighbours leading (count + more),
      interval.holds decimal = true) :
    interval.holds (interval.shortestFrom leading count tries) = true := by
  induction tries generalizing count with
  | zero =>
    obtain ⟨_, fewer, -⟩ := found
    exact absurd fewer (Nat.not_lt_zero _)
  | succ tries ih =>
    rw [Interval.shortestFrom]
    split
    · rename_i decimal first
      exact List.find?_some first
    · rename_i none
      apply ih
      obtain ⟨more, fewer, decimal, member, holds⟩ := found
      cases more with
      | zero => exact absurd holds (List.find?_eq_none.mp none decimal member)
      | succ more =>
        refine ⟨more, Nat.lt_of_succ_lt_succ fewer, decimal, ?_, holds⟩
        rwa [Nat.add_assoc, Nat.add_comm 1 more]

theorem trimZeros_value (tries : Nat) (decimal : Scaled) :
    (decimal.trimZeros tries).value = decimal.value := by
  induction tries generalizing decimal with
  | zero => rfl
  | succ tries ih =>
    rw [Scaled.trimZeros]
    split
    · rename_i zero
      simp only [Bool.and_eq_true, beq_iff_eq, bne_iff_ne] at zero
      have whole : decimal.digits = decimal.digits / 10 * 10 := by omega
      rw [ih, Scaled.value, Scaled.value, zpow_add_one₀ (by norm_num)]
      have cast : (decimal.digits : ℚ) = (decimal.digits / 10 : Nat) * 10 := by
        exact_mod_cast whole
      rw [cast]
      ring
    · rfl

theorem two_pow_le_ten_pow (n : Nat) : 2 ^ (3 * n) ≤ 10 ^ n := by
  rw [Nat.pow_mul]
  exact Nat.pow_le_pow_left (by decide) n

/-- The leading digit of every number is found when enough zeros are tried. -/
theorem denominator_le (representable : Representable mantissa exponent)
    (positive : 0 < mantissa) {tries : Nat} (enough : 358 ≤ tries) :
    (Interval.of mantissa exponent).denominator ≤
      (Interval.of mantissa exponent).value * 10 ^ tries := by
  have some : 0 < 10 ^ tries := Nat.pow_pos (by decide)
  have least := representable.least
  simp only [Interval.of, scaleBinary]
  split
  · have unit : 0 < powerOfTwo exponent.toNat := Nat.two_pow_pos _
    have whole : 0 < mantissa * powerOfTwo exponent.toNat * 10 ^ tries :=
      Nat.mul_pos (Nat.mul_pos positive unit) some
    calc 4 ≤ 4 * (mantissa * powerOfTwo exponent.toNat * 10 ^ tries) := by omega
      _ = 4 * mantissa * (1 * powerOfTwo exponent.toNat) * 10 ^ tries := by ring
  · have few : (-exponent).toNat ≤ 3 * tries := by omega
    have fewer := (Nat.pow_le_pow_right (by decide) few).trans (two_pow_le_ten_pow tries)
    calc 4 * powerOfTwo (-exponent).toNat ≤ 4 * 10 ^ tries := Nat.mul_le_mul_left 4 fewer
      _ ≤ 4 * mantissa * 1 * 10 ^ tries := by
          rw [Nat.mul_one, Nat.mul_assoc]
          exact Nat.mul_le_mul_left 4 (Nat.le_mul_of_pos_left _ positive)

/-- The shortest decimal of a number is near to it. -/
theorem near_shortest (representable : Representable mantissa exponent) (positive : 0 < mantissa) :
    Near mantissa exponent (shortest mantissa exponent).value := by
  obtain ⟨below, -, middle, -⟩ := @interval_value mantissa exponent positive
  have leads := leadingExponent_spec below
    (denominator_le representable positive (show 358 ≤ 399 by decide))
  rw [middle] at leads
  rw [shortest, if_neg (by simpa using positive.ne'), trimZeros_value]
  apply near_of_holds positive
  apply shortestFrom_holds
  obtain ⟨decimal, member, close⟩ := @exists_neighbour mantissa exponent positive
    (leadingExponent (Interval.of mantissa exponent).value
      (Interval.of mantissa exponent).denominator 400) 17
  exact ⟨16, by decide, decimal, member, holds_of_seventeen representable positive leads.1 close⟩

end Interval

end TaskLoop.Decimal
