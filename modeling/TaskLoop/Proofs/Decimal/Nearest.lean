import Mathlib.Algebra.Order.Field.Power
import Mathlib.Data.Rat.Cast.Order
import Mathlib.Tactic.FieldSimp
import Mathlib.Tactic.Linarith
import Mathlib.Tactic.NormNum
import Mathlib.Tactic.Positivity
import Mathlib.Tactic.Ring
import TaskLoop.Proofs.Decimal.Bits

/-!
Every fraction that lies closer to a finite number than to its neighbours is read as that number.
-/

set_option autoImplicit false

namespace TaskLoop.Decimal

/-! ### Fractions -/

/-- A fraction with its point moved is the fraction times a power of the base. -/
theorem scale_value {base : Nat} (some : 0 < base) (numerator : Nat) {denominator : Nat}
    (positive : 0 < denominator) (shift : Int) {scaled : Nat × Nat}
    (moved : scaled =
      if 0 ≤ shift then (numerator * Nat.pow base shift.toNat, denominator)
      else (numerator, denominator * Nat.pow base (-shift).toNat)) :
    0 < scaled.2 ∧
      (scaled.1 : ℚ) / scaled.2 = numerator / denominator * (base : ℚ) ^ shift := by
  have nonzero : (denominator : ℚ) ≠ 0 := by
    exact_mod_cast positive.ne'
  have someRat : (base : ℚ) ≠ 0 := by
    exact_mod_cast some.ne'
  subst moved
  split
  · rename_i up
    obtain ⟨places, rfl⟩ := Int.eq_ofNat_of_zero_le up
    refine ⟨positive, ?_⟩
    simp only [Int.toNat_natCast, zpow_natCast, Nat.pow_eq]
    push_cast
    ring
  · rename_i down
    obtain ⟨places, same⟩ := Int.eq_ofNat_of_zero_le (show 0 ≤ -shift by omega)
    have back : shift = -(places : Int) := by omega
    rw [same]
    refine ⟨Nat.mul_pos positive (Nat.pow_pos some), ?_⟩
    simp only [Int.toNat_natCast, back, zpow_neg, zpow_natCast, Nat.pow_eq]
    push_cast
    field_simp

theorem scaleBinary_value (numerator : Nat) {denominator : Nat} (positive : 0 < denominator)
    (shift : Int) :
    0 < (scaleBinary numerator denominator shift).2 ∧
      ((scaleBinary numerator denominator shift).1 : ℚ) /
          (scaleBinary numerator denominator shift).2 =
        numerator / denominator * 2 ^ shift :=
  scale_value (by decide) numerator positive shift rfl

/-- A fraction no more than a half away from a natural number is rounded to it, if from the half
itself to an even one only. -/
theorem roundDiv_eq {numerator denominator n : Nat} (positive : 0 < denominator)
    (low : 2 * (n * denominator) ≤ 2 * numerator + denominator)
    (high : 2 * numerator ≤ 2 * (n * denominator) + denominator)
    (strict : n % 2 = 1 → 2 * (n * denominator) < 2 * numerator + denominator ∧
      2 * numerator < 2 * (n * denominator) + denominator) :
    roundDiv numerator denominator = n := by
  have parts := Nat.div_add_mod numerator denominator
  have rest := Nat.mod_lt numerator positive
  simp only [roundDiv, Bool.or_eq_true, decide_eq_true_eq, Bool.and_eq_true, beq_iff_eq]
  generalize numerator / denominator = quotient at *
  generalize numerator % denominator = remainder at *
  subst parts
  rw [Nat.mul_comm denominator quotient] at low high strict
  have above : quotient ≤ n := by
    by_contra more
    have far : (n + 1) * denominator ≤ quotient * denominator := Nat.mul_le_mul_right _ (by omega)
    rw [Nat.add_mul] at far
    omega
  have below : n ≤ quotient + 1 := by
    by_contra more
    have far : (quotient + 2) * denominator ≤ n * denominator := Nat.mul_le_mul_right _ (by omega)
    rw [Nat.add_mul] at far
    omega
  obtain rfl | rfl : n = quotient ∨ n = quotient + 1 := by omega
  · have near : 2 * remainder < denominator ∨
        2 * remainder = denominator ∧ n % 2 = 0 := by
      by_cases odd : n % 2 = 1
      · have := (strict odd).2
        omega
      · omega
    rw [if_pos near]
  · rw [Nat.add_mul] at low strict
    have notNear : ¬ (2 * remainder < denominator ∨
        2 * remainder = denominator ∧ quotient % 2 = 0) := by
      rintro (near | ⟨tie, even⟩)
      · omega
      · have := (strict (by omega)).1
        omega
    rw [if_neg notNear]

/-! ### The exponent of a fraction -/

/-- The exponent with which the mantissa of a fraction has fifty-three bits. -/
def binade (numerator denominator : Nat) : Int :=
  let guess : Int := (Nat.log2 numerator : Int) - Nat.log2 denominator - 52
  let tooLarge (exponent : Int) : Bool :=
    let scaled := scaleBinary numerator denominator (-exponent)
    powerOfTwo 53 * scaled.2 ≤ scaled.1
  let tooSmall (exponent : Int) : Bool :=
    let scaled := scaleBinary numerator denominator (-exponent)
    scaled.1 < powerOfTwo 52 * scaled.2
  if tooLarge guess then guess + 1 else if tooSmall guess then guess - 1 else guess

theorem nearestPattern_binade {numerator denominator : Nat} (nonzero : numerator ≠ 0)
    {exponent : Int} (chosen : exponent = max (binade numerator denominator) (-1074)) :
    nearestPattern numerator denominator =
      min (pattern (roundDiv (scaleBinary numerator denominator (-exponent)).1
        (scaleBinary numerator denominator (-exponent)).2) exponent)
        (2047 * powerOfTwo 52) := by
  subst chosen
  rw [nearestPattern, if_neg (by simpa using nonzero)]
  rfl

section Binade

variable {numerator denominator : Nat} (nonzero : numerator ≠ 0) (positive : 0 < denominator)

include positive

/-- A fraction no more than half a unit away from a natural number of units is rounded to that
number, if from the half itself to an even one only. -/
theorem roundDiv_scaled {n : Nat} {exponent : Int}
    (low : ((n : ℚ) - 1 / 2) * 2 ^ exponent ≤ numerator / denominator)
    (high : (numerator / denominator : ℚ) ≤ (n + 1 / 2) * 2 ^ exponent)
    (strict : n % 2 = 1 → ((n : ℚ) - 1 / 2) * 2 ^ exponent < numerator / denominator ∧
      (numerator / denominator : ℚ) < (n + 1 / 2) * 2 ^ exponent) :
    roundDiv (scaleBinary numerator denominator (-exponent)).1
      (scaleBinary numerator denominator (-exponent)).2 = n := by
  obtain ⟨below, value⟩ := scaleBinary_value numerator positive (-exponent)
  generalize (scaleBinary numerator denominator (-exponent)).1 = above at *
  generalize (scaleBinary numerator denominator (-exponent)).2 = parts at *
  have partsRat : (0 : ℚ) < parts := by exact_mod_cast below
  have unit : (0 : ℚ) < 2 ^ exponent := by positivity
  have scaled : (numerator : ℚ) / denominator = above / parts * 2 ^ exponent := by
    rw [value, zpow_neg, inv_mul_cancel_right₀ unit.ne']
  rw [scaled, mul_le_mul_iff_left₀ unit, le_div_iff₀ partsRat] at low
  rw [scaled, mul_le_mul_iff_left₀ unit, div_le_iff₀ partsRat] at high
  rw [scaled, mul_lt_mul_iff_left₀ unit, mul_lt_mul_iff_left₀ unit, lt_div_iff₀ partsRat,
    div_lt_iff₀ partsRat] at strict
  apply roundDiv_eq below
  · have twice : (2 : ℚ) * (n * parts) ≤ 2 * above + parts := by linarith
    exact_mod_cast twice
  · have twice : (2 : ℚ) * above ≤ 2 * (n * parts) + parts := by linarith
    exact_mod_cast twice
  · intro odd
    obtain ⟨left, right⟩ := strict odd
    have twiceLeft : (2 : ℚ) * (n * parts) < 2 * above + parts := by linarith
    have twiceRight : (2 : ℚ) * above < 2 * (n * parts) + parts := by linarith
    exact ⟨by exact_mod_cast twiceLeft, by exact_mod_cast twiceRight⟩

theorem scaled_le_iff (bound : Nat) (exponent : Int) :
    bound * (scaleBinary numerator denominator (-exponent)).2 ≤
        (scaleBinary numerator denominator (-exponent)).1 ↔
      (bound : ℚ) * 2 ^ exponent ≤ (numerator : ℚ) / denominator := by
  obtain ⟨below, value⟩ := scaleBinary_value numerator positive (-exponent)
  have belowRat : (0 : ℚ) < (scaleBinary numerator denominator (-exponent)).2 := by
    exact_mod_cast below
  have unit : (0 : ℚ) < 2 ^ exponent := by positivity
  have cast : bound * (scaleBinary numerator denominator (-exponent)).2 ≤
      (scaleBinary numerator denominator (-exponent)).1 ↔
        (bound : ℚ) * (scaleBinary numerator denominator (-exponent)).2 ≤
          (scaleBinary numerator denominator (-exponent)).1 := by
    exact_mod_cast Iff.rfl
  rw [cast, ← le_div_iff₀ belowRat, value, zpow_neg, ← div_eq_mul_inv, le_div_iff₀ unit]

include nonzero

/-- The logarithms of numerator and denominator tell the size of a fraction up to a factor of
two. -/
theorem log2_bounds :
    (2 : ℚ) ^ ((numerator.log2 : Int) - denominator.log2 - 1) < (numerator : ℚ) / denominator ∧
      (numerator : ℚ) / denominator < 2 ^ ((numerator.log2 : Int) - denominator.log2 + 1) := by
  have belowRat : (0 : ℚ) < denominator := by exact_mod_cast positive
  have two : (2 : ℚ) ≠ 0 := by norm_num
  have numeratorLow : (2 : ℚ) ^ numerator.log2 ≤ numerator := by
    exact_mod_cast Nat.log2_self_le nonzero
  have numeratorHigh : (numerator : ℚ) < 2 ^ (numerator.log2 + 1) := by
    exact_mod_cast Nat.lt_log2_self
  have denominatorLow : (2 : ℚ) ^ denominator.log2 ≤ denominator := by
    exact_mod_cast Nat.log2_self_le positive.ne'
  have denominatorHigh : (denominator : ℚ) < 2 ^ (denominator.log2 + 1) := by
    exact_mod_cast Nat.lt_log2_self
  constructor
  · rw [lt_div_iff₀ belowRat]
    calc (2 : ℚ) ^ ((numerator.log2 : Int) - denominator.log2 - 1) * denominator
        < 2 ^ ((numerator.log2 : Int) - denominator.log2 - 1) * 2 ^ (denominator.log2 + 1) := by
          gcongr
      _ = 2 ^ numerator.log2 := by
          rw [← zpow_natCast, ← zpow_natCast, ← zpow_add₀ two]
          congr 1
          push_cast
          ring
      _ ≤ numerator := numeratorLow
  · rw [div_lt_iff₀ belowRat]
    calc (numerator : ℚ) < 2 ^ (numerator.log2 + 1) := numeratorHigh
      _ = 2 ^ ((numerator.log2 : Int) - denominator.log2 + 1) * 2 ^ denominator.log2 := by
          rw [← zpow_natCast, ← zpow_natCast, ← zpow_add₀ two]
          congr 1
          push_cast
          ring
      _ ≤ 2 ^ ((numerator.log2 : Int) - denominator.log2 + 1) * denominator := by gcongr

/-- The fraction lies in the binade of its exponent. -/
theorem binade_spec :
    (2 ^ 52 : ℚ) * 2 ^ binade numerator denominator ≤ (numerator : ℚ) / denominator ∧
      (numerator : ℚ) / denominator < (2 ^ 53 : ℚ) * 2 ^ binade numerator denominator := by
  obtain ⟨low, high⟩ := log2_bounds nonzero positive
  have two : (2 : ℚ) ≠ 0 := by norm_num
  have fits (bound : Nat) := @scaled_le_iff numerator denominator positive bound
    ((numerator.log2 : Int) - denominator.log2 - 52)
  have large := fits (powerOfTwo 53)
  have small := fits (powerOfTwo 52)
  simp only [binade, decide_eq_true_eq]
  clear fits
  generalize (numerator.log2 : Int) - denominator.log2 = guess at *
  have upper : (2 : ℚ) ^ (guess + 1) = 2 ^ 53 * 2 ^ (guess - 52) := by
    rw [← zpow_natCast 2 53, ← zpow_add₀ two]
    congr 1
    push_cast
    ring
  have lower : (2 : ℚ) ^ (guess - 1) = 2 ^ 51 * 2 ^ (guess - 52) := by
    rw [← zpow_natCast 2 51, ← zpow_add₀ two]
    congr 1
    push_cast
    ring
  have next : (2 : ℚ) * 2 ^ (guess - 52 - 1) = 2 ^ (guess - 52) := by
    rw [← zpow_one_add₀ two]
    congr 1
    ring
  have cast53 : ((powerOfTwo 53 : Nat) : ℚ) = 2 ^ 53 := by norm_num
  have cast52 : ((powerOfTwo 52 : Nat) : ℚ) = 2 ^ 52 := by norm_num
  rw [cast53] at large
  rw [cast52] at small
  split
  · rename_i tooLarge
    exact absurd (large.mp tooLarge) (by rw [← upper]; exact not_le.mpr high)
  · split
    · rename_i tooSmall
      have notSmall := mt small.mpr (not_le.mpr tooSmall)
      constructor
      · linarith
      · linarith
    · rename_i notSmall
      exact ⟨small.mp (not_lt.mp notSmall), upper ▸ high⟩

/-- Only one exponent has the fraction in its binade. -/
theorem binade_eq {exponent : Int}
    (low : (2 ^ 52 : ℚ) * 2 ^ exponent ≤ (numerator : ℚ) / denominator)
    (high : (numerator : ℚ) / denominator < (2 ^ 53 : ℚ) * 2 ^ exponent) :
    binade numerator denominator = exponent := by
  obtain ⟨least, most⟩ := binade_spec nonzero positive
  have two : (2 : ℚ) ≠ 0 := by norm_num
  have one : (1 : ℚ) < 2 := by norm_num
  have notAbove : (2 : ℚ) ^ binade numerator denominator < 2 ^ (exponent + 1) := by
    rw [zpow_add_one₀ two]
    linarith
  have notBelow : (2 : ℚ) ^ exponent < 2 ^ (binade numerator denominator + 1) := by
    rw [zpow_add_one₀ two]
    linarith
  have upper := (zpow_lt_zpow_iff_right₀ one).mp notAbove
  have lower := (zpow_lt_zpow_iff_right₀ one).mp notBelow
  omega

theorem binade_le {exponent : Int}
    (high : (numerator : ℚ) / denominator < (2 ^ 53 : ℚ) * 2 ^ exponent) :
    binade numerator denominator ≤ exponent := by
  have least := (binade_spec nonzero positive).1
  have two : (2 : ℚ) ≠ 0 := by norm_num
  have notAbove : (2 : ℚ) ^ binade numerator denominator < 2 ^ (exponent + 1) := by
    rw [zpow_add_one₀ two]
    linarith
  have upper := (zpow_lt_zpow_iff_right₀ (by norm_num : (1 : ℚ) < 2)).mp notAbove
  omega

end Binade

/-! ### The nearest number -/

/-- The fractions between the middles of the gaps around a number. The gap below a power of two is
half as wide as that above it, and a middle belongs to the even mantissa. -/
structure Near (mantissa : Nat) (exponent : Int) (fraction : ℚ) : Prop where
  low : (mantissa - (if mantissa = powerOfTwo 52 ∧ exponent ≠ -1074 then 1 / 4 else 1 / 2 : ℚ)) *
    2 ^ exponent ≤ fraction
  high : fraction ≤ (mantissa + 1 / 2) * 2 ^ exponent
  strict : mantissa % 2 = 1 → (mantissa - 1 / 2) * 2 ^ exponent < fraction ∧
    fraction < (mantissa + 1 / 2) * 2 ^ exponent

theorem Near.half {mantissa : Nat} {exponent : Int} {fraction : ℚ}
    (near : Near mantissa exponent fraction) :
    ((mantissa : ℚ) - 1 / 2) * 2 ^ exponent ≤ fraction := by
  have unit : (0 : ℚ) < 2 ^ exponent := by positivity
  have low := near.low
  split at low
  · nlinarith
  · exact low

section Representable

variable {numerator denominator mantissa : Nat} {exponent : Int}
  (nonzero : numerator ≠ 0) (positive : 0 < denominator)
  (representable : Representable mantissa exponent)
  (near : Near mantissa exponent (numerator / denominator))

include representable

theorem Representable.pattern_le : pattern mantissa exponent ≤ 2047 * powerOfTwo 52 := by
  have least := representable.least
  have most := representable.most
  have short := representable.short
  simp only [pattern, powerOfTwo, Nat.pow_eq, Nat.reducePow] at short ⊢
  omega

include near

/-- A fraction near a number lies below the end of its binade. -/
theorem Near.below : (numerator : ℚ) / denominator < 2 ^ 53 * 2 ^ exponent := by
  have unit : (0 : ℚ) < 2 ^ exponent := by positivity
  have short : (mantissa : ℚ) + 1 ≤ 2 ^ 53 := by
    have whole : mantissa + 1 ≤ 2 ^ 53 := representable.short
    exact_mod_cast whole
  have high := near.high
  nlinarith

/-- Near a number a fraction lies below its binade only when the number is the power of two at
which the binade begins. -/
theorem Near.edge (notLeast : exponent ≠ -1074)
    (under : (numerator : ℚ) / denominator < 2 ^ 52 * 2 ^ exponent) :
    mantissa = powerOfTwo 52 := by
  have unit : (0 : ℚ) < 2 ^ exponent := by positivity
  have normal := representable.normal notLeast
  have close : (mantissa : ℚ) < 2 ^ 52 + 1 := by
    have half := lt_of_mul_lt_mul_right (lt_of_le_of_lt near.half under) unit.le
    linarith
  have close : mantissa < 2 ^ 52 + 1 := by exact_mod_cast close
  exact le_antisymm (Nat.lt_succ_iff.mp close) normal

include nonzero positive

/-- A fraction in the binade of a number, or among the least numbers, is rounded there. -/
theorem nearestPattern_inside
    (inside : exponent = -1074 ∨ (2 ^ 52 : ℚ) * 2 ^ exponent ≤ numerator / denominator) :
    nearestPattern numerator denominator = pattern mantissa exponent := by
  have below := near.below representable
  have least := representable.least
  have chosen : exponent = max (binade numerator denominator) (-1074) := by
    rcases inside with rfl | low
    · have := binade_le nonzero positive below
      omega
    · rw [binade_eq nonzero positive low below]
      omega
  rw [nearestPattern_binade nonzero chosen,
    roundDiv_scaled positive near.half near.high near.strict,
    min_eq_left representable.pattern_le]

/-- A fraction just below a power of two, in the narrow gap there, is rounded up to it. -/
theorem nearestPattern_edge (notLeast : exponent ≠ -1074)
    (under : (numerator : ℚ) / denominator < 2 ^ 52 * 2 ^ exponent) :
    nearestPattern numerator denominator = pattern mantissa exponent := by
  have least := representable.least
  have edge := near.edge representable notLeast under
  have capped := representable.pattern_le
  have low := near.low
  rw [if_pos ⟨edge, notLeast⟩, edge] at low
  have two : (2 : ℚ) ≠ 0 := by norm_num
  have double : (2 : ℚ) ^ exponent = 2 ^ (exponent - 1) * 2 := by
    rw [← zpow_add_one₀ two, sub_add_cancel]
  have cast52 : ((powerOfTwo 52 : Nat) : ℚ) = 2 ^ 52 := by norm_num
  have unit : (0 : ℚ) < 2 ^ (exponent - 1) := by positivity
  rw [cast52, double] at low
  rw [double] at under
  have chosen : exponent - 1 = max (binade numerator denominator) (-1074) := by
    have narrow : binade numerator denominator = exponent - 1 :=
      binade_eq nonzero positive (by nlinarith) (by linarith)
    omega
  have cast53 : ((powerOfTwo 53 : Nat) : ℚ) = 2 ^ 53 := by norm_num
  have rounded : roundDiv (scaleBinary numerator denominator (-(exponent - 1))).1
      (scaleBinary numerator denominator (-(exponent - 1))).2 = powerOfTwo 53 := by
    apply roundDiv_scaled positive
    · rw [cast53]
      nlinarith
    · rw [cast53]
      nlinarith
    · exact fun odd => absurd odd (by decide)
  have carried : pattern (powerOfTwo 53) (exponent - 1) = pattern mantissa exponent := by
    subst edge
    simp only [pattern, powerOfTwo, Nat.pow_eq, Nat.reducePow]
    omega
  rw [nearestPattern_binade nonzero chosen, rounded, carried, min_eq_left capped]

/-- A fraction near a number is read as that number. -/
theorem nearestPattern_eq : nearestPattern numerator denominator = pattern mantissa exponent := by
  by_cases inside : exponent = -1074 ∨ (2 ^ 52 : ℚ) * 2 ^ exponent ≤ numerator / denominator
  · exact nearestPattern_inside nonzero positive representable near inside
  · rw [not_or, not_le] at inside
    exact nearestPattern_edge nonzero positive representable near inside.1 inside.2

end Representable

/-! ### Integers -/

theorem roundDiv_le (numerator denominator : Nat) :
    roundDiv numerator denominator ≤ numerator / denominator + 1 := by
  rw [roundDiv]
  split <;> omega

/-- An integer of 64 bits is near a finite number. -/
theorem isFinite_nearest (negative : Bool) {n : Nat} (fits : n ≤ powerOfTwo 64) :
    isFinite (nearest negative n 1) = true := by
  have small : nearestPattern n 1 < 2047 * powerOfTwo 52 := by
    by_cases nonzero : n = 0
    · subst nonzero
      decide
    · have below : (n : ℚ) / (1 : Nat) < 2 ^ 53 * 2 ^ (12 : Int) := by
        have bound : (n : ℚ) ≤ 2 ^ 64 := by exact_mod_cast fits
        norm_num at bound ⊢
        linarith
      have low := binade_le nonzero Nat.one_pos below
      generalize chosen : max (binade n 1) (-1074) = exponent
      have most : exponent ≤ 12 := by omega
      have least : binade n 1 ≤ exponent := by omega
      have quotient : (scaleBinary n 1 (-exponent)).1 / (scaleBinary n 1 (-exponent)).2 <
          powerOfTwo 53 := by
        have positive := (scaleBinary_value n Nat.one_pos (-exponent)).1
        rw [Nat.div_lt_iff_lt_mul positive, ← Nat.not_le,
          scaled_le_iff Nat.one_pos (powerOfTwo 53) exponent, not_le]
        have cast53 : ((powerOfTwo 53 : Nat) : ℚ) = 2 ^ 53 := by norm_num
        have grows : (2 : ℚ) ^ binade n 1 ≤ 2 ^ exponent :=
          zpow_le_zpow_right₀ (by norm_num) least
        rw [cast53]
        calc (n : ℚ) / (1 : Nat) < 2 ^ 53 * 2 ^ binade n 1 := (binade_spec nonzero Nat.one_pos).2
          _ ≤ 2 ^ 53 * 2 ^ exponent := by gcongr
      have rounded := roundDiv_le (scaleBinary n 1 (-exponent)).1 (scaleBinary n 1 (-exponent)).2
      rw [nearestPattern_binade nonzero chosen.symm]
      apply Nat.lt_of_le_of_lt (Nat.min_le_left _ _)
      simp only [pattern, powerOfTwo, Nat.pow_eq, Nat.reducePow] at quotient ⊢
      omega
  apply isFinite_ofBits
  rw [UInt64.toNat_ofNat']
  simp only [powerOfTwo, Nat.pow_eq, Nat.reducePow] at small ⊢
  cases negative with
  | true =>
    rw [if_pos rfl]
    omega
  | false =>
    rw [if_neg Bool.false_ne_true]
    omega

end TaskLoop.Decimal
