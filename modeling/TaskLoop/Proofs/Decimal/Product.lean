import TaskLoop.Proofs.Decimal.Rounding

/-!
Products of double-precision numbers and the integers next above them. Rounding does not fall short
of a representable number that the exact product comes up to, so a number is not lessened by a
factor that is not below one, and neither is the integer next above it.
-/

set_option autoImplicit false

namespace TaskLoop.Decimal

open Float.Model (Format totalExponent UnpackedFloat)
open Float.Model.UnpackedFloat

/-! ### Ceilings -/

theorem ceil_div (numerator : Nat) {denominator : Nat} (some : 0 < denominator) :
    ⌈(numerator : ℚ) / denominator⌉ =
      if numerator % denominator == 0 then ((numerator / denominator : Nat) : Int)
      else (numerator / denominator : Nat) + 1 := by
  have divides : (denominator : Int) ∣ numerator ↔ numerator % denominator = 0 := by
    rw [Int.natCast_dvd_natCast, Nat.dvd_iff_mod_eq_zero]
  rw [Rat.ceil_natCast_div_natCast, Int.neg_ediv, Int.sign_natCast_of_ne_zero some.ne']
  simp only [divides, beq_iff_eq, Int.natCast_ediv]
  split <;> ring

/-- The integer next above a finite number that is not below nought, kept within 64 bits. -/
theorem ceiling_of_finite {x : Float} {mantissa : Nat} {exponent : Int} {positive : 0 < mantissa}
    (read : x.toModel.unpack = .finite .positive mantissa exponent positive) :
    ceiling x = min ⌈(mantissa : ℚ) * 2 ^ exponent⌉ (powerOfTwo 63 - 1) := by
  obtain ⟨some, value⟩ := scaleBinary_value mantissa Nat.one_pos exponent
  rw [Nat.cast_one, div_one] at value
  have notBelow : -(powerOfTwo 63 : Int) ≤ min ⌈(mantissa : ℚ) * 2 ^ exponent⌉ (powerOfTwo 63 - 1) := by
    have nonneg : 0 ≤ ⌈(mantissa : ℚ) * 2 ^ exponent⌉ := Int.ceil_nonneg (by positivity)
    have bound : (0 : Int) < powerOfTwo 63 := by decide
    omega
  rw [← value, ceil_div _ some] at notBelow ⊢
  rw [ceiling, ofFloat_eq_ofParts, read]
  exact max_eq_right notBelow

theorem scaleBinary_zero (denominator : Nat) (shift : Int) :
    (scaleBinary 0 denominator shift).1 = 0 := by
  rw [scaleBinary]
  split
  · exact Nat.zero_mul _
  · rfl

theorem ceiling_of_zero {x : Float} {sign : Sign} (read : x.toModel.unpack = .zero sign) :
    ceiling x = 0 := by
  rw [ceiling, ofFloat_eq_ofParts, read]
  simp only [Binary.ofParts, scaleBinary_zero, Nat.cast_zero, Int.zero_ediv, Nat.zero_mod]
  cases sign <;> rfl

theorem ceiling_of_infinity {x : Float} (read : x.toModel.unpack = .infinity .positive) :
    ceiling x = powerOfTwo 63 - 1 := by
  rw [ceiling, ofFloat_eq_ofParts, read]
  rfl

/-! ### Rounding -/

theorem mantissa_shift (extended : ExtendedMantissa) (shift : Nat) :
    (extended >>> shift).mantissa = extended.mantissa / 2 ^ shift := by
  induction shift with
  | zero => exact (Nat.div_one _).symm
  | succ shift ih =>
    have last : (extended >>> (shift + 1)).mantissa = (extended >>> shift).mantissa / 2 := rfl
    rw [last, ih, Nat.div_div_eq_div_mul, Nat.pow_succ]

theorem le_roundedMantissa (extended : ExtendedMantissa) :
    extended.mantissa ≤ extended.roundedMantissa := by
  obtain ⟨mantissa, round, sticky⟩ := extended
  cases round <;> cases sticky <;>
    simp [ExtendedMantissa.roundedMantissa, ExtendedMantissa.accuracy,
      Accuracy.roundToNearestEven]

/-- A mantissa and an exponent as rounding leaves them, where the exponent may be too large. -/
structure Settled (mantissa : Nat) (exponent : Int) : Prop where
  least : -1074 ≤ exponent
  short : mantissa < 2 ^ 53
  normal : exponent ≠ -1074 → 2 ^ 52 ≤ mantissa

/-- The bits that a mantissa loses at the exponent aimed at. -/
theorem shift_exact (mantissa : Nat) (exponent : Int) : ∃ shift : Nat,
    (shiftToTargetExponent Format.binary64 mantissa exponent .exact).1.mantissa =
      mantissa / 2 ^ shift ∧
    (shiftToTargetExponent Format.binary64 mantissa exponent .exact).2 = exponent + shift ∧
    (shift : Int) = max 0 (max (mantissa.log2 + exponent - 52) (-1074) - exponent) := by
  refine ⟨_, mantissa_shift _ _, rfl, ?_⟩
  simp only [Format.targetExponent, totalExponent, Format.mantissaBits, Format.minExponent]
  norm_num
  omega

section Shift

variable {mantissa : Nat} {exponent : Int}

/-- A mantissa that does not have too few bits for its exponent is left with those that it may
have. -/
theorem settled_shift (long : exponent ≤ -1074 ∨ 2 ^ 52 ≤ mantissa) :
    Settled (shiftToTargetExponent Format.binary64 mantissa exponent .exact).1.mantissa
      (shiftToTargetExponent Format.binary64 mantissa exponent .exact).2 := by
  obtain ⟨shift, kept, top, chosen⟩ := shift_exact mantissa exponent
  rw [kept, top]
  refine ⟨by omega, ?_, fun above => ?_⟩
  · rw [Nat.div_lt_iff_lt_mul (Nat.two_pow_pos _), ← Nat.pow_add]
    exact lt_of_lt_of_le Nat.lt_log2_self (Nat.pow_le_pow_right (by decide) (by omega))
  · have some : mantissa ≠ 0 := by
      rintro rfl
      rw [Nat.log2_zero] at chosen
      omega
    have bits : mantissa.log2 = 52 + shift := by
      have least : exponent ≤ -1074 ∨ 52 ≤ mantissa.log2 :=
        long.imp_right (Nat.le_log2 some).mpr
      omega
    rw [Nat.le_div_iff_mul_le (Nat.two_pow_pos _), ← Nat.pow_add, ← bits]
    exact Nat.log2_self_le some

/-- At a coarser exponent a mantissa comes up to a limit if it does so in units of its own. -/
theorem limit_le_iff {limit : Nat} {bottom : Int} (finer : exponent ≤ bottom) :
    (limit : ℚ) * 2 ^ bottom ≤ mantissa * 2 ^ exponent ↔
      limit * 2 ^ (bottom - exponent).toNat ≤ mantissa := by
  obtain ⟨apart, rfl⟩ := Int.le.dest finer
  have unit : (0 : ℚ) < 2 ^ exponent := by positivity
  rw [zpow_add₀ two_ne_zero, mul_comm ((2 : ℚ) ^ exponent), ← mul_assoc,
    mul_le_mul_iff_left₀ unit, add_sub_cancel_left, Int.toNat_natCast, zpow_natCast]
  exact_mod_cast Iff.rfl

/-- The bits that are lost do not take a mantissa below a representable limit. -/
theorem limit_le_shift {limit : Nat} {bottom : Int} (short : limit < 2 ^ 53)
    (above : -1074 ≤ bottom) (reaches : (limit : ℚ) * 2 ^ bottom ≤ mantissa * 2 ^ exponent) :
    (limit : ℚ) * 2 ^ bottom ≤
      (shiftToTargetExponent Format.binary64 mantissa exponent .exact).1.mantissa *
        2 ^ (shiftToTargetExponent Format.binary64 mantissa exponent .exact).2 := by
  obtain ⟨shift, kept, top, chosen⟩ := shift_exact mantissa exponent
  rw [kept, top]
  rcases Nat.eq_zero_or_pos shift with none | some
  · rw [none, Nat.pow_zero, Nat.div_one, Nat.cast_zero, add_zero]
    exact reaches
  rcases le_or_gt (exponent + shift) bottom with finer | coarser
  · -- The limit is a whole number of the coarser units.
    rw [limit_le_iff finer, Nat.le_div_iff_mul_le (Nat.two_pow_pos _), Nat.mul_assoc, ← Nat.pow_add]
    rw [limit_le_iff (by omega)] at reaches
    have parts : (bottom - (exponent + shift)).toNat + shift = (bottom - exponent).toNat := by omega
    rwa [parts]
  · -- The limit lies below all mantissas that have all their bits at the coarser exponent.
    have bits : mantissa.log2 = 52 + shift := by omega
    have nonzero : mantissa ≠ 0 := by
      rintro rfl
      rw [Nat.log2_zero] at bits
      omega
    have whole : 2 ^ 52 ≤ mantissa / 2 ^ shift := by
      rw [Nat.le_div_iff_mul_le (Nat.two_pow_pos _), ← Nat.pow_add, ← bits]
      exact Nat.log2_self_le nonzero
    have wholeRat : (2 : ℚ) ^ 52 ≤ (mantissa / 2 ^ shift : Nat) := by exact_mod_cast whole
    have shortRat : (limit : ℚ) ≤ 2 ^ 53 := by exact_mod_cast short.le
    have next : (2 : ℚ) ^ (bottom + 1) ≤ 2 ^ (exponent + shift) :=
      zpow_le_zpow_right₀ one_le_two coarser
    calc (limit : ℚ) * 2 ^ bottom ≤ 2 ^ 53 * 2 ^ bottom := by gcongr
      _ = 2 ^ 52 * 2 ^ (bottom + 1) := by rw [zpow_add_one₀ two_ne_zero]; ring
      _ ≤ 2 ^ 52 * 2 ^ (exponent + shift) := by gcongr
      _ ≤ (mantissa / 2 ^ shift : Nat) * 2 ^ (exponent + shift) := by gcongr

end Shift

/-- A number, not below nought, that comes up to a limit. -/
def Reaches (limit : ℚ) : UnpackedFloat → Prop
  | .infinity .positive => True
  | .finite .positive mantissa exponent _ => limit ≤ mantissa * 2 ^ exponent
  | .zero _ => limit ≤ 0
  | _ => False

/-- A number that rounding leaves is read back as it is, or as infinite. -/
theorem repacked_settled {sign : Sign} {mantissa : Nat} {exponent : Int} (positive : 0 < mantissa)
    (settled : Settled mantissa exponent) :
    repacked (.finite sign mantissa exponent positive) =
      if exponent ≤ 971 then .finite sign mantissa exponent positive else .infinity sign := by
  have least := settled.least
  have short := settled.short
  split
  · rename_i most
    by_cases long : 2 ^ 52 ≤ mantissa
    · exact repacked_normal positive ((Nat.log2_eq_iff positive.ne').mpr ⟨long, short⟩) least most
    · obtain rfl : exponent = -1074 := by
        by_contra other
        exact long (settled.normal other)
      exact repacked_subnormal positive (Nat.not_le.mp long)
  · rename_i above
    rw [repacked_eq, pack, biased_field, if_pos]
    · exact repacked_infinity sign
    · show 2 ^ 11 ≤ (exponent + 1075).toNat + 1
      omega

/-- A product that comes up to a representable limit is rounded to a number that does. -/
theorem reaches_round {mantissa limit : Nat} {exponent bottom : Int} (long : 2 ^ 52 ≤ mantissa)
    (short : limit < 2 ^ 53) (above : -1074 ≤ bottom)
    (reaches : (limit : ℚ) * 2 ^ bottom ≤ mantissa * 2 ^ exponent) :
    Reaches (limit * 2 ^ bottom)
      (repacked (roundWithAccuracy Format.binary64 .positive mantissa exponent .exact)) := by
  have settled := settled_shift (.inr long : exponent ≤ -1074 ∨ 2 ^ 52 ≤ mantissa)
  have first := limit_le_shift short above reaches
  simp only [roundWithAccuracy]
  generalize shiftToTargetExponent Format.binary64 mantissa exponent .exact = shifted
    at settled first
  have more := le_roundedMantissa shifted.1
  have enough : shifted.2 ≤ -1074 ∨ 2 ^ 52 ≤ shifted.1.roundedMantissa := by
    rcases eq_or_ne shifted.2 (-1074) with least | other
    · exact .inl least.le
    · exact .inr ((settled.normal other).trans more)
  have settled' := settled_shift enough
  have rounded : (limit : ℚ) * 2 ^ bottom ≤ shifted.1.roundedMantissa * 2 ^ shifted.2 :=
    first.trans (by gcongr)
  have second := limit_le_shift short above rounded
  split
  · rename_i none
    rw [none, Nat.cast_zero, zero_mul] at second
    rw [repacked_zero]
    exact second
  · rw [repacked_settled _ settled']
    split
    · exact second
    · trivial

/-! ### Products -/

theorem one_le_of_atLeastOne {mantissa : Nat} {exponent : Int}
    (atLeastOne : 2 ^ (-exponent).toNat ≤ mantissa) : (1 : ℚ) ≤ mantissa * 2 ^ exponent := by
  have atLeastOneRat : (2 : ℚ) ^ (-exponent).toNat ≤ mantissa := by exact_mod_cast atLeastOne
  have notLess : (2 : ℚ) ^ (-exponent) ≤ 2 ^ (-exponent).toNat := by
    rw [← zpow_natCast]
    exact zpow_le_zpow_right₀ one_le_two (Int.self_le_toNat _)
  have unit : (0 : ℚ) < 2 ^ exponent := by positivity
  rw [zpow_neg, inv_le_iff_one_le_mul₀ unit] at notLess
  exact notLess.trans (by gcongr)

/-- A product by a factor that is not below one comes up to the other factor. -/
theorem reaches_mul {x factor : Float} {mantissa : Nat} {exponent : Int} {positive : 0 < mantissa}
    (read : x.toModel.unpack = .finite .positive mantissa exponent positive)
    (atLeastOne : AtLeastOne factor.toModel.unpack) :
    Reaches (mantissa * 2 ^ exponent) (x * factor).toModel.unpack := by
  obtain ⟨least, -, short, -⟩ := representable_of_unpack read
  rw [unpack_mul, read]
  cases other : factor.toModel.unpack with
  | notANumber =>
    rw [other] at atLeastOne
    exact absurd atLeastOne id
  | zero sign =>
    rw [other] at atLeastOne
    exact absurd atLeastOne id
  | infinity sign =>
    rw [other] at atLeastOne
    cases sign with
    | negative => exact absurd atLeastOne id
    | positive =>
      rw [mul, repacked_infinity]
      trivial
  | finite sign mantissa' exponent' positive' =>
    obtain ⟨-, -, short', normal⟩ := representable_of_unpack other
    rw [other] at atLeastOne
    cases sign with
    | negative => exact absurd atLeastOne id
    | positive =>
      have notLess : 2 ^ (-exponent').toNat ≤ mantissa' := atLeastOne
      have one := one_le_of_atLeastOne notLess
      have small : (-exponent').toNat < 53 := by
        have below : 2 ^ (-exponent').toNat < 2 ^ 53 := notLess.trans_lt short'
        exact (Nat.pow_lt_pow_iff_right (by decide)).mp below
      have long : 2 ^ 52 ≤ mantissa * mantissa' :=
        (normal (by omega)).trans (Nat.le_mul_of_pos_left _ positive)
      refine reaches_round long short least ?_
      calc (mantissa : ℚ) * 2 ^ exponent
          ≤ mantissa * 2 ^ exponent * (mantissa' * 2 ^ exponent') :=
            le_mul_of_one_le_right (by positivity) one
        _ = (mantissa * mantissa' : Nat) * 2 ^ (exponent + exponent') := by
            rw [zpow_add₀ two_ne_zero]
            push_cast
            ring

/-! ### Ceilings of products -/

theorem ceiling_of_notANumber {x : Float} (read : x.toModel.unpack = .notANumber) :
    ceiling x = 0 := by
  rw [ceiling, ofFloat_eq_ofParts, read]
  rfl

/-- The integer next above a number that comes up to a limit comes up to that above the limit. -/
theorem le_ceiling_of_reaches {x : Float} {limit : ℚ} (reaches : Reaches limit x.toModel.unpack) :
    min ⌈limit⌉ (powerOfTwo 63 - 1) ≤ ceiling x := by
  cases read : x.toModel.unpack with
  | notANumber =>
    rw [read] at reaches
    exact absurd reaches id
  | zero sign =>
    rw [read] at reaches
    rw [ceiling_of_zero read]
    exact (min_le_left _ _).trans (Int.ceil_le.mpr (by exact_mod_cast reaches))
  | infinity sign =>
    rw [read] at reaches
    cases sign with
    | negative => exact absurd reaches id
    | positive => exact (min_le_right _ _).trans (ceiling_of_infinity read).ge
  | finite sign mantissa exponent positive =>
    rw [read] at reaches
    cases sign with
    | negative => exact absurd reaches id
    | positive =>
      rw [ceiling_of_finite read]
      exact min_le_min_right _ (Int.ceil_le_ceil reaches)

/-- The integer next above a number that is not below nought is the greatest of 64 bits, or that
above a representable fraction. -/
theorem ceiling_cases {x : Float} (nonNegative : NonNegative x) :
    ceiling x = powerOfTwo 63 - 1 ∨ ∃ mantissa exponent, Representable mantissa exponent ∧
      ceiling x = min ⌈(mantissa : ℚ) * 2 ^ exponent⌉ (powerOfTwo 63 - 1) := by
  have nought : ceiling x = 0 → ∃ mantissa exponent, Representable mantissa exponent ∧
      ceiling x = min ⌈(mantissa : ℚ) * 2 ^ exponent⌉ (powerOfTwo 63 - 1) := fun none =>
    ⟨0, -1074, ⟨le_rfl, by decide, by decide, fun other => absurd rfl other⟩, by
      rw [none, Nat.cast_zero, zero_mul, Int.ceil_zero]
      rfl⟩
  unfold NonNegative at nonNegative
  cases read : x.toModel.unpack with
  | notANumber => exact .inr (nought (ceiling_of_notANumber read))
  | zero sign => exact .inr (nought (ceiling_of_zero read))
  | infinity sign =>
    rw [read] at nonNegative
    cases sign with
    | negative => exact absurd nonNegative id
    | positive => exact .inl (ceiling_of_infinity read)
  | finite sign mantissa exponent positive =>
    rw [read] at nonNegative
    cases sign with
    | negative => exact absurd nonNegative id
    | positive =>
      exact .inr ⟨mantissa, exponent, representable_of_unpack read, ceiling_of_finite read⟩

theorem ceiling_nonneg {x : Float} (nonNegative : NonNegative x) : 0 ≤ ceiling x := by
  have bound : (0 : Int) ≤ powerOfTwo 63 - 1 := by decide
  rcases ceiling_cases nonNegative with greatest | ⟨mantissa, exponent, -, same⟩
  · rw [greatest]
    exact bound
  · rw [same]
    exact le_min (Int.ceil_nonneg (by positivity)) bound

/-- Between the greatest integers of 64 bits there are no numbers, so the integer next above a
number is the greatest or not near to it. -/
theorem ceiling_apart {x : Float} (nonNegative : NonNegative x) :
    ceiling x = powerOfTwo 63 - 1 ∨ ceiling x + 1024 ≤ powerOfTwo 63 := by
  have edge : ((powerOfTwo 63 : Nat) : Int) = 2 ^ 63 := by norm_num
  rcases ceiling_cases nonNegative with greatest | ⟨mantissa, exponent, representable, same⟩
  · exact .inl greatest
  rw [same, edge]
  rcases le_or_gt exponent 10 with fine | coarse
  · right
    have wholeRat : (mantissa : ℚ) ≤ 2 ^ 53 - 1 := by
      rw [le_sub_iff_add_le]
      exact_mod_cast representable.short
    have most : (mantissa : ℚ) * 2 ^ exponent ≤ ((2 ^ 63 - 1024 : Int) : ℚ) :=
      calc (mantissa : ℚ) * 2 ^ exponent ≤ (2 ^ 53 - 1) * 2 ^ (10 : Int) := by
            gcongr
            exact one_le_two
        _ = ((2 ^ 63 - 1024 : Int) : ℚ) := by norm_num
    have integer := Int.ceil_le.mpr most
    omega
  · left
    have long : 2 ^ 52 ≤ mantissa := representable.normal (by omega)
    have longRat : (2 : ℚ) ^ 52 ≤ mantissa := by exact_mod_cast long
    have least : ((2 ^ 63 : Int) : ℚ) ≤ mantissa * 2 ^ exponent :=
      calc ((2 ^ 63 : Int) : ℚ) = 2 ^ 52 * 2 ^ (11 : Int) := by norm_num
        _ ≤ mantissa * 2 ^ exponent := by
            gcongr
            · exact one_le_two
            · exact coarse
    have integer : 2 ^ 63 ≤ ⌈(mantissa : ℚ) * 2 ^ exponent⌉ := by
      exact_mod_cast least.trans (Int.le_ceil _)
    omega

theorem AtLeastOne.notBelow {x : UnpackedFloat} (atLeastOne : AtLeastOne x) : NotBelow x := by
  cases x with
  | notANumber => trivial
  | zero sign => trivial
  | infinity sign => cases sign with
    | negative => exact absurd atLeastOne id
    | positive => trivial
  | finite sign mantissa exponent positive => cases sign with
    | negative => exact absurd atLeastOne id
    | positive => trivial

/-- A factor that is not below one does not lessen the integer next above a number. -/
theorem ceiling_le_ceiling_mul {x factor : Float} (finite : isFinite x = true)
    (nonNegative : NonNegative x) (atLeastOne : AtLeastOne factor.toModel.unpack) :
    ceiling x ≤ ceiling (x * factor) := by
  have product := ceiling_nonneg (nonNegative.mul atLeastOne.notBelow)
  rw [isFinite, ofFloat_eq_ofParts] at finite
  cases read : x.toModel.unpack with
  | notANumber =>
    rw [read] at finite
    cases finite
  | infinity sign =>
    rw [read] at finite
    cases finite
  | zero sign => rwa [ceiling_of_zero read]
  | finite sign mantissa exponent positive =>
    rw [NonNegative, read] at nonNegative
    cases sign with
    | negative => exact absurd nonNegative id
    | positive =>
      rw [ceiling_of_finite read]
      exact le_ceiling_of_reaches (reaches_mul read atLeastOne)

end TaskLoop.Decimal
