import TaskLoop.Proofs.Decimal.Order

/-!
Quotients of counts as double-precision numbers. A quotient is rounded to a number that it is near
to, and quotients of counts that are not too large lie so far apart that unequal ones are rounded
to unequal numbers, in the same order.
-/

set_option autoImplicit false

namespace TaskLoop.Decimal

open Float.Model (Format totalExponent UnpackedFloat)
open Float.Model.UnpackedFloat

/-! ### Rests -/

/-- The two bits behind a mantissa tell a rest below one: whether there is any, and where it stands
to one half. -/
def Tells (extended : ExtendedMantissa) (rest : ℚ) : Prop :=
  match extended.roundBit, extended.stickyBit with
  | false, false => rest = 0
  | false, true => 0 < rest ∧ rest < 1 / 2
  | true, false => rest = 1 / 2
  | true, true => 1 / 2 < rest ∧ rest < 1

theorem tells_fraction (mantissa : Nat) {part whole : Nat} (below : part < whole) :
    Tells (.ofMantissaAndAccuracy mantissa (accuracyOfFraction part whole))
      ((part : ℚ) / whole) := by
  have positive : (0 : ℚ) < whole := by exact_mod_cast (Nat.zero_le part).trans_lt below
  have below' : (part : ℚ) < whole := by exact_mod_cast below
  unfold accuracyOfFraction
  split
  · rename_i none
    rw [none, Nat.cast_zero, zero_div]
    rfl
  · rename_i some
    have some' : (0 : ℚ) < part := by exact_mod_cast Nat.pos_of_ne_zero some
    cases order : compare (2 * part) whole with
    | lt =>
      have half : (2 * part : ℚ) < whole := by exact_mod_cast compare_lt_iff_lt.mp order
      exact ⟨div_pos some' positive, by rw [div_lt_iff₀ positive]; linarith⟩
    | eq =>
      have half : (2 * part : ℚ) = whole := by exact_mod_cast compare_eq_iff_eq.mp order
      show (part : ℚ) / whole = 1 / 2
      rw [div_eq_iff positive.ne']
      linarith
    | gt =>
      have half : (whole : ℚ) < 2 * part := by exact_mod_cast compare_gt_iff_gt.mp order
      exact ⟨by rw [lt_div_iff₀ positive]; linarith, by rwa [div_lt_one positive]⟩

theorem Tells.bounds {extended : ExtendedMantissa} {rest : ℚ} (tells : Tells extended rest) :
    if extended.roundBit || extended.stickyBit then 0 < rest ∧ rest < 1 else rest = 0 := by
  obtain ⟨mantissa, round, sticky⟩ := extended
  cases round with
  | false => cases sticky with
    | false => exact tells
    | true => exact ⟨tells.1, tells.2.trans (by norm_num)⟩
  | true => cases sticky with
    | false =>
      have half : rest = 1 / 2 := tells
      rw [half]
      exact ⟨by norm_num, by norm_num⟩
    | true => exact ⟨lt_trans (by norm_num) tells.1, tells.2⟩

theorem Tells.nonneg {extended : ExtendedMantissa} {rest : ℚ} (tells : Tells extended rest) :
    0 ≤ rest ∧ rest < 1 := by
  have bounds := tells.bounds
  split at bounds
  · exact ⟨bounds.1.le, bounds.2⟩
  · rw [bounds]
    exact ⟨le_rfl, zero_lt_one⟩

theorem Tells.shiftRightOne {extended : ExtendedMantissa} {rest : ℚ} (tells : Tells extended rest) :
    Tells extended.shiftRightOne (((extended.mantissa % 2 : Nat) + rest) / 2) := by
  have bounds := tells.bounds
  obtain ⟨mantissa, round, sticky⟩ := extended
  simp only [Tells, ExtendedMantissa.shiftRightOne] at bounds ⊢
  rcases Nat.mod_two_eq_zero_or_one mantissa with even | odd
  · simp only [even, bne_self_eq_false, Nat.cast_zero, zero_add]
    split at bounds
    · rename_i some
      simp only [some]
      exact ⟨by linarith, by linarith⟩
    · rename_i none
      rw [Bool.not_eq_true] at none
      simp only [none, bounds, zero_div]
  · have bit : (1 != 0) = true := rfl
    simp only [odd, bit, Nat.cast_one]
    split at bounds
    · rename_i some
      simp only [some]
      exact ⟨by linarith, by linarith⟩
    · rename_i none
      rw [Bool.not_eq_true] at none
      simp only [none, bounds, add_zero]

/-! ### Rounding -/

/-- A natural number that a fraction is rounded to: one no more than a half away, and an even one
where that leaves a choice. -/
structure Rounds (n : Nat) (fraction : ℚ) : Prop where
  low : fraction - 1 / 2 ≤ n
  high : n ≤ fraction + 1 / 2
  strict : n % 2 = 1 → fraction - 1 / 2 < n ∧ n < fraction + 1 / 2

theorem Tells.rounds {extended : ExtendedMantissa} {rest : ℚ} (tells : Tells extended rest) :
    Rounds extended.roundedMantissa (extended.mantissa + rest) := by
  obtain ⟨mantissa, round, sticky⟩ := extended
  cases round with
  | false => cases sticky with
    | false =>
      have none : rest = 0 := tells
      show Rounds mantissa (mantissa + rest)
      exact ⟨by linarith, by linarith, fun _ => ⟨by linarith, by linarith⟩⟩
    | true =>
      obtain ⟨some, less⟩ : 0 < rest ∧ rest < 1 / 2 := tells
      show Rounds mantissa (mantissa + rest)
      exact ⟨by linarith, by linarith, fun _ => ⟨by linarith, by linarith⟩⟩
  | true => cases sticky with
    | false =>
      have half : rest = 1 / 2 := tells
      show Rounds (mantissa + mantissa % 2) (mantissa + rest)
      rcases Nat.mod_two_eq_zero_or_one mantissa with even | odd
      · rw [even, Nat.add_zero]
        exact ⟨by linarith, by linarith, fun odd => by omega⟩
      · rw [odd]
        exact ⟨by push_cast; linarith, by push_cast; linarith, fun odd => by omega⟩
    | true =>
      obtain ⟨more, below⟩ : 1 / 2 < rest ∧ rest < 1 := tells
      show Rounds (mantissa + 1) (mantissa + rest)
      exact ⟨by push_cast; linarith, by push_cast; linarith,
        fun _ => ⟨by push_cast; linarith, by push_cast; linarith⟩⟩

/-- A mantissa with as many bits as it may have or more loses those that are too many. -/
theorem shiftToTarget_of_log2 {mantissa more : Nat} {exponent : Int}
    (long : mantissa.log2 = 52 + more) (least : -1074 ≤ exponent) (accuracy : Accuracy) :
    shiftToTargetExponent Format.binary64 mantissa exponent accuracy =
      (ExtendedMantissa.ofMantissaAndAccuracy mantissa accuracy >>> more, exponent + more) := by
  have target : Format.binary64.targetExponent (totalExponent mantissa exponent) =
      exponent + more := by
    simp only [Format.targetExponent, totalExponent, Format.mantissaBits, Format.minExponent, long]
    norm_num
    omega
  have shift : (exponent + more - exponent).toNat = more := by omega
  simp only [shiftToTargetExponent, target, shiftToExponent, shift]

theorem mantissa_ofMantissaAndAccuracy (mantissa : Nat) (accuracy : Accuracy) :
    (ExtendedMantissa.ofMantissaAndAccuracy mantissa accuracy).mantissa = mantissa := by
  cases accuracy with
  | exact => rfl
  | inexact order => cases order <;> rfl

/-- A mantissa with one bit too many at most is brought to the bits it may have. -/
theorem shift_tells {mantissa : Nat} {exponent : Int} {accuracy : Accuracy} {rest : ℚ}
    (tells : Tells (.ofMantissaAndAccuracy mantissa accuracy) rest) (low : 2 ^ 52 ≤ mantissa)
    (high : mantissa < 2 ^ 54) (least : -1074 ≤ exponent) :
    ∃ extended top rest', shiftToTargetExponent Format.binary64 mantissa exponent accuracy =
        (extended, top) ∧ Tells extended rest' ∧
      ((extended.mantissa : ℚ) + rest') * 2 ^ top = (mantissa + rest) * 2 ^ exponent ∧
      (2 ^ 52 ≤ extended.mantissa ∧ extended.mantissa < 2 ^ 53) ∧
      exponent ≤ top ∧ top ≤ exponent + 1 := by
  have whole := mantissa_ofMantissaAndAccuracy mantissa accuracy
  by_cases short : mantissa < 2 ^ 53
  · have long : mantissa.log2 = 52 + 0 := (Nat.log2_eq_iff (by omega)).mpr ⟨low, short⟩
    have same := shiftToTarget_of_log2 long least accuracy
    rw [Nat.cast_zero, add_zero] at same
    refine ⟨.ofMantissaAndAccuracy mantissa accuracy, exponent, rest, same, tells, ?_, ?_, le_rfl,
      by omega⟩
    · rw [whole]
    · rw [whole]
      exact ⟨low, short⟩
  · have long : mantissa.log2 = 52 + 1 := (Nat.log2_eq_iff (by omega)).mpr ⟨by omega, high⟩
    have half : (ExtendedMantissa.ofMantissaAndAccuracy mantissa accuracy).shiftRightOne.mantissa =
        mantissa / 2 := congrArg (· / 2) whole
    refine ⟨(ExtendedMantissa.ofMantissaAndAccuracy mantissa accuracy).shiftRightOne, exponent + 1,
      _, shiftToTarget_of_log2 long least accuracy, tells.shiftRightOne, ?_, ?_, by omega, le_rfl⟩
    · have parts : (mantissa : ℚ) = 2 * (mantissa / 2 : Nat) + (mantissa % 2 : Nat) := by
        exact_mod_cast (Nat.div_add_mod mantissa 2).symm
      rw [half, whole, zpow_add_one₀ two_ne_zero]
      linear_combination (2 : ℚ) ^ exponent * -parts
    · rw [half]
      omega

theorem Rounds.near {n : Nat} {fraction : ℚ} (rounds : Rounds n fraction)
    (low : 2 ^ 52 ≤ fraction) (exponent : Int) : Near n exponent (fraction * 2 ^ exponent) := by
  have unit : (0 : ℚ) < 2 ^ exponent := by positivity
  have edge : ((powerOfTwo 52 : Nat) : ℚ) = 2 ^ 52 := by norm_num
  refine ⟨mul_le_mul_of_nonneg_right ?_ unit.le, mul_le_mul_of_nonneg_right ?_ unit.le,
    fun odd => ?_⟩
  · split
    · rename_i least
      rw [least.1, edge]
      linarith
    · linarith [rounds.high]
  · linarith [rounds.low]
  · obtain ⟨left, right⟩ := rounds.strict odd
    exact ⟨mul_lt_mul_of_pos_right (by linarith) unit, mul_lt_mul_of_pos_right (by linarith) unit⟩

/-- What is rounded up to a mantissa with one bit too many is near to the power of two that it
stands for. -/
theorem Rounds.near_carry {fraction : ℚ} (rounds : Rounds (2 ^ 53) fraction)
    (below : fraction < 2 ^ 53) {exponent : Int} (least : -1074 ≤ exponent) :
    Near (2 ^ 52) (exponent + 1) (fraction * 2 ^ exponent) := by
  have unit : (0 : ℚ) < 2 ^ exponent := by positivity
  have high := rounds.high
  push_cast at high
  have apart : (2 ^ 52 = powerOfTwo 52 ∧ exponent + 1 ≠ -1074) := ⟨rfl, by omega⟩
  refine ⟨?_, ?_, fun odd => absurd odd (by decide)⟩
  · rw [if_pos apart, zpow_add_one₀ two_ne_zero]
    push_cast
    nlinarith
  · rw [zpow_add_one₀ two_ne_zero]
    push_cast
    nlinarith

theorem roundWithAccuracy_eq {mantissa : Nat} {exponent middle top : Int} {accuracy : Accuracy}
    {extended final : ExtendedMantissa} (sign : Sign)
    (first : shiftToTargetExponent Format.binary64 mantissa exponent accuracy = (extended, middle))
    (second : shiftToTargetExponent Format.binary64 extended.roundedMantissa middle .exact =
      (final, top)) (positive : 0 < final.mantissa) :
    roundWithAccuracy Format.binary64 sign mantissa exponent accuracy =
      .finite sign final.mantissa top positive := by
  simp only [roundWithAccuracy, first, second]
  exact dif_neg positive.ne'

/-- A mantissa with all the bits it may have and a rest is rounded to a number that they are
near to. -/
theorem round_near {mantissa : Nat} {exponent : Int} {accuracy : Accuracy} {rest : ℚ}
    (tells : Tells (.ofMantissaAndAccuracy mantissa accuracy) rest) (low : 2 ^ 52 ≤ mantissa)
    (high : mantissa < 2 ^ 54) (least : -1074 ≤ exponent) (sign : Sign) :
    ∃ rounded top positive, roundWithAccuracy Format.binary64 sign mantissa exponent accuracy =
        .finite sign rounded top positive ∧ (2 ^ 52 ≤ rounded ∧ rounded < 2 ^ 53) ∧
      (exponent ≤ top ∧ top ≤ exponent + 2) ∧
      Near rounded top ((mantissa + rest) * 2 ^ exponent) := by
  obtain ⟨extended, middle, rest', first, tells', value, ⟨low', high'⟩, above, below⟩ :=
    shift_tells tells low high least
  have rounds := tells'.rounds
  obtain ⟨some, less⟩ := tells'.nonneg
  have lowRat : (2 : ℚ) ^ 52 ≤ extended.mantissa := by exact_mod_cast low'
  have highRat : (extended.mantissa : ℚ) + 1 ≤ 2 ^ 53 := by exact_mod_cast high'
  have fewest : 2 ^ 52 ≤ extended.roundedMantissa := by
    have more : (2 : ℚ) ^ 52 < extended.roundedMantissa + 1 := by linarith [rounds.low]
    exact Nat.lt_succ_iff.mp (by exact_mod_cast more)
  have most : extended.roundedMantissa ≤ 2 ^ 53 := by
    have less : (extended.roundedMantissa : ℚ) < 2 ^ 53 + 1 := by linarith [rounds.high]
    exact Nat.lt_succ_iff.mp (by exact_mod_cast less)
  rw [← value]
  by_cases short : extended.roundedMantissa < 2 ^ 53
  · have long : extended.roundedMantissa.log2 = 52 + 0 :=
      (Nat.log2_eq_iff (by omega)).mpr ⟨fewest, short⟩
    have second := shiftToTarget_of_log2 long (least.trans above) .exact
    rw [Nat.cast_zero, add_zero] at second
    have positive : 0 < extended.roundedMantissa := by omega
    exact ⟨_, _, _, roundWithAccuracy_eq sign first second positive, ⟨fewest, short⟩,
      ⟨above, by omega⟩, rounds.near (by linarith) middle⟩
  · have edge : extended.roundedMantissa = 2 ^ 53 := by omega
    have long : extended.roundedMantissa.log2 = 52 + 1 :=
      (Nat.log2_eq_iff (by omega)).mpr ⟨by omega, by omega⟩
    have second := shiftToTarget_of_log2 long (least.trans above) .exact
    have half : (ExtendedMantissa.ofMantissaAndAccuracy extended.roundedMantissa
        .exact >>> 1).mantissa = 2 ^ 52 := by
      show extended.roundedMantissa / 2 = 2 ^ 52
      omega
    have near : Near (2 ^ 52) (middle + 1) ((extended.mantissa + rest') * 2 ^ middle) :=
      (edge ▸ rounds).near_carry (by linarith) (least.trans above)
    rw [← half] at near
    exact ⟨_, _, _, roundWithAccuracy_eq sign first second (by rw [half]; decide),
      by rw [half]; decide, ⟨by omega, by omega⟩, near⟩

/-! ### Division -/

/-- The quotient of two numbers with all the bits of their mantissas is a number that their exact
quotient is near to. -/
theorem div_near {mantissa divisor : Nat} {exponent scale : Int}
    (long : mantissa.log2 = 52) (long' : divisor.log2 = 52) (least : -1000 ≤ exponent - scale)
    (sign : Sign) : ∃ rounded top positive,
      roundWithAccuracy Format.binary64 sign
          (divCore Format.binary64 mantissa exponent divisor scale).1
          (divCore Format.binary64 mantissa exponent divisor scale).2.1
          (divCore Format.binary64 mantissa exponent divisor scale).2.2 =
        .finite sign rounded top positive ∧ (2 ^ 52 ≤ rounded ∧ rounded < 2 ^ 53) ∧
      (exponent - scale - 53 ≤ top ∧ top ≤ exponent - scale - 51) ∧
      Near rounded top ((mantissa * 2 ^ exponent) / (divisor * 2 ^ scale)) := by
  have some : 0 < mantissa := Nat.pos_of_ne_zero fun none => by rw [none] at long; cases long
  have some' : 0 < divisor := Nat.pos_of_ne_zero fun none => by rw [none] at long'; cases long'
  obtain ⟨low, high⟩ := (Nat.log2_eq_iff some.ne').mp long
  obtain ⟨low', high'⟩ := (Nat.log2_eq_iff some'.ne').mp long'
  have target : Format.binary64.targetExponent
      (totalExponent mantissa exponent - totalExponent divisor scale) = exponent - scale - 53 := by
    simp only [Format.targetExponent, totalExponent, Format.mantissaBits, Format.minExponent, long,
      long']
    norm_num
    omega
  have finest : min (exponent - scale) (exponent - scale - 53) = exponent - scale - 53 := by omega
  have shift : (exponent - scale - (exponent - scale - 53)).toNat = 53 := by omega
  simp only [divCore, target, finest, shift, Nat.shiftLeft_eq]
  have tells := tells_fraction (mantissa * 2 ^ 53 / divisor)
    (Nat.mod_lt (mantissa * 2 ^ 53) some')
  obtain ⟨rounded, top, positive, same, bits, ⟨above, below⟩, near⟩ := round_near tells
    ((Nat.le_div_iff_mul_le some').mpr (by omega)) ((Nat.div_lt_iff_lt_mul some').mpr (by omega))
    (by omega : -1074 ≤ exponent - scale - 53) sign
  refine ⟨rounded, top, positive, same, bits, ⟨above, by omega⟩, ?_⟩
  have divides : (divisor : ℚ) ≠ 0 := by exact_mod_cast some'.ne'
  have parts : (mantissa : ℚ) * 2 ^ 53 =
      divisor * (mantissa * 2 ^ 53 / divisor : Nat) + (mantissa * 2 ^ 53 % divisor : Nat) := by
    exact_mod_cast (Nat.div_add_mod _ _).symm
  have value : ((mantissa * 2 ^ 53 / divisor : Nat) +
      (mantissa * 2 ^ 53 % divisor : Nat) / divisor) * (2 : ℚ) ^ (exponent - scale - 53) =
        mantissa * 2 ^ exponent / (divisor * 2 ^ scale) := by
    have quotient : ((mantissa * 2 ^ 53 / divisor : Nat) : ℚ) +
        (mantissa * 2 ^ 53 % divisor : Nat) / divisor = mantissa * 2 ^ 53 / divisor := by
      rw [parts, add_div, mul_div_cancel_left₀ _ divides]
    rw [quotient, zpow_sub₀ two_ne_zero, zpow_sub₀ two_ne_zero]
    have whole : (2 : ℚ) ^ (53 : Int) = 2 ^ 53 := rfl
    rw [whole]
    field_simp
  rwa [value] at near

/-! ### Counts -/

/-- What is read of the bits of a number with all the bits of its mantissa. -/
theorem unpack_pattern {mantissa : Nat} {exponent : Int} (positive : 0 < mantissa)
    (long : mantissa.log2 = 52) (above : -1074 ≤ exponent) (below : exponent ≤ 971) :
    (Float.ofBits (UInt64.ofNat (pattern mantissa exponent))).toModel.unpack =
      .finite .positive mantissa exponent positive := by
  obtain ⟨low, high⟩ := (Nat.log2_eq_iff positive.ne').mp long
  obtain ⟨bits, chosen⟩ : ∃ bits : BitVec Format.binary64.numBits,
      bits = (UInt64.ofNat (pattern mantissa exponent)).toBitVec := ⟨_, rfl⟩
  have size : bits.toNat = mantissa + (exponent + 1074).toNat * 2 ^ 52 := by
    rw [chosen]
    show (UInt64.ofNat (pattern mantissa exponent)).toNat = _
    rw [UInt64.toNat_ofNat', pattern]
    simp only [powerOfTwo, Nat.pow_eq]
    omega
  have field : (unpackExponent bits).toNat = (exponent + 1075).toNat := by
    rw [toNat_unpackExponent, size]
    omega
  have fraction : (unpackMantissa bits).toNat = mantissa - 2 ^ 52 := by
    rw [toNat_unpackMantissa, size]
    omega
  have notTop : unpackExponent bits ≠ -1#11 := by
    intro top
    rw [top] at field
    have last : (-1#11).toNat = 2047 := rfl
    omega
  have notLow : unpackExponent bits ≠ 0#11 := by
    intro none
    rw [none] at field
    have first : (0#11).toNat = 0 := rfl
    omega
  have whole : (1#1 ++ unpackMantissa bits).toNat = mantissa := by
    rw [toNat_one_append, fraction]
    omega
  have read : unpack Format.binary64 bits = .finite .positive mantissa exponent positive := by
    rw [unpack_unsigned (by omega), unpack_components, if_neg notTop, if_neg notLow]
    have back : ((exponent + 1075).toNat : Int) - 1075 = exponent := by omega
    simp only [whole, field, back]
  have stored : (Float.ofBits (UInt64.ofNat (pattern mantissa exponent))).toModel.unpack =
      repacked (unpack Format.binary64 bits) := by
    rw [chosen]
    rfl
  rw [stored, read, repacked_normal positive long above below]

theorem rounds_self (n : Nat) : Rounds n n :=
  ⟨by linarith, by linarith, fun _ => ⟨by linarith, by linarith⟩⟩

/-- A count of fewer bits than a mantissa has is a number of its own. -/
theorem unpack_count {count : Nat} (some : 0 < count) (fits : count < 2 ^ 53) :
    ∃ mantissa exponent positive, (Arithmetic.ofNat count : Float).toModel.unpack =
        .finite .positive mantissa exponent positive ∧ mantissa.log2 = 52 ∧
      (-52 ≤ exponent ∧ exponent ≤ 0) ∧ (mantissa : ℚ) * 2 ^ exponent = count := by
  have length : count.log2 < 53 := (Nat.log2_lt some.ne').mpr fits
  obtain ⟨low, high⟩ := (Nat.log2_eq_iff some.ne').mp (rfl : count.log2 = count.log2)
  obtain ⟨more, whole⟩ : ∃ more, count.log2 + more = 52 := ⟨52 - count.log2, by omega⟩
  have positive : 0 < count * 2 ^ more := Nat.mul_pos some (Nat.two_pow_pos _)
  have least : 2 ^ 52 ≤ count * 2 ^ more := by
    rw [← whole, Nat.pow_add]
    exact Nat.mul_le_mul_right _ low
  have most : count * 2 ^ more < 2 ^ 53 := by
    have bits : 53 = count.log2 + 1 + more := by omega
    rw [bits, Nat.pow_add]
    exact Nat.mul_lt_mul_of_pos_right high (Nat.two_pow_pos _)
  have long : (count * 2 ^ more).log2 = 52 := (Nat.log2_eq_iff positive.ne').mpr ⟨least, most⟩
  have value : ((count * 2 ^ more : Nat) : ℚ) * 2 ^ (-more : Int) = count := by
    push_cast
    rw [zpow_neg, zpow_natCast, mul_inv_cancel_right₀ (by positivity)]
  have near := (rounds_self (count * 2 ^ more)).near (by exact_mod_cast least) (-more)
  have representable : Representable (count * 2 ^ more) (-more) :=
    ⟨by omega, by omega, most, fun _ => least⟩
  have counted : (count : ℚ) / (1 : Nat) = count := by rw [Nat.cast_one, div_one]
  rw [value, ← counted] at near
  have stored : (Arithmetic.ofNat count : Float) =
      Float.ofBits (UInt64.ofNat (pattern (count * 2 ^ more) (-more))) := by
    show nearest false count 1 = _
    rw [nearest, nearestPattern_eq some.ne' Nat.one_pos representable near,
      if_neg Bool.false_ne_true, Nat.add_zero]
  refine ⟨count * 2 ^ more, -more, positive, ?_, long, ⟨by omega, by omega⟩, value⟩
  rw [stored, unpack_pattern positive long (by omega) (by omega)]

/-- A quotient of two counts is a number that the exact quotient is near to. -/
theorem unpack_quotient {part whole : Nat} (some : 0 < part) (some' : 0 < whole)
    (fits : part < 2 ^ 53) (fits' : whole < 2 ^ 53) : ∃ mantissa exponent positive,
      (Arithmetic.ofNat part / Arithmetic.ofNat whole : Float).toModel.unpack =
        .finite .positive mantissa exponent positive ∧
      Representable mantissa exponent ∧ 2 ^ 52 ≤ mantissa ∧
      Near mantissa exponent ((part : ℚ) / whole) := by
  obtain ⟨mantissa, exponent, positive, read, long, ⟨low, high⟩, value⟩ := unpack_count some fits
  obtain ⟨divisor, scale, positive', read', long', ⟨low', high'⟩, value'⟩ :=
    unpack_count some' fits'
  obtain ⟨rounded, top, positive'', same, ⟨least, most⟩, ⟨above, below⟩, near⟩ :=
    div_near long long' (by omega : -1000 ≤ exponent - scale) (.positive / .positive)
  have bits : rounded.log2 = 52 := (Nat.log2_eq_iff positive''.ne').mpr ⟨least, most⟩
  rw [value, value'] at near
  refine ⟨rounded, top, positive'', ?_, ⟨by omega, by omega, most, fun _ => least⟩, least, near⟩
  have divided : div Format.binary64 (.finite .positive mantissa exponent positive)
      (.finite .positive divisor scale positive') = .finite .positive rounded top positive'' := same
  rw [unpack_div, read, read', divided, repacked_normal positive'' bits (by omega) (by omega)]

theorem unpack_nought {whole : Nat} (some : 0 < whole) (fits : whole < 2 ^ 53) :
    (Arithmetic.ofNat 0 / Arithmetic.ofNat whole : Float).toModel.unpack = .zero .positive := by
  obtain ⟨divisor, scale, positive, read, -⟩ := unpack_count some fits
  have nought : (Arithmetic.ofNat 0 : Float).toModel.unpack = .zero .positive := rfl
  have divided : div Format.binary64 (.zero .positive) (.finite .positive divisor scale positive) =
      .zero .positive := rfl
  rw [unpack_div, read, nought, divided, repacked_zero]

/-! ### The order of quotients -/

/-- Fractions up to one that lie far enough apart are near to different numbers, in the same
order. -/
theorem Near.lex_lt {mantissa mantissa' : Nat} {exponent exponent' : Int} {fraction fraction' : ℚ}
    (near : Near mantissa exponent fraction) (near' : Near mantissa' exponent' fraction')
    (least : 2 ^ 52 ≤ mantissa) (most : mantissa' < 2 ^ 53)
    (apart : 2 ^ (-50 : Int) ≤ fraction' - fraction) (share : fraction' ≤ 1) :
    exponent < exponent' ∨ exponent = exponent' ∧ mantissa < mantissa' := by
  by_contra wrong
  have unit : (0 : ℚ) < 2 ^ exponent := by positivity
  have leastRat : (2 : ℚ) ^ 52 ≤ mantissa := by exact_mod_cast least
  have mostRat : (mantissa' : ℚ) + 1 ≤ 2 ^ 53 := by exact_mod_cast most
  have coarse : (2 : ℚ) ^ exponent' ≤ 2 ^ exponent :=
    zpow_le_zpow_right₀ one_le_two (by omega)
  have order : (mantissa' : ℚ) * 2 ^ exponent' ≤ mantissa * 2 ^ exponent := by
    rcases lt_or_eq_of_le (by omega : exponent' ≤ exponent) with finer | same
    · have double : (2 : ℚ) ^ exponent' * 2 ≤ 2 ^ exponent := by
        rw [← zpow_add_one₀ two_ne_zero]
        exact zpow_le_zpow_right₀ one_le_two (by omega)
      calc (mantissa' : ℚ) * 2 ^ exponent' ≤ 2 ^ 53 * 2 ^ exponent' := by gcongr; linarith
        _ = 2 ^ 52 * (2 ^ exponent' * 2) := by ring
        _ ≤ mantissa * 2 ^ exponent := by gcongr
    · have fewer : (mantissa' : ℚ) ≤ mantissa := by exact_mod_cast (by omega : mantissa' ≤ mantissa)
      rw [same]
      gcongr
  -- So the gap between them fits in one unit of the first, which has too many of these for that.
  have half := near.half
  have high := near'.high
  have wide : (2 : ℚ) ^ (-50 : Int) ≤ 2 ^ exponent := by linarith
  have many : (2 ^ 52 - 1 / 2 : ℚ) * 2 ^ (-50 : Int) ≤ fraction :=
    calc (2 ^ 52 - 1 / 2 : ℚ) * 2 ^ (-50 : Int) ≤ (2 ^ 52 - 1 / 2) * 2 ^ exponent := by gcongr
      _ ≤ (mantissa - 1 / 2) * 2 ^ exponent := by gcongr
      _ ≤ fraction := half
  norm_num at many apart
  linarith

/-- Fractions that are the same are near to one number. -/
theorem eq_of_near {part whole mantissa mantissa' : Nat} {exponent exponent' : Int}
    (some : part ≠ 0) (some' : 0 < whole) (near : Near mantissa exponent ((part : ℚ) / whole))
    (near' : Near mantissa' exponent' ((part : ℚ) / whole))
    (representable : Representable mantissa exponent)
    (representable' : Representable mantissa' exponent') (least : 2 ^ 52 ≤ mantissa)
    (least' : 2 ^ 52 ≤ mantissa') : mantissa = mantissa' ∧ exponent = exponent' := by
  have same := (nearestPattern_eq some some' representable near).symm.trans
    (nearestPattern_eq some some' representable' near')
  have short : mantissa < 2 ^ 53 := representable.short
  have short' : mantissa' < 2 ^ 53 := representable'.short
  have low := representable.least
  have low' := representable'.least
  simp only [pattern, powerOfTwo, Nat.pow_eq] at same
  omega

theorem place_positive_lt {mantissa mantissa' : Nat} {exponent exponent' : Int}
    (positive : 0 < mantissa) (positive' : 0 < mantissa') :
    place (.finite .positive mantissa exponent positive) <
        place (.finite .positive mantissa' exponent' positive') ↔
      exponent < exponent' ∨ exponent = exponent' ∧ mantissa < mantissa' := by
  simp only [place, Prod.Lex.toLex_lt_toLex, lt_irrefl, false_or, true_and, Nat.cast_lt]

/-- Unequal fractions lie apart by their denominators at least. -/
theorem fractions_apart {part whole part' whole' : Nat} (some : 0 < whole) (some' : 0 < whole')
    (fits : whole ≤ 2 ^ 25) (fits' : whole' ≤ 2 ^ 25)
    (less : (part : ℚ) / whole < part' / whole') :
    2 ^ (-50 : Int) ≤ (part' : ℚ) / whole' - part / whole := by
  have wholeRat : (0 : ℚ) < whole := by exact_mod_cast some
  have wholeRat' : (0 : ℚ) < whole' := by exact_mod_cast some'
  rw [div_lt_div_iff₀ wholeRat wholeRat'] at less
  have step : (part : ℚ) * whole' + 1 ≤ part' * whole := by exact_mod_cast less
  have product : (whole' : ℚ) * whole ≤ 2 ^ 50 := by
    have bound := Nat.mul_le_mul fits' fits
    exact_mod_cast bound
  rw [div_sub_div _ _ wholeRat'.ne' wholeRat.ne', zpow_neg,
    le_div_iff₀ (mul_pos wholeRat' wholeRat)]
  have scaled : ((2 : ℚ) ^ (50 : Int))⁻¹ * (whole' * whole) ≤ 1 := by
    rw [inv_mul_le_iff₀ (by positivity), mul_one]
    exact product
  linarith

section Counts

variable {part whole part' whole' : Nat}

theorem isNumber_quotient (some : 0 < whole) (share : part ≤ whole) (fits : whole ≤ 2 ^ 25) :
    (Arithmetic.ofNat part / Arithmetic.ofNat whole : Float).toModel.unpack ≠ .notANumber := by
  rcases Nat.eq_zero_or_pos part with rfl | positive
  · rw [unpack_nought some (by omega)]
    exact UnpackedFloat.noConfusion
  · obtain ⟨mantissa, exponent, large, read, -⟩ :=
      unpack_quotient positive some (by omega) (by omega : whole < 2 ^ 53)
    rw [read]
    exact UnpackedFloat.noConfusion

variable (some : 0 < whole) (some' : 0 < whole') (share : part ≤ whole) (share' : part' ≤ whole')
  (fits : whole ≤ 2 ^ 25) (fits' : whole' ≤ 2 ^ 25)

include some some' share share' fits fits'

theorem place_quotient_lt (less : (part : ℚ) / whole < part' / whole') :
    place (Arithmetic.ofNat part / Arithmetic.ofNat whole : Float).toModel.unpack <
      place (Arithmetic.ofNat part' / Arithmetic.ofNat whole' : Float).toModel.unpack := by
  have positive' : 0 < part' := by
    refine Nat.pos_of_ne_zero fun none => ?_
    rw [none, Nat.cast_zero, zero_div] at less
    exact absurd less (not_lt.mpr (by positivity))
  obtain ⟨mantissa', exponent', large', read', representable', least', near'⟩ :=
    unpack_quotient positive' some' (by omega) (by omega : whole' < 2 ^ 53)
  rw [read']
  rcases Nat.eq_zero_or_pos part with rfl | positive
  · rw [unpack_nought some (by omega)]
    exact Prod.Lex.toLex_lt_toLex.mpr (.inl zero_lt_one)
  · obtain ⟨mantissa, exponent, large, read, representable, least, near⟩ :=
      unpack_quotient positive some (by omega) (by omega : whole < 2 ^ 53)
    have most : (part' : ℚ) / whole' ≤ 1 :=
      div_le_one_of_le₀ (by exact_mod_cast share') (by positivity)
    rw [read, place_positive_lt]
    exact near.lex_lt near' least representable'.short
      (fractions_apart some some' fits fits' less) most

theorem place_quotient_eq (same : (part : ℚ) / whole = part' / whole') :
    place (Arithmetic.ofNat part / Arithmetic.ofNat whole : Float).toModel.unpack =
      place (Arithmetic.ofNat part' / Arithmetic.ofNat whole' : Float).toModel.unpack := by
  have wholeRat : (whole : ℚ) ≠ 0 := by exact_mod_cast some.ne'
  have wholeRat' : (whole' : ℚ) ≠ 0 := by exact_mod_cast some'.ne'
  rcases Nat.eq_zero_or_pos part with rfl | positive
  · have none : part' = 0 := by
      rw [Nat.cast_zero, zero_div, eq_comm, div_eq_zero_iff] at same
      exact_mod_cast same.resolve_right wholeRat'
    rw [none, unpack_nought some (by omega), unpack_nought some' (by omega)]
  · have positive' : 0 < part' := by
      refine Nat.pos_of_ne_zero fun none => ?_
      rw [none, Nat.cast_zero, zero_div, div_eq_zero_iff] at same
      exact positive.ne' (by exact_mod_cast same.resolve_right wholeRat)
    obtain ⟨mantissa, exponent, large, read, representable, least, near⟩ :=
      unpack_quotient positive some (by omega) (by omega : whole < 2 ^ 53)
    obtain ⟨mantissa', exponent', large', read', representable', least', near'⟩ :=
      unpack_quotient positive' some' (by omega) (by omega : whole' < 2 ^ 53)
    rw [← same] at near'
    obtain ⟨rfl, rfl⟩ := eq_of_near positive.ne' some near near' representable representable' least
      least'
    rw [read, read']

/-- Quotients of counts that are not too large are ordered as the exact quotients are. -/
theorem less_quotient :
    Arithmetic.less (Arithmetic.ofNat part / Arithmetic.ofNat whole : Float)
        (Arithmetic.ofNat part' / Arithmetic.ofNat whole') =
      decide ((part : ℚ) / whole < part' / whole') := by
  rw [ordered_doubles.less (isNumber_quotient some share fits)
    (isNumber_quotient some' share' fits')]
  refine decide_eq_decide.mpr ?_
  rcases lt_trichotomy ((part : ℚ) / whole) (part' / whole') with less | same | more
  · exact iff_of_true (place_quotient_lt some some' share share' fits fits' less) less
  · rw [place_quotient_eq some some' share share' fits fits' same, same]
    exact iff_of_false (lt_irrefl _) (lt_irrefl _)
  · have behind := place_quotient_lt some' some share' share fits' fits more
    exact iff_of_false behind.not_gt more.not_gt

end Counts

end TaskLoop.Decimal
