import TaskLoop.Arithmetic
import TaskLoop.Proofs.Decimal.Bits
import TaskLoop.Proofs.Decimal.Nearest

/-!
Rounded operations on double-precision numbers and the sign of what they come to. Rounding does
not pass a number that is representable, so a step from one non-negative number towards another
does not lead below nought.
-/

set_option autoImplicit false

namespace TaskLoop.Decimal

open Float.Model (Format totalExponent UnpackedFloat)
open Float.Model.UnpackedFloat

/-! ### Mantissas -/

/-- A mantissa at an exponent is not beyond a limit at another, which is as coarse or coarser. -/
structure Within (mantissa : Nat) (exponent : Int) (limit : Nat) (top : Int) : Prop where
  finer : exponent ≤ top
  fits : mantissa ≤ limit * 2 ^ (top - exponent).toNat

/-- The least integer that is not below a mantissa with its residual bits. -/
def ceilingOf (extended : ExtendedMantissa) : Nat :=
  extended.mantissa + if extended.roundBit || extended.stickyBit then 1 else 0

theorem roundedMantissa_le (extended : ExtendedMantissa) :
    extended.roundedMantissa ≤ ceilingOf extended := by
  obtain ⟨mantissa, round, sticky⟩ := extended
  cases round <;> cases sticky <;>
    simp [ExtendedMantissa.roundedMantissa, ExtendedMantissa.accuracy,
      Accuracy.roundToNearestEven, ceilingOf]
  omega

theorem ceilingOf_shiftRightOne (extended : ExtendedMantissa) :
    ceilingOf extended.shiftRightOne = (ceilingOf extended + 1) / 2 := by
  obtain ⟨mantissa, round, sticky⟩ := extended
  simp only [ceilingOf, ExtendedMantissa.shiftRightOne]
  by_cases even : mantissa % 2 = 0
  · cases round <;> cases sticky <;> simp [even] <;> omega
  · have odd : (mantissa % 2 != 0) = true := by simpa using even
    cases round <;> cases sticky <;> simp [odd] <;> omega

/-- Bits that are shifted out leave the mantissa below a limit that it was below. -/
theorem ceilingOf_shift {extended : ExtendedMantissa} {limit shift : Nat}
    (below : ceilingOf extended ≤ limit * 2 ^ shift) :
    ceilingOf (extended >>> shift) ≤ limit := by
  induction shift generalizing limit with
  | zero =>
    rw [Nat.pow_zero, Nat.mul_one] at below
    exact below
  | succ shift ih =>
    have last : extended >>> (shift + 1) = (extended >>> shift).shiftRightOne := rfl
    have earlier : ceilingOf (extended >>> shift) ≤ limit * 2 := by
      apply ih
      rwa [Nat.mul_assoc, ← Nat.pow_succ']
    rw [last, ceilingOf_shiftRightOne]
    omega

theorem Within.log2_lt {mantissa limit : Nat} {exponent top : Int}
    (within : Within mantissa exponent limit top) (short : limit < 2 ^ 53) :
    mantissa.log2 < 53 + (top - exponent).toNat := by
  by_cases none : mantissa = 0
  · rw [none, Nat.log2_zero]
    omega
  · rw [Nat.log2_lt none, Nat.pow_add]
    apply lt_of_le_of_lt within.fits
    exact (Nat.mul_lt_mul_right (Nat.two_pow_pos _)).mpr short

/-- The exponent that is aimed at is not above that of a representable limit. -/
theorem targetExponent_le {mantissa limit : Nat} {exponent top : Int}
    (within : Within mantissa exponent limit top) (short : limit < 2 ^ 53) (least : -1074 ≤ top) :
    Format.binary64.targetExponent (totalExponent mantissa exponent) ≤ top := by
  have finer := within.finer
  have small := within.log2_lt short
  simp only [Format.targetExponent, totalExponent, Format.mantissaBits, Format.minExponent]
  norm_num
  omega

theorem targetExponent_ge (mantissa : Nat) (exponent : Int) :
    -1074 ≤ Format.binary64.targetExponent (totalExponent mantissa exponent) := by
  simp only [Format.targetExponent, Format.mantissaBits, Format.minExponent]
  norm_num

/-- A mantissa that is shifted to the exponent aimed at stays within a representable limit. -/
theorem within_shift {mantissa limit : Nat} {exponent top : Int} {accuracy : Accuracy}
    (finer : exponent ≤ top)
    (fits : ceilingOf (.ofMantissaAndAccuracy mantissa accuracy) ≤
      limit * 2 ^ (top - exponent).toNat)
    (short : limit < 2 ^ 53) (least : -1074 ≤ top) :
    let shifted := shiftToTargetExponent Format.binary64 mantissa exponent accuracy
    Within (ceilingOf shifted.1) shifted.2 limit top ∧ -1074 ≤ shifted.2 := by
  have mantissaFits : mantissa ≤ limit * 2 ^ (top - exponent).toNat := by
    apply le_trans _ fits
    cases accuracy with
    | exact => exact Nat.le_add_right _ _
    | inexact order => cases order <;> exact Nat.le_add_right _ _
  have aimed := targetExponent_le ⟨finer, mantissaFits⟩ short least
  have above := targetExponent_ge mantissa exponent
  simp only [shiftToTargetExponent, shiftToExponent]
  generalize Format.binary64.targetExponent (totalExponent mantissa exponent) = target at aimed above
  have parts : (top - exponent).toNat =
      (top - (exponent + ((target - exponent).toNat : Int))).toNat + (target - exponent).toNat := by
    omega
  refine ⟨⟨by omega, ?_⟩, by omega⟩
  apply ceilingOf_shift
  rwa [Nat.mul_assoc, ← Nat.pow_add, ← parts]

/-! ### Numbers not below a limit -/

/-- A number, or none, that is not below the negative of a limit. -/
def AtLeast (limit : Nat) (top : Int) : UnpackedFloat → Prop
  | .infinity .negative => False
  | .finite .negative mantissa exponent _ =>
    -1074 ≤ exponent ∧ Within mantissa exponent limit top
  | _ => True

/-- A number, or none, that is not below nought. -/
def NotBelow : UnpackedFloat → Prop
  | .infinity .negative => False
  | .finite .negative _ _ _ => False
  | _ => True

theorem notBelow_of_atLeast_nought {x : UnpackedFloat} {top : Int} (least : AtLeast 0 top x) :
    NotBelow x := by
  cases x with
  | notANumber => trivial
  | infinity sign => cases sign with
    | negative => exact least
    | positive => trivial
  | zero sign => trivial
  | finite sign mantissa exponent positive => cases sign with
    | positive => trivial
    | negative =>
      have none := least.2.fits
      rw [Nat.zero_mul] at none
      omega

theorem NotBelow.atLeast {x : UnpackedFloat} (notBelow : NotBelow x) (limit : Nat) (top : Int) :
    AtLeast limit top x := by
  cases x with
  | notANumber => trivial
  | infinity sign => cases sign with
    | negative => exact notBelow
    | positive => trivial
  | zero sign => trivial
  | finite sign mantissa exponent positive => cases sign with
    | positive => trivial
    | negative => exact absurd notBelow id

/-! ### Rounding -/

/-- Rounding keeps the sign, and does not pass a representable limit. -/
theorem atLeast_round {mantissa limit : Nat} {exponent top : Int} {accuracy : Accuracy}
    (finer : exponent ≤ top)
    (fits : ceilingOf (.ofMantissaAndAccuracy mantissa accuracy) ≤
      limit * 2 ^ (top - exponent).toNat)
    (short : limit < 2 ^ 53) (least : -1074 ≤ top) (sign : Sign) :
    AtLeast limit top (roundWithAccuracy Format.binary64 sign mantissa exponent accuracy) := by
  obtain ⟨first, -⟩ := within_shift finer fits short least
  simp only [roundWithAccuracy]
  generalize shiftToTargetExponent Format.binary64 mantissa exponent accuracy = shifted at first
  have again : ceilingOf (.ofMantissaAndAccuracy shifted.1.roundedMantissa .exact) ≤
      limit * 2 ^ (top - shifted.2).toNat :=
    le_trans (roundedMantissa_le shifted.1) first.fits
  obtain ⟨second, above⟩ := within_shift first.finer again short least
  split
  · trivial
  · cases sign with
    | positive => trivial
    | negative => exact ⟨above, second.finer, le_trans (Nat.le_add_right _ _) second.fits⟩

theorem notBelow_round (mantissa : Nat) (exponent : Int) (accuracy : Accuracy) :
    NotBelow (roundWithAccuracy Format.binary64 .positive mantissa exponent accuracy) := by
  simp only [roundWithAccuracy]
  split <;> trivial

/-- A sum or difference is rounded to a number that is not below a representable limit that the
exact one is not below. -/
theorem atLeast_normalize {mantissa : Int} {limit : Nat} {exponent top : Int}
    (finer : exponent ≤ top) (fits : -mantissa ≤ (limit * 2 ^ (top - exponent).toNat : Nat))
    (short : limit < 2 ^ 53) (least : -1074 ≤ top) :
    AtLeast limit top (UnpackedFloat.normalize Format.binary64 mantissa exponent .positive) := by
  unfold UnpackedFloat.normalize
  split
  · rw [UnpackedFloat.round]
    simp only [decreaseExponent]
    generalize Format.binary64.targetExponent
      (totalExponent (-mantissa).toNat exponent) = target
    have parts : (top - (exponent - ((exponent - target).toNat : Int))).toNat =
        (top - exponent).toNat + (exponent - target).toNat := by omega
    apply atLeast_round (by omega) _ short least
    have natural : (-mantissa).toNat ≤ limit * 2 ^ (top - exponent).toNat := by omega
    rw [parts, Nat.pow_add, ← Nat.mul_assoc, Nat.shiftLeft_eq]
    exact Nat.mul_le_mul_right _ natural
  · trivial
  · exact (notBelow_round _ _ _).atLeast _ _

theorem notBelow_normalize {mantissa : Int} (positive : 0 ≤ mantissa) (exponent : Int) :
    NotBelow (UnpackedFloat.normalize Format.binary64 mantissa exponent .positive) := by
  unfold UnpackedFloat.normalize
  split
  · rename_i below
    rw [Int.compare_eq_lt] at below
    omega
  · trivial
  · exact notBelow_round _ _ _

/-! ### Packing -/

theorem unpackSign_components (sign : Sign) (exponent : BitVec 11) (mantissa : BitVec 52) :
    Sign.ofBitVec (unpackSign (packComponents Format.binary64 sign exponent mantissa)) = sign := by
  have bit : unpackSign (packComponents Format.binary64 sign exponent mantissa) =
      sign.toBitVec := by
    ext i inside
    obtain rfl : i = 0 := by omega
    simp only [unpackSign, packComponents, BitVec.getElem_cast, BitVec.getElem_extract]
    rw [BitVec.getLsbD_append, BitVec.getLsbD_append]
    exact BitVec.getLsbD_eq_getElem (by decide)
  rw [bit]
  cases sign <;> rfl

theorem toNat_pos_of_ne_zero {mantissa : BitVec 52} (some : mantissa ≠ 0#52) :
    0 < mantissa.toNat :=
  Nat.pos_of_ne_zero fun none => some (BitVec.eq_of_toNat_eq none)

/-- What is read of a sign, an exponent field and a fraction. -/
theorem unpack_components (sign : Sign) (exponent : BitVec 11) (mantissa : BitVec 52) :
    unpack Format.binary64 (packComponents Format.binary64 sign exponent mantissa) =
      if exponent = -1#11 then
        if mantissa = 0#52 then .infinity sign else .notANumber
      else if exponent = 0#11 then
        if some : mantissa = 0#52 then .zero sign
        else .finite sign mantissa.toNat (-1074) (toNat_pos_of_ne_zero some)
      else .finite sign (1#1 ++ mantissa).toNat ((exponent.toNat : Int) - 1075)
        (toNat_one_append_pos mantissa) := by
  rw [unpack]
  simp only [unpackExponent_packComponents, unpackMantissa_packComponents, unpackSign_components]
  by_cases top : exponent = -1#11
  · simp only [top, ↓reduceIte]
  · by_cases low : exponent = 0#11
    · simp only [low, ↓reduceIte]
      rfl
    · simp only [low, top, ↓reduceIte]
      rfl

theorem notBelow_components (exponent : BitVec 11) (mantissa : BitVec 52) :
    NotBelow (unpack Format.binary64 (packComponents Format.binary64 .positive exponent mantissa)) := by
  rw [unpack_components]
  split
  · split <;> trivial
  · split
    · split <;> trivial
    · trivial

/-- A number as it is read back after it was packed. -/
def repacked (x : UnpackedFloat) : UnpackedFloat := (Float.Model.pack x).unpack

theorem repacked_eq (x : UnpackedFloat) :
    repacked x = unpack Format.binary64 (pack Format.binary64 x) := rfl

theorem biased_field (exponent : Int) :
    (exponent + (Format.binary64.exponentBias : Nat) +
      (Format.binary64.mantissaBitsWithoutImplicit : Nat) : Int).toNat =
        (exponent + 1075).toNat := by
  show (exponent + 1023 + 52).toNat = (exponent + 1075).toNat
  omega

/-- A number with all the bits of its mantissa is read back as it is. -/
theorem repacked_normal {sign : Sign} {mantissa : Nat} {exponent : Int} (positive : 0 < mantissa)
    (long : mantissa.log2 = 52) (above : -1074 ≤ exponent) (below : exponent ≤ 971) :
    repacked (.finite sign mantissa exponent positive) =
      .finite sign mantissa exponent positive := by
  have size := (Nat.log2_eq_iff positive.ne').mp long
  have whole : (1#1 ++ BitVec.ofNat 52 mantissa).toNat = mantissa := by
    rw [toNat_one_append, BitVec.toNat_ofNat]
    omega
  have stored : (BitVec.ofNat 11 (exponent + 1075).toNat).toNat = (exponent + 1075).toNat := by
    rw [BitVec.toNat_ofNat]
    omega
  have notTop : BitVec.ofNat 11 (exponent + 1075).toNat ≠ -1#11 := by
    intro same
    have last : (BitVec.ofNat 11 (exponent + 1075).toNat).toNat = 2047 := by
      rw [same]
      rfl
    omega
  have notLow : BitVec.ofNat 11 (exponent + 1075).toNat ≠ 0#11 := by
    intro same
    have first : (BitVec.ofNat 11 (exponent + 1075).toNat).toNat = 0 := by
      rw [same]
      rfl
    omega
  have read := unpack_components sign (BitVec.ofNat 11 (exponent + 1075).toNat)
    (BitVec.ofNat 52 mantissa)
  have back : ((exponent + 1075).toNat : Int) - 1075 = exponent := by omega
  simp only [notTop, notLow, ↓reduceIte, whole, stored, back] at read
  have bits : mantissa.log2 + 1 = Format.binary64.mantissaBits := by
    rw [long]
    rfl
  rw [repacked_eq, pack, biased_field, if_neg, if_pos bits]
  · exact read
  · show ¬ 2 ^ 11 ≤ (exponent + 1075).toNat + 1
    omega

theorem repacked_infinity (sign : Sign) : repacked (.infinity sign) = .infinity sign := by
  rw [repacked_eq, pack, packedInfinity, unpack_components]
  rfl

theorem repacked_zero (sign : Sign) : repacked (.zero sign) = .zero sign := by
  rw [repacked_eq, pack, packedZero, unpack_components]
  rfl

theorem repacked_subnormal {sign : Sign} {mantissa : Nat} (positive : 0 < mantissa)
    (short : mantissa < 2 ^ 52) :
    repacked (.finite sign mantissa (-1074) positive) = .finite sign mantissa (-1074) positive := by
  have stored : (BitVec.ofNat 52 mantissa).toNat = mantissa := by
    rw [BitVec.toNat_ofNat, Nat.mod_eq_of_lt short]
  have some : BitVec.ofNat 52 mantissa ≠ 0#52 := by
    intro none
    rw [none] at stored
    exact positive.ne stored
  have bits : mantissa.log2 + 1 ≠ Format.binary64.mantissaBits := by
    have few : mantissa.log2 < 52 := (Nat.log2_lt positive.ne').mpr short
    show mantissa.log2 + 1 ≠ 53
    omega
  have read := unpack_components sign 0#11 (BitVec.ofNat 52 mantissa)
  have notTop : 0#11 ≠ -1#11 := by decide
  simp only [notTop, some, ↓reduceIte, ↓reduceDIte, stored] at read
  rw [repacked_eq, pack, if_neg (by decide), if_neg bits]
  exact read

/-- Packing does not lead below a representable limit. -/
theorem AtLeast.repacked {x : UnpackedFloat} {limit : Nat} {top : Int} (least : AtLeast limit top x)
    (finite : top ≤ 971) : AtLeast limit top (repacked x) := by
  cases x with
  | notANumber => trivial
  | infinity sign => cases sign with
    | negative => exact absurd least id
    | positive => trivial
  | zero sign => cases sign <;> trivial
  | finite sign mantissa exponent positive =>
    cases sign with
    | positive =>
      rw [repacked_eq, pack]
      dsimp only
      split
      · trivial
      · split <;> exact (notBelow_components _ _).atLeast _ _
    | negative =>
      obtain ⟨above, within⟩ := least
      have finer := within.finer
      by_cases long : mantissa.log2 = 52
      · rw [repacked_normal positive long above (by omega)]
        exact ⟨above, within⟩
      · -- A mantissa of fewer bits counts units of the finest exponent when it is read back.
        have bits : mantissa.log2 + 1 ≠ Format.binary64.mantissaBits := by
          intro same
          exact long (Nat.succ.inj same)
        rw [repacked_eq, pack, biased_field, if_neg, if_neg bits]
        · refine (congrArg (AtLeast limit top)
            (unpack_components .negative 0#11 (BitVec.ofNat 52 mantissa))).mpr ?_
          have notTop : 0#11 ≠ -1#11 := by decide
          simp only [notTop, ↓reduceIte]
          split
          · trivial
          · refine ⟨le_rfl, by omega, ?_⟩
            have finest : (top - exponent).toNat ≤ (top - -1074).toNat := by omega
            rw [BitVec.toNat_ofNat]
            calc mantissa % 2 ^ 52 ≤ mantissa := Nat.mod_le _ _
              _ ≤ limit * 2 ^ (top - exponent).toNat := within.fits
              _ ≤ limit * 2 ^ (top - -1074).toNat :=
                Nat.mul_le_mul_left _ (Nat.pow_le_pow_right (by decide) finest)
        · show ¬ 2 ^ 11 ≤ (exponent + 1075).toNat + 1
          omega

theorem NotBelow.repacked {x : UnpackedFloat} (notBelow : NotBelow x) : NotBelow (repacked x) :=
  notBelow_of_atLeast_nought ((notBelow.atLeast 0 0).repacked (by decide))

/-! ### Parts -/

/-- Whether a sign is that of the numbers below nought. -/
def isNegative : Sign → Bool
  | .negative => true
  | .positive => false

/-- What a number is that has these parts. -/
def Binary.ofParts : UnpackedFloat → Binary
  | .notANumber => .undefined
  | .infinity sign => .infinite (isNegative sign)
  | .zero sign => .finite (isNegative sign) 0 (-1074)
  | .finite sign mantissa exponent _ => .finite (isNegative sign) mantissa exponent

theorem isNegative_ofBitVec (bits : BitVec Format.binary64.numBits) :
    isNegative (Sign.ofBitVec (unpackSign bits)) = (bits.toNat / 2 ^ 63 == 1) := by
  rw [← toNat_unpackSign]
  generalize unpackSign bits = sign
  revert sign
  decide

/-- What bits say is told by the parts that are read of them. -/
theorem ofBits_eq_ofParts (bits : BitVec Format.binary64.numBits) :
    Binary.ofBits ⟨bits⟩ = .ofParts (unpack Format.binary64 bits) := by
  have field := toNat_unpackExponent bits
  have fraction := toNat_unpackMantissa bits
  have sign := isNegative_ofBitVec bits
  have whole : (UInt64.ofBitVec bits).toNat = bits.toNat := rfl
  rw [← packComponents_fields bits, unpack_components]
  simp only [packComponents_fields, Binary.ofBits, whole, powerOfTwo, Nat.pow_eq, ← field,
    ← fraction, ← sign]
  by_cases top : unpackExponent bits = 2047#11
  · by_cases empty : unpackMantissa bits = 0#52
    · simp [top, empty, Binary.ofParts]
    · have some : (unpackMantissa bits).toNat ≠ 0 :=
        (toNat_pos_of_ne_zero empty).ne'
      simp [top, empty, some, Binary.ofParts]
  · have notTop : (unpackExponent bits).toNat ≠ 2047 :=
      fun same => top (BitVec.eq_of_toNat_eq same)
    by_cases low : unpackExponent bits = 0#11
    · by_cases empty : unpackMantissa bits = 0#52
      · simp [low, empty, Binary.ofParts]
      · simp [low, empty, Binary.ofParts]
    · have notLow : (unpackExponent bits).toNat ≠ 0 :=
        fun same => low (BitVec.eq_of_toNat_eq same)
      simp [top, low, notTop, notLow, toNat_one_append, Binary.ofParts]

/-- What a number is can be told from its parts. -/
theorem ofFloat_eq_ofParts (x : Float) : Binary.ofFloat x = .ofParts x.toModel.unpack := by
  obtain ⟨⟨bits⟩, valid⟩ := x
  exact ofBits_eq_ofParts bits

/-- Finite numbers have the parts that rounding leaves. -/
theorem representable_of_unpack {x : Float} {sign : Sign} {mantissa : Nat} {exponent : Int}
    {positive : 0 < mantissa} (read : x.toModel.unpack = .finite sign mantissa exponent positive) :
    Representable mantissa exponent := by
  have parts := ofFloat_eq_ofParts x
  rw [read] at parts
  exact (toBits_of_finite parts).1

/-! ### Operations -/

/-- The difference of a number not below nought and a representable one is not below the
negative of that one. -/
theorem atLeast_sub {x : UnpackedFloat} {mantissa : Nat} {exponent : Int}
    (positive : 0 < mantissa) (notBelow : NotBelow x) (short : mantissa < 2 ^ 53)
    (least : -1074 ≤ exponent) :
    AtLeast mantissa exponent (sub Format.binary64 x (.finite .positive mantissa exponent positive)) := by
  cases x with
  | notANumber => trivial
  | infinity sign => cases sign with
    | negative => exact absurd notBelow id
    | positive => trivial
  | zero sign => exact ⟨least, le_rfl, by simp⟩
  | finite sign other finest positive' => cases sign with
    | negative => exact absurd notBelow id
    | positive =>
      simp only [sub, decreaseExponent, Sign.apply]
      apply atLeast_normalize (Int.min_le_right _ _) _ short least
      rw [Nat.shiftLeft_eq, Nat.shiftLeft_eq]
      have nonneg : 0 ≤ ((other * 2 ^ (finest - min finest exponent).toNat : Nat) : Int) :=
        Int.natCast_nonneg _
      omega

theorem notBelow_sub_zero {x : UnpackedFloat} (notBelow : NotBelow x) (sign : Sign) :
    NotBelow (sub Format.binary64 x (.zero sign)) := by
  cases x with
  | notANumber => trivial
  | infinity sign' => cases sign' with
    | negative => exact absurd notBelow id
    | positive => trivial
  | zero sign' => cases sign <;> cases sign' <;> trivial
  | finite sign' other finest positive' => exact notBelow

/-- A number that is not below one, or is beyond all numbers. -/
def AtLeastOne : UnpackedFloat → Prop
  | .infinity .positive => True
  | .finite .positive mantissa exponent _ => 2 ^ (-exponent).toNat ≤ mantissa
  | _ => False

theorem ceilingOf_accuracyOfFraction (numerator denominator : Nat) (positive : 0 < denominator)
    {limit : Nat} (fits : numerator ≤ limit * denominator) :
    ceilingOf (.ofMantissaAndAccuracy (numerator / denominator)
      (accuracyOfFraction (numerator % denominator) denominator)) ≤ limit := by
  have parts := Nat.div_add_mod numerator denominator
  have quotient : numerator / denominator ≤ limit := Nat.div_le_of_le_mul (by rwa [Nat.mul_comm])
  unfold accuracyOfFraction
  split
  · exact quotient
  · rename_i rest
    have below : numerator / denominator < limit := by
      rw [Nat.div_lt_iff_lt_mul positive]
      rcases Nat.lt_or_eq_of_le fits with less | same
      · exact less
      · rw [same, Nat.mul_mod_left] at rest
        exact absurd rfl rest
    cases compare (2 * (numerator % denominator)) denominator <;> exact below

/-- The quotient of a mantissa within a limit by a divisor that is not below one is within the
limit, rounded up. -/
theorem atLeast_quotient {mantissa divisor limit : Nat} {exponent scale top : Int}
    (within : Within mantissa exponent limit top) (some : 0 < divisor)
    (one : 2 ^ (-scale).toNat ≤ divisor) (short : limit < 2 ^ 53) (above : -1074 ≤ top)
    (sign : Sign) :
    AtLeast limit top (roundWithAccuracy Format.binary64 sign
      (divCore Format.binary64 mantissa exponent divisor scale).1
      (divCore Format.binary64 mantissa exponent divisor scale).2.1
      (divCore Format.binary64 mantissa exponent divisor scale).2.2) := by
  have finer := within.finer
  have aimed : Format.binary64.targetExponent
      (totalExponent mantissa exponent - totalExponent divisor scale) ≤ top := by
    have small := within.log2_lt short
    have large : (-scale).toNat ≤ divisor.log2 := (Nat.le_log2 some.ne').mpr one
    simp only [Format.targetExponent, totalExponent, Format.mantissaBits, Format.minExponent]
    norm_num
    omega
  simp only [divCore]
  generalize Format.binary64.targetExponent
    (totalExponent mantissa exponent - totalExponent divisor scale) = target at aimed
  generalize chosen : min (exponent - scale) target = finest
  apply atLeast_round (by omega) _ short above
  apply ceilingOf_accuracyOfFraction _ _ some
  have exponents : (top - exponent).toNat + (exponent - scale - finest).toNat ≤
      (top - finest).toNat + (-scale).toNat := by omega
  rw [Nat.shiftLeft_eq]
  calc mantissa * 2 ^ (exponent - scale - finest).toNat
      ≤ limit * 2 ^ (top - exponent).toNat * 2 ^ (exponent - scale - finest).toNat :=
        Nat.mul_le_mul_right _ within.fits
    _ = limit * 2 ^ ((top - exponent).toNat + (exponent - scale - finest).toNat) := by
        rw [Nat.mul_assoc, Nat.pow_add]
    _ ≤ limit * 2 ^ ((top - finest).toNat + (-scale).toNat) :=
        Nat.mul_le_mul_left _ (Nat.pow_le_pow_right (by decide) exponents)
    _ = limit * 2 ^ (top - finest).toNat * 2 ^ (-scale).toNat := by
        rw [Nat.pow_add, Nat.mul_assoc]
    _ ≤ limit * 2 ^ (top - finest).toNat * divisor := Nat.mul_le_mul_left _ one

/-- A quotient by a number that is not below one stays where its numerator is. -/
theorem atLeast_div {x count : UnpackedFloat} {limit : Nat} {top : Int} (least : AtLeast limit top x)
    (atLeastOne : AtLeastOne count) (short : limit < 2 ^ 53) (above : -1074 ≤ top) :
    AtLeast limit top (div Format.binary64 x count) := by
  cases count with
  | notANumber => exact absurd atLeastOne id
  | zero sign => exact absurd atLeastOne id
  | infinity sign => cases sign with
    | negative => exact absurd atLeastOne id
    | positive =>
      cases x with
      | notANumber => trivial
      | infinity sign => trivial
      | zero sign => trivial
      | finite sign mantissa exponent positive => trivial
  | finite sign divisor scale some => cases sign with
    | negative => exact absurd atLeastOne id
    | positive =>
      cases x with
      | notANumber => trivial
      | infinity sign => cases sign with
        | negative => exact absurd least id
        | positive => trivial
      | zero sign => trivial
      | finite sign mantissa exponent positive => cases sign with
        | positive => exact (notBelow_round _ _ _).atLeast _ _
        | negative => exact atLeast_quotient least.2 some atLeastOne short above _

/-- A representable number and one that is not below its negative add up to one that is not below
nought. -/
theorem notBelow_add {x : UnpackedFloat} {mantissa : Nat} {exponent : Int} (positive : 0 < mantissa)
    (least : AtLeast mantissa exponent x) :
    NotBelow (add Format.binary64 (.finite .positive mantissa exponent positive) x) := by
  cases x with
  | notANumber => trivial
  | infinity sign => cases sign with
    | negative => exact absurd least id
    | positive => trivial
  | zero sign => trivial
  | finite sign other finest positive' => cases sign with
    | positive =>
      simp only [add, decreaseExponent, Sign.apply]
      apply notBelow_normalize
      exact Int.add_nonneg (Int.natCast_nonneg _) (Int.natCast_nonneg _)
    | negative =>
      have finer := least.2.finer
      have fits := least.2.fits
      have smaller : min exponent finest = finest := by omega
      simp only [add, decreaseExponent, Sign.apply, smaller]
      apply notBelow_normalize
      rw [Nat.shiftLeft_eq, Nat.shiftLeft_eq, Int.sub_self, Int.toNat_zero, Nat.pow_zero,
        Nat.mul_one]
      omega

/-- What a number beyond all numbers is added to is not below nought. -/
theorem notBelow_infinity_add (x : UnpackedFloat) :
    NotBelow (add Format.binary64 (.infinity .positive) x) := by
  cases x with
  | notANumber => trivial
  | infinity sign => cases sign <;> trivial
  | zero sign => trivial
  | finite sign mantissa exponent positive => trivial

theorem notBelow_zero_add {x : UnpackedFloat} (notBelow : NotBelow x) (sign : Sign) :
    NotBelow (add Format.binary64 (.zero sign) x) := by
  cases x with
  | notANumber => trivial
  | infinity sign => exact notBelow
  | zero sign' => cases sign <;> cases sign' <;> trivial
  | finite sign mantissa exponent positive => exact notBelow

/-- Numbers not below nought add up to one that is not. -/
theorem notBelow_add_notBelow {x y : UnpackedFloat} (notBelow : NotBelow x)
    (notBelow' : NotBelow y) : NotBelow (add Format.binary64 x y) := by
  cases x with
  | notANumber => trivial
  | infinity sign => cases sign with
    | negative => exact absurd notBelow id
    | positive => exact notBelow_infinity_add y
  | zero sign => exact notBelow_zero_add notBelow' sign
  | finite sign mantissa exponent positive => cases sign with
    | negative => exact absurd notBelow id
    | positive => exact notBelow_add positive (notBelow'.atLeast _ _)

theorem notBelow_mul {x y : UnpackedFloat} (notBelow : NotBelow x) (notBelow' : NotBelow y) :
    NotBelow (mul Format.binary64 x y) := by
  cases x with
  | notANumber => trivial
  | zero sign => cases y <;> trivial
  | infinity sign => cases sign with
    | negative => exact absurd notBelow id
    | positive =>
      cases y with
      | notANumber => trivial
      | zero sign => trivial
      | infinity sign => cases sign with
        | negative => exact absurd notBelow' id
        | positive => trivial
      | finite sign mantissa exponent positive => cases sign with
        | negative => exact absurd notBelow' id
        | positive => trivial
  | finite sign mantissa exponent positive => cases sign with
    | negative => exact absurd notBelow id
    | positive =>
      cases y with
      | notANumber => trivial
      | zero sign => trivial
      | infinity sign => cases sign with
        | negative => exact absurd notBelow' id
        | positive => trivial
      | finite sign mantissa' exponent' positive' => cases sign with
        | negative => exact absurd notBelow' id
        | positive => exact notBelow_round _ _ _

theorem notBelow_div {x count : UnpackedFloat} (notBelow : NotBelow x)
    (atLeastOne : AtLeastOne count) : NotBelow (div Format.binary64 x count) :=
  notBelow_of_atLeast_nought
    (atLeast_div (notBelow.atLeast 0 0) atLeastOne (by decide) (by decide))

/-! ### Double-precision numbers -/

/-- A double-precision number, or none, that is not below nought. -/
def NonNegative (x : Float) : Prop := NotBelow x.toModel.unpack

theorem unpack_add (x y : Float) :
    (x + y).toModel.unpack = repacked (add Format.binary64 x.toModel.unpack y.toModel.unpack) :=
  rfl

theorem unpack_sub (x y : Float) :
    (x - y).toModel.unpack = repacked (sub Format.binary64 x.toModel.unpack y.toModel.unpack) :=
  rfl

theorem unpack_mul (x y : Float) :
    (x * y).toModel.unpack = repacked (mul Format.binary64 x.toModel.unpack y.toModel.unpack) :=
  rfl

theorem unpack_div (x y : Float) :
    (x / y).toModel.unpack = repacked (div Format.binary64 x.toModel.unpack y.toModel.unpack) :=
  rfl

theorem NonNegative.add {x y : Float} (nonNegative : NonNegative x) (nonNegative' : NonNegative y) :
    NonNegative (x + y) := by
  rw [NonNegative, unpack_add]
  exact (notBelow_add_notBelow nonNegative nonNegative').repacked

theorem NonNegative.mul {x y : Float} (nonNegative : NonNegative x) (nonNegative' : NonNegative y) :
    NonNegative (x * y) := by
  rw [NonNegative, unpack_mul]
  exact (notBelow_mul nonNegative nonNegative').repacked

theorem NonNegative.div {x count : Float} (nonNegative : NonNegative x)
    (atLeastOne : AtLeastOne count.toModel.unpack) : NonNegative (x / count) := by
  rw [NonNegative, unpack_div]
  exact (notBelow_div nonNegative atLeastOne).repacked

/-- A step from a mean towards a number by a share of their distance does not lead below
nought. -/
theorem NonNegative.step {mean value count : Float} (nonNegative : NonNegative mean)
    (nonNegative' : NonNegative value) (atLeastOne : AtLeastOne count.toModel.unpack) :
    NonNegative (mean + (value - mean) / count) := by
  rw [NonNegative, unpack_add]
  apply NotBelow.repacked
  rw [unpack_div, unpack_sub]
  unfold NonNegative at nonNegative nonNegative'
  cases read : mean.toModel.unpack with
  | notANumber => trivial
  | infinity sign => cases sign with
    | negative =>
      rw [read] at nonNegative
      exact absurd nonNegative id
    | positive => exact notBelow_infinity_add _
  | zero sign =>
    have distance := (notBelow_sub_zero nonNegative' sign).repacked
    exact notBelow_zero_add (notBelow_div distance atLeastOne).repacked sign
  | finite sign mantissa exponent positive => cases sign with
    | negative =>
      rw [read] at nonNegative
      exact absurd nonNegative id
    | positive =>
      obtain ⟨least, most, short, -⟩ := representable_of_unpack read
      have distance := (atLeast_sub positive nonNegative' short least).repacked most
      have share := (atLeast_div distance atLeastOne short least).repacked most
      exact notBelow_add positive share

theorem less_eq (x y : Float) :
    Arithmetic.less x y = UnpackedFloat.lt x.toModel.unpack y.toModel.unpack := by
  show decide (Float.lt x y = true) = _
  rw [Bool.decide_eq_true]
  show decide (UnpackedFloat.lt x.toModel.unpack y.toModel.unpack = true) = _
  exact Bool.decide_eq_true

/-- A number that is not below nought is not less than it. -/
theorem less_zero_iff (x : Float) :
    Arithmetic.less x Arithmetic.zero = false ↔ NonNegative x := by
  have nought : (Arithmetic.zero : Float).toModel.unpack = .zero .positive := rfl
  rw [less_eq, nought, NonNegative]
  cases x.toModel.unpack with
  | notANumber => exact ⟨fun _ => trivial, fun _ => rfl⟩
  | zero sign => exact ⟨fun _ => trivial, fun _ => rfl⟩
  | infinity sign => cases sign with
    | negative => exact ⟨nofun, fun none => absurd none id⟩
    | positive => exact ⟨fun _ => trivial, fun _ => rfl⟩
  | finite sign mantissa exponent positive => cases sign with
    | negative => exact ⟨nofun, fun none => absurd none id⟩
    | positive => exact ⟨fun _ => trivial, fun _ => rfl⟩

/-! ### Counts -/

/-- Bits without a sign are an exponent field and a fraction. -/
theorem unpack_unsigned {bits : BitVec Format.binary64.numBits} (unsigned : bits.toNat < 2 ^ 63) :
    unpack Format.binary64 bits = unpack Format.binary64
      (packComponents Format.binary64 .positive (unpackExponent bits) (unpackMantissa bits)) := by
  have sign : unpackSign bits = 0#1 := by
    apply BitVec.eq_of_toNat_eq
    rw [toNat_unpackSign]
    exact Nat.div_eq_of_lt unsigned
  have whole := packComponents_fields bits
  rw [sign] at whole
  exact congrArg _ whole.symm

/-- Bits without a sign are those of a number not below nought. -/
theorem nonNegative_ofBits {bits : UInt64} (unsigned : bits.toNat < 2 ^ 63) :
    NonNegative (Float.ofBits bits) := by
  have read : (Float.ofBits bits).toModel.unpack =
      repacked (unpack Format.binary64 bits.toBitVec) := rfl
  rw [NonNegative, read, unpack_unsigned unsigned]
  exact (notBelow_components _ _).repacked

theorem nearestPattern_le (numerator denominator : Nat) :
    nearestPattern numerator denominator ≤ 2047 * powerOfTwo 52 := by
  by_cases none : numerator = 0
  · subst none
    exact Nat.zero_le _
  · rw [nearestPattern_binade none rfl]
    exact Nat.min_le_right _ _

theorem toNat_nearestPattern (numerator denominator : Nat) :
    (UInt64.ofNat (nearestPattern numerator denominator)).toNat =
      nearestPattern numerator denominator := by
  have most := nearestPattern_le numerator denominator
  simp only [powerOfTwo, Nat.pow_eq, Nat.reducePow] at most
  rw [UInt64.toNat_ofNat']
  omega

/-- The number nearest to a fraction is not below nought. -/
theorem nonNegative_nearest (numerator denominator : Nat) :
    NonNegative (nearest false numerator denominator) := by
  have most := nearestPattern_le numerator denominator
  simp only [powerOfTwo, Nat.pow_eq, Nat.reducePow] at most
  apply nonNegative_ofBits
  rw [if_neg Bool.false_ne_true, Nat.add_zero, toNat_nearestPattern]
  omega

/-- Bits without a sign between those of one and those of infinity are those of a number that is
not below one. -/
theorem atLeastOne_unpack {bits : BitVec Format.binary64.numBits}
    (least : 1023 * 2 ^ 52 ≤ bits.toNat) (most : bits.toNat ≤ 2047 * 2 ^ 52) :
    AtLeastOne (repacked (unpack Format.binary64 bits)) := by
  have exponent := toNat_unpackExponent bits
  have field : (unpackExponent bits).toNat < 2 ^ 11 := (unpackExponent bits).isLt
  have short : (unpackMantissa bits).toNat < 2 ^ 52 := (unpackMantissa bits).isLt
  rw [unpack_unsigned (by omega), unpack_components]
  split
  · rename_i top
    have last : (unpackExponent bits).toNat = 2047 := by
      rw [top]
      rfl
    have empty : unpackMantissa bits = 0#52 := by
      apply BitVec.eq_of_toNat_eq
      rw [toNat_unpackMantissa, BitVec.toNat_zero]
      omega
    rw [if_pos empty]
    trivial
  · rename_i notTop
    have inside : (unpackExponent bits).toNat ≠ 2047 :=
      fun same => notTop (BitVec.eq_of_toNat_eq same)
    split
    · rename_i low
      have first : (unpackExponent bits).toNat = 0 := by
        rw [low]
        rfl
      omega
    · have long : (1#1 ++ unpackMantissa bits).toNat.log2 = 52 := by
        rw [toNat_one_append, Nat.log2_eq_iff (by omega)]
        omega
      rw [repacked_normal _ long (by omega) (by omega)]
      show 2 ^ _ ≤ (1#1 ++ unpackMantissa bits).toNat
      rw [toNat_one_append]
      apply le_trans (Nat.pow_le_pow_right (by decide) (_ : _ ≤ 52)) (Nat.le_add_right _ _)
      omega

theorem le_roundDiv (numerator denominator : Nat) :
    numerator / denominator ≤ roundDiv numerator denominator := by
  rw [roundDiv]
  split <;> omega

/-- The bits of a fraction of one or more are not below those of one. -/
theorem nearestPattern_of_le {numerator denominator : Nat} (some : 0 < denominator)
    (whole : denominator ≤ numerator) : 1023 * 2 ^ 52 ≤ nearestPattern numerator denominator := by
  have nonzero : numerator ≠ 0 := (some.trans_le whole).ne'
  obtain ⟨low, high⟩ := binade_spec nonzero some
  have least : -52 ≤ binade numerator denominator := by
    have one : (1 : ℚ) ≤ numerator / denominator := by
      rw [one_le_div (by exact_mod_cast some)]
      exact_mod_cast whole
    have above : (2 : ℚ) ^ (0 : Int) < 2 ^ (53 + binade numerator denominator) := by
      rw [zpow_add₀ two_ne_zero, zpow_zero]
      exact_mod_cast lt_of_le_of_lt one high
    have exponents := (zpow_lt_zpow_iff_right₀ (by norm_num : (1 : ℚ) < 2)).mp above
    omega
  have chosen : binade numerator denominator = max (binade numerator denominator) (-1074) := by
    omega
  have long : powerOfTwo 52 ≤
      roundDiv (scaleBinary numerator denominator (-binade numerator denominator)).1
        (scaleBinary numerator denominator (-binade numerator denominator)).2 := by
    have positive := (scaleBinary_value numerator some (-binade numerator denominator)).1
    have cast52 : ((powerOfTwo 52 : Nat) : ℚ) = 2 ^ 52 := by norm_num
    apply le_trans _ (le_roundDiv _ _)
    rw [Nat.le_div_iff_mul_le positive, scaled_le_iff some, cast52]
    exact low
  rw [nearestPattern_binade nonzero chosen, Nat.le_min]
  simp only [pattern, powerOfTwo, Nat.pow_eq, Nat.reducePow] at long ⊢
  omega

/-- A fraction of one or more is not below one as a double-precision number. -/
theorem atLeastOne_quotient {numerator denominator : Nat} (some : 0 < denominator)
    (whole : denominator ≤ numerator) :
    AtLeastOne (Arithmetic.quotient numerator denominator : Float).toModel.unpack := by
  have most := nearestPattern_le numerator denominator
  have stored : (UInt64.ofNat (nearestPattern numerator denominator)).toBitVec.toNat =
      nearestPattern numerator denominator := toNat_nearestPattern numerator denominator
  simp only [powerOfTwo, Nat.pow_eq, Nat.reducePow] at most
  have bits : (Arithmetic.quotient numerator denominator : Float) =
      Float.ofBits (UInt64.ofNat (nearestPattern numerator denominator)) := rfl
  rw [bits]
  apply atLeastOne_unpack
  · rw [stored]
    exact nearestPattern_of_le some whole
  · rw [stored]
    exact most

/-- A count of one or more is not below one as a double-precision number. -/
theorem atLeastOne_ofNat {count : Nat} (some : 0 < count) :
    AtLeastOne (Arithmetic.ofNat count : Float).toModel.unpack :=
  atLeastOne_quotient Nat.one_pos some

/-! ### Equal counts -/

/-- The quotient of a mantissa by itself is exact. -/
theorem divCore_self {mantissa : Nat} (exponent : Int) (positive : 0 < mantissa) :
    divCore Format.binary64 mantissa exponent mantissa exponent = (2 ^ 53, -53, .exact) := by
  have target : Format.binary64.targetExponent 0 = -53 := rfl
  rw [divCore]
  simp only [Int.sub_self, target]
  have whole : mantissa <<< ((0 - min 0 (-53) : Int)).toNat = 2 ^ 53 * mantissa := by
    rw [Nat.shiftLeft_eq, Nat.mul_comm]
    rfl
  rw [whole, Nat.mul_div_cancel _ positive, Nat.mul_mod_left]
  rfl

/-- A finite number other than nought goes into itself once. -/
theorem div_self_of_finite {x : Float} {sign : Sign} {mantissa : Nat} {exponent : Int}
    {positive : 0 < mantissa} (finite : x.toModel.unpack = .finite sign mantissa exponent positive) :
    x / x = Arithmetic.one := by
  have packed : x / x = ⟨Float.Model.pack (div Format.binary64 x.toModel.unpack x.toModel.unpack)⟩ :=
    rfl
  rw [packed, finite, div, divCore_self exponent positive]
  cases sign <;> rfl

/-- A number that is read as infinite is not finite. -/
theorem infinite_of_unpack {x : Float} {sign : Sign}
    (infinite : x.toModel.unpack = .infinity sign) : isFinite x = false := by
  rw [isFinite, ofFloat_eq_ofParts, infinite]
  rfl

/-- A count goes into itself once as a double-precision number. -/
theorem ofNat_div_self {count : Nat} (some : 0 < count) (fits : count ≤ powerOfTwo 64) :
    (Arithmetic.ofNat count / Arithmetic.ofNat count : Float) = Arithmetic.one := by
  have atLeastOne := atLeastOne_ofNat some
  cases read : (Arithmetic.ofNat count : Float).toModel.unpack with
  | notANumber => rw [read] at atLeastOne; exact absurd atLeastOne id
  | zero sign => rw [read] at atLeastOne; exact absurd atLeastOne id
  | infinity sign =>
    have finite : isFinite (Arithmetic.ofNat count : Float) = true := isFinite_nearest false fits
    rw [infinite_of_unpack read] at finite
    cases finite
  | finite sign mantissa exponent positive => exact div_self_of_finite read

end TaskLoop.Decimal
