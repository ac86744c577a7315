import Mathlib
import TaskLoop.Decimal.Binary

/-!
The bits of a double-precision number determine it, and those of a finite one are made of its
sign, mantissa and exponent.
-/

set_option autoImplicit false

namespace TaskLoop.Decimal

section Packing

open Float.Model (Format)
open Float.Model.UnpackedFloat (Sign packComponents packedInfinity packedZero pack unpack
  unpackSign unpackExponent unpackMantissa)

theorem toBitVec_ofBitVec (bit : BitVec 1) : (Sign.ofBitVec bit).toBitVec = bit := by
  revert bit
  decide

/-- Sixty-four bits are made of their three fields. -/
theorem packComponents_fields (bits : BitVec Format.binary64.numBits) :
    packComponents Format.binary64 (Sign.ofBitVec (unpackSign bits)) (unpackExponent bits)
      (unpackMantissa bits) = bits := by
  rw [packComponents, toBitVec_ofBitVec]
  ext i inside
  have whole : bits[i] = bits.getLsbD i := (BitVec.getLsbD_eq_getElem inside).symm
  have below : i < 64 := inside
  simp only [unpackSign, unpackExponent, unpackMantissa, BitVec.getElem_append]
  simp only [Nat.add_one_sub_one, Nat.sub_zero, Nat.reduceAdd, BitVec.cast_eq,
    BitVec.getElem_extract, Nat.zero_add, Nat.reduceSub, dite_eq_ite, whole]
  split
  · rfl
  · split
    · congr 1
      omega
    · congr 1
      omega

theorem toNat_one_append (fraction : BitVec 52) :
    (1#1 ++ fraction).toNat = 2 ^ 52 + fraction.toNat := by
  rw [BitVec.toNat_append, ← Nat.shiftLeft_add_eq_or_of_lt fraction.isLt]
  rfl

theorem toNat_one_append_pos (fraction : BitVec 52) : 0 < (1#1 ++ fraction).toNat := by
  rw [toNat_one_append]
  exact Nat.add_pos_left (by decide) _

/-- The bits of a number with an exponent field of nought. -/
theorem pack_subnormal {bits : BitVec Format.binary64.numBits} (low : unpackExponent bits = 0#11)
    (positive : 0 < (unpackMantissa bits).toNat) :
    pack Format.binary64 (.finite (Sign.ofBitVec (unpackSign bits)) (unpackMantissa bits).toNat
      (-1074) positive) = bits := by
  have whole := packComponents_fields bits
  have short : (unpackMantissa bits).toNat.log2 + 1 ≠ Format.binary64.mantissaBits := by
    have fewer := (Nat.log2_lt (Nat.ne_of_gt positive)).mpr (unpackMantissa bits).isLt
    change _ < 52 at fewer
    change _ ≠ 53
    omega
  rw [pack, if_neg (by decide), if_neg short, BitVec.ofNat_toNat, BitVec.setWidth_eq]
  rw [low] at whole
  exact whole

/-- The bits of a number with any other exponent field but the last. -/
theorem pack_normal {bits : BitVec Format.binary64.numBits}
    (inside : (unpackExponent bits).toNat < 2047)
    (positive : 0 < (1#1 ++ unpackMantissa bits).toNat) :
    pack Format.binary64 (.finite (Sign.ofBitVec (unpackSign bits))
      (1#1 ++ unpackMantissa bits).toNat ((unpackExponent bits).toNat - 1075) positive) =
      bits := by
  have whole := packComponents_fields bits
  have long : (1#1 ++ unpackMantissa bits).toNat.log2 + 1 = Format.binary64.mantissaBits := by
    have small : (unpackMantissa bits).toNat < 2 ^ 52 := (unpackMantissa bits).isLt
    have log : (2 ^ 52 + (unpackMantissa bits).toNat).log2 = 52 :=
      (Nat.log2_eq_iff (by omega)).mpr ⟨by omega, by omega⟩
    rw [toNat_one_append, log]
    rfl
  have biased : ((unpackExponent bits).toNat - 1075 + (Format.binary64.exponentBias : Nat) +
      (Format.binary64.mantissaBitsWithoutImplicit : Nat) : Int).toNat =
        (unpackExponent bits).toNat := by
    change ((unpackExponent bits).toNat - 1075 + (1023 : Nat) + (52 : Nat) : Int).toNat = _
    omega
  have mantissa : BitVec.ofNat 52 (1#1 ++ unpackMantissa bits).toNat = unpackMantissa bits := by
    apply BitVec.eq_of_toNat_eq
    rw [BitVec.toNat_ofNat, toNat_one_append, Nat.add_mod_left]
    exact Nat.mod_eq_of_lt (unpackMantissa bits).isLt
  rw [pack, biased, if_neg, if_pos long, BitVec.ofNat_toNat, BitVec.setWidth_eq]
  · exact (congrArg _ mantissa).trans whole
  · change ¬ 2 ^ 11 ≤ _
    omega

/-- Bits that are taken apart and put together are the same bits. -/
theorem pack_unpack {bits : BitVec Format.binary64.numBits} (valid : Format.binary64.Valid bits) :
    pack Format.binary64 (unpack Format.binary64 bits) = bits := by
  have whole := packComponents_fields bits
  rw [unpack]
  dsimp only
  split
  · rename_i top
    split
    · rename_i empty
      rw [pack, packedInfinity, ← top]
      rw [empty] at whole
      exact whole
    · rename_i some
      exact (valid.eq_packedNaN top some).symm
  · rename_i notTop
    split
    · rename_i low
      split
      · rename_i empty
        rw [pack, packedZero]
        rw [empty, low] at whole
        exact whole
      · rename_i some
        have exponent : ((unpackExponent bits).toNat : Int) -
            ((Format.binary64.exponentBias : Nat) + ((52 : Nat) : Int)) + 1 = -1074 := by
          rw [low]
          rfl
        simp only [exponent]
        exact pack_subnormal low _
    · have inside : (unpackExponent bits).toNat < 2047 := by
        have below : (unpackExponent bits).toNat < 2 ^ 11 := (unpackExponent bits).isLt
        have other : (unpackExponent bits).toNat ≠ 2047 :=
          fun same => notTop (BitVec.eq_of_toNat_eq same)
        omega
      exact pack_normal inside _

theorem toNat_unpackExponent (bits : BitVec Format.binary64.numBits) :
    (unpackExponent bits).toNat = bits.toNat / 2 ^ 52 % 2 ^ 11 := by
  show (bits.extractLsb' 52 11).toNat = _
  rw [BitVec.extractLsb'_toNat, Nat.shiftRight_eq_div_pow]

theorem toNat_unpackMantissa (bits : BitVec Format.binary64.numBits) :
    (unpackMantissa bits).toNat = bits.toNat % 2 ^ 52 := by
  show (bits.extractLsb' 0 52).toNat = _
  rw [BitVec.extractLsb'_toNat, Nat.shiftRight_zero]

theorem toNat_unpackSign (bits : BitVec Format.binary64.numBits) :
    (unpackSign bits).toNat = bits.toNat / 2 ^ 63 := by
  have below : bits.toNat < 2 ^ 64 := bits.isLt
  show (bits.extractLsb' 63 1).toNat = _
  rw [BitVec.extractLsb'_toNat, Nat.shiftRight_eq_div_pow]
  omega

/-- Bits whose exponent field is not the greatest are those of a number. -/
theorem toBits_ofBits {bits : UInt64}
    (inside : bits.toNat / powerOfTwo 52 % powerOfTwo 11 ≠ 2047) :
    (Float.ofBits bits).toBits = bits := by
  have valid : Format.binary64.Valid bits.toBitVec := by
    refine ⟨fun top => absurd ?_ inside⟩
    have field := toNat_unpackExponent bits.toBitVec
    rw [top] at field
    exact field.symm
  simp only [Float.ofBits, Float.toBits, Float.Model.ofBits, Float.Model.pack]
  exact congrArg UInt64.ofBitVec (pack_unpack valid)

end Packing

/-- A number is determined by its bits. -/
theorem ofBits_toBits (x : Float) : Float.ofBits x.toBits = x := by
  obtain ⟨bits, valid⟩ := x
  simp only [Float.ofBits, Float.toBits, Float.Model.ofBits, Float.Model.pack]
  congr 2
  exact congrArg UInt64.ofBitVec (pack_unpack valid)

/-! ### Finite numbers -/

/-- A mantissa and an exponent as a finite number has them. -/
structure Representable (mantissa : Nat) (exponent : Int) : Prop where
  least : -1074 ≤ exponent
  most : exponent ≤ 971
  short : mantissa < powerOfTwo 53
  normal : exponent ≠ -1074 → powerOfTwo 52 ≤ mantissa

/-- The bits of a mantissa and an exponent. -/
def pattern (mantissa : Nat) (exponent : Int) : Nat :=
  mantissa + (exponent + 1074).toNat * powerOfTwo 52

/-- The bits of a finite number are those of its mantissa and exponent, with its sign above
them. -/
theorem toBits_of_finite {x : Float} {negative : Bool} {mantissa : Nat} {exponent : Int}
    (finite : Binary.ofFloat x = .finite negative mantissa exponent) :
    Representable mantissa exponent ∧
      x.toBits.toNat = pattern mantissa exponent + if negative then powerOfTwo 63 else 0 := by
  have below : x.toBits.toNat < powerOfTwo 64 := x.toBits.toNat_lt
  simp only [Binary.ofFloat, Binary.ofBits] at finite
  generalize x.toBits.toNat = bits at *
  simp only [powerOfTwo, Nat.pow_eq, Nat.reducePow] at below finite
  have sign : (if bits / 9223372036854775808 = 1 then 9223372036854775808 else 0) =
      bits / 9223372036854775808 * 9223372036854775808 := by
    split <;> omega
  split at finite
  · split at finite <;> cases finite
  · rename_i notTop
    rw [beq_iff_eq] at notTop
    split at finite
    · rename_i low
      rw [beq_iff_eq] at low
      cases finite
      refine ⟨⟨by omega, by omega, ?_, fun other => absurd rfl other⟩, ?_⟩
      · simp only [powerOfTwo, Nat.pow_eq, Nat.reducePow]
        omega
      · simp only [pattern, powerOfTwo, Nat.pow_eq, Nat.reducePow, beq_iff_eq]
        rw [sign]
        omega
    · rename_i notLow
      rw [beq_iff_eq] at notLow
      cases finite
      refine ⟨⟨by omega, by omega, ?_, fun _ => Nat.le_add_right _ _⟩, ?_⟩
      · simp only [powerOfTwo, Nat.pow_eq, Nat.reducePow]
        omega
      · simp only [pattern, powerOfTwo, Nat.pow_eq, Nat.reducePow, beq_iff_eq]
        rw [sign]
        omega

/-- The number of the bits that a finite number is made of is that number. -/
theorem ofBits_pattern {x : Float} {negative : Bool} {mantissa : Nat} {exponent : Int}
    (finite : Binary.ofFloat x = .finite negative mantissa exponent) :
    Float.ofBits (UInt64.ofNat (pattern mantissa exponent + if negative then powerOfTwo 63 else 0)) =
      x := by
  rw [← (toBits_of_finite finite).2, UInt64.ofNat_toNat, ofBits_toBits]

theorem isFinite_ofBits {bits : UInt64}
    (inside : bits.toNat / powerOfTwo 52 % powerOfTwo 11 ≠ 2047) :
    isFinite (Float.ofBits bits) = true := by
  have notTop : (bits.toNat / powerOfTwo 52 % powerOfTwo 11 == 2047) = false :=
    beq_eq_false_iff_ne.mpr inside
  rw [isFinite, Binary.ofFloat, toBits_ofBits inside, Binary.ofBits]
  simp only [notTop, Bool.false_eq_true, ↓reduceIte]
  cases bits.toNat / powerOfTwo 52 % powerOfTwo 11 == 0 <;> rfl

end TaskLoop.Decimal
