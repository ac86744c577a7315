import TaskLoop.Proofs.Arithmetic
import TaskLoop.Proofs.Decimal.Rounding

/-!
The order of double-precision numbers: by sign, then by exponent, then by mantissa, the last two
the other way round below nought. Nothing is compared with what is no number.
-/

set_option autoImplicit false

namespace TaskLoop.Decimal

open Float.Model (UnpackedFloat)

theorem compare_neg (left right : ℤ) : compare (-left) (-right) = (compare left right).swap := by
  rw [Int.compare_swap, ← cmp_eq_compare, ← cmp_eq_compare]
  exact StrictAnti.cmp_map_eq (f := Neg.neg) (fun _ _ => neg_lt_neg) left right

theorem compare_natCast (left right : ℕ) : compare (left : ℤ) right = compare left right := by
  rw [← cmp_eq_compare, ← cmp_eq_compare]
  exact Nat.strictMono_cast.cmp_map_eq left right

/-- Where a number stands among all. -/
def place : UnpackedFloat → ℤ ×ₗ ℤ ×ₗ ℤ
  | .infinity .negative => toLex (-2, toLex (0, 0))
  | .finite .negative mantissa exponent _ => toLex (-1, toLex (-exponent, -mantissa))
  | .zero _ | .notANumber => toLex (0, toLex (0, 0))
  | .finite .positive mantissa exponent _ => toLex (1, toLex (exponent, mantissa))
  | .infinity .positive => toLex (2, toLex (0, 0))

/-- Numbers are compared by their places. -/
theorem compare_eq_place {x y : UnpackedFloat} (isNumber : x ≠ .notANumber)
    (isNumber' : y ≠ .notANumber) : x.compare y = some (compare (place x) (place y)) := by
  cases x with
  | notANumber => exact absurd rfl isNumber
  | infinity sign =>
    cases y with
    | notANumber => exact absurd rfl isNumber'
    | infinity sign' => cases sign <;> cases sign' <;> rfl
    | zero sign' => cases sign <;> rfl
    | finite sign' mantissa' exponent' positive' => cases sign <;> cases sign' <;> rfl
  | zero sign =>
    cases y with
    | notANumber => exact absurd rfl isNumber'
    | infinity sign' => cases sign' <;> rfl
    | zero sign' => rfl
    | finite sign' mantissa' exponent' positive' => cases sign' <;> rfl
  | finite sign mantissa exponent positive =>
    cases y with
    | notANumber => exact absurd rfl isNumber'
    | infinity sign' => cases sign <;> cases sign' <;> rfl
    | zero sign' => cases sign <;> rfl
    | finite sign' mantissa' exponent' positive' =>
      cases sign with
      | positive =>
        cases sign' with
        | negative => rfl
        | positive =>
          rw [UnpackedFloat.compare, ← compare_natCast]
          rfl
      | negative =>
        cases sign' with
        | positive => rfl
        | negative =>
          rw [UnpackedFloat.compare, Ordering.swap_then, ← compare_neg, ← compare_natCast,
            ← compare_neg]
          rfl

theorem compare_notANumber (x : UnpackedFloat) : x.compare .notANumber = none := by
  cases x <;> rfl

theorem atMost_eq (x y : Float) :
    Arithmetic.atMost x y = UnpackedFloat.le x.toModel.unpack y.toModel.unpack := by
  show decide (Float.le x y = true) = _
  rw [Bool.decide_eq_true]
  show decide (UnpackedFloat.le x.toModel.unpack y.toModel.unpack = true) = _
  exact Bool.decide_eq_true

theorem ordered_doubles : Arithmetic.Ordered
    (fun x : Float => x.toModel.unpack ≠ .notANumber) (fun x => place x.toModel.unpack) where
  less {x y} isNumber isNumber' := by
    rw [less_eq, UnpackedFloat.lt, compare_eq_place isNumber isNumber', Bool.eq_iff_iff,
      beq_iff_eq, Option.some_inj, compare_lt_iff_lt, decide_eq_true_iff]
  atMost {x y} := by
    rw [atMost_eq, UnpackedFloat.le]
    constructor
    · intro compared
      have isNumber : x.toModel.unpack ≠ .notANumber := by
        intro none
        rw [none] at compared
        cases compared
      have isNumber' : y.toModel.unpack ≠ .notANumber := by
        intro none
        rw [none, compare_notANumber] at compared
        cases compared
      rw [compare_eq_place isNumber isNumber', Option.any_some, Ordering.isLE_iff_ne_gt,
        ← ne_eq, compare_le_iff_le] at compared
      exact ⟨isNumber, isNumber', compared⟩
    · rintro ⟨isNumber, isNumber', least⟩
      rwa [compare_eq_place isNumber isNumber', Option.any_some, Ordering.isLE_iff_ne_gt,
        ← ne_eq, compare_le_iff_le]

end TaskLoop.Decimal
