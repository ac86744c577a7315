import Mathlib.Algebra.Order.Floor.Ring
import Mathlib.Data.Rat.Floor
import TaskLoop.Arithmetic

/-!
Arithmetic without rounding, of which fractions are an instance, and comparisons that go by a linear
order.
-/

set_option autoImplicit false

namespace TaskLoop.Arithmetic

/-- Numbers that stand for fractions, on which the four operations are exact. -/
structure Exact {α : Type} [Arithmetic α] (value : α → ℚ) : Prop where
  ofNat : ∀ n, value (ofNat n) = n
  add : ∀ left right, value (left + right) = value left + value right
  sub : ∀ left right, value (left - right) = value left - value right
  mul : ∀ left right, value (left * right) = value left * value right
  div : ∀ left right, value (left / right) = value left / value right

/-- A fraction stands in a file as its numerator and its denominator. -/
def fractionOfJson? : Json → Option ℚ
  | .array [numerator, denominator] => do
    return (← Json.integer? numerator : ℚ) / (← Json.nat64? denominator : ℚ)
  | _ => none

instance : Arithmetic ℚ where
  ofNat n := n
  quotient numerator denominator := numerator / denominator
  less left right := left < right
  atMost left right := left ≤ right
  isFinite _ := true
  ceiling x := max (-(powerOfTwo 63 : Int)) (min ⌈x⌉ (powerOfTwo 63 - 1))
  toJson x := .array [.ofInt x.num, .ofNat x.den]
  ofJson? := fractionOfJson?

theorem exact_fractions : Exact (id : ℚ → ℚ) where
  ofNat _ := rfl
  add _ _ := rfl
  sub _ _ := rfl
  mul _ _ := rfl
  div _ _ := rfl

/-- Comparisons that go by the places of numbers in a linear order, and of what is no number always
fail. -/
structure Ordered {α β : Type} [Arithmetic α] [LinearOrder β] (isNumber : α → Prop)
    (place : α → β) : Prop where
  less : ∀ {left right}, isNumber left → isNumber right →
    less left right = decide (place left < place right)
  atMost : ∀ {left right}, atMost left right = true ↔
    isNumber left ∧ isNumber right ∧ place left ≤ place right

theorem ordered_fractions : Ordered (fun _ : ℚ => True) id where
  less _ _ := rfl
  atMost {left right} := by
    rw [true_and, true_and]
    exact decide_eq_true_iff

end TaskLoop.Arithmetic
