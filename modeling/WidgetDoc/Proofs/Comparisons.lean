import Mathlib.Order.Basic
import WidgetDoc.Operator
import WidgetDoc.Proofs.NearestDouble

/-!
# Comparing numbers

An operator that compares two numbers, or two strings that hold numerals, compares the exact values
of their doubles. Every number has a double, so only other values compare to nothing.
-/

namespace WidgetDoc

open Double

namespace BinaryOperator

/-- What an operator says of two integers. -/
def holds : BinaryOperator → Int → Int → Bool
  | eq, a, b => a == b
  | neq, a, b => a != b
  | gt, a, b => decide (b < a)
  | gte, a, b => decide (b ≤ a)
  | lt, a, b => decide (a < b)
  | lte, a, b => decide (a ≤ b)

/-- The operators that ask for an order. -/
def IsOrder (op : BinaryOperator) : Prop :=
  op ≠ eq ∧ op ≠ neq

instance (op : BinaryOperator) : Decidable op.IsOrder :=
  inferInstanceAs (Decidable (_ ∧ _))

theorem holds_mul_right (op : BinaryOperator) (a b : Int) {c : Int} (hc : 0 < c) :
    op.holds (a * c) (b * c) = op.holds a b := by
  have heq : a * c = b * c ↔ a = b := Int.mul_eq_mul_right_iff hc.ne'
  have hlt (i j : Int) : i * c < j * c ↔ i < j := Int.mul_lt_mul_right hc
  have hle (i j : Int) : i * c ≤ j * c ↔ i ≤ j := Int.mul_le_mul_right hc
  rw [Bool.eq_iff_iff]
  cases op <;> simp [holds, heq, hlt, hle]

variable {v w : Value} {x y : Double}

theorem apply_of_toDouble? (hv : Value.toDouble? v = some x) (hw : Value.toDouble? w = some y)
    {op : BinaryOperator} (hop : op.IsOrder) : op.apply v w = op.holds x.units y.units := by
  cases op with
  | eq => exact absurd rfl hop.1
  | neq => exact absurd rfl hop.2
  | gt | gte | lt | lte =>
      rw [apply, Value.compare, hv, hw]
      rfl

/-- Whatever is no number compares to nothing. -/
theorem apply_of_toDouble?_eq_none (h : Value.toDouble? v = none ∨ Value.toDouble? w = none)
    {op : BinaryOperator} (hop : op.IsOrder) : op.apply v w = false := by
  have hcompare (order : Double → Double → Bool) : Value.compare order v w = false := by
    rw [Value.compare]
    rcases h with h | h <;> rw [h]
    cases Value.toDouble? v <;> rfl
  cases op with
  | eq => exact absurd rfl hop.1
  | neq => exact absurd rfl hop.2
  | gt | gte | lt | lte => exact hcompare _

end BinaryOperator

namespace Number

theorem exists_toDouble? (n : Number) : ∃ x, n.toDouble? = some x := by
  cases n with
  | integer n fits =>
      obtain ⟨x, hx, -⟩ := exists_ofInt?_eq fits
      exact ⟨x, hx⟩
  | double x => exact ⟨x, rfl⟩

/-- The exact value of the double of a number, in units. -/
def units (n : Number) : Int :=
  n.toDouble?.elim 0 Double.units

theorem units_of_toDouble? {n : Number} {x : Double} (h : n.toDouble? = some x) :
    n.units = x.units := by
  rw [units, h, Option.elim_some]

theorem units_integer (n : Int) (fits : FitsWord n) :
    (integer n fits).units = nearest n * unitsPerOne := by
  obtain ⟨x, hx, hunits⟩ := exists_ofInt?_eq fits
  have hdouble : (integer n fits).toDouble? = some x := hx
  rw [units_of_toDouble? hdouble, hunits]

end Number

theorem Value.same_numbers (m n : Number) :
    same (some (.number m)) (some (.number n)) = (m.units == n.units) := by
  obtain ⟨x, hx⟩ := m.exists_toDouble?
  obtain ⟨y, hy⟩ := n.exists_toDouble?
  rw [same, sameNumber, hx, hy, Number.units_of_toDouble? hx, Number.units_of_toDouble? hy]
  rfl

/-- All operators compare two numbers by the exact values of their doubles. -/
theorem BinaryOperator.apply_numbers (op : BinaryOperator) (m n : Number) :
    op.apply (some (.number m)) (some (.number n)) = op.holds m.units n.units := by
  cases op with
  | eq => rw [apply, Value.same_numbers, holds]
  | neq => rw [apply, Value.same_numbers, holds, bne]
  | gt | gte | lt | lte =>
      obtain ⟨x, hx⟩ := m.exists_toDouble?
      obtain ⟨y, hy⟩ := n.exists_toDouble?
      rw [Number.units_of_toDouble? hx, Number.units_of_toDouble? hy]
      exact apply_of_toDouble? (v := some (.number m)) (w := some (.number n)) hx hy (by decide)

end WidgetDoc
