import WidgetDoc.Decimal.Shortest
import WidgetDoc.Decimal.Text
import WidgetDoc.Word

/-!
# Numbers in documents

A number is an integer that fits in 64 bits, signed or unsigned, or a finite double. The kind is
part of the number: `1` and `1.0` are numerically equal and yet different.
-/

namespace WidgetDoc

inductive Number where
  | integer (n : Int) (fits : FitsWord n)
  | double (x : Double)
  deriving DecidableEq

namespace Number

/-- A count; one that does not fit in 64 bits is cut to the largest that does. -/
def ofNat (n : Nat) : Number :=
  .integer (min n (UInt64.size - 1)) (by unfold FitsWord UInt64.size; omega)

/-- Equality of value and kind; the two zeros of the double kind are equal. -/
def same : Number → Number → Bool
  | .integer m _, .integer n _ => m == n
  | .double x, .double y => x.sameValue y
  | _, _ => false

/-- The nearest double. -/
def toDouble? : Number → Option Double
  | .integer n _ => Double.ofInt? n
  | .double x => some x

/-- The number as a count, if it is of the integer kind and not negative. -/
def toNat? : Number → Option Nat
  | .integer (.ofNat n) _ => some n
  | _ => none

/-- The literal of a number: an integer has no fraction, a double always shows its kind. -/
def literal : Number → String
  | .integer n _ => n.repr
  | .double x => Decimal.format Decimal.documentStyle (.ofDouble x)

end Number

end WidgetDoc
