import WidgetDoc.Double

/-!
# Decimal numerals

A numeral is a coefficient scaled by a power of ten. `Decimal.toDouble?` rounds it once, from its
exact value.
-/

namespace WidgetDoc

/-- The numeral `± coefficient · 10 ^ exponent`. -/
structure Decimal where
  negative : Bool
  coefficient : Nat
  exponent : Int
  deriving DecidableEq

namespace Decimal

/-- The value of a run of decimal digits. -/
def ofDigits (digits : List Char) : Nat :=
  digits.foldl (fun n c => 10 * n + (c.toNat - '0'.toNat)) 0

/-- The number of decimal digits of a natural number. -/
def digitCount (n : Nat) : Nat :=
  (Nat.toDigits 10 n).length

/-- The double nearest to a numeral, a half to the even mantissa; `none` when that is beyond the
largest finite double. A numeral below `10 ^ -330` is nearer to zero than to any other double, and
one of at least `10 ^ 310` is out of range, so neither needs its power of ten. -/
def toDouble? (d : Decimal) : Option Double :=
  let top := digitCount d.coefficient + d.exponent
  if d.coefficient = 0 ∨ top < -330 then some (.zero d.negative)
  else if 310 < top then none
  else match d.exponent with
    | .ofNat k => Double.ofUnits? d.negative (d.coefficient * Nat.pow 10 k * Double.unitsPerOne) 1
    | .negSucc k =>
      Double.ofUnits? d.negative (d.coefficient * Double.unitsPerOne) (Nat.pow 10 (k + 1))

end Decimal

end WidgetDoc
