/-!
# Finite double-precision numbers

A finite double is `± mantissa · 2 ^ exponent`, counted in units of `2 ^ -1074`. Order, products,
quotients and rounding are decided on integers, so nothing here depends on machine arithmetic.
-/

namespace WidgetDoc

/-- A finite double-precision number in its unique normal form: the mantissa has 53 bits, or fewer
when the exponent is the least. -/
structure Double where
  negative : Bool
  mantissa : Nat
  exponent : Nat
  mantissa_lt : mantissa < 0x20000000000000
  exponent_le : exponent ≤ 2045
  normal : 0x10000000000000 ≤ mantissa ∨ exponent = 0
  deriving DecidableEq

namespace Double

/-- The number of units in one. -/
def unitsPerOne : Nat := Nat.pow 2 1074

def zero (negative : Bool) : Double where
  negative := negative
  mantissa := 0
  exponent := 0
  mantissa_lt := by decide
  exponent_le := by decide
  normal := .inr rfl

instance : Inhabited Double := ⟨zero false⟩

/-- The absolute value, in units. -/
def magnitude (x : Double) : Nat :=
  x.mantissa * Nat.pow 2 x.exponent

/-- The exact value, in units; both zeros have the value zero. -/
def units (x : Double) : Int :=
  if x.negative then -(x.magnitude : Int) else x.magnitude

instance : LT Double := ⟨fun x y => x.units < y.units⟩

instance : LE Double := ⟨fun x y => x.units ≤ y.units⟩

instance (x y : Double) : Decidable (x < y) :=
  inferInstanceAs (Decidable (x.units < y.units))

instance (x y : Double) : Decidable (x ≤ y) :=
  inferInstanceAs (Decidable (x.units ≤ y.units))

/-- Two doubles are numerically equal when they denote the same value. -/
def sameValue (x y : Double) : Bool :=
  x.units == y.units

def isZero (x : Double) : Bool :=
  x.mantissa == 0

/-- The interchange encoding: sign, biased exponent and fraction in one word. -/
def bits (x : Double) : UInt64 :=
  .ofNat ((if x.negative then 0x8000000000000000 else 0) + x.exponent * 0x10000000000000
    + x.mantissa)

/-- `numerator / denominator` rounded to the nearest integer, a half to the even neighbour. -/
def roundHalfEven (numerator denominator : Nat) : Nat :=
  let quotient := numerator / denominator
  let twice := 2 * (numerator % denominator)
  if denominator < twice ∨ (twice = denominator ∧ quotient % 2 = 1) then quotient + 1 else quotient

/-- Assembles a mantissa and an exponent, unless the result is out of range. A mantissa that
rounding has carried to 54 bits is halved. -/
def assemble? (negative : Bool) (mantissa exponent : Nat) : Option Double :=
  if mantissa = 0x20000000000000 then
    if h : exponent + 1 ≤ 2045 then
      some ⟨negative, 0x10000000000000, exponent + 1, by decide, h, .inl (Nat.le_refl _)⟩
    else none
  else if h : mantissa < 0x20000000000000 ∧ exponent ≤ 2045 ∧
      (0x10000000000000 ≤ mantissa ∨ exponent = 0) then
    some ⟨negative, mantissa, exponent, h.1, h.2.1, h.2.2⟩
  else none

/-- The double nearest to `± numerator / denominator` units, a half to the even mantissa; `none`
when that is beyond the largest finite double. -/
def ofUnits? (negative : Bool) (numerator denominator : Nat) : Option Double :=
  let exponent := (numerator / denominator).log2 - 52
  assemble? negative (roundHalfEven numerator (denominator * Nat.pow 2 exponent)) exponent

/-- The double nearest to an integer. -/
def ofInt? (n : Int) : Option Double :=
  ofUnits? (n < 0) (n.natAbs * unitsPerOne) 1

def mul? (x y : Double) : Option Double :=
  ofUnits? (x.negative != y.negative) (x.magnitude * y.magnitude) unitsPerOne

/-- The rounded quotient by a number other than zero. -/
def div? (x y : Double) : Option Double :=
  ofUnits? (x.negative != y.negative) (x.magnitude * unitsPerOne) y.magnitude

/-- The integer a double denotes, if it denotes one. -/
def toInt? (x : Double) : Option Int :=
  if x.magnitude % unitsPerOne = 0 then some (x.units / unitsPerOne) else none

end Double

end WidgetDoc
