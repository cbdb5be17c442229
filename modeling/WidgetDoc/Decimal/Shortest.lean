import WidgetDoc.Decimal

/-!
# The shortest numeral of a double

Among the numerals that round to a given double, the shortest have the fewest digits; of those the
one nearest to the exact value is chosen. The search walks the decimal grids from coarse to fine.
-/

namespace WidgetDoc.Decimal

/-- The decimal exponent of the first digit of `magnitude` units. Every positive number of units
exceeds `10 ^ -330`, so scaling by that power leaves an integer part with as many digits. -/
def leadingExponent (magnitude : Nat) : Int :=
  (digitCount (magnitude * Nat.pow 10 330 / Double.unitsPerOne) : Int) - 331

/-- The end points, in quarters of a unit, of the numbers that round to a double. Just above a power
of two the lower neighbour is only half as far away. -/
def roundingInterval (x : Double) : Nat × Nat :=
  let below := if x.mantissa = 0x10000000000000 ∧ x.exponent ≠ 0 then 1 else 2
  ((4 * x.mantissa - below) * Nat.pow 2 x.exponent, (4 * x.mantissa + 2) * Nat.pow 2 x.exponent)

/-- Whether `n · 10 ^ k` rounds to the double; an end point does when the mantissa is even. -/
def roundsTo (x : Double) (n : Nat) (k : Int) : Bool :=
  let (low, high) := roundingInterval x
  let (value, scale) := match k with
    | .ofNat k => (4 * n * Nat.pow 10 k * Double.unitsPerOne, 1)
    | .negSucc k => (4 * n * Double.unitsPerOne, Nat.pow 10 (k + 1))
  if x.mantissa % 2 = 0 then low * scale ≤ value && value ≤ high * scale
  else low * scale < value && value < high * scale

/-- The grid point `n · 10 ^ k` below a magnitude, with the remainder and the width of a step on one
common scale. -/
def gridBelow (magnitude : Nat) (k : Int) : Nat × Nat × Nat :=
  let (value, step) := match k with
    | .ofNat k => (magnitude, Nat.pow 10 k * Double.unitsPerOne)
    | .negSucc k => (magnitude * Nat.pow 10 (k + 1), Double.unitsPerOne)
  (value / step, value % step, step)

/-- The grid neighbour of the value that rounds to the double. If both do it is the nearer one, and
half-way between them the even one. -/
def gridHit? (x : Double) (k : Int) : Option Nat :=
  let (n, rest, step) := gridBelow x.magnitude k
  match roundsTo x n k, roundsTo x (n + 1) k with
  | true, true =>
    some (if 2 * rest < step ∨ (2 * rest = step ∧ n % 2 = 0) then n else n + 1)
  | true, false => some n
  | false, true => some (n + 1)
  | false, false => none

/-- Seventeen digits always suffice, so the search tries at most that many grids. -/
def searchGrids (x : Double) (k : Int) : Nat → Nat × Int
  | 0 => ((gridBelow x.magnitude k).1, k)
  | tries + 1 =>
    match gridHit? x k with
    | some n => (n, k)
    | none => searchGrids x (k - 1) tries

/-- Moves the trailing zeros of a coefficient into the exponent. -/
def dropZeros (n : Nat) (k : Int) : Nat × Int :=
  if h : n ≠ 0 ∧ n % 10 = 0 then dropZeros (n / 10) (k + 1) else (n, k)
  termination_by n
  decreasing_by omega

/-- The shortest numeral that rounds to a double. -/
def ofDouble (x : Double) : Decimal :=
  if x.isZero then ⟨x.negative, 0, 0⟩
  else
    let (n, k) := searchGrids x (leadingExponent x.magnitude) 17
    let (n, k) := dropZeros n k
    ⟨x.negative, n, k⟩

/-- How numerals are written: positional while the exponent of the first digit lies in
`[lowest, highest)`, scientific with a signed exponent outside. -/
structure Style where
  lowest : Int
  highest : Int

/-- Numbers in documents are positional from `10 ^ -5` to `10 ^ 16`. -/
def documentStyle : Style := ⟨-5, 16⟩

/-- The text of a numeral; positional notation always shows a fraction. -/
def format (style : Style) (d : Decimal) : String :=
  let digits := Nat.toDigits 10 d.coefficient
  let count : Int := digits.length
  let first := d.exponent + count - 1
  let body :=
    if style.lowest ≤ first ∧ first < style.highest then
      if 0 ≤ d.exponent then digits ++ List.replicate d.exponent.toNat '0' ++ ['.', '0']
      else if 0 ≤ first then digits.take (first.toNat + 1) ++ '.' :: digits.drop (first.toNat + 1)
      else ['0', '.'] ++ List.replicate (-first - 1).toNat '0' ++ digits
    else
      let fraction := if digits.length ≤ 1 then [] else '.' :: digits.drop 1
      let sign := if first < 0 then '-' else '+'
      digits.take 1 ++ fraction ++ ['e', sign] ++ Nat.toDigits 10 first.natAbs
  String.ofList (if d.negative then '-' :: body else body)

end WidgetDoc.Decimal
