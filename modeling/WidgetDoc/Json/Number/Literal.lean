import WidgetDoc.Json.Number

/-!
# Reading number literals

The literal grammar of JSON. A literal without fraction and exponent that fits in 64 bits is an
integer, any other a double. Doubles are scaled in double arithmetic: the leading digits that fit in
64 bits are rounded first, then multiplied or divided by a power of ten.
-/

namespace WidgetDoc.Number

/-- The digits of a literal read so far, the power of ten they are scaled by, and whether a digit
has been dropped. -/
structure Significand where
  value : Nat
  exponent : Int
  full : Bool

/-- Takes a digit if the significand then still fits in 64 bits. -/
def Significand.push? (s : Significand) (c : Char) : Option Nat :=
  let value := 10 * s.value + (c.toNat - '0'.toNat)
  if value < UInt64.size then some value else none

/-- A digit before the point; once one has been dropped, so are the others. -/
def Significand.pushWhole (s : Significand) (c : Char) : Significand :=
  match s.full, s.push? c with
  | false, some value => { s with value := value }
  | _, _ => { s with exponent := s.exponent + 1, full := true }

/-- A digit after the point. Dropping starts anew there. -/
def Significand.pushFraction (s : Significand) (c : Char) : Significand :=
  match s.full, s.push? c with
  | false, some value => { s with value := value, exponent := s.exponent - 1 }
  | _, _ => { s with full := true }

def Significand.ofDigits (whole fraction : List Char) : Significand :=
  let s := whole.foldl Significand.pushWhole ⟨0, 0, false⟩
  fraction.foldl Significand.pushFraction { s with full := false }

/-- The double nearest to `10 ^ k`. -/
def powerOfTen? (k : Nat) : Option Double :=
  Double.ofUnits? false (Nat.pow 10 k * Double.unitsPerOne) 1

/-- Divides by `10 ^ k`, by at most `10 ^ 308` at a time. -/
def scaleDown? (x : Double) (k : Nat) : Option Double :=
  if x.isZero then some x
  else if k ≤ 308 then (powerOfTen? k).bind x.div?
  else ((powerOfTen? 308).bind x.div?).bind fun y => scaleDown? y (k - 308)
  termination_by k

/-- Scales by a power of ten; `none` when the result is out of range. -/
def scale? (x : Double) : Int → Option Double
  | .ofNat k =>
    if x.isZero then some x
    else if k ≤ 308 then (powerOfTen? k).bind x.mul?
    else none
  | .negSucc k => scaleDown? x (k + 1)

/-- The double of a literal with these digits and this written exponent. -/
def doubleOfDigits? (negative : Bool) (whole fraction : List Char) (exponent : Int) :
    Option Number :=
  let s := Significand.ofDigits whole fraction
  let significand := Double.ofUnits? negative (s.value * Double.unitsPerOne) 1
  (significand.bind (scale? · (s.exponent + exponent))).map .double

/-- The number of a literal that has neither fraction nor exponent. Minus zero is a double. -/
def integerOfDigits? (negative : Bool) (whole : List Char) : Option Number :=
  let n := Decimal.ofDigits whole
  if negative ∧ n = 0 then some (.double (.zero true))
  else if h : FitsWord (if negative then -(n : Int) else n) then some (.integer _ h)
  else doubleOfDigits? negative whole [] 0

/-- The number a literal denotes; `none` for any other text and for doubles out of range. -/
def ofLiteral? (text : List Char) : Option Number :=
  let (negative, text) := match text with
    | '-' :: rest => (true, rest)
    | text => (false, text)
  let (whole, rest) := Decimal.spanDigits text
  if whole = [] ∨ (whole.head? = some '0' ∧ whole ≠ ['0']) then none
  else match rest with
    | [] => integerOfDigits? negative whole
    | '.' :: rest =>
      let (fraction, rest) := Decimal.spanDigits rest
      if fraction = [] then none
      else (Decimal.exponentOf? rest).bind (doubleOfDigits? negative whole fraction)
    | rest => (Decimal.exponentOf? rest).bind (doubleOfDigits? negative whole [])

end WidgetDoc.Number
