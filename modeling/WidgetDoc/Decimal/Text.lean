import WidgetDoc.Decimal

/-!
# Reading decimal numerals

The liberal notation for numbers inside strings: an optional sign, digits with an optional point on
either side of which one run of digits may be missing, and an optional exponent.
-/

namespace WidgetDoc.Decimal

/-- The leading run of ASCII digits and what follows it. -/
def spanDigits (text : List Char) : List Char × List Char :=
  text.span Char.isDigit

/-- An optional sign: whether it is a minus, and what follows it. -/
def takeSign : List Char → Bool × List Char
  | '-' :: rest => (true, rest)
  | '+' :: rest => (false, rest)
  | text => (false, text)

/-- The exponent that must make up the whole text: nothing, or `e` and a signed run of digits. -/
def exponentOf? : List Char → Option Int
  | [] => some 0
  | c :: rest =>
    if c = 'e' ∨ c = 'E' then
      let (negative, digits) := takeSign rest
      if digits ≠ [] ∧ digits.all Char.isDigit then
        some (if negative then -(ofDigits digits : Int) else ofDigits digits)
      else none
    else none

/-- The numeral a text denotes. -/
def ofText? (text : List Char) : Option Decimal :=
  let (negative, text) := takeSign text
  let (whole, rest) := spanDigits text
  let (fraction, rest) := match rest with
    | '.' :: rest => spanDigits rest
    | rest => ([], rest)
  if whole = [] ∧ fraction = [] then none
  else (exponentOf? rest).map fun e =>
    ⟨negative, ofDigits (whole ++ fraction), e - fraction.length⟩

end WidgetDoc.Decimal
