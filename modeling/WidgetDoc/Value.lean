import WidgetDoc.Json.Printer
import WidgetDoc.Text.Blank

/-!
# Values of expressions

A value is a JSON value or undefined, that is missing. Every coercion is total: undefined has a
truth, a text and an equality of its own, and whatever is no number is `none` as a number.
-/

namespace WidgetDoc

/-- A JSON value, or `none` for undefined. -/
abbrev Value := Option Json

/-- The text of a number: a double that denotes an integer below `10 ^ 15` shows no fraction. -/
def Number.display : Number → String
  | .double x =>
    match x.toInt? with
    | some n => if n.natAbs < 1000000000000000 then n.repr else (Number.double x).literal
    | none => (Number.double x).literal
  | n => n.literal

namespace Value

/-- Undefined, null, false, zero and the empty string are false. -/
def truthy : Value → Bool
  | none => false
  | some .null => false
  | some (.bool b) => b
  | some (.number n) => n.toDouble?.any fun x => !x.isZero
  | some (.string s) => s != ""
  | some (.array _) => true
  | some (.object _) => true

/-- The nearest double of a number or of a string that holds a numeral. -/
def toDouble? : Value → Option Double
  | some (.number n) => n.toDouble?
  | some (.string s) => (Decimal.ofText? (Text.trim s.toList)).bind Decimal.toDouble?
  | _ => none

/-- The text of a value: nothing for undefined and null, compact JSON for arrays and objects. -/
def display : Value → String
  | none => ""
  | some .null => ""
  | some (.string s) => s
  | some (.number n) => n.display
  | some j => j.compact

/-- Numeric equality, on the nearest doubles. -/
def sameNumber (m n : Number) : Bool :=
  match m.toDouble?, n.toDouble? with
  | some x, some y => x.sameValue y
  | none, none => true
  | _, _ => false

/-- Undefined equals only undefined, two numbers compare numerically, and all else structurally. -/
def same : Value → Value → Bool
  | none, none => true
  | some (.number m), some (.number n) => sameNumber m n
  | some x, some y => x.same y
  | _, _ => false

end Value

end WidgetDoc
