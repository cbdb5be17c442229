import WidgetDoc.Text.Case
import WidgetDoc.Value

/-!
# Operators

The closed table of fifteen operators. Unary and binary operators act on the values of their
arguments; the others decide by themselves which arguments are evaluated.
-/

namespace WidgetDoc

inductive UnaryOperator where
  | trim
  | lower
  | upper
  | len
  | not
  deriving DecidableEq

inductive BinaryOperator where
  | eq
  | neq
  | gt
  | gte
  | lt
  | lte
  deriving DecidableEq

inductive Operator where
  | unary (op : UnaryOperator)
  | binary (op : BinaryOperator)
  | concat
  | and
  | or
  | choose
  deriving DecidableEq

/-- Applies a function on texts to the text of a value. -/
def Value.mapText (f : List Char → List Char) (v : Value) : Json :=
  .string (String.ofList (f (Value.display v).toList))

/-- Compares two values as numbers; whatever is no number compares to nothing. -/
def Value.compare (order : Double → Double → Bool) (v w : Value) : Bool :=
  match Value.toDouble? v, Value.toDouble? w with
  | some x, some y => order x y
  | _, _ => false

/-- The number of items of an array, or of characters of the text of any other value. -/
def Value.size : Value → Nat
  | some (.array items) => items.length
  | v => (Value.display v).length

def UnaryOperator.apply : UnaryOperator → Value → Json
  | trim, v => Value.mapText Text.trim v
  | lower, v => Value.mapText Text.lower v
  | upper, v => Value.mapText Text.upper v
  | len, v => .number (.ofNat (Value.size v))
  | not, v => .bool (!Value.truthy v)

def BinaryOperator.apply : BinaryOperator → Value → Value → Bool
  | eq, v, w => Value.same v w
  | neq, v, w => !Value.same v w
  | gt, v, w => Value.compare (fun x y => y < x) v w
  | gte, v, w => Value.compare (fun x y => y ≤ x) v w
  | lt, v, w => Value.compare (fun x y => x < y) v w
  | lte, v, w => Value.compare (fun x y => x ≤ y) v w

namespace Operator

/-- The table of names. -/
def table : List (String × Operator) := [
  ("concat", concat),
  ("trim", unary .trim),
  ("lower", unary .lower),
  ("upper", unary .upper),
  ("len", unary .len),
  ("eq", binary .eq),
  ("neq", binary .neq),
  ("gt", binary .gt),
  ("gte", binary .gte),
  ("lt", binary .lt),
  ("lte", binary .lte),
  ("and", and),
  ("or", or),
  ("not", unary .not),
  ("if", choose)]

def ofName? (name : String) : Option Operator :=
  table.lookup name

end Operator

end WidgetDoc
