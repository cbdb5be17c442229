import WidgetDoc.Binding
import WidgetDoc.Location

/-!
# Expressions

Documents carry expressions as JSON. A string that spells a binding is one, an object whose `op` is
a string applies an operator, and everything else stands for itself. Only an operator whose `args`
are neither absent, null nor an array is malformed.
-/

namespace WidgetDoc

inductive Expr where
  | null
  | bool (b : Bool)
  | number (n : Number)
  | text (s : String)
  | binding (b : Binding)
  | array (items : List Expr)
  | object (fields : List (String × Expr))
  | operator (name : String) (args : List Expr)

/-- A malformed operator: where its arguments are and what it is called. -/
structure ShapeError where
  location : Location
  operator : String
  deriving DecidableEq

namespace ShapeError

def reason (e : ShapeError) : String :=
  "operator '" ++ e.operator ++ "' args must be an array"

def message (e : ShapeError) : String :=
  match e.location with
  | [] => e.reason
  | steps => Location.relativeText steps ++ ": " ++ e.reason

/-- The same error, seen from further up. -/
def under (steps : Location) (e : ShapeError) : ShapeError :=
  { e with location := steps ++ e.location }

end ShapeError

namespace Expr

/-- The operator that an object applies, if it applies one. -/
def operatorName? (fields : List (String × Json)) : Option String :=
  (fields.lookup "op").bind Json.string?

mutual
/-- The expression that a JSON value writes, or its first malformed operator. -/
def ofJson : Json → Except ShapeError Expr
  | .null => .ok .null
  | .bool b => .ok (.bool b)
  | .number n => .ok (.number n)
  | .string s =>
    .ok (match Binding.ofString? s with
      | some b => .binding b
      | none => .text s)
  | .array items => (ofItems [] 0 items).map array
  | .object fields =>
    match operatorName? fields with
    | some name => (ofArgsField name fields).map (operator name)
    | none => (ofFields fields).map object

/-- The expressions of array items from index `i` on; `steps` leads to the array. -/
def ofItems (steps : Location) (i : Nat) : List Json → Except ShapeError (List Expr)
  | [] => .ok []
  | x :: xs =>
    match ofJson x with
    | .error e => .error (e.under (steps ++ [.index i]))
    | .ok item => (ofItems steps (i + 1) xs).map (item :: ·)

def ofFields : List (String × Json) → Except ShapeError (List (String × Expr))
  | [] => .ok []
  | (key, x) :: fs =>
    match ofJson x with
    | .error e => .error (e.under [.field key])
    | .ok value => (ofFields fs).map ((key, value) :: ·)

/-- The arguments among the fields of an operator. -/
def ofArgsField (name : String) : List (String × Json) → Except ShapeError (List Expr)
  | [] => .ok []
  | (key, x) :: fs => if key = "args" then ofArgs name x else ofArgsField name fs

def ofArgs (name : String) : Json → Except ShapeError (List Expr)
  | .null => .ok []
  | .array items => ofItems [.field "args"] 0 items
  | _ => .error ⟨[.field "args"], name⟩
end

mutual
/-- The JSON value that writes an expression. -/
def toJson : Expr → Json
  | null => .null
  | bool b => .bool b
  | number n => .number n
  | text s => .string s
  | binding b => .string b.raw
  | array items => .array (toJsonItems items)
  | object fields => .object (toJsonFields fields)
  | operator name [] => .object [("op", .string name)]
  | operator name (arg :: args) =>
    .object [("op", .string name), ("args", .array (toJsonItems (arg :: args)))]

def toJsonItems : List Expr → List Json
  | [] => []
  | e :: es => e.toJson :: toJsonItems es

def toJsonFields : List (String × Expr) → List (String × Json)
  | [] => []
  | (key, e) :: fs => (key, e.toJson) :: toJsonFields fs
end

end Expr

end WidgetDoc
