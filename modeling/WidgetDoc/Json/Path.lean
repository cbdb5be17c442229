import WidgetDoc.Json
import WidgetDoc.Text.Pieces

/-!
# Paths into JSON

A path is a list of segments. `Json.descend?` reads object fields and array items, `Json.resolve?`
reads the length of an array or string as well, and `Json.write` replaces whatever is in its way by
an object. A dot path is the text of a path; its empty segments do not count.
-/

namespace WidgetDoc

/-- An array index: ASCII digits with an optional plus sign, of at most 64 bits. -/
def arrayIndex? (segment : String) : Option Nat :=
  let digits := match segment.toList with
    | '+' :: rest => rest
    | text => text
  if digits ≠ [] ∧ digits.all Char.isDigit ∧ Decimal.ofDigits digits < UInt64.size then
    some (Decimal.ofDigits digits)
  else none

namespace Json

/-- The part of a container that a segment names. -/
def child? : Json → String → Option Json
  | object fields, segment => fields.lookup segment
  | array items, segment => (arrayIndex? segment).bind fun i => items[i]?
  | _, _ => none

def descend? : Json → List String → Option Json
  | j, [] => some j
  | j, segment :: rest => (j.child? segment).bind fun c => descend? c rest

theorem descend?_append (j : Json) (path rest : List String) :
    j.descend? (path ++ rest) = (j.descend? path).bind fun c => c.descend? rest := by
  induction path generalizing j with
  | nil => rfl
  | cons segment path ih =>
      rw [List.cons_append, descend?, descend?, Option.bind_assoc]
      exact congrArg _ (funext fun c => ih c)

/-- The number of items of an array or of characters of a string. -/
def size? : Json → Option Nat
  | array items => some items.length
  | string s => some s.length
  | _ => none

/-- The size that a segment asks for. -/
def sizeFor? (j : Json) (segment : String) : Option Nat :=
  if segment = "length" then j.size? else none

/-- Reads a path whose last segment may ask for a length. -/
def resolve? : Json → List String → Option Json
  | j, [] => some j
  | j, segment :: rest =>
    match j.sizeFor? segment with
    | some n => if rest = [] then some (number (.ofNat n)) else none
    | none => (j.child? segment).bind fun c => resolve? c rest

theorem resolve?_object_cons (fields : List (String × Json)) (segment : String)
    (rest : List String) : (object fields).resolve? (segment :: rest) =
      (fields.lookup segment).bind fun j => j.resolve? rest := by
  have hsize : (object fields).sizeFor? segment = none := by
    rw [sizeFor?]
    split <;> rfl
  rw [resolve?, hsize]
  rfl

/-- The fields of an object; what is no object has none. -/
def fieldsOrNone (j : Json) : List (String × Json) :=
  j.object?.getD []

/-- Puts a value at a path, through objects only. -/
def write (value : Json) : List String → Json → Json
  | [], _ => value
  | segment :: rest, j =>
    let fields := j.fieldsOrNone
    object (Fields.set segment (write value rest ((fields.lookup segment).getD empty)) fields)

end Json

namespace DotPath

def segments (path : String) : List String :=
  ((Text.pieces '.' path.toList).filter (· ≠ [])).map String.ofList

def get? (root : Json) (path : String) : Option Json :=
  root.descend? (segments path)

/-- A path without segments writes nothing. -/
def set (root : Json) (path : String) (value : Json) : Json :=
  match segments path with
  | [] => root
  | segment :: rest => Json.write value (segment :: rest) root

end DotPath

end WidgetDoc
