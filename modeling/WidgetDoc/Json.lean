import WidgetDoc.Fields
import WidgetDoc.Json.Number

/-!
# JSON values

Objects keep the order of their fields. `Json.same` is equality up to that order, and
`Json.WellFormed` says that no object has a key twice, as for every value that was read from text.
-/

namespace WidgetDoc

inductive Json where
  | null
  | bool (b : Bool)
  | number (n : Number)
  | string (s : String)
  | array (items : List Json)
  | object (fields : List (String × Json))

namespace Json

instance : Inhabited Json := ⟨null⟩

def empty : Json :=
  object []

def field? : Json → String → Option Json
  | object fields, key => fields.lookup key
  | _, _ => none

def string? : Json → Option String
  | string s => some s
  | _ => none

def array? : Json → Option (List Json)
  | array items => some items
  | _ => none

def object? : Json → Option (List (String × Json))
  | object fields => some fields
  | _ => none

mutual
/-- Equality of value and kind, up to the order of fields. -/
def same : Json → Json → Bool
  | null, null => true
  | bool a, bool b => a == b
  | number m, number n => m.same n
  | string s, string t => s == t
  | array xs, array ys => sameItems xs ys
  | object fs, object gs => fs.length == gs.length && sameFields fs gs
  | _, _ => false

def sameItems : List Json → List Json → Bool
  | [], [] => true
  | x :: xs, y :: ys => x.same y && sameItems xs ys
  | _, _ => false

/-- Every field of the first list has an equal one in the second. -/
def sameFields : List (String × Json) → List (String × Json) → Bool
  | [], _ => true
  | (key, x) :: fs, gs =>
    (match gs.lookup key with
      | some y => x.same y
      | none => false) && sameFields fs gs
end

mutual
def WellFormed : Json → Prop
  | array items => WellFormedItems items
  | object fields => Fields.Distinct fields ∧ WellFormedFields fields
  | _ => True

def WellFormedItems : List Json → Prop
  | [] => True
  | x :: xs => x.WellFormed ∧ WellFormedItems xs

def WellFormedFields : List (String × Json) → Prop
  | [] => True
  | (_, x) :: fs => x.WellFormed ∧ WellFormedFields fs
end

end Json

end WidgetDoc
