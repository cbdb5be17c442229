import WidgetDoc.Json.Token

/-!
# Reading JSON

A value is assembled token by token, with the containers still open on a stack. A key that occurs
again keeps its first position and takes the last value.
-/

namespace WidgetDoc.Json

/-- An open container in which a value is due; the items of an array are kept in reverse. -/
inductive Frame where
  | array (items : List Json)
  | object (fields : List (String × Json)) (key : String)

/-- What is due next inside the open containers. `fresh` says that the innermost container is still
empty and may be closed at once. -/
inductive Assembly where
  | value (stack : List Frame) (fresh : Bool)
  | key (stack : List Frame) (fields : List (String × Json)) (fresh : Bool)
  | colon (stack : List Frame) (fields : List (String × Json)) (key : String)
  | complete (stack : List Frame) (value : Json)

namespace Assembly

/-- Whether one more container may be opened. -/
def mayOpen (limit : Option Nat) (stack : List Frame) : Bool :=
  match limit with
  | some n => stack.length < n
  | none => true

def step? (limit : Option Nat) : Assembly → Token → Option Assembly
  | .value stack _, .scalar v => some (.complete stack v)
  | .value stack _, .string s => some (.complete stack (.string s))
  | .value stack _, .beginArray =>
    if mayOpen limit stack then some (.value (.array [] :: stack) true) else none
  | .value stack _, .beginObject => if mayOpen limit stack then some (.key stack [] true) else none
  | .value (.array [] :: stack) true, .endArray => some (.complete stack (.array []))
  | .key stack fields _, .string k => some (.colon stack fields k)
  | .key stack [] true, .endObject => some (.complete stack (.object []))
  | .colon stack fields k, .colon => some (.value (.object fields k :: stack) false)
  | .complete (.array items :: stack) v, .comma =>
    some (.value (.array (v :: items) :: stack) false)
  | .complete (.array items :: stack) v, .endArray =>
    some (.complete stack (.array (v :: items).reverse))
  | .complete (.object fields k :: stack) v, .comma =>
    some (.key stack (Fields.set k v fields) false)
  | .complete (.object fields k :: stack) v, .endObject =>
    some (.complete stack (.object (Fields.set k v fields)))
  | _, _ => none

def finish? : Assembly → Option Json
  | .complete [] v => some v
  | _ => none

end Assembly

/-- The value that a token list spells, with at most `limit` containers around any of its parts. -/
def ofTokens? (limit : Option Nat) (tokens : List Token) : Option Json :=
  (tokens.foldlM (Assembly.step? limit) (.value [] false)).bind Assembly.finish?

/-- The value of a text, of any nesting. -/
def ofTextUnbounded? (text : String) : Option Json :=
  (Token.scan? text.toList).bind (ofTokens? none)

/-- The number of containers that may be nested in a text. -/
def nestingLimit : Nat := 127

/-- The value of a text. -/
def ofText? (text : String) : Option Json :=
  (Token.scan? text.toList).bind (ofTokens? (some nestingLimit))

end WidgetDoc.Json
