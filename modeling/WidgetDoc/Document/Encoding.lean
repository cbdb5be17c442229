import WidgetDoc.Document

/-!
# The JSON form of documents

Writing omits absent options and empty collections, but always a step's id is written. Reading takes
a null option for an absent one and ignores fields it does not know; it does not require what only
the schema requires.
-/

namespace WidgetDoc

namespace Encoding

/-- A field that is written only if its value is present. -/
def present (key : String) : Option Json → List (String × Json)
  | some j => [(key, j)]
  | none => []

/-- An object field that is written only if it has fields. -/
def nonEmptyObject (key : String) : List (String × Json) → List (String × Json)
  | [] => []
  | fields => [(key, .object fields)]

/-- An array field that is written only if it has items. -/
def nonEmptyArray (key : String) : List Json → List (String × Json)
  | [] => []
  | items => [(key, .array items)]

def expr? (j : Json) : Option Expr :=
  (Expr.ofJson j).toOption

/-- An optional expression; null counts as absent. -/
def optionalExpr? : Option Json → Option (Option Expr)
  | none => some none
  | some .null => some none
  | some j => (expr? j).map some

/-- An object of expressions; an absent one is empty. -/
def exprFields? : Option Json → Option (List (String × Expr))
  | none => some []
  | some (.object fields) => (Expr.ofFields fields).toOption
  | some _ => none

end Encoding

open Encoding

namespace ViewNode

mutual
def toJson : ViewNode → Json
  | ⟨type, props, text, children⟩ =>
    .object (("type", .string type) :: nonEmptyObject "props" (Expr.toJsonFields props)
      ++ nonEmptyArray "children" (toJsonAll children) ++ present "text" (text.map Expr.toJson))

def toJsonAll : List ViewNode → List Json
  | [] => []
  | n :: ns => n.toJson :: toJsonAll ns
end

mutual
/-- A node is an object, or an array of its type, props, children and text in this order, of which
all but the type may be missing at the end. -/
def ofJson? : Json → Option ViewNode
  | .object fields => do
    let type ← (fields.lookup "type").bind Json.string?
    let props ← exprFields? (fields.lookup "props")
    let children ← ofChildrenField? fields
    let text ← optionalExpr? (fields.lookup "text")
    return ⟨type, props, text, children⟩
  | .array [.string type] => some ⟨type, [], none, []⟩
  | .array [.string type, props] => do
    return ⟨type, ← exprFields? (some props), none, []⟩
  | .array [.string type, props, children] => do
    return ⟨type, ← exprFields? (some props), none, ← ofChildren? children⟩
  | .array [.string type, props, children, text] => do
    let props ← exprFields? (some props)
    let children ← ofChildren? children
    return ⟨type, props, ← optionalExpr? (some text), children⟩
  | _ => none

/-- The children among the fields of a node. -/
def ofChildrenField? : List (String × Json) → Option (List ViewNode)
  | [] => some []
  | (key, x) :: fs => if key = "children" then ofChildren? x else ofChildrenField? fs

def ofChildren? : Json → Option (List ViewNode)
  | .array items => ofItems? items
  | _ => none

def ofItems? : List Json → Option (List ViewNode)
  | [] => some []
  | x :: xs => do
    let node ← ofJson? x
    let rest ← ofItems? xs
    return node :: rest
end

end ViewNode

namespace Action

mutual
def toJson : Action → Json
  | ⟨id, kind, input, steps, condition, branch⟩ =>
    .object ([("id", .string id), ("kind", .string kind)]
      ++ present "input" (input.map Expr.toJson) ++ nonEmptyArray "steps" (toJsonAll steps)
      ++ present "if" (condition.map Expr.toJson) ++ nonEmptyArray "then" (toJsonAll branch))

def toJsonAll : List Action → List Json
  | [] => []
  | a :: as => a.toJson :: toJsonAll as
end

/-- The id of a step, which may be absent. -/
def id? : Option Json → Option String
  | none => some ""
  | some j => j.string?

mutual
def ofJson? : Json → Option Action
  | .object fields => do
    let id ← id? (fields.lookup "id")
    let kind ← (fields.lookup "kind").bind Json.string?
    let input ← optionalExpr? (fields.lookup "input")
    let steps ← ofField? "steps" fields
    let condition ← optionalExpr? (fields.lookup "if")
    let branch ← ofField? "then" fields
    return ⟨id, kind, input, steps, condition, branch⟩
  | _ => none

/-- The steps under a name among the fields of an action. -/
def ofField? (name : String) : List (String × Json) → Option (List Action)
  | [] => some []
  | (key, x) :: fs => if key = name then ofList? x else ofField? name fs

def ofList? : Json → Option (List Action)
  | .array items => ofItems? items
  | _ => none

def ofItems? : List Json → Option (List Action)
  | [] => some []
  | x :: xs => do
    let action ← ofJson? x
    let rest ← ofItems? xs
    return action :: rest
end

end Action

namespace Query

def toJson (q : Query) : Json :=
  .object [("id", .string q.id), ("kind", .string q.kind.name), ("input", q.input.toJson),
    ("output", .object [("into", .string q.target)])]

def ofJson? (j : Json) : Option Query := do
  let id ← (j.field? "id").bind Json.string?
  let kind ← ((j.field? "kind").bind Json.string?).bind QueryKind.ofName?
  let input ← (j.field? "input").bind expr?
  let target ← ((j.field? "output").bind (·.field? "into")).bind Json.string?
  return ⟨id, kind, input, target⟩

end Query

namespace Document

def toJson (d : Document) : Json :=
  .object ([("specVersion", .string version), ("view", d.view.toJson)]
    ++ nonEmptyObject "computed" (Expr.toJsonFields d.computed)
    ++ nonEmptyArray "actions" (Action.toJsonAll d.actions)
    ++ nonEmptyArray "queries" (d.queries.map Query.toJson))

/-- The items of an array field that may be absent. -/
def ofArray? {α : Type} (read : Json → Option α) : Option Json → Option (List α)
  | none => some []
  | some (.array items) => items.mapM read
  | some _ => none

def ofJson? (j : Json) : Option Document := do
  let view ← (j.field? "view").bind ViewNode.ofJson?
  let computed ← exprFields? (j.field? "computed")
  let actions ← ofArray? Action.ofJson? (j.field? "actions")
  let queries ← ofArray? Query.ofJson? (j.field? "queries")
  return ⟨view, computed, actions, queries⟩

end Document

end WidgetDoc
