import WidgetDoc.Document.Encoding
import WidgetDoc.Document.Fault
import WidgetDoc.Json.Reader

/-!
# The schema of documents

`Document.check` walks a JSON value in document order and stops at the first fault. `Document.read`
decodes what passed.
-/

namespace WidgetDoc

namespace Schema

abbrev Check := Except ValidationError Unit

def fault (f : Fault) (here : Location) : Check :=
  .error ⟨f, here⟩

/-- Checks a field if it is there. -/
def optionally (check : Json → Check) : Option Json → Check
  | some j => check j
  | none => .ok ()

def checkExpr (here : Location) (j : Json) : Check :=
  match Expr.ofJson j with
  | .ok _ => .ok ()
  | .error e => fault (.expr e) (here ++ e.location)

def checkExprFields (here : Location) : List (String × Json) → Check
  | [] => .ok ()
  | (key, x) :: fs => do
    checkExpr (here ++ [.field key]) x
    checkExprFields here fs

def checkExprs (here : Location) : Json → Check
  | .object fields => checkExprFields here fields
  | _ => fault .exprsNotObject here

/-- A string that is not empty. -/
def isName : Option Json → Bool
  | some (.string s) => s != ""
  | _ => false

/-- The string under a key; without one, the empty string. -/
def nameUnder (key : String) (j : Json) : String :=
  ((j.field? key).bind Json.string?).getD ""

mutual
def checkView (here : Location) : Json → Check
  | .object fields => do
    if !isName (fields.lookup "type") then fault .viewType (here ++ [.field "type"])
    optionally (checkExprs (here ++ [.field "props"])) (fields.lookup "props")
    optionally (checkExpr (here ++ [.field "text"])) (fields.lookup "text")
    checkChildrenField (here ++ [.field "children"]) fields
  | _ => fault .viewNotObject here

/-- Checks the children among the fields of a node. -/
def checkChildrenField (here : Location) : List (String × Json) → Check
  | [] => .ok ()
  | (key, x) :: fs => if key = "children" then checkChildren here x else checkChildrenField here fs

def checkChildren (here : Location) : Json → Check
  | .array items => checkViews here 0 items
  | _ => fault .childrenNotArray here

def checkViews (here : Location) (i : Nat) : List Json → Check
  | [] => .ok ()
  | x :: xs => do
    checkView (here ++ [.index i]) x
    checkViews here (i + 1) xs
end

/-- The id of a step is a string if it is there. -/
def checkStepId (here : Location) : Option Json → Check
  | none => .ok ()
  | some (.string _) => .ok ()
  | some _ => fault .stepId here

mutual
def checkStep (here : Location) : Json → Check
  | .object fields => do
    checkStepId (here ++ [.field "id"]) (fields.lookup "id")
    if !isName (fields.lookup "kind") then fault .actionKind (here ++ [.field "kind"])
    optionally (checkExpr (here ++ [.field "input"])) (fields.lookup "input")
    optionally (checkExpr (here ++ [.field "if"])) (fields.lookup "if")
    checkStepsField here "steps" fields
    checkStepsField here "then" fields
  | _ => fault .stepNotObject here

/-- Checks the steps under a name among the fields of an action. -/
def checkStepsField (here : Location) (name : String) : List (String × Json) → Check
  | [] => .ok ()
  | (key, x) :: fs => if key = name then checkStepList here name x else checkStepsField here name fs

def checkStepList (here : Location) (name : String) : Json → Check
  | .array items => checkSteps (here ++ [.field name]) 0 items
  | _ => fault (.stepsNotArray name) (here ++ [.field name])

def checkSteps (here : Location) (i : Nat) : List Json → Check
  | [] => .ok ()
  | x :: xs => do
    checkStep (here ++ [.index i]) x
    checkSteps here (i + 1) xs
end

/-- Checks actions from index `i` on; `seen` are the ids of those before. -/
def checkActionItems (i : Nat) (seen : List String) : List Json → Check
  | [] => .ok ()
  | x :: xs => do
    let here := [.field "actions", .index i]
    let id := nameUnder "id" x
    if id = "" then fault .actionId (here ++ [.field "id"])
    if id ∈ seen then fault (.duplicateAction id) (here ++ [.field "id"])
    checkStep here x
    checkActionItems (i + 1) (id :: seen) xs

def checkActions : Json → Check
  | .array items => checkActionItems 0 [] items
  | _ => fault .actionsNotArray [.field "actions"]

def checkQueryInput (here : Location) : Option Json → Check
  | some j => checkExpr here j
  | none => fault .queryInput here

def checkQueryTarget (here : Location) : Option Json → Check
  | some (.string _) => .ok ()
  | _ => fault .queryTarget here

/-- Checks a query apart from its being an object; `seen` are the ids of those before. -/
def checkQuery (here : Location) (seen : List String) (j : Json) : Check := do
  let id := nameUnder "id" j
  let kind := nameUnder "kind" j
  if id = "" then fault .queryId (here ++ [.field "id"])
  if id ∈ seen then fault (.duplicateQuery id) (here ++ [.field "id"])
  if QueryKind.ofName? kind = none then fault (.queryKind kind) (here ++ [.field "kind"])
  checkQueryInput (here ++ [.field "input"]) (j.field? "input")
  checkQueryTarget (here ++ [.field "output", .field "into"])
    ((j.field? "output").bind (·.field? "into"))

/-- Checks queries from index `i` on; `seen` are the ids of those before. -/
def checkQueryItems (i : Nat) (seen : List String) : List Json → Check
  | [] => .ok ()
  | x :: xs => do
    let here := [.field "queries", .index i]
    if x.object?.isNone then fault .queryNotObject here
    checkQuery here seen x
    checkQueryItems (i + 1) (nameUnder "id" x :: seen) xs

def checkQueries : Json → Check
  | .array items => checkQueryItems 0 [] items
  | _ => fault .queriesNotArray [.field "queries"]

def checkVersion : Option Json → Check
  | some (.string v) =>
    if v = Document.version then .ok ()
    else fault (.versionUnsupported (.string v)) [.field "specVersion"]
  | some j => fault (.versionUnsupported j) [.field "specVersion"]
  | none => fault .versionMissing [.field "specVersion"]

def checkRootView : Option Json → Check
  | some j => checkView [.field "view"] j
  | none => fault .viewMissing [.field "view"]

end Schema

open Schema

namespace Document

/-- Passes exactly the values that the schema admits, and finds the first fault of any other. -/
def check : Json → Schema.Check
  | .object fields => do
    checkVersion (fields.lookup "specVersion")
    checkRootView (fields.lookup "view")
    optionally (checkExprs [.field "computed"]) (fields.lookup "computed")
    optionally checkActions (fields.lookup "actions")
    optionally checkQueries (fields.lookup "queries")
  | _ => fault .rootNotObject []

/-- The document that a JSON value writes. -/
def read (j : Json) : Except ValidationError Document :=
  match check j with
  | .error e => .error e
  | .ok _ =>
    match ofJson? j with
    | some d => .ok d
    | none => .error ⟨.undecodable, []⟩

/-- The document that a text writes. -/
def readText (text : String) : Except ValidationError Document :=
  match Json.ofText? text with
  | some j => read j
  | none => .error ⟨.malformedText, []⟩

end Document

end WidgetDoc
