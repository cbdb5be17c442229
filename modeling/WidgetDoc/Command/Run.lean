import WidgetDoc.Command
import WidgetDoc.Config
import WidgetDoc.Disk.LocalProbe
import WidgetDoc.Surface
import WidgetDoc.Toml.Reader

/-!
# Running commands

Every command reads its inputs from the disk in a fixed order and yields one JSON value. An error is
the chain of its causes, outermost first.
-/

namespace WidgetDoc

inductive Cause where
  | context (text : String)
  | disk (e : DiskError)
  | notText
  | json
  | toml
  | config (e : ConfigFault)
  | validation (e : ValidationError)
  | shape (e : ShapeError)
  | eval (e : EvalError)
  | query (e : QueryError)
  | dispatch (e : DispatchError)

def Cause.message : Cause → String
  | context text => text
  | disk e => e.message
  | notText => "stream did not contain valid UTF-8"
  | json => "malformed JSON"
  | toml => "malformed TOML"
  | config e => e.message
  | validation e => e.message
  | shape e => e.message
  | eval e => e.message
  | query e => e.message
  | dispatch e => e.message

/-- The causes of an error, outermost first. -/
abbrev CommandError := List Cause

def CommandError.message (e : CommandError) : String :=
  String.intercalate ": " (e.map Cause.message)

/-- A computation that asks a disk and may fail. -/
abbrev Script (α : Type) := ExceptT CommandError (Dialogue DiskCall DiskCall.Answer) α

namespace Script

variable {α ε : Type}

/-- Puts what was being done in front of the causes. -/
def within (text : String) (s : Script α) : Script α :=
  tryCatch s fun e => throw (.context text :: e)

/-- Fails with the given causes of an error. -/
def orFail (causes : ε → List Cause) : Except ε α → Script α
  | .ok a => pure a
  | .error e => throw (causes e)

def orElse (causes : List Cause) : Option α → Script α
  | some a => pure a
  | none => throw causes

/-- A dialogue with a disk, which has its own way to fail. -/
def ask (d : DiskDialogue α) : Script α :=
  ExceptT.lift d

def readText (path : String) : Script String :=
  within ("read " ++ path) do
    let bytes ← orFail (fun e => [.disk e]) (← ask (Disk.read path))
    orElse [.notText] (Text.Utf8.decode? bytes)

def readJson (path : String) : Script Json := do
  let text ← readText path
  orElse [.context ("parse " ++ path), .json] (Json.ofText? text)

/-- The value of a JSON argument. -/
def jsonArgument (raw what : String) : Script Json :=
  match raw.toList with
  | '@' :: path => within ("load " ++ what) (readJson (String.ofList path))
  | _ => orElse [.context ("invalid " ++ what ++ " JSON"), .json] (Json.ofText? raw)

/-- The value of an optional JSON argument; without one, an empty object. -/
def jsonOrEmpty (raw : Option String) (what : String) : Script Json :=
  match raw with
  | some raw => jsonArgument raw what
  | none => pure .empty

def event (raw : Option String) : Script (Option Json) :=
  raw.mapM fun raw => jsonArgument raw "--event"

end Script

open Script

/-- The configuration in a file; without the file, the defaults. -/
def Config.load (path : String) : Script Config := do
  match ← ask (Disk.kind path) with
  | .error _ => pure Config.default
  | .ok _ =>
    let text ← readText path
    let config ← orElse [.context ("parse " ++ path), .toml]
      ((Toml.ofText? text).bind Config.ofToml?)
    orFail (fun e => [.context ("invalid config " ++ path), .config e]) config.check

namespace Command

def invalidDocument (path : String) (e : ValidationError) : CommandError :=
  [.context ("invalid document " ++ path), .validation e]

/-- Attaches a document to the node and state of the arguments. -/
def attach (path : String) (state : StateArguments) : Script Surface := do
  let raw ← readJson path
  let seed ← jsonOrEmpty state.uiState "--ui-state"
  let surface ← orFail (invalidDocument path) (Surface.attach raw seed)
  return surface.setNode (← jsonOrEmpty state.node "--node")

def runCheck (path : String) : Script Json := do
  let raw ← readJson path
  let d ← orFail (invalidDocument path) (Document.read raw)
  return .object [
    ("ok", .bool true),
    ("specVersion", .string Document.version),
    ("view", .string d.view.type),
    ("computed", .array (d.computed.map fun (key, _) => .string key)),
    ("actions", .array (d.actions.map fun a => .string a.id)),
    ("queries", .array (d.queries.map fun q => .string q.id))]

def runEval (raw : String) (state : StateArguments) (event : Option String) : Script Json := do
  let raw ← jsonArgument raw "expression"
  let e ← orFail (fun e => [.context "invalid expression", .shape e]) (Expr.ofJson raw)
  let node ← jsonOrEmpty state.node "--node"
  let uiState ← jsonOrEmpty state.uiState "--ui-state"
  let event ← Script.event event
  let value ← orFail (fun e => [.context "evaluation failed", .eval e])
    (e.eval ⟨node, .empty, uiState, .empty, event⟩ 0)
  return value.getD .null

def runRender (path : String) (state : StateArguments) : Script Json := do
  let surface ← attach path state
  let computed ← orFail (fun e => [.context "computed bindings failed", .eval e]) surface.computed
  let view ← orFail (fun e => [.context "view resolution failed", .eval e]) surface.resolveView
  return .object [("computed", computed), ("view", view.toJson)]

/-- Sets a field among fields that are sorted by key. -/
def setSorted (key : String) (value : Json) : Fields Json → Fields Json
  | [] => [(key, value)]
  | (k, v) :: rest =>
    if key < k then (key, value) :: (k, v) :: rest
    else if key = k then (key, value) :: rest
    else (k, v) :: setSorted key value rest

/-- The last answer to every query that ran, sorted by id. -/
def results (ran : List (String × Bool)) : Fields Json :=
  ran.foldl (fun fields r => setSorted r.1 (.bool r.2) fields) []

def runQuery (config : Config) (path : String) (ids : List String) (state : StateArguments) :
    Script Json := do
  let surface ← attach path state
  let probe : LocalProbe := ⟨config.root, config.maxTreeDepth⟩
  let answered ← ask ((surface.runQueries ids).through probe.answer)
  orFail (fun e => [.context "query batch failed", .query e, .eval e.cause]) answered.result
  return .object [
    ("results", .object (results answered.ran)),
    ("uiState", answered.surface.detach)]

/-- The record of a host call. -/
def record : HostCall → Json
  | .updateParam node key value =>
    .object [("capability", .string "updateNodeParam"), ("nodeId", .string node),
      ("key", .string key), ("value", value)]
  | .updateInput node key value =>
    .object [("capability", .string "updateNodeInput"), ("nodeId", .string node),
      ("key", .string key), ("value", value)]
  | .runNode node => .object [("capability", .string "runPluginNode"), ("nodeId", .string node)]
  | .log message => .object [("capability", .string "log"), ("message", .string message)]

/-- Dispatches against a host that grants and records every call. -/
def runDispatch (path action : String) (state : StateArguments) (event : Option String) :
    Script Json := do
  let surface ← attach path state
  let event ← Script.event event
  let dialogue := surface.dispatch action event
  let (surface, result) := dialogue.run HostCall.granted
  orFail (fun e => [.context ("action '" ++ action ++ "' failed"), .dispatch e]) result
  return .object [
    ("action", .string action),
    ("hostCalls", .array ((dialogue.transcript HostCall.granted).map record)),
    ("uiState", surface.detach)]

def run (config : Config) : Command → Script Json
  | check document => runCheck document
  | eval expr state event => runEval expr state event
  | render document state => runRender document state
  | query document ids state => runQuery config document ids state
  | dispatch document action state event => runDispatch document action state event

end Command

/-- Loads the configuration and runs the command. -/
def Invocation.run (i : Invocation) : Script Json := do
  let config ← Config.load (i.config.getD Config.defaultFile)
  i.command.run config

end WidgetDoc
