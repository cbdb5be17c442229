import WidgetDoc.Document
import WidgetDoc.Evaluation
import WidgetDoc.Host

/-!
# Dispatching actions

Steps run in declared order. A step with an effect turns its input into one deed: nothing, a write
into the state, or a call to the host. The first error ends the run; writes made before it stay in
the state that the run ends with.
-/

namespace WidgetDoc

/-- The kinds of steps that act by themselves. -/
inductive Effect where
  | updateParam
  | updateInput
  | setUiState
  | runNode
  | toast
  deriving DecidableEq

inductive ActionKind where
  | sequence
  | conditional
  | effect (e : Effect)
  | unknown
  deriving DecidableEq

namespace ActionKind

def table : List (String × ActionKind) := [
  ("sequence", sequence),
  ("conditional", conditional),
  ("state.updateNodeParam", effect .updateParam),
  ("setParam", effect .updateParam),
  ("state.updateNodeInput", effect .updateInput),
  ("state.setUiState", effect .setUiState),
  ("actions.runPluginNode", effect .runNode),
  ("runNode", effect .runNode),
  ("ui.toast", effect .toast)]

def ofName (name : String) : ActionKind :=
  (table.lookup name).getD unknown

end ActionKind

/-- What a step with an effect does. -/
inductive Deed where
  | nothing
  | write (path : String) (value : Json)
  | call (c : HostCall)

/-- A field of an input; what is no object has none. -/
def Value.field? (v : Value) (key : String) : Value :=
  v.bind fun j => j.field? key

namespace Effect

/-- The text of a field of an input. -/
def textField (input : Value) (key : String) : String :=
  Value.display (input.field? key)

/-- The value an input carries; a missing one is null. -/
def payload (input : Value) : Json :=
  (input.field? "value").getD .null

/-- The node an input names, or else the host's own node. -/
def nodeId? (node : Json) (input : Value) : Option String :=
  let named := textField input "nodeId"
  let own := Value.display (DotPath.get? node "id")
  if named ≠ "" then some named else if own ≠ "" then some own else none

/-- A call that needs a node and, unless it is empty, a key. -/
def updateDeed (call : String → String → Json → HostCall) (node : Json) (input : Value) : Deed :=
  let key := textField input "key"
  if key = "" then .nothing
  else match nodeId? node input with
    | some id => .call (call id key (payload input))
    | none => .nothing

/-- The deed of an effect on an input. -/
def deed (node : Json) (input : Value) : Effect → Deed
  | updateParam => updateDeed .updateParam node input
  | updateInput => updateDeed .updateInput node input
  | setUiState =>
    let path := textField input "path"
    if path = "" then .nothing else .write path (payload input)
  | runNode =>
    match nodeId? node input with
    | some id => .call (.runNode id)
    | none => .nothing
  | toast =>
    let message := textField input "message"
    if message = "" then .nothing else .call (.log message)

end Effect

inductive DispatchError where
  | eval (e : EvalError)
  | host (e : HostError)
  deriving DecidableEq

def DispatchError.message : DispatchError → String
  | eval e => e.message
  | host e => e.message

/-- The state a run ends with, and whether it succeeded. -/
structure RunEnd where
  uiState : Json
  result : Except DispatchError Unit

namespace RunEnd

def success (uiState : Json) : RunEnd := ⟨uiState, .ok ()⟩

def failure (uiState : Json) (e : DispatchError) : RunEnd := ⟨uiState, .error e⟩

end RunEnd

/-- Carries out a deed. -/
def Deed.perform (uiState : Json) : Deed → HostDialogue RunEnd
  | nothing => .done (.success uiState)
  | write path value => .done (.success (DotPath.set uiState path value))
  | call c => .ask c fun answer =>
    .done (match c.refusal? answer with
      | some e => .failure uiState (.host e)
      | none => .success uiState)

/-- What the steps of one dispatch share. -/
structure ActionScope where
  node : Json
  computed : Json
  document : Json
  event : Option Json

namespace ActionScope

def context (scope : ActionScope) (uiState : Json) : Context :=
  ⟨scope.node, scope.computed, uiState, scope.document, scope.event⟩

/-- The value of an expression that may be absent. -/
def eval (scope : ActionScope) (uiState : Json) : Option Expr → Except EvalError Value
  | some e => e.eval (scope.context uiState) 0
  | none => .ok none

end ActionScope

namespace Action

mutual
/-- Runs an action or a step. -/
def run (scope : ActionScope) (uiState : Json) : Action → HostDialogue RunEnd
  | ⟨_, kind, input, steps, condition, branch⟩ =>
    match ActionKind.ofName kind with
    | .sequence => runAll scope uiState steps
    | .conditional =>
      match scope.eval uiState condition with
      | .error e => .done (.failure uiState (.eval e))
      | .ok v =>
        if Value.truthy v then runAll scope uiState branch else .done (.success uiState)
    | .effect f =>
      match scope.eval uiState input with
      | .error e => .done (.failure uiState (.eval e))
      | .ok v => (f.deed scope.node v).perform uiState
    | .unknown => .done (.success uiState)

/-- Runs steps in order, up to the first that fails. -/
def runAll (scope : ActionScope) (uiState : Json) : List Action → HostDialogue RunEnd
  | [] => .done (.success uiState)
  | a :: as =>
    (a.run scope uiState).bind fun r =>
      match r.result with
      | .ok _ => runAll scope r.uiState as
      | .error _ => .done r
end

/-- Runs a kind that no action of the document bears, with the event as its input. The event is
data: nothing in it is evaluated. -/
def runKind (scope : ActionScope) (uiState : Json) (kind : String) : HostDialogue RunEnd :=
  match ActionKind.ofName kind with
  | .effect f => (f.deed scope.node scope.event).perform uiState
  | _ => .done (.success uiState)

end Action

/-- Runs the action with a name or, if there is none, the kind with this name. -/
def Document.dispatch (d : Document) (scope : ActionScope) (uiState : Json) (name : String) :
    HostDialogue RunEnd :=
  match d.action? name with
  | some a => a.run scope uiState
  | none => Action.runKind scope uiState name

end WidgetDoc
