import WidgetDoc.Document.Schema
import WidgetDoc.QueryBatch
import WidgetDoc.View

/-!
# Attached documents

A surface is one attached document with the host's node and the state of the widget. Actions and
query batches work on a copy of the state, which replaces it only if they succeed.
-/

namespace WidgetDoc

structure Surface where
  document : Document
  node : Json
  uiState : Json
  lastAction : Option String

namespace Surface

/-- A null seed stands for an empty state. -/
def initialState : Json → Json
  | .null => .empty
  | seed => seed

def attach (raw seed : Json) : Except ValidationError Surface :=
  (Document.read raw).map fun d => ⟨d, .empty, initialState seed, none⟩

def setNode (s : Surface) (node : Json) : Surface :=
  { s with node := node }

/-- The values of the computed entries, against the present node and state. -/
def computed (s : Surface) : Except EvalError Json :=
  Computed.eval s.document.computed s.node s.uiState s.document.toJson

def context (s : Surface) (computed : Json) (event : Option Json) : Context :=
  ⟨s.node, computed, s.uiState, s.document.toJson, event⟩

def evaluate (s : Surface) (e : Expr) (event : Option Json) : Except EvalError Value :=
  s.computed.bind fun computed => e.eval (s.context computed event) 0

def resolveView (s : Surface) : Except EvalError ResolvedNode :=
  s.computed.bind fun computed => s.document.view.resolve (s.context computed none)

/-- Takes over the state of a run that succeeded. -/
def settle (s : Surface) (r : RunEnd) : Surface × Except DispatchError Unit :=
  match r.result with
  | .ok _ => ({ s with uiState := r.uiState }, .ok ())
  | .error e => (s, .error e)

def dispatch (s : Surface) (action : String) (event : Option Json) :
    HostDialogue (Surface × Except DispatchError Unit) :=
  let s := { s with lastAction := some action }
  match s.computed with
  | .error e => .done (s, .error (.eval e))
  | .ok computed =>
    (s.document.dispatch ⟨s.node, computed, s.document.toJson, event⟩ s.uiState action).map s.settle

/-- What a query batch did to a surface. -/
structure Answered where
  surface : Surface
  ran : List (String × Bool)
  result : Except QueryError Unit

/-- Takes over the state of a batch that succeeded. -/
def commit (s : Surface) (b : BatchEnd) : Answered :=
  match b.result with
  | .ok uiState => ⟨{ s with uiState := uiState }, b.ran, .ok ()⟩
  | .error e => ⟨s, b.ran, .error e⟩

def runQueries (s : Surface) (ids : List String) : ProbeDialogue Answered :=
  match s.computed with
  | .error e => .done ⟨s, [], .error (.computed e)⟩
  | .ok computed =>
    (WidgetDoc.runQueries s.document.queries ⟨s.node, computed, s.document.toJson⟩ s.uiState
      ids).map s.commit

/-- Gives up the document and hands back the state. -/
def detach (s : Surface) : Json :=
  s.uiState

end Surface

end WidgetDoc
