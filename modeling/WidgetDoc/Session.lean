import WidgetDoc.Surface

/-!
# Sessions

A session is a list of operations on one surface. An operation changes the surface and yields a
report: its result and the calls it made of the outside world. Every dispatch and every query batch
brings a host or a probe of its own.
-/

namespace WidgetDoc

inductive Operation where
  | setNode (node : Json)
  | computed
  | evaluate (e : Expr) (event : Option Json)
  | view
  | document
  | dispatch (action : String) (event : Option Json) (host : Host)
  | queries (ids : List String) (probe : Probe)

inductive Report where
  | node (node : Json)
  | computed (result : Except EvalError Json)
  | value (result : Except EvalError Value)
  | view (result : Except EvalError ResolvedNode)
  | document (document : Json)
  | dispatched (result : Except DispatchError Unit) (calls : List HostCall)
  | answered (result : Except QueryError Unit) (ran : List (String × Bool))
      (calls : List ProbeCall)

namespace Surface

/-- Carries out an operation. -/
def perform (s : Surface) : Operation → Surface × Report
  | .setNode node => (s.setNode node, .node node)
  | .computed => (s, .computed s.computed)
  | .evaluate e event => (s, .value (s.evaluate e event))
  | .view => (s, .view s.resolveView)
  | .document => (s, .document s.document.toJson)
  | .dispatch action event host =>
    let dialogue := s.dispatch action event
    let (after, result) := dialogue.run host
    (after, .dispatched result (dialogue.transcript host))
  | .queries ids probe =>
    let dialogue := s.runQueries ids
    let answered := dialogue.run probe
    (answered.surface, .answered answered.result answered.ran (dialogue.transcript probe))

/-- The reports of a session in order, each with the surface after it. -/
def session : Surface → List Operation → List (Report × Surface)
  | _, [] => []
  | s, op :: ops =>
    let (after, report) := s.perform op
    (report, after) :: session after ops

/-- The surface that a session ends with. -/
def after (s : Surface) (ops : List Operation) : Surface :=
  ops.foldl (fun s op => (s.perform op).1) s

end Surface

end WidgetDoc
