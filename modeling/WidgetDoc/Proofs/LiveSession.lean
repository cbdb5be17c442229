import WidgetDoc.Proofs.HostInfluence
import WidgetDoc.Session

/-!
# Sessions with hosts and probes that remember

The outside world need not answer two equal calls alike. In a live session every dispatch and every
query batch may bring a host or a probe that looks at the calls made before. Sessions whose hosts
and probes forget are live sessions too.
-/

namespace WidgetDoc

/-- A probe that may remember the calls before. -/
abbrev RememberingProbe := List ProbeCall → Probe

/-- An operation, or one whose host or probe may remember the calls before. -/
inductive LiveOperation where
  | plain (op : Operation)
  | dispatch (action : String) (event : Option Json) (host : RememberingHost)
  | queries (ids : List String) (probe : RememberingProbe)

namespace LiveOperation

/-- The host of a dispatch. -/
def host? : LiveOperation → Option RememberingHost
  | plain (.dispatch _ _ host) => some fun _ => host
  | dispatch _ _ host => some host
  | _ => none

end LiveOperation

namespace Surface

/-- Carries out an operation. -/
def performLive (s : Surface) : LiveOperation → Surface × Report
  | .plain op => s.perform op
  | .dispatch action event host =>
    let (calls, after, result) := (s.dispatch action event).runFrom host []
    (after, .dispatched result calls)
  | .queries ids probe =>
    let (calls, answered) := (s.runQueries ids).runFrom probe []
    (answered.surface, .answered answered.result answered.ran calls)

/-- The reports of a live session in order, each with the surface after it. -/
def liveSession : Surface → List LiveOperation → List (Report × Surface)
  | _, [] => []
  | s, op :: ops =>
    let (after, report) := s.performLive op
    (report, after) :: liveSession after ops

/-- The surface that a live session ends with. -/
def afterLive (s : Surface) (ops : List LiveOperation) : Surface :=
  ops.foldl (fun s op => (s.performLive op).1) s

theorem afterLive_cons (s : Surface) (op : LiveOperation) (ops : List LiveOperation) :
    s.afterLive (op :: ops) = (s.performLive op).1.afterLive ops :=
  rfl

theorem afterLive_append (s : Surface) (before ops : List LiveOperation) :
    s.afterLive (before ++ ops) = (s.afterLive before).afterLive ops :=
  List.foldl_append

theorem afterLive_plain (s : Surface) (ops : List Operation) :
    s.afterLive (ops.map .plain) = s.after ops := by
  rw [afterLive, List.foldl_map]
  rfl

theorem liveSession_plain (s : Surface) (ops : List Operation) :
    s.liveSession (ops.map .plain) = s.session ops := by
  induction ops generalizing s with
  | nil => rfl
  | cons op ops ih =>
      have hrest := ih (s.perform op).1
      simp only [List.map_cons, liveSession, performLive, session, hrest]

/-- A host that forgets may be taken for one that remembers. -/
theorem performLive_dispatch_of_forgetting (s : Surface) (action : String) (event : Option Json)
    (host : Host) :
    s.performLive (.dispatch action event fun _ => host) =
      s.perform (.dispatch action event host) := by
  rw [performLive, Dialogue.runFrom_of_run]
  rfl

/-- A probe that forgets may be taken for one that remembers. -/
theorem performLive_queries_of_forgetting (s : Surface) (ids : List String) (probe : Probe) :
    s.performLive (.queries ids fun _ => probe) = s.perform (.queries ids probe) := by
  rw [performLive, Dialogue.runFrom_of_run]
  rfl

end Surface

end WidgetDoc
