import WidgetDoc.Proofs.BatchLog
import WidgetDoc.Proofs.LiveSession
import WidgetDoc.Proofs.Operations

/-!
# What a session does to the state

A session changes the state by the deeds of its successful operations and by nothing else. A
dispatch that succeeds has done all the deeds of its course, and a batch that succeeds has written
an answer for each query that it ran.
-/

namespace WidgetDoc

namespace LiveOperation

def action? : LiveOperation → Option (String × Option Json)
  | plain (.dispatch action event _) => some (action, event)
  | dispatch action event _ => some (action, event)
  | _ => none

end LiveOperation

section Answers

variable (queries : List Query)

/-- The writes that record the reported answers. -/
def answerDeeds (log : List (String × Bool)) : List Deed :=
  log.filterMap fun r =>
    (queries.find? fun q => q.id == r.1).map fun q => .write q.target (.bool r.2)

theorem replay_eq_stateAfterAll (uiState : Json) (log : List (String × Bool)) :
    replay queries uiState log = Deed.stateAfterAll uiState (answerDeeds queries log) := by
  induction log generalizing uiState with
  | nil => rfl
  | cons r log ih =>
      simp only [replay, answerDeeds, List.foldl_cons, List.filterMap_cons] at ih ⊢
      rw [ih]
      cases queries.find? fun q => q.id == r.1 <;> rfl

end Answers

namespace Deed

theorem stateAfter_eq_or_set (deed : Deed) (uiState : Json) :
    deed.stateAfter uiState = uiState ∨
      ∃ key x, deed.stateAfter uiState = .object (Fields.set key x uiState.fieldsOrNone) := by
  cases deed with
  | nothing => exact .inl rfl
  | call c => exact .inl rfl
  | write path value =>
      rw [stateAfter]
      by_cases hpath : DotPath.segments path = []
      · exact .inl (DotPath.set_of_nil hpath uiState value)
      · obtain ⟨key, rest, hsegments⟩ := List.exists_cons_of_ne_nil hpath
        rw [DotPath.set_eq_write hpath, hsegments]
        exact .inr ⟨key, _, rfl⟩

theorem stateAfterAll_append (uiState : Json) (xs ys : List Deed) :
    stateAfterAll uiState (xs ++ ys) = stateAfterAll (stateAfterAll uiState xs) ys :=
  List.foldl_append

/-- What each deed keeps true of the state, all of them keep true. -/
theorem stateAfterAll_invariant {P : Json → Prop} {deeds : List Deed} {uiState : Json}
    (h : P uiState) (step : ∀ deed ∈ deeds, ∀ u, P u → P (deed.stateAfter u)) :
    P (stateAfterAll uiState deeds) :=
  List.foldlRecOn deeds stateAfter h fun u hu deed hdeed => step deed hdeed u hu

end Deed

namespace Surface

/-- The deeds that a dispatch does if nothing is refused. -/
def dispatchDeeds (s : Surface) (action : String) (event : Option Json) : List Deed :=
  match s.computed with
  | .error _ => []
  | .ok computed =>
    (s.document.course ⟨s.node, computed, s.document.toJson, event⟩ s.uiState action).deeds

/-- What an operation with a report has done to the state, in order. One that failed has done
nothing to it. -/
def reportedDeeds (s : Surface) (op : LiveOperation) : Report → List Deed
  | .answered (.ok _) ran _ => answerDeeds s.document.queries ran
  | .dispatched (.ok _) _ =>
    match op.action? with
    | some (action, event) => s.dispatchDeeds action event
    | none => []
  | _ => []

def deeds (s : Surface) (op : LiveOperation) : List Deed :=
  s.reportedDeeds op (s.performLive op).2

/-- What a session does to the state, in order. -/
def sessionDeeds : Surface → List LiveOperation → List Deed
  | _, [] => []
  | s, op :: ops => s.deeds op ++ sessionDeeds (s.performLive op).1 ops

variable (s : Surface)

/-- A dispatch that follows a course leaves the state after all its deeds, or fails and leaves the
state that it found. -/
theorem uiState_dispatch_of_course {action : String} {event : Option Json} {c : Course}
    (hdeeds : s.dispatchDeeds action event = c.deeds)
    (hdialogue : s.dispatch action event =
      (c.play s.uiState).map (settle { s with lastAction := some action }))
    (host : RememberingHost) :
    (s.performLive (.dispatch action event host)).1.uiState =
      Deed.stateAfterAll s.uiState (s.deeds (.dispatch action event host)) := by
  simp only [deeds, performLive, hdialogue, Dialogue.runFrom_map]
  rcases Course.runFrom_play host c s.uiState [] with ⟨-, hrun⟩ | ⟨_, _, _, e, -, -, -, hrun⟩
  · obtain ⟨done, fault⟩ := c
    rw [hrun]
    cases fault with
    | none =>
        simp only [reportedDeeds, LiveOperation.action?, settle, Course.ending, Course.outcome,
          hdeeds]
    | some e => rfl
  · rw [hrun]
    rfl

theorem uiState_dispatch (action : String) (event : Option Json) (host : RememberingHost) :
    (s.performLive (.dispatch action event host)).1.uiState =
      Deed.stateAfterAll s.uiState (s.deeds (.dispatch action event host)) := by
  cases hcomputed : s.computed with
  | error e =>
      simp only [deeds, performLive, dispatch_of_fault hcomputed, Dialogue.runFrom]
      rfl
  | ok values =>
      have hdialogue := dispatch_of_computed hcomputed action event
      rw [Document.dispatch_eq_play] at hdialogue
      refine s.uiState_dispatch_of_course ?_ hdialogue host
      rw [dispatchDeeds, hcomputed]

theorem uiState_queries (ids : List String) (probe : RememberingProbe) :
    (s.performLive (.queries ids probe)).1.uiState =
      Deed.stateAfterAll s.uiState (s.deeds (.queries ids probe)) := by
  cases hcomputed : s.computed with
  | error e =>
      simp only [deeds, performLive, runQueries_of_fault hcomputed, Dialogue.runFrom]
      rfl
  | ok values =>
      simp only [deeds, performLive, runQueries_of_computed hcomputed, Dialogue.runFrom_map]
      have hlawful := (runQueries_lawful s.document.queries ⟨s.node, values, s.document.toJson⟩
        s.uiState ids).runFrom probe []
      generalize Dialogue.runFrom probe [] _ = run at hlawful ⊢
      obtain ⟨calls, b⟩ := run
      cases hlawful with
      | @committed log answered => exact replay_eq_stateAfterAll s.document.queries s.uiState log
      | faulted => rfl

theorem uiState_performLive (op : LiveOperation) :
    (s.performLive op).1.uiState = Deed.stateAfterAll s.uiState (s.deeds op) := by
  cases op with
  | dispatch action event host => exact s.uiState_dispatch action event host
  | queries ids probe => exact s.uiState_queries ids probe
  | plain op =>
      cases op with
      | dispatch action event host =>
          have hlive := s.uiState_dispatch action event fun _ => host
          rw [deeds, performLive_dispatch_of_forgetting] at hlive
          exact hlive
      | queries ids probe =>
          have hlive := s.uiState_queries ids fun _ => probe
          rw [deeds, performLive_queries_of_forgetting] at hlive
          exact hlive
      | setNode node | computed | evaluate e event | view | document => rfl

theorem uiState_afterLive (ops : List LiveOperation) :
    (s.afterLive ops).uiState = Deed.stateAfterAll s.uiState (s.sessionDeeds ops) := by
  induction ops generalizing s with
  | nil => rfl
  | cons op ops ih =>
      rw [afterLive_cons, ih, sessionDeeds, Deed.stateAfterAll_append, uiState_performLive]

end Surface

end WidgetDoc
