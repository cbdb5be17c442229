import WidgetDoc.Proofs.Batch
import WidgetDoc.Proofs.Results

/-!
# The log of a batch

The answers that a batch has reported so far determine the state that it works on: each of them has
been recorded at the target of its query, in order. A batch ends when all its ids have been answered
or at the first input that cannot be evaluated against this state.
-/

namespace WidgetDoc

section Log

variable (queries : List Query)

/-- The state after the reported answers, each recorded at the target of its query. -/
def replay (uiState : Json) (log : List (String × Bool)) : Json :=
  log.foldl (fun u r =>
    match queries.find? fun q => q.id == r.1 with
    | some q => DotPath.set u q.target (.bool r.2)
    | none => u) uiState

variable {queries} in
theorem replay_cons_of_known {q : Query} (h : queries.find? (fun r => r.id == q.id) = some q)
    (uiState : Json) (found : Bool) (log : List (String × Bool)) :
    replay queries uiState ((q.id, found) :: log) =
      replay queries (q.record uiState found) log := by
  simp only [replay, List.foldl_cons, h]
  rfl

variable (scope : QueryScope)

/-- The log reports one answer of each query that the ids name, in order, and every input could be
evaluated against the state of the answers before it. -/
structure Answered (uiState : Json) (ids : List String) (log : List (String × Bool)) : Prop where
  reported : log.map (·.1) = (requested queries ids).map (·.id)
  evaluated : ∀ before id found after q, log = before ++ (id, found) :: after →
    queries.find? (fun q => q.id == id) = some q →
    Succeeds (q.input.eval (scope.context (replay queries uiState before)) 0)

variable {queries scope} {uiState : Json} {ids : List String} {log : List (String × Bool)}

theorem Answered.nil : Answered queries scope uiState [] [] := by
  refine ⟨rfl, ?_⟩
  intro before id found after q hlog
  simp at hlog

theorem Answered.cons_of_unknown {id : String}
    (h : Answered queries scope uiState ids log)
    (hunknown : queries.find? (fun q => q.id == id) = none) :
    Answered queries scope uiState (id :: ids) log := by
  refine ⟨?_, h.evaluated⟩
  rw [requested_cons_of_unknown hunknown, h.reported]

theorem Answered.cons_of_known {q : Query} {found : Bool} {input : Value}
    (h : Answered queries scope (q.record uiState found) ids log)
    (hknown : queries.find? (fun r => r.id == q.id) = some q)
    (hinput : q.input.eval (scope.context uiState) 0 = .ok input) :
    Answered queries scope uiState (q.id :: ids) ((q.id, found) :: log) := by
  constructor
  · rw [requested_cons_of_known hknown, List.map_cons, List.map_cons, h.reported]
  · intro before id found' after q' hlog hq'
    -- The new answer is the first of the log, and before it the state is the one given.
    cases before with
    | nil =>
        rw [List.nil_append, List.cons.injEq, Prod.mk.injEq] at hlog
        obtain ⟨⟨rfl, -⟩, -⟩ := hlog
        obtain rfl : q = q' := Option.some.inj (hknown.symm.trans hq')
        exact ⟨input, hinput⟩
    | cons first before =>
        rw [List.cons_append, List.cons.injEq] at hlog
        obtain ⟨rfl, hlog⟩ := hlog
        rw [replay_cons_of_known hknown]
        exact h.evaluated before id found' after q' hlog hq'

end Log

/-- How a batch can end: it commits what its log has led to, or it stops at an input. -/
inductive BatchEnd.Lawful (queries : List Query) (scope : QueryScope) (uiState : Json)
    (ids : List String) : BatchEnd → Prop where
  | committed {log : List (String × Bool)} (answered : Answered queries scope uiState ids log) :
      Lawful queries scope uiState ids ⟨log, .ok (replay queries uiState log)⟩
  | faulted {before after : List String} {q : Query} {log : List (String × Bool)} {e : EvalError}
      (stop : ids = before ++ q.id :: after)
      (known : queries.find? (fun r => r.id == q.id) = some q)
      (answered : Answered queries scope uiState before log)
      (fault : q.input.eval (scope.context (replay queries uiState log)) 0 = .error e) :
      Lawful queries scope uiState ids ⟨log, .error (.input q.id e)⟩

namespace BatchEnd.Lawful

variable {queries : List Query} {scope : QueryScope} {uiState : Json} {ids : List String}
  {b : BatchEnd}

theorem cons_of_unknown {id : String} (h : Lawful queries scope uiState ids b)
    (hunknown : queries.find? (fun q => q.id == id) = none) :
    Lawful queries scope uiState (id :: ids) b := by
  cases h with
  | committed answered => exact .committed (answered.cons_of_unknown hunknown)
  | @faulted before after q log e stop known answered fault =>
      have hstop : id :: ids = (id :: before) ++ q.id :: after := by rw [stop, List.cons_append]
      exact .faulted hstop known (answered.cons_of_unknown hunknown) fault

theorem cons_of_known {q : Query} {found : Bool} {input : Value}
    (h : Lawful queries scope (q.record uiState found) ids b)
    (hknown : queries.find? (fun r => r.id == q.id) = some q)
    (hinput : q.input.eval (scope.context uiState) 0 = .ok input) :
    Lawful queries scope uiState (q.id :: ids) { b with ran := (q.id, found) :: b.ran } := by
  cases h with
  | committed answered =>
      rw [← replay_cons_of_known hknown]
      exact .committed (answered.cons_of_known hknown hinput)
  | @faulted before after q' log e stop known answered fault =>
      have hstop : q.id :: ids = (q.id :: before) ++ q'.id :: after := by
        rw [stop, List.cons_append]
      rw [← replay_cons_of_known hknown] at fault
      exact .faulted hstop known (answered.cons_of_known hknown hinput) fault

end BatchEnd.Lawful

theorem runQueries_lawful (queries : List Query) (scope : QueryScope) (uiState : Json)
    (ids : List String) :
    (runQueries queries scope uiState ids).Always (BatchEnd.Lawful queries scope uiState ids) := by
  induction ids generalizing uiState with
  | nil => exact .committed .nil
  | cons id ids ih =>
      cases hknown : queries.find? fun q => q.id == id with
      | none =>
          rw [runQueries_of_unknown hknown]
          exact (ih uiState).imp fun b hb => hb.cons_of_unknown hknown
      | some q =>
          obtain rfl := id_of_find? hknown
          cases hinput : q.input.eval (scope.context uiState) 0 with
          | error e =>
              rw [runQueries_of_fault hknown hinput]
              have hstop : q.id :: ids = [] ++ q.id :: ids := rfl
              exact .faulted hstop hknown .nil hinput
          | ok input =>
              rw [runQueries_of_input hknown hinput]
              refine (Dialogue.always_true _).bind fun found _ => ?_
              exact (ih _).map fun b hb => hb.cons_of_known hknown hinput

end WidgetDoc
