import WidgetDoc.Proofs.Replies
import WidgetDoc.Session

/-!
# What operations do to a surface

Dispatches and query batches first of all compute the values that expressions may read. Without
these they end at once; otherwise they run on the state, and what they leave is taken over if they
succeed. No operation changes the document of a surface.
-/

namespace WidgetDoc.Surface

variable {s : Surface} {values : Json} {e : EvalError}

theorem dispatch_of_fault (h : s.computed = .error e) (action : String) (event : Option Json) :
    s.dispatch action event =
      .done ({ s with lastAction := some action }, .error (.eval e)) := by
  have hnamed : computed { s with lastAction := some action } = .error e := h
  simp only [dispatch, hnamed]

theorem dispatch_of_computed (h : s.computed = .ok values) (action : String)
    (event : Option Json) :
    s.dispatch action event =
      (s.document.dispatch ⟨s.node, values, s.document.toJson, event⟩ s.uiState action).map
        (settle { s with lastAction := some action }) := by
  have hnamed : computed { s with lastAction := some action } = .ok values := h
  simp only [dispatch, hnamed]

theorem runQueries_of_fault (h : s.computed = .error e) (ids : List String) :
    s.runQueries ids = .done ⟨s, [], .error (.computed e)⟩ := by
  simp only [runQueries, h]

theorem runQueries_of_computed (h : s.computed = .ok values) (ids : List String) :
    s.runQueries ids =
      (WidgetDoc.runQueries s.document.queries ⟨s.node, values, s.document.toJson⟩ s.uiState
        ids).map s.commit := by
  simp only [runQueries, h]

theorem perform_dispatch (s : Surface) (action : String) (event : Option Json) (host : Host) :
    s.perform (.dispatch action event host) = (((s.dispatch action event).run host).1,
      .dispatched ((s.dispatch action event).run host).2
        ((s.dispatch action event).transcript host)) :=
  rfl

theorem perform_queries (s : Surface) (ids : List String) (probe : Probe) :
    s.perform (.queries ids probe) = (((s.runQueries ids).run probe).surface,
      .answered ((s.runQueries ids).run probe).result ((s.runQueries ids).run probe).ran
        ((s.runQueries ids).transcript probe)) :=
  rfl

/-! ## The document -/

theorem settle_document (s : Surface) (r : RunEnd) : (s.settle r).1.document = s.document := by
  rw [settle]
  cases r.result <;> rfl

theorem commit_document (s : Surface) (b : BatchEnd) :
    (s.commit b).surface.document = s.document := by
  rw [commit]
  cases b.result <;> rfl

theorem always_document_dispatch (s : Surface) (action : String) (event : Option Json) :
    (s.dispatch action event).Always fun r => r.1.document = s.document := by
  cases hcomputed : s.computed with
  | error e =>
      rw [dispatch_of_fault hcomputed]
      exact rfl
  | ok values =>
      rw [dispatch_of_computed hcomputed]
      exact (Dialogue.always_true _).map fun r _ => settle_document _ r

theorem always_document_runQueries (s : Surface) (ids : List String) :
    (s.runQueries ids).Always fun answered => answered.surface.document = s.document := by
  cases hcomputed : s.computed with
  | error e =>
      rw [runQueries_of_fault hcomputed]
      exact rfl
  | ok values =>
      rw [runQueries_of_computed hcomputed]
      exact (Dialogue.always_true _).map fun b _ => commit_document s b

theorem perform_document (s : Surface) (op : Operation) :
    (s.perform op).1.document = s.document := by
  cases op with
  | dispatch action event host => exact (s.always_document_dispatch action event).run host
  | queries ids probe => exact (s.always_document_runQueries ids).run probe
  | setNode node => rfl
  | computed => rfl
  | evaluate e event => rfl
  | view => rfl
  | document => rfl

end WidgetDoc.Surface
