import WidgetDoc.Proofs.LiveSession
import WidgetDoc.Proofs.Operations
import WidgetDoc.Proofs.Replies

/-!
# Failures leave no trace

An operation that fails changes nothing but the name of the last action, which no operation reads.
So a session may be stripped of all its failures: the others report what they reported before, leave
the same states, and the final state is the same.
-/

namespace WidgetDoc

/-- The operation ended with an error. -/
def Report.failed : Report → Bool
  | .node _ => false
  | .document _ => false
  | .computed result => !result.isOk
  | .value result => !result.isOk
  | .view result => !result.isOk
  | .dispatched result _ => !result.isOk
  | .answered result _ _ => !result.isOk

namespace Surface

/-- Surfaces that differ at most in the name of their last action. -/
structure Agrees (s t : Surface) : Prop where
  document : s.document = t.document
  node : s.node = t.node
  uiState : s.uiState = t.uiState

variable {s t u : Surface}

theorem Agrees.refl (s : Surface) : s.Agrees s :=
  ⟨rfl, rfl, rfl⟩

theorem Agrees.trans (h : s.Agrees t) (h' : t.Agrees u) : s.Agrees u :=
  ⟨h.document.trans h'.document, h.node.trans h'.node, h.uiState.trans h'.uiState⟩

theorem Agrees.commit (h : s.Agrees t) (b : BatchEnd) :
    (s.commit b).result = (t.commit b).result ∧ (s.commit b).ran = (t.commit b).ran ∧
      (s.commit b).surface.Agrees (t.commit b).surface := by
  obtain ⟨ran, result⟩ := b
  cases result with
  | ok state => exact ⟨rfl, rfl, h.document, h.node, rfl⟩
  | error e => exact ⟨rfl, rfl, h⟩

theorem Agrees.queries (h : s.Agrees t) (ids : List String)
    (probe : RememberingProbe) :
    (s.performLive (.queries ids probe)).2 = (t.performLive (.queries ids probe)).2 ∧
      (s.performLive (.queries ids probe)).1.Agrees (t.performLive (.queries ids probe)).1 := by
  have hsame : s.computed = t.computed := by
    rw [computed, computed, h.document, h.node, h.uiState]
  cases hcomputed : t.computed with
  | error e =>
      simp only [performLive, runQueries_of_fault hcomputed,
        runQueries_of_fault (hsame.trans hcomputed), Dialogue.runFrom]
      exact ⟨trivial, h⟩
  | ok values =>
      simp only [performLive, runQueries_of_computed hcomputed,
        runQueries_of_computed (hsame.trans hcomputed), Dialogue.runFrom_map, h.document, h.node,
        h.uiState]
      obtain ⟨hresult, hran, hsurface⟩ := h.commit (Dialogue.runFrom probe [] _).2
      rw [hresult, hran]
      exact ⟨rfl, hsurface⟩

/-- On surfaces that agree, an operation reports the same and leaves surfaces that agree. -/
theorem Agrees.perform (h : s.Agrees t) (op : Operation) :
    (s.perform op).2 = (t.perform op).2 ∧ (s.perform op).1.Agrees (t.perform op).1 := by
  cases op with
  | queries ids probe =>
      have hlive := h.queries ids fun _ => probe
      rw [performLive_queries_of_forgetting, performLive_queries_of_forgetting] at hlive
      exact hlive
  | setNode node => exact ⟨rfl, h.document, rfl, h.uiState⟩
  | dispatch | computed | evaluate | view | document =>
      obtain ⟨d, n, x, last⟩ := s
      obtain ⟨_, _, _, last'⟩ := t
      obtain ⟨rfl, rfl, rfl⟩ := h
      exact ⟨rfl, rfl, rfl, rfl⟩

theorem agrees_settle_of_failed {r : RunEnd} (h : (s.settle r).2.isOk = false) :
    s.Agrees (s.settle r).1 := by
  obtain ⟨state, result⟩ := r
  cases result with
  | ok u => cases h
  | error e => exact .refl s

theorem agrees_commit_of_failed {b : BatchEnd} (h : (s.commit b).result.isOk = false) :
    s.Agrees (s.commit b).surface := by
  obtain ⟨ran, result⟩ := b
  cases result with
  | ok state => cases h
  | error e => exact .refl s

theorem agrees_dispatch_of_failed {action : String} {event : Option Json} {host : Host}
    (h : ((s.dispatch action event).run host).2.isOk = false) :
    s.Agrees ((s.dispatch action event).run host).1 := by
  have hnamed : s.Agrees { s with lastAction := some action } := ⟨rfl, rfl, rfl⟩
  cases hcomputed : s.computed with
  | error e =>
      rw [dispatch_of_fault hcomputed]
      exact hnamed
  | ok values =>
      rw [dispatch_of_computed hcomputed, Dialogue.run_map] at h ⊢
      exact hnamed.trans (agrees_settle_of_failed h)

theorem agrees_runQueries_of_failed {ids : List String} {probe : Probe}
    (h : ((s.runQueries ids).run probe).result.isOk = false) :
    s.Agrees ((s.runQueries ids).run probe).surface := by
  cases hcomputed : s.computed with
  | error e =>
      rw [runQueries_of_fault hcomputed]
      exact .refl s
  | ok values =>
      rw [runQueries_of_computed hcomputed, Dialogue.run_map] at h ⊢
      exact agrees_commit_of_failed h

theorem agrees_perform_of_failed {op : Operation} (h : (s.perform op).2.failed = true) :
    s.Agrees (s.perform op).1 := by
  cases op with
  | setNode node => cases h
  | document => exact .refl s
  | computed => exact .refl s
  | evaluate e event => exact .refl s
  | view => exact .refl s
  | dispatch action event host =>
      rw [perform_dispatch, Report.failed, Bool.not_eq_true'] at h
      exact agrees_dispatch_of_failed h
  | queries ids probe =>
      rw [perform_queries, Report.failed, Bool.not_eq_true'] at h
      exact agrees_runQueries_of_failed h

/-! ## Sessions without their failures -/

/-- The operations of a session that did not fail. -/
def successes (s : Surface) (ops : List Operation) : List Operation :=
  ((ops.zip (s.session ops)).filter fun p => !p.2.1.failed).map (·.1)

/-- What a session shows of an operation: its report, with all calls, and the state after it. -/
def shown (r : Report × Surface) : Report × Json :=
  (r.1, r.2.uiState)

theorem session_cons (s : Surface) (op : Operation) (ops : List Operation) :
    s.session (op :: ops) =
      ((s.perform op).2, (s.perform op).1) :: (s.perform op).1.session ops :=
  rfl

theorem successes_cons (s : Surface) (op : Operation) (ops : List Operation) :
    s.successes (op :: ops) =
      if (s.perform op).2.failed then (s.perform op).1.successes ops
      else op :: (s.perform op).1.successes ops := by
  rw [successes, session_cons, List.zip_cons_cons, List.filter_cons]
  cases (s.perform op).2.failed <;> rfl

theorem after_cons (s : Surface) (op : Operation) (ops : List Operation) :
    s.after (op :: ops) = (s.perform op).1.after ops :=
  rfl

/-- On a surface that agrees with the one of a session, the operations that did not fail report and
leave what they did in the session. -/
theorem Agrees.successes (h : s.Agrees t) (ops : List Operation) :
    (t.session (s.successes ops)).map shown =
        ((s.session ops).filter fun r => !r.1.failed).map shown ∧
      (s.after ops).Agrees (t.after (s.successes ops)) := by
  induction ops generalizing s t with
  | nil => exact ⟨rfl, h⟩
  | cons op ops ih =>
      rw [successes_cons, session_cons, after_cons, List.filter_cons]
      obtain ⟨hreport, hafter⟩ := h.perform op
      cases hfailed : (s.perform op).2.failed with
      | true =>
          have hback : (s.perform op).1.Agrees t := by
            have hkept := agrees_perform_of_failed hfailed
            exact Agrees.trans ⟨hkept.document.symm, hkept.node.symm, hkept.uiState.symm⟩ h
          simp only [if_true, Bool.not_true, Bool.false_eq_true, if_false]
          exact ih hback
      | false =>
          obtain ⟨hshown, hend⟩ := ih hafter
          simp only [Bool.false_eq_true, if_false, Bool.not_false, if_true]
          refine ⟨?_, hend⟩
          rw [session_cons, List.map_cons, List.map_cons, hshown]
          simp only [shown, hreport, hafter.uiState]

/-- A session without its failures: the remaining operations report the same, with the same calls,
and leave the same states, and so does the session as a whole. Every failure left the state that it
found. -/
theorem session_successes (s : Surface) (ops : List Operation) :
    (s.session (s.successes ops)).map shown =
        ((s.session ops).filter fun r => !r.1.failed).map shown ∧
      (s.after (s.successes ops)).detach = (s.after ops).detach ∧
      ∀ before op rest, ops = before ++ op :: rest →
        ((s.after before).perform op).2.failed = true →
        ((s.after before).perform op).1.uiState = (s.after before).uiState := by
  obtain ⟨hshown, hend⟩ := (Agrees.refl s).successes ops
  refine ⟨hshown, hend.uiState.symm, ?_⟩
  intro before op rest _ hfailed
  exact (agrees_perform_of_failed hfailed).uiState.symm

/-- A host that refuses to run nodes. -/
def idleHost : Host
  | .runNode _ => (.error ⟨"runPluginNode", "idle"⟩ : Except HostError RunOutcome)
  | c => c.granted

/-- The first dispatch is refused a call after it has written twice. -/
def savingSession : List Operation :=
  [.dispatch "save" none idleHost, .computed, .dispatch "save" none HostCall.granted]

theorem session_successes_saving :
    let s : Surface := ⟨saving, .object [("id", .string "n")], .object [("old", .null)], none⟩
    (s.session savingSession).map (fun r => r.1.failed) = [true, false, false] ∧
      (s.successes savingSession).length = 2 ∧
      (s.session (s.successes savingSession)).map shown =
        ((s.session savingSession).filter fun r => !r.1.failed).map shown ∧
      (s.perform (.dispatch "save" none idleHost)).1.uiState = .object [("old", .null)] := by
  intro s
  obtain ⟨hshown, -, hfailures⟩ := s.session_successes savingSession
  exact ⟨by decide +kernel, by decide +kernel, hshown, hfailures [] _ _ rfl (by decide +kernel)⟩

end Surface

end WidgetDoc
