import WidgetDoc.Proofs.FailureErasure
import WidgetDoc.Proofs.NormalForm
import WidgetDoc.Proofs.SessionDeeds

/-!
# Resumption

A surface can be given up and put together again from the document that it shows, the state and the
node. Since no operation leaves a null state, which would be taken for an empty one, the sessions
of the old and of the new surface cannot be told apart.
-/

namespace WidgetDoc

/-! ## States are never null -/

theorem Deed.stateAfter_ne_null (deed : Deed) {uiState : Json} (h : uiState ≠ .null) :
    deed.stateAfter uiState ≠ .null := by
  rcases deed.stateAfter_eq_or_set uiState with hsame | ⟨key, x, hset⟩
  · rwa [hsame]
  · rw [hset]
    intro hnull
    cases hnull

namespace Surface

theorem initialState_ne_null (seed : Json) : initialState seed ≠ .null := by
  intro hnull
  cases seed <;> cases hnull

theorem initialState_of_ne_null {seed : Json} (h : seed ≠ .null) : initialState seed = seed := by
  cases seed with
  | null => exact absurd rfl h
  | bool b | number n | string s | array items | object fields => rfl

theorem uiState_afterLive_ne_null {s : Surface} (h : s.uiState ≠ .null)
    (ops : List LiveOperation) : (s.afterLive ops).uiState ≠ .null := by
  rw [uiState_afterLive]
  refine Deed.stateAfterAll_invariant (P := fun u => u ≠ .null) h ?_
  intro deed _ u hu
  exact deed.stateAfter_ne_null hu

/-! ## The document -/

theorem document_performLive (s : Surface) (op : LiveOperation) :
    (s.performLive op).1.document = s.document := by
  cases op with
  | plain op => exact perform_document s op
  | dispatch action event host => exact (s.always_document_dispatch action event).runFrom host []
  | queries ids probe => exact (s.always_document_runQueries ids).runFrom probe []

theorem document_afterLive (s : Surface) (ops : List LiveOperation) :
    (s.afterLive ops).document = s.document := by
  induction ops generalizing s with
  | nil => rfl
  | cons op ops ih => rw [afterLive_cons, ih, document_performLive]

theorem attach_eq_ok_iff {raw seed : Json} {s : Surface} :
    attach raw seed = .ok s ↔
      ∃ d, Document.read raw = .ok d ∧ s = ⟨d, .empty, initialState seed, none⟩ := by
  rw [attach]
  cases Document.read raw with
  | error e => simp [Except.map]
  | ok d => simp [Except.map, eq_comm]

/-! ## Sessions of agreeing surfaces -/

variable {s t : Surface}

/-- A dispatch first of all replaces the name of the last action. -/
theorem Agrees.performLive_of_action (h : s.Agrees t) {op : LiveOperation}
    (hop : op.action?.isSome) : s.performLive op = t.performLive op := by
  obtain ⟨d, n, x, last⟩ := s
  obtain ⟨_, _, _, last'⟩ := t
  obtain ⟨rfl, rfl, rfl⟩ := h
  cases op with
  | dispatch action event host => rfl
  | queries ids probe => cases hop
  | plain op =>
      cases op with
      | dispatch action event host => rfl
      | setNode | computed | evaluate | view | document | queries => cases hop

theorem Agrees.performLive (h : s.Agrees t) (op : LiveOperation) :
    (s.performLive op).2 = (t.performLive op).2 ∧
      (s.performLive op).1.Agrees (t.performLive op).1 := by
  cases op with
  | plain op => exact h.perform op
  | queries ids probe => exact h.queries ids probe
  | dispatch action event host =>
      rw [h.performLive_of_action rfl]
      exact ⟨rfl, .refl _⟩

theorem Agrees.liveSession (h : s.Agrees t) (ops : List LiveOperation) :
    List.Forall₂ (fun p q => p.1 = q.1 ∧ p.2.Agrees q.2) (s.liveSession ops)
      (t.liveSession ops) := by
  induction ops generalizing s t with
  | nil => exact .nil
  | cons op ops ih =>
      obtain ⟨hreport, hafter⟩ := h.performLive op
      exact .cons ⟨hreport, hafter⟩ (ih hafter)

theorem Agrees.afterLive (h : s.Agrees t) (ops : List LiveOperation) :
    (s.afterLive ops).Agrees (t.afterLive ops) := by
  induction ops generalizing s t with
  | nil => exact h
  | cons op ops ih => exact ih (h.performLive op).2

theorem Agrees.afterLive_of_action (h : s.Agrees t) {ops : List LiveOperation}
    (hops : ∃ op ∈ ops, op.action?.isSome) : s.afterLive ops = t.afterLive ops := by
  obtain ⟨op, hop, haction⟩ := hops
  obtain ⟨before, rest, rfl⟩ := List.append_of_mem hop
  rw [afterLive_append, afterLive_append, afterLive_cons, afterLive_cons,
    (h.afterLive before).performLive_of_action haction]

/-! ## Resuming -/

/-- Attaches the document that a surface shows, with its state, and hands over its node. -/
def resume (s : Surface) : Except ValidationError Surface :=
  (attach s.document.toJson s.uiState).map fun t => t.setNode s.node

theorem resume_eq {raw : Json} (hdocument : Document.read raw = .ok s.document)
    (hstate : s.uiState ≠ .null) : s.resume = .ok { s with lastAction := none } := by
  rw [resume, attach, Document.read_toJson hdocument]
  simp only [Except.map, setNode, initialState_of_ne_null hstate]

/-- After any session a surface can be resumed. The new surface has the same document, node and
state, every further session on it yields the same reports, and the state that it hands back is the
same. From the next dispatch on, the name of the last action is the same, too. -/
theorem resume_of_attach {raw seed : Json} {s₀ : Surface} (h : attach raw seed = .ok s₀)
    (ops : List LiveOperation) :
    let s := s₀.afterLive ops
    s.uiState ≠ .null ∧
      ∃ r, s.resume = .ok r ∧ r.Agrees s ∧ r.document.toJson = s.document.toJson ∧
        ∀ more : List LiveOperation,
          List.Forall₂ (fun p q => p.1 = q.1 ∧ p.2.Agrees q.2) (r.liveSession more)
            (s.liveSession more) ∧
          (r.afterLive more).detach = (s.afterLive more).detach ∧
          ((∃ op ∈ more, op.action?.isSome) → r.afterLive more = s.afterLive more) := by
  intro s
  obtain ⟨d, hread, rfl⟩ := attach_eq_ok_iff.mp h
  have hstate : s.uiState ≠ .null := uiState_afterLive_ne_null (initialState_ne_null seed) ops
  have hdocument : Document.read raw = .ok s.document := by
    rw [document_afterLive]
    exact hread
  have hagree : Agrees { s with lastAction := none } s := ⟨rfl, rfl, rfl⟩
  refine ⟨hstate, _, resume_eq hdocument hstate, hagree, rfl, ?_⟩
  intro more
  exact ⟨hagree.liveSession more, (hagree.afterLive more).uiState, hagree.afterLive_of_action⟩

/-- The dispatch is refused, and the query has no input to look for. -/
def clutteredSession : List LiveOperation :=
  [.plain (.setNode (.object [("id", .string "n")])),
    .dispatch "runNode" none fun _ => idleHost, .queries ["q"] fun _ => fun
      | .file path => (.error (.notFound path) : Except ProbeError FileContent)
      | .tree root _ => (.error (.notFound root) : Except ProbeError TreeNode)]

def resumedSession : List LiveOperation :=
  [.plain .view, .dispatch "go" none busyHost]

theorem resume_of_attach_cluttered :
    ∃ s₀ r, attach Document.cluttered .null = .ok s₀ ∧
      (s₀.liveSession clutteredSession).map (fun r => r.1.failed) = [false, true, false] ∧
      (s₀.afterLive clutteredSession).uiState = .object [("found", .bool false)] ∧
      (s₀.afterLive clutteredSession).resume = .ok r ∧
      r.Agrees (s₀.afterLive clutteredSession) ∧
      r.afterLive resumedSession = (s₀.afterLive clutteredSession).afterLive resumedSession := by
  obtain ⟨s₀, hattach⟩ : ∃ s₀, attach Document.cluttered .null = .ok s₀ := ⟨_, rfl⟩
  obtain ⟨-, r, hresume, hagrees, -, hsessions⟩ := resume_of_attach hattach clutteredSession
  obtain ⟨-, -, hsame⟩ := hsessions resumedSession
  have hnext : ∃ op ∈ resumedSession, op.action?.isSome :=
    ⟨_, List.mem_cons_of_mem _ (List.mem_singleton_self _), rfl⟩
  refine ⟨s₀, r, hattach, ?_, ?_, hresume, hagrees, hsame hnext⟩
  · cases hattach
    decide +kernel
  · cases hattach
    rfl

end Surface

end WidgetDoc
