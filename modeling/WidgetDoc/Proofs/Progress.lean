import WidgetDoc.Proofs.Batch
import WidgetDoc.Proofs.Checkable
import WidgetDoc.Proofs.LiveSession
import WidgetDoc.Proofs.Operations
import WidgetDoc.Proofs.ViewImage

/-!
# Sessions that cannot fail

A document whose expressions are all checkable never fails by itself. Whatever the node, the state,
the events, the hosts and the probes of a session are, its values, its view and its queries are
there after every operation, and a dispatch fails only with the error of a call that the host has
refused.
-/

namespace WidgetDoc

def Document.Checkable (d : Document) : Prop :=
  ∀ e ∈ d.exprs, e.Checkable

instance (d : Document) : Decidable d.Checkable :=
  inferInstanceAs (Decidable (∀ e ∈ d.exprs, e.Checkable))

/-! ## Computed values and views -/

theorem Computed.succeeds_evalAfter {computed : Computed} (h : ∀ f ∈ computed, f.2.Checkable)
    (node uiState document : Json) (done : Fields Json) :
    Succeeds (evalAfter node uiState document done computed) := by
  induction computed generalizing done with
  | nil => exact succeeds_ok done
  | cons f computed ih =>
      obtain ⟨hf, hcomputed⟩ := List.forall_mem_cons.mp h
      rw [evalAfter]
      exact (hf.succeeds _).bind fun v => ih hcomputed _

theorem ViewNode.succeeds_resolve {n : ViewNode} (h : ∀ e ∈ n.exprs, e.Checkable)
    (ctx : Context) : Succeeds (n.resolve ctx) :=
  succeeds_resolve_iff.mpr fun e he => (h e he).succeeds ctx

/-! ## Actions

The course of an action ends with a fault only if an expression of the action fails. -/

theorem ActionScope.succeeds_eval {e? : Option Expr} (h : ∀ e, e? = some e → e.Checkable)
    (scope : ActionScope) (uiState : Json) : Succeeds (scope.eval uiState e?) := by
  cases e? with
  | none => exact succeeds_ok none
  | some e => exact (h e rfl).succeeds _

theorem Course.fault_andThen {c next : Course} (hc : c.fault = none) (hnext : next.fault = none) :
    (c.andThen next).fault = none := by
  simp only [andThen, hc, hnext]

namespace Action

theorem fault_courseAll {scope : ActionScope} {as : List Action}
    (h : ∀ a ∈ as, ∀ uiState, (a.course scope uiState).fault = none) (uiState : Json) :
    (courseAll scope uiState as).fault = none := by
  induction as generalizing uiState with
  | nil => rfl
  | cons a as ih =>
      obtain ⟨ha, has⟩ := List.forall_mem_cons.mp h
      exact Course.fault_andThen (ha uiState) (ih has _)

theorem fault_course {a : Action} (h : ∀ e ∈ a.exprs, e.Checkable) (scope : ActionScope)
    (uiState : Json) : (a.course scope uiState).fault = none := by
  induction a generalizing uiState with
  | action id kind input steps condition branch ihSteps ihBranch =>
      obtain ⟨v, hinput⟩ := scope.succeeds_eval (fun e he => h e (mem_exprs.mpr (.inl he))) uiState
      obtain ⟨w, hcondition⟩ :=
        scope.succeeds_eval (fun e he => h e (mem_exprs.mpr (.inr (.inl he)))) uiState
      have hsteps : ∀ a ∈ steps, ∀ u, (a.course scope u).fault = none := fun a ha =>
        ihSteps a ha fun e he => h e (mem_exprs.mpr (.inr (.inr (.inl ⟨a, ha, he⟩))))
      have hbranch : ∀ a ∈ branch, ∀ u, (a.course scope u).fault = none := fun a ha =>
        ihBranch a ha fun e he => h e (mem_exprs.mpr (.inr (.inr (.inr ⟨a, ha, he⟩))))
      rw [course]
      cases ActionKind.ofName kind with
      | sequence => exact fault_courseAll hsteps uiState
      | conditional =>
          simp only [hcondition]
          split
          · exact fault_courseAll hbranch uiState
          · rfl
      | effect f => simp only [hinput]
      | unknown => rfl

theorem fault_kindCourse (scope : ActionScope) (kind : String) :
    (kindCourse scope kind).fault = none := by
  rw [kindCourse]
  split <;> rfl

end Action

theorem Document.Checkable.fault_course {d : Document} (h : d.Checkable) (scope : ActionScope)
    (uiState : Json) (name : String) : (d.course scope uiState name).fault = none := by
  rw [course]
  cases haction : d.action? name with
  | none => exact Action.fault_kindCourse scope name
  | some a =>
      have ha : a ∈ d.actions := List.mem_of_find?_eq_some haction
      exact Action.fault_course (fun e he => h e (mem_exprs_of_action ha he)) scope uiState

/-- The dispatch failed with the error of its last call, which the host refused. -/
def HostRefused (host : RememberingHost) (calls : List HostCall) (e : DispatchError) : Prop :=
  ∃ before last refusal, calls = before ++ [last] ∧
    last.refusal? (host before last) = some refusal ∧ e = .host refusal

theorem Document.Checkable.runFrom_dispatch {d : Document} (h : d.Checkable) (scope : ActionScope)
    (uiState : Json) (name : String) (host : RememberingHost) (e : DispatchError)
    (he : ((d.dispatch scope uiState name).runFrom host []).2.result = .error e) :
    HostRefused host ((d.dispatch scope uiState name).runFrom host []).1 e := by
  rw [dispatch_eq_play] at he ⊢
  rcases Course.runFrom_play host (d.course scope uiState name) uiState [] with
    ⟨-, hrun⟩ | ⟨done, call, rest, refusal, -, -, hrefused, hrun⟩
  · have houtcome : (d.course scope uiState name).outcome = .ok () := by
      rw [Course.outcome, h.fault_course]
    rw [hrun] at he
    cases houtcome.symm.trans he
  · rw [List.nil_append] at hrefused hrun
    rw [hrun] at he ⊢
    cases he
    exact ⟨Deed.calls done, call, refusal, rfl, hrefused, rfl⟩

/-! ## Queries -/

theorem always_succeeds_runQueries {queries : List Query} (h : ∀ q ∈ queries, q.input.Checkable)
    (scope : QueryScope) (uiState : Json) (ids : List String) :
    (runQueries queries scope uiState ids).Always fun b => Succeeds b.result := by
  induction ids generalizing uiState with
  | nil => exact succeeds_ok uiState
  | cons id ids ih =>
      cases hknown : queries.find? fun q => q.id == id with
      | none =>
          rw [runQueries_of_unknown hknown]
          exact ih uiState
      | some q =>
          have hq : q ∈ queries := List.mem_of_find?_eq_some hknown
          obtain ⟨input, hinput⟩ := (h q hq).succeeds (scope.context uiState)
          rw [runQueries_of_input hknown hinput]
          exact (Dialogue.always_true _).bind fun found _ => (ih _).map fun _ hb => hb

/-! ## Sessions -/

namespace LiveOperation

/-- Whoever evaluates an expression of their own brings a checkable one. -/
def Checkable : LiveOperation → Prop
  | plain (.evaluate e _) => e.Checkable
  | _ => True

/-- The operation succeeded, or it is a dispatch that failed because its host refused a call. -/
def Unfaulted (op : LiveOperation) : Report → Prop
  | .node _ => True
  | .document _ => True
  | .computed result => Succeeds result
  | .value result => Succeeds result
  | .view result => Succeeds result
  | .answered result _ _ => Succeeds result
  | .dispatched result calls =>
    ∀ e, result = .error e → ∃ host, op.host? = some host ∧ HostRefused host calls e

end LiveOperation

namespace Surface

variable {s : Surface}

theorem succeeds_computed (h : s.document.Checkable) : Succeeds s.computed := by
  have hcomputed : ∀ f ∈ s.document.computed, f.2.Checkable := fun f hf =>
    h f.2 (Document.mem_exprs_of_computed hf)
  exact (Computed.succeeds_evalAfter hcomputed _ _ _ _).map _

theorem succeeds_evaluate (h : s.document.Checkable) {e : Expr} (he : e.Checkable)
    (event : Option Json) : Succeeds (s.evaluate e event) :=
  (succeeds_computed h).bind fun _ => he.succeeds _

theorem succeeds_resolveView (h : s.document.Checkable) : Succeeds s.resolveView :=
  (succeeds_computed h).bind fun _ =>
    ViewNode.succeeds_resolve (fun e he => h e (Document.mem_exprs_of_view he)) _

theorem settle_result_eq_error {r : RunEnd} {e : DispatchError} (h : (s.settle r).2 = .error e) :
    r.result = .error e := by
  obtain ⟨uiState, result⟩ := r
  cases result with
  | ok u => cases h
  | error e' => exact h

theorem succeeds_commit {b : BatchEnd} (h : Succeeds b.result) : Succeeds (s.commit b).result := by
  obtain ⟨ran, result⟩ := b
  obtain ⟨uiState, rfl⟩ := h
  exact succeeds_ok ()

theorem performLive_dispatch (h : s.document.Checkable) (action : String) (event : Option Json)
    (host : RememberingHost) :
    LiveOperation.Unfaulted (.dispatch action event host)
        (s.performLive (.dispatch action event host)).2 ∧
      (s.performLive (.dispatch action event host)).1.document = s.document := by
  obtain ⟨values, hvalues⟩ := succeeds_computed h
  simp only [performLive, dispatch_of_computed hvalues, Dialogue.runFrom_map]
  refine ⟨fun e he => ⟨host, rfl, ?_⟩, settle_document _ _⟩
  exact h.runFrom_dispatch _ _ _ host e (settle_result_eq_error he)

theorem performLive_queries (h : s.document.Checkable) (ids : List String)
    (probe : RememberingProbe) :
    LiveOperation.Unfaulted (.queries ids probe) (s.performLive (.queries ids probe)).2 ∧
      (s.performLive (.queries ids probe)).1.document = s.document := by
  obtain ⟨values, hvalues⟩ := succeeds_computed h
  have hinputs : ∀ q ∈ s.document.queries, q.input.Checkable := fun q hq =>
    h q.input (Document.mem_exprs_of_query hq)
  simp only [performLive, runQueries_of_computed hvalues, Dialogue.runFrom_map]
  refine ⟨succeeds_commit ?_, commit_document _ _⟩
  exact (always_succeeds_runQueries hinputs _ _ ids).runFrom probe []

/-- On a surface with a checkable document no operation fails by itself, and the document stays. -/
theorem performLive_unfaulted (h : s.document.Checkable) {op : LiveOperation}
    (hop : op.Checkable) :
    op.Unfaulted (s.performLive op).2 ∧ (s.performLive op).1.document = s.document := by
  cases op with
  | dispatch action event host => exact performLive_dispatch h action event host
  | queries ids probe => exact performLive_queries h ids probe
  | plain op =>
      refine ⟨?_, perform_document s op⟩
      cases op with
      | setNode node => trivial
      | document => trivial
      | computed => exact succeeds_computed h
      | evaluate e event => exact succeeds_evaluate h hop event
      | view => exact succeeds_resolveView h
      | dispatch action event host =>
          have hlive := performLive_dispatch h action event fun _ => host
          rw [performLive_dispatch_of_forgetting] at hlive
          exact hlive.1
      | queries ids probe =>
          have hlive := performLive_queries h ids fun _ => probe
          rw [performLive_queries_of_forgetting] at hlive
          exact hlive.1

/-- No operation of a session on a checkable document fails, except that a dispatch may end with
the error of a call that its host has refused. -/
theorem liveSession_unfaulted (s : Surface) (h : s.document.Checkable) {ops : List LiveOperation}
    (hops : ∀ op ∈ ops, op.Checkable) :
    List.Forall₂ (fun op r => op.Unfaulted r.1) ops (s.liveSession ops) := by
  induction ops generalizing s with
  | nil => exact .nil
  | cons op ops ih =>
      obtain ⟨hop, hrest⟩ := List.forall_mem_cons.mp hops
      obtain ⟨hreport, hdocument⟩ := performLive_unfaulted h hop
      have hafter : (s.performLive op).1.document.Checkable := by
        rw [hdocument]
        exact h
      exact .cons hreport (ih _ hafter hrest)

/-- A binding below a number of negations. -/
def negations : Nat → Expr
  | 0 => .binding ⟨"${uiState.ready}", ["uiState", "ready"], none⟩
  | n + 1 => .operator "not" [negations n]

/-- A document that shows, computes, logs and asks for what stands below as many negations as are
allowed. -/
def negating : Document :=
  let toast : Action :=
    ⟨"", "ui.toast", some (.object [("message", negations 63)]), [], none, []⟩
  let runs : Action :=
    ⟨"", "conditional", none, [], some (negations 64), [⟨"", "runNode", none, [], none, []⟩]⟩
  ⟨⟨"label", [], some (negations 64), []⟩, [("flag", negations 64)],
    [⟨"go", "sequence", none, [toast, runs], none, []⟩],
    [⟨"q", .fileExists, .object [("path", negations 63)], "ready"⟩]⟩

/-- A probe that finds every file once. -/
def forgetfulDisk : RememberingProbe
  | [], .file path => (.ok ⟨path, ""⟩ : Except ProbeError FileContent)
  | _, .file path => (.error (.notFound path) : Except ProbeError FileContent)
  | _, .tree root _ => (.error (.notFound root) : Except ProbeError TreeNode)

def negatingSession : List LiveOperation :=
  [.plain .view, .dispatch "go" none busyHost, .queries ["q", "q"] forgetfulDisk,
    .plain (.evaluate (negations 64) none)]

theorem liveSession_unfaulted_negating :
    let s : Surface := ⟨negating, .object [("id", .string "n")],
      .object [("ready", .bool true)], none⟩
    s.document.Checkable ∧ (negations 64).height = maxDepth ∧
      (∀ op ∈ negatingSession, op.Checkable) ∧
      List.Forall₂ (fun op r => op.Unfaulted r.1) negatingSession
        (s.liveSession negatingSession) := by
  intro s
  have hdocument : s.document.Checkable := by decide +kernel
  have hexpr : (negations 64).Checkable := by decide +kernel
  have hops : ∀ op ∈ negatingSession, op.Checkable := by
    simp [negatingSession, LiveOperation.Checkable, hexpr]
  exact ⟨hdocument, by decide +kernel, hops, s.liveSession_unfaulted hdocument hops⟩

end Surface

end WidgetDoc
