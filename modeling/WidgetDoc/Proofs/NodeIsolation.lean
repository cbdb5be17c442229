import WidgetDoc.Proofs.Occurrences
import WidgetDoc.Proofs.Operations
import WidgetDoc.Proofs.Reading

/-!
# What a node can influence

A document learns of the host's node only through the node paths of its bindings and the text of
the node's id. Two sessions whose nodes are alike in these respects make the same calls and end
every operation with the same result and the same state, whatever else the nodes hold.
-/

namespace WidgetDoc

/-- A path that is written in a binding of a document. -/
def Document.Mentions (d : Document) (path : List String) : Prop :=
  ∃ e ∈ d.exprs, ∃ b ∈ e.bindings, b.path = path

/-- Nodes between which a document cannot tell: the paths it mentions find the same in both, and
their ids have the same text. -/
structure Document.NodesAlike (d : Document) (n₁ n₂ : Json) : Prop where
  mentioned : ∀ path, d.Mentions ("node" :: path) → n₁.resolve? path = n₂.resolve? path
  id : Value.display (DotPath.get? n₁ "id") = Value.display (DotPath.get? n₂ "id")

theorem Document.NodesAlike.refl (d : Document) (n : Json) : d.NodesAlike n n :=
  ⟨fun _ _ => rfl, rfl⟩

/-- An expression whose bindings find the same in two nodes. -/
def Expr.ReadsAlike (n₁ n₂ : Json) (e : Expr) : Prop :=
  ∀ b ∈ e.bindings, ∀ path, b.path = "node" :: path → n₁.resolve? path = n₂.resolve? path

theorem Document.NodesAlike.readsAlike {d : Document} {n₁ n₂ : Json} (h : d.NodesAlike n₁ n₂)
    {e : Expr} (he : e ∈ d.exprs) : e.ReadsAlike n₁ n₂ :=
  fun b hb path hpath => h.mentioned path ⟨e, he, b, hb, hpath⟩

/-! ## Evaluation -/

/-- An expression that reads alike has one result in contexts that differ in the node only. -/
theorem Expr.eval_of_readsAlike {n₁ n₂ : Json} {e : Expr} (h : e.ReadsAlike n₁ n₂)
    (computed uiState document : Json) (event : Option Json) (depth : Nat) :
    e.eval ⟨n₁, computed, uiState, document, event⟩ depth =
      e.eval ⟨n₂, computed, uiState, document, event⟩ depth := by
  refine eval_congr (fun b hb => ?_) depth
  cases hpath : b.path with
  | nil => rfl
  | cons name rest =>
      by_cases hname : name = "node"
      · subst hname
        exact h b hb rest hpath
      · simp only [Context.resolve, Context.root?, if_neg hname]

theorem Computed.evalAfter_of_readsAlike {n₁ n₂ : Json} {computed : Computed}
    (h : ∀ f ∈ computed, f.2.ReadsAlike n₁ n₂) (uiState document : Json) (done : Fields Json) :
    evalAfter n₁ uiState document done computed = evalAfter n₂ uiState document done computed := by
  induction computed generalizing done with
  | nil => rfl
  | cons f computed ih =>
      obtain ⟨hf, hrest⟩ := List.forall_mem_cons.mp h
      rw [evalAfter, evalAfter, Expr.eval_of_readsAlike hf]
      congr 1
      funext v
      exact ih hrest _

namespace ViewNode

theorem evalText_congr {ctx₁ ctx₂ : Context} {text : Option Expr}
    (h : ∀ e, text = some e → e.eval ctx₁ 0 = e.eval ctx₂ 0) :
    evalText ctx₁ text = evalText ctx₂ text := by
  cases text with
  | none => rfl
  | some e => exact h e rfl

theorem resolveAll_congr {ctx₁ ctx₂ : Context} {ns : List ViewNode}
    (h : ∀ n ∈ ns, n.resolve ctx₁ = n.resolve ctx₂) : resolveAll ctx₁ ns = resolveAll ctx₂ ns := by
  induction ns with
  | nil => rfl
  | cons n ns ih =>
      obtain ⟨hn, hns⟩ := List.forall_mem_cons.mp h
      rw [resolveAll, resolveAll, hn, ih hns]

theorem resolve_congr {ctx₁ ctx₂ : Context} {n : ViewNode}
    (h : ∀ e ∈ n.exprs, e.eval ctx₁ 0 = e.eval ctx₂ 0) : n.resolve ctx₁ = n.resolve ctx₂ := by
  induction n with
  | node type props text children ih =>
      have hprops : ∀ f ∈ props, f.2.eval ctx₁ 0 = f.2.eval ctx₂ 0 := fun f hf =>
        h f.2 (mem_exprs.mpr (.inl ⟨f, hf, rfl⟩))
      have htext : ∀ e, text = some e → e.eval ctx₁ 0 = e.eval ctx₂ 0 := fun e he =>
        h e (mem_exprs.mpr (.inr (.inl he)))
      have hchildren : ∀ c ∈ children, c.resolve ctx₁ = c.resolve ctx₂ := fun c hc =>
        ih c hc fun e he => h e (mem_exprs.mpr (.inr (.inr ⟨c, hc, he⟩)))
      rw [resolve, resolve, Expr.evalFields_congr hprops, evalText_congr htext,
        resolveAll_congr hchildren]

end ViewNode

/-! ## Actions and queries -/

/-- Scopes of a dispatch that differ in nodes between which a document cannot tell. -/
structure ActionScope.Alike (d : Document) (scope₁ scope₂ : ActionScope) : Prop where
  node : d.NodesAlike scope₁.node scope₂.node
  computed : scope₁.computed = scope₂.computed
  document : scope₁.document = scope₂.document
  event : scope₁.event = scope₂.event

theorem ActionScope.Alike.eval {d : Document} {scope₁ scope₂ : ActionScope}
    (h : Alike d scope₁ scope₂) (uiState : Json) {e? : Option Expr}
    (he : ∀ e, e? = some e → e ∈ d.exprs) : scope₁.eval uiState e? = scope₂.eval uiState e? := by
  cases e? with
  | none => rfl
  | some e =>
      obtain ⟨node₁, computed₁, document₁, event₁⟩ := scope₁
      obtain ⟨node₂, computed₂, document₂, event₂⟩ := scope₂
      obtain ⟨hnode, rfl, rfl, rfl⟩ := h
      exact Expr.eval_of_readsAlike (hnode.readsAlike (he e rfl)) _ _ _ _ 0

theorem Document.NodesAlike.deed {d : Document} {n₁ n₂ : Json} (h : d.NodesAlike n₁ n₂)
    (f : Effect) (input : Value) : f.deed n₁ input = f.deed n₂ input := by
  have hid : Effect.nodeId? n₁ input = Effect.nodeId? n₂ input := by
    rw [Effect.nodeId?, Effect.nodeId?, h.id]
  cases f <;> simp only [Effect.deed, Effect.updateDeed, hid]

namespace Action

variable {d : Document} {scope₁ scope₂ : ActionScope}

theorem runAll_congr {as : List Action} (h : ∀ a ∈ as, ∀ uiState,
    a.run scope₁ uiState = a.run scope₂ uiState) (uiState : Json) :
    runAll scope₁ uiState as = runAll scope₂ uiState as := by
  induction as generalizing uiState with
  | nil => rfl
  | cons a as ih =>
      obtain ⟨ha, has⟩ := List.forall_mem_cons.mp h
      simp only [runAll, ha, ih has]

/-- In alike scopes an action of the document is the same dialogue. -/
theorem run_of_alike (h : ActionScope.Alike d scope₁ scope₂) {a : Action}
    (ha : ∀ e ∈ a.exprs, e ∈ d.exprs) (uiState : Json) :
    a.run scope₁ uiState = a.run scope₂ uiState := by
  induction a generalizing uiState with
  | action id kind input steps condition branch ihSteps ihBranch =>
      have hinput := h.eval uiState fun e he => ha e (mem_exprs.mpr (.inl he))
      have hcondition := h.eval uiState fun e he => ha e (mem_exprs.mpr (.inr (.inl he)))
      have hsteps := runAll_congr fun a hmem => ihSteps a hmem fun e he =>
        ha e (mem_exprs.mpr (.inr (.inr (.inl ⟨a, hmem, he⟩))))
      have hbranch := runAll_congr fun a hmem => ihBranch a hmem fun e he =>
        ha e (mem_exprs.mpr (.inr (.inr (.inr ⟨a, hmem, he⟩))))
      simp only [run, hinput, hcondition, hsteps, hbranch, h.node.deed]

theorem runKind_of_alike (h : ActionScope.Alike d scope₁ scope₂) (uiState : Json)
    (kind : String) : runKind scope₁ uiState kind = runKind scope₂ uiState kind := by
  simp only [runKind, h.event, h.node.deed]

end Action

theorem Document.dispatch_of_alike {d : Document} {scope₁ scope₂ : ActionScope}
    (h : ActionScope.Alike d scope₁ scope₂) (uiState : Json) (name : String) :
    d.dispatch scope₁ uiState name = d.dispatch scope₂ uiState name := by
  rw [dispatch, dispatch]
  cases haction : d.action? name with
  | none => exact Action.runKind_of_alike h uiState name
  | some a =>
      have ha : a ∈ d.actions := List.mem_of_find?_eq_some haction
      exact Action.run_of_alike h (fun e he => mem_exprs_of_action ha he) uiState

theorem runQueries_of_readsAlike {n₁ n₂ : Json} {queries : List Query}
    (h : ∀ q ∈ queries, q.input.ReadsAlike n₁ n₂) (computed document uiState : Json)
    (ids : List String) :
    runQueries queries ⟨n₁, computed, document⟩ uiState ids =
      runQueries queries ⟨n₂, computed, document⟩ uiState ids := by
  induction ids generalizing uiState with
  | nil => rfl
  | cons id ids ih =>
      rw [runQueries, runQueries]
      cases hquery : queries.find? fun q => q.id == id with
      | none => exact ih uiState
      | some q =>
          have hq := h q (List.mem_of_find?_eq_some hquery)
          simp only [QueryScope.context, Expr.eval_of_readsAlike hq, ih]

/-! ## Sessions -/

/-- Operations that differ at most in nodes between which a document cannot tell. Whoever evaluates
an expression of their own names no node path that the document does not mention. -/
inductive Operation.Alike (d : Document) : Operation → Operation → Prop where
  | setNode {n₁ n₂ : Json} (nodes : d.NodesAlike n₁ n₂) : Alike d (.setNode n₁) (.setNode n₂)
  | computed : Alike d .computed .computed
  | evaluate {e : Expr} (event : Option Json)
      (known : ∀ b ∈ e.bindings, ∀ path, b.path = "node" :: path → d.Mentions b.path) :
      Alike d (.evaluate e event) (.evaluate e event)
  | view : Alike d .view .view
  | document : Alike d .document .document
  | dispatch (action : String) (event : Option Json) (host : Host) :
      Alike d (.dispatch action event host) (.dispatch action event host)
  | queries (ids : List String) (probe : Probe) : Alike d (.queries ids probe) (.queries ids probe)

/-- Equal reports, or two reports of a node that was set. -/
inductive Report.Alike : Report → Report → Prop where
  | node (n₁ n₂ : Json) : Alike (.node n₁) (.node n₂)
  | same (r : Report) : Alike r r

namespace Surface

/-- Surfaces that differ at most in nodes between which their document cannot tell. -/
structure Alike (s₁ s₂ : Surface) : Prop where
  document : s₁.document = s₂.document
  node : s₁.document.NodesAlike s₁.node s₂.node
  uiState : s₁.uiState = s₂.uiState
  lastAction : s₁.lastAction = s₂.lastAction

theorem Alike.refl (s : Surface) : s.Alike s :=
  ⟨rfl, .refl _ _, rfl, rfl⟩

variable {s₁ s₂ : Surface}

theorem Alike.computed (h : s₁.Alike s₂) : s₁.computed = s₂.computed := by
  obtain ⟨document₁, node₁, uiState₁, lastAction₁⟩ := s₁
  obtain ⟨document₂, node₂, uiState₂, lastAction₂⟩ := s₂
  obtain ⟨rfl, hnode, rfl, rfl⟩ := h
  have hafter := Computed.evalAfter_of_readsAlike (fun f hf =>
    hnode.readsAlike (Document.mem_exprs_of_computed hf)) uiState₁ document₁.toJson []
  simp only [Surface.computed, Computed.eval, hafter]

theorem Alike.evaluate (h : s₁.Alike s₂) {e : Expr} (he : e.ReadsAlike s₁.node s₂.node)
    (event : Option Json) : s₁.evaluate e event = s₂.evaluate e event := by
  have heval : ∀ computed, e.eval (s₁.context computed event) 0 =
      e.eval (s₂.context computed event) 0 := by
    intro computed
    rw [context, context, ← h.document, ← h.uiState]
    exact Expr.eval_of_readsAlike he _ _ _ _ 0
  simp only [Surface.evaluate, h.computed, heval]

theorem Alike.resolveView (h : s₁.Alike s₂) : s₁.resolveView = s₂.resolveView := by
  have hview : ∀ computed, s₁.document.view.resolve (s₁.context computed none) =
      s₁.document.view.resolve (s₂.context computed none) := by
    intro computed
    refine ViewNode.resolve_congr fun e he => ?_
    rw [context, context, ← h.document, ← h.uiState]
    exact Expr.eval_of_readsAlike (h.node.readsAlike (Document.mem_exprs_of_view he)) _ _ _ _ 0
  simp only [Surface.resolveView, h.computed, ← h.document, hview]

theorem Alike.settle (h : s₁.Alike s₂) (r : RunEnd) :
    (s₁.settle r).1.Alike (s₂.settle r).1 ∧ (s₁.settle r).2 = (s₂.settle r).2 := by
  obtain ⟨uiState, result⟩ := r
  cases result with
  | ok u => exact ⟨⟨h.document, h.node, rfl, h.lastAction⟩, rfl⟩
  | error e => exact ⟨h, rfl⟩

theorem Alike.commit (h : s₁.Alike s₂) (b : BatchEnd) :
    (s₁.commit b).surface.Alike (s₂.commit b).surface ∧
      (s₁.commit b).ran = (s₂.commit b).ran ∧ (s₁.commit b).result = (s₂.commit b).result := by
  obtain ⟨ran, result⟩ := b
  cases result with
  | ok uiState => exact ⟨⟨h.document, h.node, rfl, h.lastAction⟩, rfl, rfl⟩
  | error e => exact ⟨h, rfl, rfl⟩

theorem Alike.dispatch (h : s₁.Alike s₂) (action : String) (event : Option Json) (host : Host) :
    ((s₁.dispatch action event).run host).1.Alike ((s₂.dispatch action event).run host).1 ∧
      ((s₁.dispatch action event).run host).2 = ((s₂.dispatch action event).run host).2 ∧
      (s₁.dispatch action event).transcript host = (s₂.dispatch action event).transcript host := by
  -- Both dispatches work on surfaces that remember the action already.
  have hnamed : { s₁ with lastAction := some action }.Alike
      { s₂ with lastAction := some action } := ⟨h.document, h.node, h.uiState, rfl⟩
  rw [Surface.dispatch, Surface.dispatch, hnamed.computed]
  generalize { s₁ with lastAction := some action } = t₁ at *
  generalize { s₂ with lastAction := some action } = t₂ at *
  cases t₂.computed with
  | error e => exact ⟨hnamed, rfl, rfl⟩
  | ok computed =>
      have hdialogue : t₁.document.dispatch ⟨t₁.node, computed, t₁.document.toJson, event⟩
          t₁.uiState action = t₂.document.dispatch ⟨t₂.node, computed, t₂.document.toJson, event⟩
          t₂.uiState action := by
        rw [← hnamed.document, ← hnamed.uiState]
        refine Document.dispatch_of_alike ?_ t₁.uiState action
        exact ⟨hnamed.node, rfl, rfl, rfl⟩
      simp only [hdialogue, Dialogue.run_map, Dialogue.transcript_map]
      obtain ⟨hafter, hresult⟩ := hnamed.settle _
      exact ⟨hafter, hresult, trivial⟩

theorem Alike.runQueries (h : s₁.Alike s₂) (ids : List String) (probe : Probe) :
    ((s₁.runQueries ids).run probe).surface.Alike ((s₂.runQueries ids).run probe).surface ∧
      ((s₁.runQueries ids).run probe).ran = ((s₂.runQueries ids).run probe).ran ∧
      ((s₁.runQueries ids).run probe).result = ((s₂.runQueries ids).run probe).result ∧
      (s₁.runQueries ids).transcript probe = (s₂.runQueries ids).transcript probe := by
  rw [Surface.runQueries, Surface.runQueries, h.computed]
  cases s₂.computed with
  | error e => exact ⟨h, rfl, rfl, rfl⟩
  | ok computed =>
      have hdialogue : WidgetDoc.runQueries s₁.document.queries
          ⟨s₁.node, computed, s₁.document.toJson⟩ s₁.uiState ids =
          WidgetDoc.runQueries s₂.document.queries
            ⟨s₂.node, computed, s₂.document.toJson⟩ s₂.uiState ids := by
        rw [← h.document, ← h.uiState]
        exact runQueries_of_readsAlike
          (fun q hq => h.node.readsAlike (Document.mem_exprs_of_query hq)) _ _ _ _
      simp only [hdialogue, Dialogue.run_map, Dialogue.transcript_map]
      obtain ⟨hafter, hran, hresult⟩ := h.commit _
      exact ⟨hafter, hran, hresult, trivial⟩

/-- Alike operations on alike surfaces report alike and leave alike surfaces. -/
theorem Alike.perform (h : s₁.Alike s₂) {op₁ op₂ : Operation}
    (hop : Operation.Alike s₁.document op₁ op₂) :
    (s₁.perform op₁).2.Alike (s₂.perform op₂).2 ∧
      (s₁.perform op₁).1.Alike (s₂.perform op₂).1 := by
  cases hop with
  | setNode nodes => exact ⟨.node _ _, h.document, nodes, h.uiState, h.lastAction⟩
  | computed =>
      refine ⟨?_, h⟩
      simp only [Surface.perform, h.computed]
      exact .same _
  | @evaluate e event known =>
      have hreads : e.ReadsAlike s₁.node s₂.node := fun b hb path hpath =>
        h.node.mentioned path (hpath ▸ known b hb path hpath)
      refine ⟨?_, h⟩
      simp only [Surface.perform, h.evaluate hreads]
      exact .same _
  | view =>
      refine ⟨?_, h⟩
      simp only [Surface.perform, h.resolveView]
      exact .same _
  | document =>
      refine ⟨?_, h⟩
      simp only [Surface.perform, h.document]
      exact .same _
  | dispatch action event host =>
      obtain ⟨hafter, hresult, hcalls⟩ := h.dispatch action event host
      rw [perform_dispatch, perform_dispatch, hresult, hcalls]
      exact ⟨.same _, hafter⟩
  | queries ids probe =>
      obtain ⟨hafter, hran, hresult, hcalls⟩ := h.runQueries ids probe
      simp only [Surface.perform, hran, hresult, hcalls]
      exact ⟨.same _, hafter⟩

/-- Two sessions of alike operations report alike and have the same state after each. -/
theorem Alike.session (h : s₁.Alike s₂) {ops₁ ops₂ : List Operation}
    (hops : List.Forall₂ (Operation.Alike s₁.document) ops₁ ops₂) :
    List.Forall₂ (fun p q => p.1.Alike q.1 ∧ p.2.Alike q.2)
      (s₁.session ops₁) (s₂.session ops₂) := by
  generalize hd : s₁.document = d at hops
  induction hops generalizing s₁ s₂ with
  | nil => exact .nil
  | cons hop hrest ih =>
      obtain ⟨hreport, hafter⟩ := h.perform (hd ▸ hop)
      exact .cons ⟨hreport, hafter⟩ (ih hafter ((perform_document s₁ _).trans hd))

/-- Two sessions on the same attached document that set nodes between which the document cannot
tell report alike and have the same state after every operation. -/
theorem sessions_of_nodesAlike {raw seed : Json} {s₁ s₂ : Surface}
    (h₁ : attach raw seed = .ok s₁) (h₂ : attach raw seed = .ok s₂) {ops₁ ops₂ : List Operation}
    (hops : List.Forall₂ (Operation.Alike s₁.document) ops₁ ops₂) :
    List.Forall₂ (fun p q => p.1.Alike q.1 ∧ p.2.uiState = q.2.uiState)
      (s₁.session ops₁) (s₂.session ops₂) := by
  obtain rfl : s₁ = s₂ := Except.ok.inj (h₁.symm.trans h₂)
  exact ((Alike.refl s₁).session hops).imp fun _ _ hpq => ⟨hpq.1, hpq.2.uiState⟩

def labelBinding : Binding :=
  ⟨"${node.label}", ["node", "label"], none⟩

/-- A document that shows the label of its node and logs it. -/
def labelled : Document :=
  ⟨⟨"label", [], some (.binding labelBinding), []⟩, [],
    [⟨"show", "ui.toast", some (.object [("message", .binding labelBinding)]), [], none, []⟩], []⟩

/-- A node whose label spells a path to its secret. -/
def labelledNode (secret : String) : Json :=
  .object [("id", .string "n"), ("label", .string "${node.secret}"), ("secret", .string secret)]

def labelledSession (secret : String) : List Operation :=
  [.setNode (labelledNode secret), .view, .dispatch "show" none HostCall.granted]

theorem labelled_nodesAlike (secret secret' : String) :
    labelled.NodesAlike (labelledNode secret) (labelledNode secret') := by
  have hexprs : labelled.exprs =
      [.binding labelBinding, .object [("message", .binding labelBinding)]] := rfl
  refine ⟨?_, rfl⟩
  rintro path ⟨e, he, b, hb, hpath⟩
  obtain rfl : b = labelBinding := by
    rw [hexprs, List.mem_cons, List.mem_singleton] at he
    rcases he with rfl | rfl
    · simpa [Expr.bindings] using hb
    · simpa [Expr.bindings, Expr.bindingsOfFields] using hb
  obtain rfl : ["label"] = path := (List.cons.inj hpath).2
  rfl

set_option maxRecDepth 4000 in
theorem sessions_of_nodesAlike_labelled : ∃ s, attach labelled.toJson .null = .ok s ∧
    List.Forall₂ (Operation.Alike s.document) (labelledSession "a") (labelledSession "b") ∧
    List.Forall₂ (fun p q => p.1.Alike q.1 ∧ p.2.uiState = q.2.uiState)
      (s.session (labelledSession "a")) (s.session (labelledSession "b")) := by
  have hattach : attach labelled.toJson .null = .ok ⟨labelled, .empty, .empty, none⟩ := rfl
  have hops : List.Forall₂ (Operation.Alike labelled) (labelledSession "a")
      (labelledSession "b") :=
    .cons (.setNode (labelled_nodesAlike "a" "b")) (.cons .view (.cons (.dispatch _ _ _) .nil))
  exact ⟨_, hattach, hops, sessions_of_nodesAlike hattach hattach hops⟩

end Surface

end WidgetDoc
