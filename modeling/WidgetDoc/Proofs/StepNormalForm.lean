import WidgetDoc.Proofs.HostInfluence

/-!
# Normal forms of actions

A list of steps need not hold sequences, for their steps can stand in it themselves, nor steps that
never do anything: those of an unknown kind and conditionals without a condition. `Action.normalize`
brings the list that an action runs into this form, and the lists in it as well. An action and its
normal form are the same dialogue with the host.
-/

namespace WidgetDoc

namespace Action

/-- The steps that an action may run. -/
def body (a : Action) : List Action :=
  match ActionKind.ofName a.kind with
  | .sequence => a.steps
  | .conditional => a.branch
  | .effect _ => []
  | .unknown => []

/-- What may stand in the place of a step: the steps of a sequence, and nothing for a step that
never does anything. -/
def asSteps (a : Action) : List Action :=
  match ActionKind.ofName a.kind with
  | .sequence => a.steps
  | .conditional => if a.condition.isSome then [a] else []
  | .effect _ => [a]
  | .unknown => []

mutual
/-- An action with its body in normal form. Lists that it does not run stay as they are. -/
def normalize : Action → Action
  | ⟨id, kind, input, steps, condition, branch⟩ =>
    match ActionKind.ofName kind with
    | .sequence => ⟨id, kind, input, flattenAll steps, condition, branch⟩
    | .conditional => ⟨id, kind, input, steps, condition, flattenAll branch⟩
    | .effect _ => ⟨id, kind, input, steps, condition, branch⟩
    | .unknown => ⟨id, kind, input, steps, condition, branch⟩

/-- The normal form of a list of steps. -/
def flattenAll : List Action → List Action
  | [] => []
  | a :: as => a.normalize.asSteps ++ flattenAll as
end

/-- The steps of a normal form: effects, and conditionals that have a condition and a body of such
steps. -/
inductive Elementary : Action → Prop
  | effect {a : Action} {f : Effect} : ActionKind.ofName a.kind = .effect f → Elementary a
  | conditional {a : Action} : ActionKind.ofName a.kind = .conditional →
      a.condition.isSome → (∀ s ∈ a.body, Elementary s) → Elementary a

@[simp] theorem normalize_id (a : Action) : a.normalize.id = a.id := by
  obtain ⟨id, kind, input, steps, condition, branch⟩ := a
  rw [normalize]
  split <;> rfl

@[simp] theorem normalize_kind (a : Action) : a.normalize.kind = a.kind := by
  obtain ⟨id, kind, input, steps, condition, branch⟩ := a
  rw [normalize]
  split <;> rfl

theorem body_normalize (a : Action) : a.normalize.body = flattenAll a.body := by
  obtain ⟨id, kind, input, steps, condition, branch⟩ := a
  rw [body, normalize_kind, normalize, body]
  cases ActionKind.ofName kind with
  | sequence | conditional => rfl
  | effect f => simp only [flattenAll]
  | unknown => simp only [flattenAll]

theorem mem_flattenAll {as : List Action} {s : Action} :
    s ∈ flattenAll as ↔ ∃ a ∈ as, s ∈ a.normalize.asSteps := by
  induction as with
  | nil => simp [flattenAll]
  | cons a as ih => simp [flattenAll, ih]

/-! ## Normal forms are normal -/

theorem elementary_of_mem_asSteps {a s : Action} (ha : ∀ s ∈ a.body, Elementary s)
    (hs : s ∈ a.asSteps) : Elementary s := by
  cases hkind : ActionKind.ofName a.kind with
  | sequence =>
      simp only [asSteps, body, hkind] at ha hs
      exact ha s hs
  | conditional =>
      simp only [asSteps, hkind, List.mem_ite_nil_right, List.mem_singleton] at hs
      obtain ⟨hcondition, rfl⟩ := hs
      exact .conditional hkind hcondition ha
  | effect f =>
      simp only [asSteps, hkind, List.mem_singleton] at hs
      exact hs ▸ .effect hkind
  | unknown => simp [asSteps, hkind] at hs

theorem elementary_of_mem_body_normalize (a : Action) :
    ∀ s ∈ a.normalize.body, Elementary s := by
  induction a with
  | action id kind input steps condition branch ihSteps ihBranch =>
      intro s hs
      rw [body_normalize, mem_flattenAll] at hs
      obtain ⟨part, hpart, hs⟩ := hs
      refine elementary_of_mem_asSteps ?_ hs
      cases hkind : ActionKind.ofName kind with
      | sequence =>
          simp only [body, hkind] at hpart
          exact ihSteps part hpart
      | conditional =>
          simp only [body, hkind] at hpart
          exact ihBranch part hpart
      | effect f => simp [body, hkind] at hpart
      | unknown => simp [body, hkind] at hpart

/-! ## Running normal forms -/

variable (scope : ActionScope) (uiState : Json)

theorem runAll_singleton (a : Action) : runAll scope uiState [a] = a.run scope uiState := by
  rw [runAll_cons]
  exact HostDialogue.andThen_success _

theorem runAll_append (xs ys : List Action) :
    runAll scope uiState (xs ++ ys) =
      (runAll scope uiState xs).andThen fun u => runAll scope u ys := by
  induction xs generalizing uiState with
  | nil => rfl
  | cons a xs ih => simp only [List.cons_append, runAll_cons, ih, HostDialogue.andThen_assoc]

theorem runAll_asSteps (a : Action) : runAll scope uiState a.asSteps = a.run scope uiState := by
  obtain ⟨id, kind, input, steps, condition, branch⟩ := a
  cases hkind : ActionKind.ofName kind with
  | sequence => simp only [asSteps, run, hkind]
  | conditional =>
      cases condition with
      | none =>
          -- Without a condition the value is undefined, so the branch is not taken.
          simp only [asSteps, run, hkind, ActionScope.eval]
          rfl
      | some e =>
          simp only [asSteps, hkind, Option.isSome_some, if_true]
          exact runAll_singleton scope uiState _
  | effect f =>
      simp only [asSteps, hkind]
      exact runAll_singleton scope uiState _
  | unknown =>
      simp only [asSteps, run, hkind]
      rfl

theorem runAll_flattenAll {scope : ActionScope} {as : List Action}
    (h : ∀ a ∈ as, ∀ uiState, a.normalize.run scope uiState = a.run scope uiState)
    (uiState : Json) : runAll scope uiState (flattenAll as) = runAll scope uiState as := by
  induction as generalizing uiState with
  | nil => rfl
  | cons a as ih =>
      obtain ⟨ha, has⟩ := List.forall_mem_cons.mp h
      rw [flattenAll, runAll_append, runAll_asSteps, ha, runAll_cons]
      simp only [ih has]

theorem run_normalize (a : Action) : a.normalize.run scope uiState = a.run scope uiState := by
  induction a generalizing uiState with
  | action id kind input steps condition branch ihSteps ihBranch =>
      cases hkind : ActionKind.ofName kind with
      | sequence =>
          simp only [normalize, run, hkind]
          exact runAll_flattenAll ihSteps uiState
      | conditional =>
          simp only [normalize, run, hkind]
          cases scope.eval uiState condition with
          | error e => rfl
          | ok v => simp only [runAll_flattenAll ihBranch]
      | effect f => simp only [normalize, hkind]
      | unknown => simp only [normalize, hkind]

end Action

namespace Document

/-- The document with some of its actions in normal form. -/
def normalizeWhere (selected : Action → Bool) (d : Document) : Document :=
  { d with actions := d.actions.map fun a => if selected a then a.normalize else a }

theorem action?_normalizeWhere (selected : Action → Bool) (d : Document) (id : String) :
    (d.normalizeWhere selected).action? id =
      (d.action? id).map fun a => if selected a then a.normalize else a := by
  have hid : ((fun a : Action => a.id == id) ∘ fun a => if selected a then a.normalize else a) =
      fun a => a.id == id := by
    funext a
    by_cases h : selected a <;> simp [h]
  rw [action?, normalizeWhere, List.find?_map, hid]
  rfl

/-- In a normal form only elementary steps are run. Whichever actions of a document are normalized,
a dispatch makes the same calls, ends with the same result and leaves the same state, whatever the
host answers. -/
theorem dispatch_normalizeWhere :
    (∀ (a : Action), ∀ s ∈ a.normalize.body, s.Elementary) ∧
    ∀ (d : Document) (selected : Action → Bool) (scope : ActionScope) (uiState : Json)
      (name : String) (host : RememberingHost),
      ((d.normalizeWhere selected).dispatch scope uiState name).runFrom host [] =
        (d.dispatch scope uiState name).runFrom host [] := by
  refine ⟨Action.elementary_of_mem_body_normalize, ?_⟩
  intro d selected scope uiState name host
  congr 1
  rw [dispatch, dispatch, action?_normalizeWhere]
  cases d.action? name with
  | none => rfl
  | some a =>
      dsimp only [Option.map_some]
      by_cases h : selected a
      · rw [if_pos h, Action.run_normalize]
      · rw [if_neg h]

end Document

/-- A document with an action in layers: a sequence and a conditional in a sequence, among steps
that never do anything. -/
def layered : Document :=
  let call (kind : String) : Action := ⟨"", kind,
    some (.object [("key", .text "draft"), ("message", .text "saved")]), [], none, []⟩
  let unknown : Action := ⟨"", "ui.sparkle", none, [], none, []⟩
  let sequence (steps : List Action) : Action := ⟨"", "sequence", none, steps, none, []⟩
  let conditional (condition : Option Expr) (branch : List Action) : Action :=
    ⟨"", "conditional", none, [], condition, branch⟩
  ⟨⟨"box", [], none, []⟩, [],
    [⟨"save", "sequence", none,
      [sequence [call "setParam", unknown], conditional none [call "ui.toast"],
        conditional (some (.bool true)) [sequence [call "runNode"], unknown], call "ui.toast"],
      none, []⟩], []⟩

theorem Document.dispatch_normalizeWhere_layered :
    let normal := layered.normalizeWhere fun a => a.id == "save"
    let run (d : Document) := (d.dispatch savingScope .empty "save").runFrom busyHost []
    normal.actions.map (fun a => a.body.map (·.kind)) =
        [["setParam", "conditional", "ui.toast"]] ∧
      (∀ a ∈ layered.actions, ∀ s ∈ a.normalize.body, s.Elementary) ∧
      run normal = run layered ∧
      (run normal).1 = [.updateParam "n" "draft" .null, .runNode "n"] ∧
      (run normal).2.result = .error (.host ⟨"runPluginNode", "busy"⟩) := by
  intro normal run
  obtain ⟨helementary, hrun⟩ := dispatch_normalizeWhere
  exact ⟨rfl, fun a _ => helementary a, hrun layered _ savingScope .empty "save" busyHost,
    rfl, rfl⟩

end WidgetDoc
