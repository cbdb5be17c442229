import WidgetDoc.Dispatch
import WidgetDoc.Proofs.Nesting

/-!
# The course of a dispatch

The course of an action lists its deeds in the order in which they are done as long as no call is
refused, and the fault at which it ends if an input cannot be evaluated. No host takes part in it.
To run an action is to follow its course up to the first refusal.
-/

namespace WidgetDoc

namespace Deed

/-- The state after a deed that is not refused. -/
def stateAfter (uiState : Json) : Deed → Json
  | write path value => DotPath.set uiState path value
  | nothing => uiState
  | call _ => uiState

def call? : Deed → Option HostCall
  | call c => some c
  | nothing => none
  | write .. => none

def stateAfterAll (uiState : Json) (deeds : List Deed) : Json :=
  deeds.foldl stateAfter uiState

def calls (deeds : List Deed) : List HostCall :=
  deeds.filterMap call?

@[simp] theorem calls_nil : calls [] = [] := rfl

@[simp] theorem calls_call (c : HostCall) (deeds : List Deed) :
    calls (.call c :: deeds) = c :: calls deeds := rfl

theorem calls_of_silent {deed : Deed} (h : deed.call? = none) (deeds : List Deed) :
    calls (deed :: deeds) = calls deeds :=
  List.filterMap_cons_none h

theorem calls_append (xs ys : List Deed) : calls (xs ++ ys) = calls xs ++ calls ys :=
  List.filterMap_append

theorem call?_eq_some_iff {deed : Deed} {c : HostCall} : deed.call? = some c ↔ deed = .call c := by
  cases deed <;> simp [call?]

end Deed

structure Course where
  deeds : List Deed
  fault : Option EvalError

namespace Course

/-- A course that goes on with another one unless it ends with a fault. -/
def andThen (c next : Course) : Course :=
  match c.fault with
  | none => ⟨c.deeds ++ next.deeds, next.fault⟩
  | some _ => c

def outcome (c : Course) : Except DispatchError Unit :=
  match c.fault with
  | none => .ok ()
  | some e => .error (.eval e)

/-- How a run ends in which nothing is refused. -/
def ending (c : Course) (uiState : Json) : RunEnd :=
  ⟨Deed.stateAfterAll uiState c.deeds, c.outcome⟩

end Course

namespace Action

mutual
def course (scope : ActionScope) (uiState : Json) : Action → Course
  | ⟨_, kind, input, steps, condition, branch⟩ =>
    match ActionKind.ofName kind with
    | .sequence => courseAll scope uiState steps
    | .conditional =>
      match scope.eval uiState condition with
      | .error e => ⟨[], some e⟩
      | .ok v => if Value.truthy v then courseAll scope uiState branch else ⟨[], none⟩
    | .effect f =>
      match scope.eval uiState input with
      | .error e => ⟨[], some e⟩
      | .ok v => ⟨[f.deed scope.node v], none⟩
    | .unknown => ⟨[], none⟩

/-- The course of steps in order, each in the state that the deeds before it leave. -/
def courseAll (scope : ActionScope) (uiState : Json) : List Action → Course
  | [] => ⟨[], none⟩
  | a :: as =>
    let first := a.course scope uiState
    first.andThen (courseAll scope (Deed.stateAfterAll uiState first.deeds) as)
end

def kindCourse (scope : ActionScope) (kind : String) : Course :=
  match ActionKind.ofName kind with
  | .effect f => ⟨[f.deed scope.node scope.event], none⟩
  | _ => ⟨[], none⟩

end Action

/-- The course of the action with a name or, if there is none, of the kind with this name. -/
def Document.course (d : Document) (scope : ActionScope) (uiState : Json) (name : String) :
    Course :=
  match d.action? name with
  | some a => a.course scope uiState
  | none => Action.kindCourse scope name

/-! ## Following a course -/

/-- Goes on from the state that a run ends with, unless it failed. -/
def HostDialogue.andThen (d : HostDialogue RunEnd) (next : Json → HostDialogue RunEnd) :
    HostDialogue RunEnd :=
  d.bind fun r =>
    match r.result with
    | .ok _ => next r.uiState
    | .error _ => .done r

theorem HostDialogue.andThen_success (d : HostDialogue RunEnd) :
    d.andThen (fun uiState => .done (.success uiState)) = d := by
  have hsame : (fun r : RunEnd => match r.result with
      | .ok _ => (.done (.success r.uiState) : HostDialogue RunEnd)
      | .error _ => .done r) = .done := by
    funext r
    obtain ⟨uiState, result⟩ := r
    cases result <;> rfl
  rw [andThen, hsame, Dialogue.bind_done]

theorem HostDialogue.andThen_assoc (d : HostDialogue RunEnd)
    (f g : Json → HostDialogue RunEnd) :
    (d.andThen f).andThen g = d.andThen fun uiState => (f uiState).andThen g := by
  rw [andThen, andThen, andThen, Dialogue.bind_assoc]
  congr 1
  funext r
  cases hr : r.result with
  | ok _ => rfl
  | error e => simp only [Dialogue.bind, hr]

namespace Deed

/-- Does one deed after the other and then finishes, unless a call is refused. -/
def follow (finish : Json → HostDialogue RunEnd) (uiState : Json) :
    List Deed → HostDialogue RunEnd
  | [] => finish uiState
  | call c :: deeds =>
    .ask c fun answer =>
      match c.refusal? answer with
      | some e => .done (.failure uiState (.host e))
      | none => follow finish uiState deeds
  | deed :: deeds => follow finish (deed.stateAfter uiState) deeds

theorem perform_eq_follow (uiState : Json) (deed : Deed) :
    deed.perform uiState = follow (fun u => .done (.success u)) uiState [deed] := by
  cases deed with
  | nothing => rfl
  | write path value => rfl
  | call c =>
      simp only [perform, follow]
      congr 1
      funext answer
      cases c.refusal? answer <;> rfl

theorem follow_append (finish : Json → HostDialogue RunEnd) (uiState : Json) (xs ys : List Deed) :
    follow finish uiState (xs ++ ys) = follow (fun u => follow finish u ys) uiState xs := by
  induction xs generalizing uiState with
  | nil => rfl
  | cons deed xs ih => cases deed <;> simp only [List.cons_append, follow, ih]

theorem follow_andThen (finish next : Json → HostDialogue RunEnd) (uiState : Json)
    (deeds : List Deed) :
    HostDialogue.andThen (follow finish uiState deeds) next =
      follow (fun u => HostDialogue.andThen (finish u) next) uiState deeds := by
  induction deeds generalizing uiState with
  | nil => rfl
  | cons deed deeds ih =>
      cases deed with
      | nothing => exact ih uiState
      | write path value => exact ih _
      | call c =>
          simp only [follow, ← ih]
          rw [HostDialogue.andThen, Dialogue.bind]
          congr 1
          funext answer
          cases c.refusal? answer <;> rfl

theorem follow_of_silent (finish : Json → HostDialogue RunEnd) (uiState : Json) {deed : Deed}
    (h : deed.call? = none) (deeds : List Deed) :
    follow finish uiState (deed :: deeds) = follow finish (deed.stateAfter uiState) deeds := by
  cases deed with
  | nothing => rfl
  | write path value => rfl
  | call c => cases h

/-- Only the state after all deeds is passed on. -/
theorem follow_congr {f g : Json → HostDialogue RunEnd} {uiState : Json} {deeds : List Deed}
    (h : f (stateAfterAll uiState deeds) = g (stateAfterAll uiState deeds)) :
    follow f uiState deeds = follow g uiState deeds := by
  induction deeds generalizing uiState with
  | nil => exact h
  | cons deed deeds ih =>
      have hrest := ih h
      cases deed with
      | nothing => exact hrest
      | write path value => exact hrest
      | call c =>
          simp only [stateAfter] at hrest
          simp only [follow, hrest]

end Deed

namespace Course

/-- The dialogue of a course. -/
def play (c : Course) (uiState : Json) : HostDialogue RunEnd :=
  Deed.follow (fun u => .done ⟨u, c.outcome⟩) uiState c.deeds

/-- To play one course and go on with another one is to play both as one. -/
theorem play_andThen (c : Course) (uiState : Json) (next : Json → Course) :
    HostDialogue.andThen (c.play uiState) (fun u => (next u).play u) =
      (c.andThen (next (Deed.stateAfterAll uiState c.deeds))).play uiState := by
  obtain ⟨deeds, fault⟩ := c
  rw [play, Deed.follow_andThen]
  cases fault with
  | none =>
      simp only [play, andThen, Deed.follow_append]
      exact Deed.follow_congr rfl
  | some e => rfl

end Course

namespace Action

theorem runAll_cons (scope : ActionScope) (uiState : Json) (a : Action) (as : List Action) :
    runAll scope uiState (a :: as) =
      HostDialogue.andThen (a.run scope uiState) fun u => runAll scope u as := by
  rw [runAll]
  rfl

theorem runAll_eq_play {scope : ActionScope} {as : List Action}
    (h : ∀ a ∈ as, ∀ uiState, a.run scope uiState = (a.course scope uiState).play uiState)
    (uiState : Json) : runAll scope uiState as = (courseAll scope uiState as).play uiState := by
  induction as generalizing uiState with
  | nil => rfl
  | cons a as ih =>
      obtain ⟨ha, has⟩ := List.forall_mem_cons.mp h
      simp only [runAll_cons, ha, ih has, courseAll]
      exact Course.play_andThen _ uiState fun u => courseAll scope u as

theorem run_eq_play (scope : ActionScope) (uiState : Json) (a : Action) :
    a.run scope uiState = (a.course scope uiState).play uiState := by
  induction a generalizing uiState with
  | action id kind input steps condition branch ihSteps ihBranch =>
      rw [run, course]
      cases ActionKind.ofName kind with
      | sequence => exact runAll_eq_play ihSteps uiState
      | conditional =>
          dsimp only
          cases scope.eval uiState condition with
          | error e => rfl
          | ok v =>
              dsimp only
              by_cases hv : Value.truthy v = true
              · rw [if_pos hv, if_pos hv]
                exact runAll_eq_play ihBranch uiState
              · rw [if_neg hv, if_neg hv]
                rfl
      | effect f =>
          dsimp only
          cases scope.eval uiState input with
          | error e => rfl
          | ok v => exact Deed.perform_eq_follow uiState _
      | unknown => rfl

theorem runKind_eq_play (scope : ActionScope) (uiState : Json) (kind : String) :
    runKind scope uiState kind = (kindCourse scope kind).play uiState := by
  rw [runKind, kindCourse]
  cases ActionKind.ofName kind with
  | effect f => exact Deed.perform_eq_follow uiState _
  | sequence | conditional | unknown => rfl

end Action

theorem Document.dispatch_eq_play (d : Document) (scope : ActionScope) (uiState : Json)
    (name : String) :
    d.dispatch scope uiState name = (d.course scope uiState name).play uiState := by
  rw [dispatch, course]
  cases d.action? name with
  | some a => exact Action.run_eq_play scope uiState a
  | none => exact Action.runKind_eq_play scope uiState name

end WidgetDoc
