import WidgetDoc.Proofs.Course

/-!
# What a host can influence

A host may remember every call made before. Still all it can do to a dispatch is refuse a call:
then the dispatch ends there with its error. Until then the calls, the writes and the result are
those of the course, which no host takes part in.
-/

namespace WidgetDoc

/-- A host that may remember the calls before. -/
abbrev RememberingHost := List HostCall → Host

/-- After a history the host refuses none of the listed calls. -/
def Grants (host : RememberingHost) : List HostCall → List HostCall → Prop
  | _, [] => True
  | past, c :: cs => c.refusal? (host past c) = none ∧ Grants host (past ++ [c]) cs

theorem Grants.refusal?_eq_none {host : RememberingHost} {past cs : List HostCall}
    (h : Grants host past cs) {k : Nat} {c : HostCall} (hk : cs[k]? = some c) :
    c.refusal? (host (past ++ cs.take k) c) = none := by
  induction cs generalizing past k with
  | nil => simp at hk
  | cons first cs ih =>
      cases k with
      | zero =>
          obtain rfl : first = c := by simpa using hk
          simpa using h.1
      | succ k =>
          have hrest := ih h.2 (by simpa using hk)
          simpa [List.append_assoc] using hrest

/-- A host that grants all calls but the last one of a list refuses no other call of it. -/
theorem Grants.last_of_refusal {host : RememberingHost} {before : List HostCall}
    (h : Grants host [] before) {last c : HostCall} {k : Nat} {e : HostError}
    (hk : (before ++ [last])[k]? = some c)
    (he : c.refusal? (host ((before ++ [last]).take k) c) = some e) :
    k = before.length ∧ c = last := by
  rcases Nat.lt_trichotomy k before.length with hlt | rfl | hgt
  · rw [List.getElem?_append_left hlt] at hk
    rw [List.take_append_of_le_length (Nat.le_of_lt hlt)] at he
    have hnone := h.refusal?_eq_none hk
    rw [List.nil_append] at hnone
    cases hnone.symm.trans he
  · exact ⟨rfl, by simpa using hk.symm⟩
  · have hlong : (before ++ [last]).length ≤ k := by
      rw [List.length_append]
      exact hgt
    rw [List.getElem?_eq_none hlong] at hk
    cases hk

theorem Deed.runFrom_follow_of_granted {host : RememberingHost} {past : List HostCall}
    {c : HostCall} (h : c.refusal? (host past c) = none) (finish : Json → HostDialogue RunEnd)
    (uiState : Json) (deeds : List Deed) :
    (follow finish uiState (.call c :: deeds)).runFrom host past =
      (follow finish uiState deeds).runFrom host (past ++ [c]) := by
  simp only [follow, Dialogue.runFrom, h]

theorem Deed.runFrom_follow_of_refused {host : RememberingHost} {past : List HostCall}
    {c : HostCall} {e : HostError} (h : c.refusal? (host past c) = some e)
    (finish : Json → HostDialogue RunEnd) (uiState : Json) (deeds : List Deed) :
    (follow finish uiState (.call c :: deeds)).runFrom host past =
      (past ++ [c], .failure uiState (.host e)) := by
  simp only [follow, Dialogue.runFrom, h]

namespace Course

/-- A run of a course is granted all calls and ends as the course does, or it ends at the first
call that is refused. -/
theorem runFrom_play (host : RememberingHost) (c : Course) (uiState : Json)
    (past : List HostCall) :
    (Grants host past (Deed.calls c.deeds) ∧
      (c.play uiState).runFrom host past = (past ++ Deed.calls c.deeds, c.ending uiState)) ∨
    ∃ done call rest e, c.deeds = done ++ .call call :: rest ∧
      Grants host past (Deed.calls done) ∧
      call.refusal? (host (past ++ Deed.calls done) call) = some e ∧
      (c.play uiState).runFrom host past =
        (past ++ Deed.calls done ++ [call],
          .failure (Deed.stateAfterAll uiState done) (.host e)) := by
  obtain ⟨deeds, fault⟩ := c
  induction deeds generalizing uiState past with
  | nil =>
      refine .inl ⟨trivial, ?_⟩
      simp [play, Deed.follow, Dialogue.runFrom, Deed.calls, ending, Deed.stateAfterAll, outcome]
  | cons deed deeds ih =>
      cases hcall : deed.call? with
      | none =>
          have hplay : play ⟨deed :: deeds, fault⟩ uiState =
              play ⟨deeds, fault⟩ (deed.stateAfter uiState) := Deed.follow_of_silent _ _ hcall _
          rw [hplay, Deed.calls_of_silent hcall]
          rcases ih (deed.stateAfter uiState) past with
            hgranted | ⟨done, call, rest, e, rfl, hdone, hrefused, hrun⟩
          · exact .inl hgranted
          · refine .inr ⟨deed :: done, call, rest, e, rfl, ?_⟩
            rw [Deed.calls_of_silent hcall]
            exact ⟨hdone, hrefused, hrun⟩
      | some c =>
          obtain rfl := Deed.call?_eq_some_iff.mp hcall
          cases hrefusal : c.refusal? (host past c) with
          | some e =>
              refine .inr ⟨[], c, deeds, e, rfl, trivial, by simpa using hrefusal, ?_⟩
              rw [play, Deed.runFrom_follow_of_refused hrefusal]
              simp [Deed.stateAfterAll]
          | none =>
              have hplay : (play ⟨.call c :: deeds, fault⟩ uiState).runFrom host past =
                  (play ⟨deeds, fault⟩ uiState).runFrom host (past ++ [c]) :=
                Deed.runFrom_follow_of_granted hrefusal _ uiState deeds
              rw [hplay]
              rcases ih uiState (past ++ [c]) with
                ⟨hgrants, hrun⟩ | ⟨done, call, rest, e, rfl, hdone, hrefused, hrun⟩
              · refine .inl ⟨⟨hrefusal, hgrants⟩, ?_⟩
                rw [hrun, Deed.calls_call, List.append_cons past c (Deed.calls deeds)]
                rfl
              · refine .inr ⟨.call c :: done, call, rest, e, rfl, ⟨hrefusal, hdone⟩, ?_⟩
                rw [Deed.calls_call, List.append_cons]
                exact ⟨hrefused, hrun⟩

end Course

theorem Document.runFrom_dispatch_of_granting (d : Document) (scope : ActionScope)
    (uiState : Json) (name : String) {host : RememberingHost}
    (never : ∀ past (c : HostCall), c.refusal? (host past c) = none) :
    (d.dispatch scope uiState name).runFrom host [] =
      (Deed.calls (d.course scope uiState name).deeds,
        (d.course scope uiState name).ending uiState) := by
  rw [dispatch_eq_play]
  rcases Course.runFrom_play host (d.course scope uiState name) uiState [] with
    ⟨-, hrun⟩ | ⟨done, call, rest, e, -, -, hrefused, -⟩
  · exact hrun
  · simp [never] at hrefused

/-- The first host never refuses a call. If the second one does not either, it sees the same calls
and the dispatch ends alike. If it refuses one, the dispatch ends with its error right after this
call, in the state that the deeds before the call have led to. -/
theorem Document.hosts_only_refuse (d : Document) (scope : ActionScope) (uiState : Json)
    (name : String) {h₁ h₂ : RememberingHost}
    (never : ∀ past (c : HostCall), c.refusal? (h₁ past c) = none) :
    let r₁ := (d.dispatch scope uiState name).runFrom h₁ []
    let r₂ := (d.dispatch scope uiState name).runFrom h₂ []
    let course := d.course scope uiState name
    r₁ = (Deed.calls course.deeds, course.ending uiState) ∧
      ((∀ k (c : HostCall), r₂.1[k]? = some c → c.refusal? (h₂ (r₂.1.take k) c) = none) →
        r₂ = r₁) ∧
      ∀ k (c : HostCall) e, r₂.1[k]? = some c → c.refusal? (h₂ (r₂.1.take k) c) = some e →
        r₂.1 = r₁.1.take (k + 1) ∧ r₂.2.result = .error (.host e) ∧
        ∃ done rest, course.deeds = done ++ .call c :: rest ∧ (Deed.calls done).length = k ∧
          r₂.2.uiState = Deed.stateAfterAll uiState done := by
  intro r₁ r₂ course
  have hr₁ : r₁ = (Deed.calls course.deeds, course.ending uiState) :=
    d.runFrom_dispatch_of_granting scope uiState name never
  have hr₂ := Course.runFrom_play h₂ course uiState []
  rw [← d.dispatch_eq_play scope uiState name] at hr₂
  change (_ ∧ r₂ = _) ∨ (∃ done call rest e, _ ∧ _ ∧ _ ∧ r₂ = _) at hr₂
  refine ⟨hr₁, ?_⟩
  rcases hr₂ with ⟨hgrants, hrun⟩ | ⟨done, call, rest, e, hdeeds, hgrants, hrefused, hrun⟩
  · rw [List.nil_append] at hrun
    refine ⟨fun _ => hrun.trans hr₁.symm, fun k c e hk he => ?_⟩
    rw [hrun] at hk he
    have hnone := hgrants.refusal?_eq_none hk
    rw [List.nil_append] at hnone
    cases hnone.symm.trans he
  · simp only [List.nil_append] at hrefused hrun
    have hcalls : Deed.calls course.deeds = Deed.calls done ++ call :: Deed.calls rest := by
      rw [hdeeds, Deed.calls_append, Deed.calls_call]
    rw [hrun]
    dsimp only [RunEnd.failure]
    constructor
    · intro hall
      have hnone := hall (Deed.calls done).length call (by simp)
      simp [hrefused] at hnone
    · intro k c e' hk he'
      obtain ⟨rfl, rfl⟩ := hgrants.last_of_refusal hk he'
      rw [List.take_left, hrefused] at he'
      cases he'
      refine ⟨?_, rfl, done, rest, hdeeds, rfl, rfl⟩
      rw [hr₁, hcalls, List.take_length_add_append]
      rfl

/-- A document with an action that writes into the state before and after it calls the host. -/
def saving : Document :=
  let write (path : String) : Action := ⟨"", "state.setUiState",
    some (.object [("path", .text path), ("value", .bool true)]), [], none, []⟩
  let call (kind : String) : Action :=
    ⟨"", kind, some (.object [("key", .text "draft")]), [], none, []⟩
  ⟨⟨"box", [], none, []⟩, [],
    [⟨"save", "sequence", none,
      [write "begun", call "setParam", write "kept", call "runNode", write "done"], none, []⟩], []⟩

def savingScope : ActionScope :=
  ⟨.object [("id", .string "n")], .empty, .empty, none⟩

/-- A host that refuses to run a node once it has been called. -/
def busyHost : RememberingHost
  | _ :: _, .runNode _ =>
    (.error ⟨"runPluginNode", "busy"⟩ : Except HostError RunOutcome)
  | _, c => c.granted

theorem Document.hosts_only_refuse_busyHost :
    let granted : RememberingHost := fun _ => HostCall.granted
    let r₁ := (saving.dispatch savingScope .empty "save").runFrom granted []
    let r₂ := (saving.dispatch savingScope .empty "save").runFrom busyHost []
    (∀ past (c : HostCall), c.refusal? (granted past c) = none) ∧ r₁.1.length = 2 ∧
      r₂.1 = r₁.1.take 2 ∧ r₂.2.result = .error (.host ⟨"runPluginNode", "busy"⟩) := by
  intro granted r₁ r₂
  have never : ∀ past (c : HostCall), c.refusal? (granted past c) = none := by
    intro past c
    cases c <;> rfl
  obtain ⟨-, -, hrefused⟩ :=
    @hosts_only_refuse saving savingScope .empty "save" granted busyHost never
  obtain ⟨hcalls, hresult, -⟩ := hrefused 1 (.runNode "n") _ rfl rfl
  exact ⟨never, rfl, hcalls, hresult⟩

end WidgetDoc
