import WidgetDoc.Proofs.SessionDeeds

/-!
# What a session leaves alone

A write changes what it stands above or below and makes objects of everything on its way. So what a
dot path finds stays as it is through a whole session, if all writes diverge from the path and none
of them can turn an array on the way into an object. An object stays an object, and its keys stay
where they are.
-/

namespace WidgetDoc

namespace Json

/-! ## One write -/

theorem child?_eq_lookup {j : Json} (h : ∀ items, j ≠ .array items) (segment : String) :
    j.child? segment = j.fieldsOrNone.lookup segment := by
  cases j with
  | array items => exact absurd rfl (h items)
  | object fields | null | bool b | number n | string s => rfl

theorem descend?_cons_of_ne_array {j : Json} (h : ∀ items, j ≠ .array items) (segment : String)
    (rest : List String) :
    j.descend? (segment :: rest) =
      (j.fieldsOrNone.lookup segment).bind fun c => c.descend? rest := by
  rw [descend?, child?_eq_lookup h]

/-- No common prefix of two paths leads to an array. -/
def ClearBetween (j : Json) (p q : List String) : Prop :=
  ∀ r, r <+: p → r <+: q → ∀ items, j.descend? r ≠ some (.array items)

theorem ClearBetween.ne_array {j : Json} {p q : List String} (h : j.ClearBetween p q)
    (items : List Json) : j ≠ .array items := by
  intro hj
  exact h [] List.nil_prefix List.nil_prefix items (congrArg some hj)

theorem ClearBetween.of_lookup {j c : Json} {segment : String} {p q : List String}
    (h : j.ClearBetween (segment :: p) (segment :: q))
    (hc : j.fieldsOrNone.lookup segment = some c) : c.ClearBetween p q := by
  intro r hp hq items hr
  refine h (segment :: r) (List.cons_prefix_cons.mpr ⟨rfl, hp⟩)
    (List.cons_prefix_cons.mpr ⟨rfl, hq⟩) items ?_
  rw [descend?_cons_of_ne_array h.ne_array, hc]
  exact hr

theorem clearBetween_empty (p q : List String) : empty.ClearBetween p q := by
  intro r _ _ items hr
  cases r with
  | nil => cases hr
  | cons segment r => cases hr

/-- A write leaves alone what a diverging path finds, unless an array stands where they part or
above. -/
theorem descend?_write_of_diverge {p q : List String} (h : Diverge p q) {j : Json}
    (hclear : j.ClearBetween p q) (value : Json) :
    (write value p j).descend? q = j.descend? q := by
  induction p generalizing q j with
  | nil => exact absurd rfl h.left_ne_nil
  | cons a p ih =>
      cases q with
      | nil => exact absurd rfl h.right_ne_nil
      | cons b q =>
          have hobject : ∀ items, write value (a :: p) j ≠ .array items := by
            intro items hitems
            cases hitems
          rw [descend?_cons_of_ne_array hobject, descend?_cons_of_ne_array hclear.ne_array, write,
            fieldsOrNone_object]
          by_cases hab : b = a
          · subst hab
            rw [Fields.lookup_set_self, Option.bind_some]
            cases hc : j.fieldsOrNone.lookup b with
            | some c => exact ih h.tail (hclear.of_lookup hc)
            | none =>
                rw [Option.getD_none, ih h.tail (clearBetween_empty p q)]
                cases q with
                | nil => exact absurd rfl h.tail.right_ne_nil
                | cons segment q => rfl
          · rw [Fields.lookup_set_of_ne _ _ hab]

/-! ## Arrays above a path -/

/-- No proper prefix of a path leads to an array. -/
def ClearAbove (j : Json) (q : List String) : Prop :=
  ∀ r, r <+: q → r ≠ q → ∀ items, j.descend? r ≠ some (.array items)

theorem ClearAbove.clearBetween {j : Json} {p q : List String} (h : j.ClearAbove q)
    (hqp : ¬ q <+: p) : j.ClearBetween p q := by
  intro r hp hq items
  refine h r hq ?_ items
  rintro rfl
  exact hqp hp

theorem ClearAbove.of_prefix {j : Json} {q r : List String} (h : j.ClearAbove q) (hr : r <+: q) :
    j.ClearAbove r := by
  intro r' hr' hne items
  refine h r' (hr'.trans hr) ?_ items
  rintro rfl
  exact hne (hr'.eq_of_length_le hr.length_le)

theorem ClearAbove.write {j : Json} {p q : List String} (h : j.ClearAbove q) (hpq : Diverge p q)
    (value : Json) : (write value p j).ClearAbove q := by
  intro r hr hne items hitems
  by_cases hrp : r <+: p
  · -- Above the value that was written, the write has made an object.
    obtain ⟨rest, rfl⟩ := hrp
    have hfound := descend?_of_reach? (reach?_write_append value r rest j)
    cases rest with
    | nil => exact hpq.1 (by rwa [List.append_nil])
    | cons segment rest =>
        rw [hitems] at hfound
        cases hfound
  · have hpr : Diverge p r := ⟨fun hpr => hpq.1 (hpr.trans hr), hrp⟩
    have hclear := h.of_prefix hr
    rw [descend?_write_of_diverge hpr (hclear.clearBetween hrp)] at hitems
    exact h r hr hne items hitems

end Json

/-! ## Deeds -/

namespace Deed

variable {q : List String} {uiState : Json}

/-- The deed writes nothing, or at a path that diverges from the given one. -/
def Spares (q : List String) : Deed → Prop
  | write path _ => DotPath.segments path ≠ [] → Diverge (DotPath.segments path) q
  | nothing => True
  | call _ => True

instance (q : List String) : (deed : Deed) → Decidable (deed.Spares q)
  | write _ _ => inferInstanceAs (Decidable (_ → _))
  | nothing => .isTrue trivial
  | call _ => .isTrue trivial

theorem Spares.stateAfter {deed : Deed} (h : deed.Spares q) (hclear : uiState.ClearAbove q) :
    (deed.stateAfter uiState).descend? q = uiState.descend? q ∧
      (deed.stateAfter uiState).ClearAbove q := by
  cases deed with
  | nothing => exact ⟨rfl, hclear⟩
  | call c => exact ⟨rfl, hclear⟩
  | write path value =>
      rw [Deed.stateAfter]
      by_cases hpath : DotPath.segments path = []
      · rw [DotPath.set_of_nil hpath]
        exact ⟨rfl, hclear⟩
      · have hdiverge : Diverge (DotPath.segments path) q := h hpath
        rw [DotPath.set_eq_write hpath]
        exact ⟨Json.descend?_write_of_diverge hdiverge (hclear.clearBetween hdiverge.2) value,
          hclear.write hdiverge value⟩

theorem descend?_stateAfterAll {deeds : List Deed} (h : ∀ deed ∈ deeds, deed.Spares q)
    (hclear : uiState.ClearAbove q) :
    (stateAfterAll uiState deeds).descend? q = uiState.descend? q := by
  -- The arrays above the path are needed for the next deed only.
  have hkept : (stateAfterAll uiState deeds).descend? q = uiState.descend? q ∧
      (stateAfterAll uiState deeds).ClearAbove q := by
    refine stateAfterAll_invariant (P := fun u => u.descend? q = uiState.descend? q ∧
      u.ClearAbove q) ⟨rfl, hclear⟩ ?_
    intro deed hdeed u hu
    obtain ⟨hfound, hstill⟩ := (h deed hdeed).stateAfter hu.2
    exact ⟨hfound.trans hu.1, hstill⟩
  exact hkept.1

/-- A deed keeps the keys of an object in their places; a new one comes last. -/
theorem stateAfter_object (deed : Deed) (fields : Fields Json) :
    ∃ fields', deed.stateAfter (.object fields) = .object fields' ∧
      Fields.keys fields <+: Fields.keys fields' := by
  rcases deed.stateAfter_eq_or_set (.object fields) with hsame | ⟨key, x, hset⟩
  · exact ⟨fields, hsame, List.prefix_refl _⟩
  · refine ⟨_, hset, ?_⟩
    rw [Json.fieldsOrNone_object, Fields.keys_set]
    split
    · exact List.prefix_refl _
    · exact List.prefix_append _ _

theorem stateAfterAll_object (deeds : List Deed) (fields : Fields Json) :
    ∃ fields', stateAfterAll (.object fields) deeds = .object fields' ∧
      Fields.keys fields <+: Fields.keys fields' := by
  refine stateAfterAll_invariant (P := fun u => ∃ fields', u = .object fields' ∧
    Fields.keys fields <+: Fields.keys fields') ⟨fields, rfl, List.prefix_refl _⟩ ?_
  rintro deed - _ ⟨mid, rfl, hkeys⟩
  obtain ⟨fields', hend, hkeys'⟩ := deed.stateAfter_object mid
  exact ⟨fields', hend, hkeys.trans hkeys'⟩

end Deed

namespace Surface

/-- Through a whole session a dot path finds what it found before, if every write of a successful
operation diverges from it and at first no array stands above it. A state that is an object stays
one, and its keys only grow at the end. -/
theorem session_frame (s : Surface) (ops : List LiveOperation) :
    (s.afterLive ops).uiState = Deed.stateAfterAll s.uiState (s.sessionDeeds ops) ∧
    (∀ path, (∀ deed ∈ s.sessionDeeds ops, deed.Spares (DotPath.segments path)) →
      s.uiState.ClearAbove (DotPath.segments path) →
      DotPath.get? (s.afterLive ops).uiState path = DotPath.get? s.uiState path) ∧
    ∀ before after fields, ops = before ++ after → s.uiState = .object fields →
      ∃ mid final, (s.afterLive before).uiState = .object mid ∧
        (s.afterLive ops).uiState = .object final ∧
        Fields.keys fields <+: Fields.keys mid ∧ Fields.keys mid <+: Fields.keys final := by
  refine ⟨s.uiState_afterLive ops, ?_, ?_⟩
  · intro path hspares hclear
    rw [DotPath.get?, DotPath.get?, uiState_afterLive]
    exact Deed.descend?_stateAfterAll hspares hclear
  · intro before after fields hops hfields
    obtain ⟨mid, hmid, hkeys⟩ := Deed.stateAfterAll_object (s.sessionDeeds before) fields
    rw [← hfields, ← uiState_afterLive] at hmid
    obtain ⟨final, hfinal, hkeys'⟩ :=
      Deed.stateAfterAll_object ((s.afterLive before).sessionDeeds after) mid
    rw [← hmid, ← uiState_afterLive, ← afterLive_append, ← hops] at hfinal
    exact ⟨mid, final, hmid, hfinal, hkeys, hkeys'⟩

/-- A document that marks the panel named by the state, renames it and looks for its title. -/
def panelled : Document :=
  let write (path : Expr) : Action :=
    ⟨"", "state.setUiState", some (.object [("path", path), ("value", .bool true)]), [], none, []⟩
  let mode : Expr := .binding ⟨"${uiState.mode}", ["uiState", "mode"], none⟩
  let call (kind : String) : Action :=
    ⟨"", kind, some (.object [("key", .text "title")]), [], none, []⟩
  ⟨⟨"box", [], none, []⟩, [],
    [⟨"mark", "sequence", none, [write (.operator "concat" [.text "panel.", mode])], none, []⟩,
      ⟨"rename", "sequence", none,
        [write (.text "panel.title"), call "setParam", call "runNode"], none, []⟩],
    [⟨"title", .fileExists, .object [("path", .text "title.txt")], "panel.found"⟩]⟩

/-- The renaming is refused after it has written the title. -/
def panelSession : List LiveOperation :=
  [.dispatch "rename" none busyHost, .dispatch "mark" none fun _ => HostCall.granted,
    .queries ["title", "none"] fun _ => fun
      | .file path => (.ok ⟨path, ""⟩ : Except ProbeError FileContent)
      | .tree root _ => (.error (.notFound root) : Except ProbeError TreeNode)]

def panelSurface : Surface :=
  ⟨panelled, .object [("id", .string "n")],
    .object [("mode", .string "open"), ("panel", .object [("title", .array [.null])])], none⟩

theorem panelSurface_clearAbove :
    panelSurface.uiState.ClearAbove (DotPath.segments "panel.title") := by
  have hsegments : DotPath.segments "panel.title" = ["panel", "title"] := by decide +kernel
  rw [hsegments]
  intro r hr hne items hitems
  rcases List.prefix_cons_iff.mp hr with rfl | ⟨below, rfl, hbelow⟩
  · cases hitems
  · rcases List.prefix_cons_iff.mp hbelow with rfl | ⟨last, rfl, hlast⟩
    · cases hitems
    · exact hne (by rw [List.prefix_nil.mp hlast])

theorem session_frame_panelled :
    (panelSurface.sessionDeeds panelSession).length = 2 ∧
      (∀ deed ∈ panelSurface.sessionDeeds panelSession,
        deed.Spares (DotPath.segments "panel.title")) ∧
      DotPath.get? (panelSurface.afterLive panelSession).uiState "panel.title" =
        some (.array [.null]) ∧
      ∃ mid final, (panelSurface.afterLive (panelSession.take 2)).uiState = .object mid ∧
        (panelSurface.afterLive panelSession).uiState = .object final ∧
        ["mode", "panel"] <+: Fields.keys mid ∧ Fields.keys mid <+: Fields.keys final := by
  have hspares : ∀ deed ∈ panelSurface.sessionDeeds panelSession,
      deed.Spares (DotPath.segments "panel.title") := by decide +kernel
  obtain ⟨-, hframe, hkeys⟩ := session_frame panelSurface panelSession
  refine ⟨by decide +kernel, hspares, ?_, ?_⟩
  · exact hframe "panel.title" hspares panelSurface_clearAbove
  · exact hkeys (panelSession.take 2) (panelSession.drop 2) _ rfl rfl

end Surface

end WidgetDoc
