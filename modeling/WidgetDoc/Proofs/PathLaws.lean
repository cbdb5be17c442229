import WidgetDoc.Proofs.QueryAnswers
import WidgetDoc.Proofs.StateFrame

/-!
# Laws of dot paths

A dot path reads and writes like a lens. What was written is read back, by dot paths and by bindings
alike, a later write at or above the place hides it, and what stands there can be written again
without a change as long as only objects are above it. Writes at paths that diverge do not disturb
each other, and their order does not matter.
-/

namespace WidgetDoc

namespace Json

/-- A write hides one that was made at the same place or below it. -/
theorem write_write_append (v w : Json) (p rest : List String) (j : Json) :
    write w p (write v (p ++ rest) j) = write w p j := by
  induction p generalizing j with
  | nil => rfl
  | cons segment p ih =>
      rw [List.cons_append, write, write, write, fieldsOrNone_object, Fields.lookup_set_self,
        Option.getD_some, ih, Fields.set_set]

/-- Through objects, what is found can be written again without a change. -/
theorem write_of_descend? {p : List String} {j v : Json} (h : j.descend? p = some v)
    (habove : ∀ above, above <+: p → above ≠ p →
      ∃ fields, j.descend? above = some (object fields)) :
    write v p j = j := by
  induction p generalizing j with
  | nil => exact (Option.some.inj h).symm
  | cons segment p ih =>
      obtain ⟨fields, hfields⟩ := habove [] List.nil_prefix (List.cons_ne_nil segment p).symm
      obtain rfl : j = object fields := Option.some.inj hfields
      rw [descend?, Option.bind_eq_some_iff] at h
      obtain ⟨c, hc, hv⟩ := h
      have hlookup : fields.lookup segment = some c := hc
      have hbelow : write v p c = c := by
        refine ih hv fun above hprefix hne => ?_
        have hfound := habove (segment :: above) (List.cons_prefix_cons.mpr ⟨rfl, hprefix⟩)
          fun heq => hne (List.cons.inj heq).2
        rwa [descend?, hc] at hfound
      rw [write, fieldsOrNone_object, hlookup, Option.getD_some, hbelow,
        Fields.set_of_lookup hlookup]

/-- Writes at diverging paths commute up to the order of fields. -/
theorem same_write_comm {p q : List String} (h : Diverge p q) {j v w : Json} (hj : j.WellFormed)
    (hv : v.WellFormed) (hw : w.WellFormed) :
    (write w q (write v p j)).same (write v p (write w q j)) = true := by
  refine (matches_of_show? (hw.write q (hv.write p hj)) (hv.write p (hw.write q hj)) ?_).2
  rw [show?_write, show?_write, show?_write, show?_write, overwrite_comm h.symm]

end Json

namespace DotPath

theorem segments_append (path rest : String) :
    segments (path ++ "." ++ rest) = segments path ++ segments rest := by
  have hlist : (path ++ "." ++ rest).toList = path.toList ++ '.' :: rest.toList := by simp
  rw [segments, hlist, Text.pieces_append_separator, List.filter_append, List.map_append]
  rfl

theorem reach?_set_self {path : String} (h : segments path ≠ []) (root value : Json) :
    (set root path value).reach? (segments path) = some value := by
  rw [set_eq_write h]
  exact Json.reach?_write_self _ _ _

/-- How writing at a dot path and reading, there and elsewhere, go together. -/
structure Lens (path : String) : Prop where
  get_set (root value : Json) : get? (set root path value) path = some value
  get_set_below (root value : Json) (rest : String) :
    get? (set root path value) (path ++ "." ++ rest) = get? value rest
  resolve_set (root value : Json) (ctx : Context) : ctx.uiState = set root path value →
    ctx.resolve ("uiState" :: segments path) = some value
  binding_set (root value : Json) (ctx : Context) (b : Binding) :
    ctx.uiState = set root path value → b.path = "uiState" :: segments path →
      b.comparison = none → b.resolve ctx = some value
  set_set (root v w : Json) (above : String) : segments above ≠ [] →
    segments above <+: segments path → set (set root path v) above w = set root above w
  set_get (root value : Json) : get? root path = some value →
    (∀ above, above <+: segments path → above ≠ segments path →
      ∃ fields, root.descend? above = some (.object fields)) →
    set root path value = root

theorem resolve_of_uiState_eq_set {path : String} (h : segments path ≠ []) {root value : Json}
    {ctx : Context} (hctx : ctx.uiState = set root path value) :
    ctx.resolve ("uiState" :: segments path) = some value := by
  rw [Context.resolve_uiState, hctx]
  exact Json.resolve?_of_reach? (reach?_set_self h root value)

theorem lens {path : String} (h : segments path ≠ []) : Lens path where
  get_set root value := get?_of_reach? (reach?_set_self h root value)
  get_set_below root value rest := by
    rw [get?, segments_append]
    exact Json.descend?_append_of_reach? (reach?_set_self h root value) _
  resolve_set root value ctx hctx := resolve_of_uiState_eq_set h hctx
  binding_set root value ctx b hctx hpath hcomparison := by
    rw [Binding.resolve, hcomparison, hpath]
    exact resolve_of_uiState_eq_set h hctx
  set_set root v w above habove hprefix := by
    obtain ⟨rest, hrest⟩ := hprefix
    rw [set_eq_write h, set_eq_write habove, set_eq_write habove, ← hrest]
    exact Json.write_write_append v w _ rest root
  set_get root value hvalue habove := by
    rw [set_eq_write h]
    exact Json.write_of_descend? hvalue habove

/-- A dot path with a segment is a lens, one without is never written at, and apart from its
segments nothing counts in a dot path. -/
theorem lens_laws :
    (∀ path, segments path ≠ [] → Lens path) ∧
    (∀ path, segments path = [] → ∀ root value, set root path value = root) ∧
    ∀ path path', segments path = segments path' → ∀ root value,
      get? root path = get? root path' ∧ set root path value = set root path' value := by
  refine ⟨fun path => lens, fun path hnil root value => set_of_nil hnil root value, ?_⟩
  intro path path' hsegments root value
  exact ⟨by rw [get?, get?, hsegments], by rw [set, set, hsegments]⟩

theorem lens_laws_panel :
    let path := "panel..title"
    let opened : Json := .object [("panel", .object [("title", .string "a")])]
    segments path = segments "panel.title" ∧ segments path ≠ [] ∧ segments "." = [] ∧
      get? (set (.array [.null]) path opened) (path ++ "." ++ "panel") = get? opened "panel" ∧
      set (set (.bool true) path opened) "panel" .null = set (.bool true) "panel" .null ∧
      set opened "panel.title" (.string "a") = opened ∧ set opened "." .null = opened := by
  intro path opened
  have hsegments : segments path = ["panel", "title"] := by decide +kernel
  have htitle : segments "panel.title" = ["panel", "title"] := by decide +kernel
  have hpanel : segments "panel" = ["panel"] := by decide +kernel
  have hdot : segments "." = [] := by decide +kernel
  obtain ⟨hlens, hnone, hsame⟩ := lens_laws
  have hpath : Lens path := hlens path (by simp [hsegments])
  have hget : get? opened path = some (.string "a") := by
    rw [get?, hsegments]
    rfl
  have hset : set opened path (.string "a") = opened := by
    refine hpath.set_get opened _ hget fun above hprefix hne => ?_
    rw [hsegments] at hprefix hne
    rcases List.prefix_cons_iff.mp hprefix with rfl | ⟨below, rfl, hbelow⟩
    · exact ⟨_, rfl⟩
    · rcases List.prefix_cons_iff.mp hbelow with rfl | ⟨last, rfl, hlast⟩
      · exact ⟨_, rfl⟩
      · exact absurd (by rw [List.prefix_nil.mp hlast]) hne
  refine ⟨hsegments.trans htitle.symm, by simp [hsegments], hdot,
    hpath.get_set_below _ opened "panel", ?_, ?_, hnone "." hdot opened .null⟩
  · exact hpath.set_set _ opened .null "panel" (by simp [hpanel])
      (by rw [hpanel, hsegments]; exact ⟨["title"], rfl⟩)
  · rw [← (hsame path "panel.title" (hsegments.trans htitle.symm) opened (.string "a")).2]
    exact hset

/-! ## Writes that diverge -/

/-- A write is not seen at a diverging path unless it turns an array above that path into an
object. Two writes at diverging paths give the same in either order, whatever they are made in. -/
theorem writes_apart {p q : String} (h : Diverge (segments p) (segments q)) :
    (∀ root value : Json, root.ClearBetween (segments p) (segments q) →
      get? (set root p value) q = get? root q) ∧
    ∀ root v w : Json, root.WellFormed → v.WellFormed → w.WellFormed →
      (set (set root p v) q w).same (set (set root q w) p v) = true := by
  constructor
  · intro root value hclear
    rw [get?, get?, set_eq_write h.left_ne_nil]
    exact Json.descend?_write_of_diverge h hclear value
  · intro root v w hroot hv hw
    simp only [set_eq_write h.left_ne_nil, set_eq_write h.right_ne_nil]
    exact Json.same_write_comm h hroot hv hw

/-- A state with a tab and a list. -/
def tabbed : Json :=
  .object [("tab", .object [("b", .array [])]), ("list", .array [.null])]

theorem clearBetween_tabbed : tabbed.ClearBetween ["tab", "a"] ["tab", "b"] := by
  intro r ha hb items hitems
  rcases List.prefix_cons_iff.mp ha with rfl | ⟨below, rfl, hbelow⟩
  · cases hitems
  · rcases List.prefix_cons_iff.mp hbelow with rfl | ⟨last, rfl, -⟩
    · cases hitems
    · simp at hb

theorem writes_apart_tabbed :
    let v : Json := .object [("op", .string "not")]
    Diverge (segments "tab.a") (segments "tab.b") ∧
      Diverge (segments "list.0") (segments "list.1") ∧
      tabbed.ClearBetween (segments "tab.a") (segments "tab.b") ∧
      tabbed.WellFormed ∧ v.WellFormed ∧
      get? (set tabbed "tab.a" v) "tab.b" = some (.array []) ∧
      (set (set tabbed "list.0" v) "list.1" .null).same
        (set (set tabbed "list.1" .null) "list.0" v) = true := by
  intro v
  have htabs : Diverge (segments "tab.a") (segments "tab.b") := by decide +kernel
  have hlist : Diverge (segments "list.0") (segments "list.1") := by decide +kernel
  have ha : segments "tab.a" = ["tab", "a"] := by decide +kernel
  have hb : segments "tab.b" = ["tab", "b"] := by decide +kernel
  have hclear : tabbed.ClearBetween (segments "tab.a") (segments "tab.b") := by
    rw [ha, hb]
    exact clearBetween_tabbed
  have htabbed : tabbed.WellFormed := by
    simp [tabbed, Json.WellFormed, Json.WellFormedFields, Json.WellFormedItems, Fields.Distinct,
      Fields.keys]
  have hv : v.WellFormed := by
    simp [v, Json.WellFormed, Json.WellFormedFields, Fields.Distinct, Fields.keys]
  have hread : get? tabbed "tab.b" = some (.array []) := by
    rw [get?, hb]
    rfl
  refine ⟨htabs, hlist, hclear, htabbed, hv, ?_, ?_⟩
  · exact ((writes_apart htabs).1 tabbed v hclear).trans hread
  · exact (writes_apart hlist).2 tabbed v .null htabbed hv trivial

end DotPath

end WidgetDoc
