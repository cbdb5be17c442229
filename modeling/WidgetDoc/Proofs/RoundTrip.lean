import WidgetDoc.Proofs.Acceptance
import WidgetDoc.Proofs.Written

/-!
# Reading back what was written

The JSON form of a document that was read satisfies the schema and is read as the same document
again. Each kind of record contributes the list of its entries and one round trip.
-/

namespace WidgetDoc

open Encoding Schema

theorem isExprs_of_exprFields? {j : Json} {es : List (String × Expr)}
    (h : exprFields? (some j) = some es) : IsExprs j := by
  obtain ⟨⟨⟩, -⟩ | ⟨fields, ⟨⟩, hfields⟩ := exprFields?_eq_some_iff.mp h
  refine ⟨fields, rfl, fun f hf => ?_⟩
  rw [Expr.ofFields_eq_ok_iff] at hfields
  obtain ⟨g, -, hg⟩ := exists_forall₂_iff.mp ⟨es, hfields⟩ f hf
  exact (Expr.exists_ofJson_iff f.2).mp ⟨g.2, hg⟩

theorem isExpr_of_optionalExpr? {j : Json} {r : Option Expr}
    (h : optionalExpr? (some j) = some r) : j.IsExpr := by
  rcases optionalExpr?_eq_some_iff.mp h with ⟨hj | hj, -⟩ | ⟨_, e, ⟨⟩, -, he, -⟩
  · cases hj
  · cases hj
    exact .null
  · exact (Expr.exists_ofJson_iff j).mp ⟨e, he⟩

/-- A list field that was read is an array, and its items are what was read from. -/
theorem list_of_readsList {α : Type} {read : Json → Option α} {o : Option Json} {rs : List α}
    (h : ReadsList read o rs) : ∀ j, o = some j → ∃ items, j = .array items := by
  rintro j rfl
  obtain ⟨⟨⟩, -⟩ | ⟨items, ⟨⟩, -⟩ := h
  exact ⟨items, rfl⟩

/-- What holds of all written records holds of the items of their array. -/
theorem forall_mem_of_arrayOf? {α : Type} {write : α → Json} {rs : List α} {P : Json → Prop}
    (h : ∀ r ∈ rs, P (write r)) :
    ∀ items, arrayOf? (rs.map write) = some (.array items) → ∀ x ∈ items, P x := by
  intro items hitems x hx
  obtain rfl : rs.map write = items := by
    by_cases hnil : rs.map write = [] <;> simp_all [arrayOf?]
  obtain ⟨r, hr, rfl⟩ := List.mem_map.mp hx
  exact h r hr

/-! ## View nodes -/

namespace ViewNode

def entries (n : ViewNode) : List (String × Option Json) := [
  ("type", some (.string n.type)),
  ("props", objectOf? (Expr.toJsonFields n.props)),
  ("children", arrayOf? (n.children.map toJson)),
  ("text", n.text.map Expr.toJson)]

theorem distinct_entries (n : ViewNode) : Fields.Distinct n.entries := by
  simp [Fields.Distinct, Fields.keys, entries]

theorem toJsonAll_eq_map (ns : List ViewNode) : toJsonAll ns = ns.map toJson := by
  induction ns with
  | nil => rfl
  | cons n ns ih => rw [toJsonAll, ih, List.map_cons]

theorem toJson_eq (n : ViewNode) : n.toJson = .object (record n.entries) := by
  obtain ⟨type, props, text, children⟩ := n
  simp [toJson, record, entries, present, nonEmptyObject_eq, nonEmptyArray_eq, toJsonAll_eq_map]

theorem isView_of_ofJson? {fields : List (String × Json)} {n : ViewNode}
    (h : ofJson? (.object fields) = some n) (named : n.type ≠ "")
    (children : ∀ items, fields.lookup "children" = some (.array items) → ∀ x ∈ items, IsView x) :
    IsView (.object fields) := by
  obtain ⟨htype, hprops, hchildren, htext⟩ := ofJson?_object_eq_some_iff.mp h
  refine .node ⟨n.type, htype, named⟩ ?_ ?_ (list_of_readsList hchildren) children
  · intro j hj
    exact isExprs_of_exprFields? (hj ▸ hprops)
  · intro j hj
    exact isExpr_of_optionalExpr? (hj ▸ htext)

/-- A node that was read from a view is written as a view and read back. -/
theorem ofJson?_toJson {j : Json} (h : IsView j) {n : ViewNode} (hn : ofJson? j = some n) :
    IsView n.toJson ∧ ofJson? n.toJson = some n := by
  induction h generalizing n with
  | @node fields type props text list children ih =>
      obtain ⟨htype, hprops, hchildren, htext⟩ := ofJson?_object_eq_some_iff.mp hn
      have hback : ∀ c ∈ n.children, IsView c.toJson ∧ ofJson? c.toJson = some c :=
        forall_mem_of_readsList hchildren fun items hitems x hx c hc => ih items hitems x hx hc
      have hread : ofJson? (.object (record n.entries)) = some n := by
        rw [ofJson?_object_eq_some_iff]
        simp only [lookup_record n.distinct_entries]
        exact ⟨rfl, exprFields?_objectOf? (canonical_of_exprFields? hprops),
          readsList_arrayOf? fun c hc => (hback c hc).2, optionalExpr?_map_toJson htext⟩
      rw [toJson_eq]
      refine ⟨isView_of_ofJson? hread ?_ ?_, hread⟩
      · obtain ⟨s, hs, hne⟩ := type
        rw [htype] at hs
        cases hs
        exact hne
      · rw [lookup_record n.distinct_entries]
        exact forall_mem_of_arrayOf? fun c hc => (hback c hc).1

end ViewNode

/-! ## Actions -/

namespace Action

def entries (a : Action) : List (String × Option Json) := [
  ("id", some (.string a.id)),
  ("kind", some (.string a.kind)),
  ("input", a.input.map Expr.toJson),
  ("steps", arrayOf? (a.steps.map toJson)),
  ("if", a.condition.map Expr.toJson),
  ("then", arrayOf? (a.branch.map toJson))]

theorem distinct_entries (a : Action) : Fields.Distinct a.entries := by
  simp [Fields.Distinct, Fields.keys, entries]

theorem toJsonAll_eq_map (as : List Action) : toJsonAll as = as.map toJson := by
  induction as with
  | nil => rfl
  | cons a as ih => rw [toJsonAll, ih, List.map_cons]

theorem toJson_eq (a : Action) : a.toJson = .object (record a.entries) := by
  obtain ⟨id, kind, input, steps, condition, branch⟩ := a
  simp [toJson, record, entries, present, nonEmptyArray_eq, toJsonAll_eq_map]

theorem isStep_of_ofJson? {fields : List (String × Json)} {a : Action}
    (h : ofJson? (.object fields) = some a) (named : a.kind ≠ "")
    (steps : ∀ key ∈ stepLists, ∀ items, fields.lookup key = some (.array items) →
      ∀ x ∈ items, IsStep x) : IsStep (.object fields) := by
  obtain ⟨hid, hkind, hinput, hsteps, hcondition, hbranch⟩ := ofJson?_object_eq_some_iff.mp h
  refine .step ?_ ⟨a.kind, hkind, named⟩ ?_ ?_ ?_ steps
  · intro j hj
    rw [hj] at hid
    exact ⟨a.id, Json.string?_eq_some_iff.mp hid⟩
  · intro j hj
    exact isExpr_of_optionalExpr? (hj ▸ hinput)
  · intro j hj
    exact isExpr_of_optionalExpr? (hj ▸ hcondition)
  · simp only [stepLists, List.forall_mem_cons]
    exact ⟨list_of_readsList hsteps, list_of_readsList hbranch, by simp⟩

/-- An action that was read from a step is written as a step and read back. -/
theorem ofJson?_toJson {j : Json} (h : IsStep j) {a : Action} (ha : ofJson? j = some a) :
    IsStep a.toJson ∧ ofJson? a.toJson = some a := by
  induction h generalizing a with
  | @step fields id kind input condition list steps ih =>
      obtain ⟨hid, hkind, hinput, hsteps, hcondition, hbranch⟩ := ofJson?_object_eq_some_iff.mp ha
      simp only [stepLists, List.forall_mem_cons] at ih
      have hback : ∀ s ∈ a.steps, IsStep s.toJson ∧ ofJson? s.toJson = some s :=
        forall_mem_of_readsList hsteps fun items hitems x hx s hs => ih.1 items hitems x hx hs
      have hback' : ∀ s ∈ a.branch, IsStep s.toJson ∧ ofJson? s.toJson = some s :=
        forall_mem_of_readsList hbranch fun items hitems x hx s hs => ih.2.1 items hitems x hx hs
      have hread : ofJson? (.object (record a.entries)) = some a := by
        rw [ofJson?_object_eq_some_iff]
        simp only [lookup_record a.distinct_entries]
        exact ⟨rfl, rfl, optionalExpr?_map_toJson hinput,
          readsList_arrayOf? fun s hs => (hback s hs).2, optionalExpr?_map_toJson hcondition,
          readsList_arrayOf? fun s hs => (hback' s hs).2⟩
      rw [toJson_eq]
      refine ⟨isStep_of_ofJson? hread ?_ ?_, hread⟩
      · obtain ⟨s, hs, hne⟩ := kind
        rw [hkind] at hs
        cases hs
        exact hne
      · simp only [stepLists, List.forall_mem_cons, lookup_record a.distinct_entries]
        exact ⟨forall_mem_of_arrayOf? fun s hs => (hback s hs).1,
          forall_mem_of_arrayOf? fun s hs => (hback' s hs).1, by simp⟩

theorem id_of_hasId {x : Json} {a : Action} (ha : ofJson? x = some a) {id : String}
    (hid : HasId x id) : a.id = id := by
  obtain ⟨fields, rfl, hlookup⟩ := Json.field?_eq_some_iff.mp hid.1
  obtain ⟨h, -⟩ := ofJson?_object_eq_some_iff.mp ha
  rw [hlookup] at h
  exact (Option.some.inj h).symm

theorem hasId_toJson {a : Action} (h : a.id ≠ "") : HasId a.toJson a.id := by
  rw [toJson_eq]
  exact ⟨lookup_record a.distinct_entries "id", h⟩

end Action

/-! ## Queries -/

namespace Query

def entries (q : Query) : List (String × Option Json) := [
  ("id", some (.string q.id)),
  ("kind", some (.string q.kind.name)),
  ("input", some q.input.toJson),
  ("output", some (.object [("into", .string q.target)]))]

theorem distinct_entries (q : Query) : Fields.Distinct q.entries := by
  simp [Fields.Distinct, Fields.keys, entries]

theorem toJson_eq (q : Query) : q.toJson = .object (record q.entries) := rfl

theorem exists_fields_of_ofJson? {j : Json} {q : Query} (h : ofJson? j = some q) :
    ∃ fields, j = .object fields := by
  obtain ⟨_, hid, -⟩ := Option.bind_eq_some_iff.mp h
  obtain ⟨_, hid, -⟩ := Option.bind_eq_some_iff.mp hid
  obtain ⟨fields, rfl, -⟩ := Json.field?_eq_some_iff.mp hid
  exact ⟨fields, rfl⟩

/-- Whatever is read as a query is written as a query and read back. -/
theorem ofJson?_toJson {j : Json} {q : Query} (hq : ofJson? j = some q) :
    IsQuery q.toJson ∧ ofJson? q.toJson = some q := by
  obtain ⟨fields, rfl⟩ := exists_fields_of_ofJson? hq
  obtain ⟨-, -, ⟨input, -, he⟩, -⟩ := ofJson?_object_eq_some_iff.mp hq
  have hinput := Expr.canonical_of_ofJson he
  have hlookup := lookup_record q.distinct_entries
  rw [toJson_eq]
  constructor
  · exact .query q.kind (hlookup _) (hlookup _) ((Expr.exists_ofJson_iff _).mp ⟨_, hinput⟩)
      (hlookup _) rfl
  · rw [ofJson?_object_eq_some_iff]
    exact ⟨hlookup _, hlookup _, ⟨_, hlookup _, hinput⟩, _, hlookup _, rfl⟩

theorem id_of_hasId {x : Json} {q : Query} (hq : ofJson? x = some q) {id : String}
    (hid : HasId x id) : q.id = id := by
  obtain ⟨fields, rfl, hlookup⟩ := Json.field?_eq_some_iff.mp hid.1
  obtain ⟨h, -⟩ := ofJson?_object_eq_some_iff.mp hq
  rw [hlookup] at h
  exact (Json.string.inj (Option.some.inj h)).symm

theorem hasId_toJson {q : Query} (h : q.id ≠ "") : HasId q.toJson q.id :=
  ⟨lookup_record q.distinct_entries "id", h⟩

end Query

/-! ## Registers and documents -/

/-- The records read from a register have non-empty ids, no two of them equal. -/
theorem ids_of_register {α : Type} {read : Json → Option α} {idOf : α → String}
    {P : Json → Prop} {o : Option Json} {rs : List α}
    (register : ∀ j, o = some j → IsRegister P j) (h : ReadsList read o rs)
    (idRead : ∀ x r id, read x = some r → HasId x id → idOf r = id) :
    (rs.map idOf).Nodup ∧ ∀ r ∈ rs, idOf r ≠ "" := by
  obtain ⟨-, rfl⟩ | ⟨items, hitems, hrs⟩ := h
  · simp
  · obtain ⟨_, ⟨⟩, ⟨ids, hids, hnodup⟩, -⟩ := register _ hitems
    have hmap : rs.map idOf = ids := by
      clear hitems hnodup
      induction hrs generalizing ids with
      | nil => exact (List.forall₂_nil_left_iff.mp hids).symm
      | @cons x r xs rs hxr _ ih =>
          obtain ⟨id, ids, hid, hrest, rfl⟩ := List.forall₂_cons_left_iff.mp hids
          rw [List.map_cons, idRead x r id hxr hid, ih ids hrest]
    refine ⟨hmap ▸ hnodup, ?_⟩
    refine forall_mem_of_forall₂ hrs fun x hx r hr => ?_
    obtain ⟨id, hid⟩ := exists_hasId ⟨ids, hids, hnodup⟩ x hx
    exact idRead x r id hr hid ▸ hid.2

/-- A register whose records are written and read back one by one is so as a whole. -/
theorem register_arrayOf? {α : Type} {read : Json → Option α} {write : α → Json}
    {idOf : α → String} {P : Json → Prop} {o : Option Json} {rs : List α}
    (register : ∀ j, o = some j → IsRegister P j) (h : ReadsList read o rs)
    (back : ∀ x r, P x → read x = some r → P (write r) ∧ read (write r) = some r)
    (idRead : ∀ x r id, read x = some r → HasId x id → idOf r = id)
    (idWritten : ∀ r, idOf r ≠ "" → HasId (write r) (idOf r)) :
    (∀ j, arrayOf? (rs.map write) = some j → IsRegister P j) ∧
      ReadsList read (arrayOf? (rs.map write)) rs := by
  have hback : ∀ r ∈ rs, P (write r) ∧ read (write r) = some r := by
    refine forall_mem_of_readsList h fun items hitems x hx r hr => ?_
    obtain ⟨_, ⟨⟩, -, hall⟩ := register _ hitems
    exact back x r (hall x hx) hr
  obtain ⟨hnodup, hne⟩ := ids_of_register register h idRead
  refine ⟨fun j hj => ?_, readsList_arrayOf? fun r hr => (hback r hr).2⟩
  by_cases hnil : rs.map write = []
  · simp [arrayOf?, hnil] at hj
  · rw [arrayOf?, if_neg hnil, Option.some.injEq] at hj
    refine ⟨rs.map write, hj.symm, ⟨rs.map idOf, ?_, hnodup⟩, ?_⟩
    · rw [List.forall₂_map_left_iff, List.forall₂_map_right_iff, List.forall₂_same]
      exact fun r hr => idWritten r (hne r hr)
    · rw [List.forall_mem_map]
      exact fun r hr => (hback r hr).1

namespace Document

def entries (d : Document) : List (String × Option Json) := [
  ("specVersion", some (.string version)),
  ("view", some d.view.toJson),
  ("computed", objectOf? (Expr.toJsonFields d.computed)),
  ("actions", arrayOf? (d.actions.map Action.toJson)),
  ("queries", arrayOf? (d.queries.map Query.toJson))]

theorem distinct_entries (d : Document) : Fields.Distinct d.entries := by
  simp [Fields.Distinct, Fields.keys, entries]

theorem toJson_eq (d : Document) : d.toJson = .object (record d.entries) := by
  simp [toJson, record, entries, present, nonEmptyObject_eq, nonEmptyArray_eq,
    Action.toJsonAll_eq_map]

/-- The fields of a document that was read, and what was read from them. -/
theorem fields_of_read {raw : Json} {d : Document} (h : read raw = .ok d) :
    ∃ fields, raw = .object fields ∧ IsDocument (.object fields) ∧
      ofJson? (.object fields) = some d := by
  obtain ⟨hcheck, hd⟩ := read_eq_ok_iff.mp h
  have hdoc := (check_eq_ok_iff raw).mp hcheck
  cases hdoc with
  | @document fields view version shown isView computed actions queries =>
      exact ⟨fields, rfl, .document version shown isView computed actions queries, hd⟩

theorem read_toJson {raw : Json} {d : Document} (h : read raw = .ok d) :
    read d.toJson = .ok d := by
  obtain ⟨fields, rfl, hdoc, hd⟩ := fields_of_read h
  obtain ⟨⟨view, hview, hn⟩, hcomputed, hactions, hqueries⟩ := ofJson?_object_eq_some_iff.mp hd
  cases hdoc with
  | @document _ view' version shown isView computed actions queries =>
      obtain rfl : view' = view := Option.some.inj (shown.symm.trans hview)
      obtain ⟨hviewSchema, hviewBack⟩ := ViewNode.ofJson?_toJson isView hn
      have hcomputedBack := exprFields?_objectOf? (canonical_of_exprFields? hcomputed)
      obtain ⟨hactionSchema, hactionsBack⟩ := register_arrayOf? actions hactions
        (fun x a hx ha => Action.ofJson?_toJson hx ha) (fun x a id ha => Action.id_of_hasId ha)
        (fun a => Action.hasId_toJson)
      obtain ⟨hquerySchema, hqueriesBack⟩ := register_arrayOf? queries hqueries
        (fun x q _ hq => Query.ofJson?_toJson hq) (fun x q id hq => Query.id_of_hasId hq)
        (fun q => Query.hasId_toJson)
      have hlookup := lookup_record d.distinct_entries
      rw [read_eq_ok_iff, check_eq_ok_iff, toJson_eq]
      constructor
      · refine .document (hlookup _) (hlookup _) hviewSchema ?_ ?_ ?_
        · intro j hj
          have hj' : objectOf? (Expr.toJsonFields d.computed) = some j := (hlookup _).symm.trans hj
          exact isExprs_of_exprFields? (hj' ▸ hcomputedBack)
        · intro j hj
          exact hactionSchema j ((hlookup _).symm.trans hj)
        · intro j hj
          exact hquerySchema j ((hlookup _).symm.trans hj)
      · rw [ofJson?_object_eq_some_iff]
        simp only [hlookup]
        exact ⟨⟨_, rfl, hviewBack⟩, hcomputedBack, hactionsBack, hqueriesBack⟩

end Document

end WidgetDoc
