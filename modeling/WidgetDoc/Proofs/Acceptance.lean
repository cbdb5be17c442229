import WidgetDoc.Proofs.Schema

/-!
# Which documents are read

The check and the decoder walk a document independently. Whatever passes the check can be decoded,
so reading succeeds exactly on the values that the schema admits, and a document is never refused
as undecodable.
-/

namespace WidgetDoc

open Encoding Schema

/-! ## What the schema admits can be decoded -/

theorem exists_optionalExpr? {o : Option Json} (h : ∀ j, o = some j → j.IsExpr) :
    ∃ r, optionalExpr? o = some r := by
  simp only [optionalExpr?_eq_some_iff]
  rcases o with _ | j
  · exact ⟨none, .inl ⟨.inl rfl, rfl⟩⟩
  · by_cases hj : j = .null
    · exact ⟨none, .inl ⟨.inr (congrArg some hj), rfl⟩⟩
    · obtain ⟨e, he⟩ := (Expr.exists_ofJson_iff j).mpr (h j rfl)
      exact ⟨some e, .inr ⟨j, e, rfl, hj, he, rfl⟩⟩

theorem exists_ofFields {fields : List (String × Json)} (h : ∀ f ∈ fields, f.2.IsExpr) :
    ∃ es, Expr.ofFields fields = .ok es := by
  simp only [Expr.ofFields_eq_ok_iff, exists_forall₂_iff]
  intro f hf
  obtain ⟨e, he⟩ := (Expr.exists_ofJson_iff f.2).mpr (h f hf)
  exact ⟨(f.1, e), rfl, he⟩

theorem exists_exprFields? {o : Option Json} (h : ∀ j, o = some j → IsExprs j) :
    ∃ es, exprFields? o = some es := by
  simp only [exprFields?_eq_some_iff]
  rcases o with _ | j
  · exact ⟨[], .inl ⟨rfl, rfl⟩⟩
  · obtain ⟨fields, rfl, hfields⟩ := h j rfl
    obtain ⟨es, hes⟩ := exists_ofFields hfields
    exact ⟨es, .inr ⟨fields, rfl, hes⟩⟩

theorem ViewNode.exists_ofJson? {j : Json} (h : IsView j) : ∃ n, ViewNode.ofJson? j = some n := by
  induction h with
  | node type props text list _ ih =>
      obtain ⟨type, htype, -⟩ := type
      obtain ⟨props, hprops⟩ := exists_exprFields? props
      obtain ⟨text, htext⟩ := exists_optionalExpr? text
      obtain ⟨children, hchildren⟩ := exists_readsList list ih
      exact ⟨⟨type, props, text, children⟩,
        ofJson?_object_eq_some_iff.mpr ⟨htype, hprops, hchildren, htext⟩⟩

theorem Action.exists_ofJson? {j : Json} (h : IsStep j) : ∃ a, Action.ofJson? j = some a := by
  induction h with
  | @step fields id kind input condition list _ ih =>
      obtain ⟨id, hid⟩ : ∃ s, id? (fields.lookup "id") = some s := by
        cases hid : fields.lookup "id" with
        | none => exact ⟨"", rfl⟩
        | some j =>
            obtain ⟨s, rfl⟩ := id j hid
            exact ⟨s, rfl⟩
      obtain ⟨kind, hkind, -⟩ := kind
      obtain ⟨input, hinput⟩ := exists_optionalExpr? input
      obtain ⟨condition, hcondition⟩ := exists_optionalExpr? condition
      simp only [stepLists, List.forall_mem_cons] at list ih
      obtain ⟨steps, hsteps⟩ := exists_readsList list.1 ih.1
      obtain ⟨branch, hbranch⟩ := exists_readsList list.2.1 ih.2.1
      exact ⟨⟨id, kind, input, steps, condition, branch⟩,
        ofJson?_object_eq_some_iff.mpr ⟨hid, hkind, hinput, hsteps, hcondition, hbranch⟩⟩

theorem Query.exists_ofJson? {j : Json} (h : IsQuery j) {id : String} (hid : HasId j id) :
    ∃ q, Query.ofJson? j = some q := by
  cases h with
  | @query fields output input target kind named asked isExpr answered into =>
      obtain ⟨e, he⟩ := (Expr.exists_ofJson_iff input).mpr isExpr
      exact ⟨⟨id, kind, e, target⟩, ofJson?_object_eq_some_iff.mpr
        ⟨hid.1, named, ⟨input, asked, he⟩, output, answered, into⟩⟩

theorem exists_hasId {items : List Json} (h : Identified items) : ∀ x ∈ items, ∃ id, HasId x id := by
  obtain ⟨ids, hids, -⟩ := h
  exact exists_forall₂_iff.mp ⟨ids, hids⟩

/-- A register is read if each of its identified records can be. -/
theorem exists_readsList_register {α : Type} {read : Json → Option α} {P : Json → Prop}
    {o : Option Json} (h : ∀ j, o = some j → IsRegister P j)
    (readable : ∀ x id, HasId x id → P x → ∃ r, read x = some r) : ∃ rs, ReadsList read o rs := by
  refine exists_readsList (fun j hj => ?_) fun items hitems x hx => ?_
  · obtain ⟨items, rfl, -⟩ := h j hj
    exact ⟨items, rfl⟩
  · obtain ⟨_, ⟨⟩, identified, all⟩ := h _ hitems
    obtain ⟨id, hid⟩ := exists_hasId identified x hx
    exact readable x id hid (all x hx)

theorem Document.exists_ofJson? {j : Json} (h : IsDocument j) :
    ∃ d, Document.ofJson? j = some d := by
  cases h with
  | @document fields view version shown isView computed actions queries =>
      obtain ⟨n, hview⟩ := ViewNode.exists_ofJson? isView
      obtain ⟨computed, hcomputed⟩ := exists_exprFields? computed
      obtain ⟨actions, hactions⟩ := exists_readsList_register actions
        fun x id _ hx => Action.exists_ofJson? hx
      obtain ⟨queries, hqueries⟩ := exists_readsList_register queries
        fun x id hid hx => Query.exists_ofJson? hx hid
      exact ⟨⟨n, computed, actions, queries⟩, ofJson?_object_eq_some_iff.mpr
        ⟨⟨view, shown, hview⟩, hcomputed, hactions, hqueries⟩⟩

/-! ## What a check reports -/

namespace Schema

/-- A check that blames the shape of a value and never the reading of its text. -/
def ReportsShape (c : Check) : Prop :=
  ∀ e, c = .error e → e.code ≠ "A2UI_E_PARSE"

theorem reportsShape_ok : ReportsShape (.ok ()) := by
  rintro _ ⟨⟩

theorem reportsShape_fault {f : Fault} (here : Location) (h : f.code ≠ "A2UI_E_PARSE") :
    ReportsShape (fault f here) := by
  rintro _ ⟨⟩
  exact h

theorem ReportsShape.andThen {c : Check} {next : Unit → Check} (hc : ReportsShape c)
    (hnext : ReportsShape (next ())) : ReportsShape (c >>= next) := by
  cases c with
  | ok _ => exact hnext
  | error e => exact hc

theorem ReportsShape.unless {p : Prop} [Decidable p] {f : Fault} {here : Location} {c : Check}
    (hc : ReportsShape c) (h : f.code ≠ "A2UI_E_PARSE") :
    ReportsShape (if p then fault f here else c) := by
  by_cases hp : p
  · simpa only [if_pos hp] using reportsShape_fault here h
  · simpa only [if_neg hp] using hc

theorem reportsShape_optionally {check : Json → Check} {o : Option Json}
    (h : ∀ j, o = some j → ReportsShape (check j)) : ReportsShape (optionally check o) := by
  cases o with
  | none => exact reportsShape_ok
  | some j => exact h j rfl

theorem reportsShape_walk {check : Location → Json → Check} {walk : Nat → List Json → Check}
    {here : Location} (nil : ∀ i, walk i [] = .ok ())
    (cons : ∀ i x xs, walk i (x :: xs) = check (here ++ [.index i]) x >>= fun _ => walk (i + 1) xs)
    {items : List Json} (h : ∀ x ∈ items, ∀ here, ReportsShape (check here x)) (i : Nat) :
    ReportsShape (walk i items) := by
  induction items generalizing i with
  | nil => exact nil i ▸ reportsShape_ok
  | cons x xs ih =>
      obtain ⟨hx, hxs⟩ := List.forall_mem_cons.mp h
      rw [cons]
      exact (hx _).andThen (ih hxs (i + 1))

theorem reportsShape_checkExpr (here : Location) (j : Json) : ReportsShape (checkExpr here j) := by
  unfold checkExpr
  split
  · exact reportsShape_ok
  · exact reportsShape_fault _ (by simp [Fault.code])

theorem reportsShape_checkExprs (here : Location) (j : Json) :
    ReportsShape (checkExprs here j) := by
  cases j with
  | object fields =>
      rw [checkExprs]
      induction fields with
      | nil => exact reportsShape_ok
      | cons f fields ih => exact (reportsShape_checkExpr _ _).andThen ih
  | null | bool b | number n | string s | array items =>
      exact reportsShape_fault _ (by decide)

theorem reportsShape_checkView (here : Location) (j : Json) : ReportsShape (checkView here j) := by
  induction j using Json.recordInduction generalizing here with
  | other j hj =>
      cases j with
      | object fields => simp [Json.object?] at hj
      | null | bool b | number n | string s | array items =>
          exact reportsShape_fault _ (by decide)
  | object fields ih =>
      simp only [checkView, fault_bind, checkChildrenField_eq]
      refine ReportsShape.unless ?_ (by decide)
      refine (reportsShape_optionally fun j _ => reportsShape_checkExprs _ j).andThen ?_
      refine (reportsShape_optionally fun j _ => reportsShape_checkExpr _ j).andThen ?_
      refine reportsShape_optionally fun j hj => ?_
      cases j with
      | array items =>
          exact reportsShape_walk (fun _ => rfl) (fun _ _ _ => rfl)
            (fun x hx here => ih "children" items hj x hx here) 0
      | null | bool b | number n | string s | object fields =>
          exact reportsShape_fault _ (by decide)

theorem reportsShape_checkStepId (here : Location) (o : Option Json) :
    ReportsShape (checkStepId here o) := by
  rcases o with _ | (_ | b | n | s | items | fields)
  case none => exact reportsShape_ok
  case some.string => exact reportsShape_ok
  all_goals exact reportsShape_fault _ (by decide)

theorem reportsShape_checkStep (here : Location) (j : Json) : ReportsShape (checkStep here j) := by
  induction j using Json.recordInduction generalizing here with
  | other j hj =>
      cases j with
      | object fields => simp [Json.object?] at hj
      | null | bool b | number n | string s | array items =>
          exact reportsShape_fault _ (by decide)
  | object fields ih =>
      have hlist : ∀ key, ReportsShape (checkStepsField here key fields) := by
        intro key
        rw [checkStepsField_eq]
        refine reportsShape_optionally fun j hj => ?_
        cases j with
        | array items =>
            exact reportsShape_walk (fun _ => rfl) (fun _ _ _ => rfl)
              (fun x hx here => ih key items hj x hx here) 0
        | null | bool b | number n | string s | object fields =>
            exact reportsShape_fault _ (by simp [Fault.code])
      simp only [checkStep, fault_bind]
      refine (reportsShape_checkStepId _ _).andThen (ReportsShape.unless ?_ (by decide))
      refine (reportsShape_optionally fun j _ => reportsShape_checkExpr _ j).andThen ?_
      refine (reportsShape_optionally fun j _ => reportsShape_checkExpr _ j).andThen ?_
      exact (hlist "steps").andThen (hlist "then")

theorem reportsShape_checkActions (j : Json) : ReportsShape (checkActions j) := by
  have hitems : ∀ i seen items, ReportsShape (checkActionItems i seen items) := by
    intro i seen items
    induction items generalizing i seen with
    | nil => exact reportsShape_ok
    | cons x xs ih =>
        simp only [checkActionItems, fault_bind]
        refine ReportsShape.unless (ReportsShape.unless ?_ (by simp [Fault.code])) (by decide)
        exact (reportsShape_checkStep _ x).andThen (ih _ _)
  cases j with
  | array items => exact hitems 0 [] items
  | null | bool b | number n | string s | object fields => exact reportsShape_fault _ (by decide)

theorem reportsShape_checkQuery (here : Location) (seen : List String) (j : Json) :
    ReportsShape (checkQuery here seen j) := by
  simp only [checkQuery, fault_bind]
  refine ReportsShape.unless ?_ (by decide)
  refine ReportsShape.unless (ReportsShape.unless ?_ (by simp [Fault.code])) (by simp [Fault.code])
  refine ReportsShape.andThen ?_ ?_
  · cases j.field? "input" with
    | none => exact reportsShape_fault _ (by decide)
    | some x => exact reportsShape_checkExpr _ x
  · unfold checkQueryTarget
    split
    · exact reportsShape_ok
    · exact reportsShape_fault _ (by decide)

theorem reportsShape_checkQueries (j : Json) : ReportsShape (checkQueries j) := by
  have hitems : ∀ i seen items, ReportsShape (checkQueryItems i seen items) := by
    intro i seen items
    induction items generalizing i seen with
    | nil => exact reportsShape_ok
    | cons x xs ih =>
        simp only [checkQueryItems, fault_bind]
        refine ReportsShape.unless ?_ (by decide)
        exact (reportsShape_checkQuery _ seen x).andThen (ih _ _)
  cases j with
  | array items => exact hitems 0 [] items
  | null | bool b | number n | string s | object fields => exact reportsShape_fault _ (by decide)

theorem reportsShape_checkVersion (o : Option Json) : ReportsShape (checkVersion o) := by
  unfold checkVersion
  split
  · split
    · exact reportsShape_ok
    · exact reportsShape_fault _ (by simp [Fault.code])
  · exact reportsShape_fault _ (by simp [Fault.code])
  · exact reportsShape_fault _ (by decide)

theorem reportsShape_check (j : Json) : ReportsShape (Document.check j) := by
  cases j with
  | object fields =>
      refine (reportsShape_checkVersion _).andThen (ReportsShape.andThen ?_ ?_)
      · cases fields.lookup "view" with
        | none => exact reportsShape_fault _ (by decide)
        | some view => exact reportsShape_checkView _ view
      · refine (reportsShape_optionally fun j _ => reportsShape_checkExprs _ j).andThen ?_
        refine (reportsShape_optionally fun j _ => reportsShape_checkActions j).andThen ?_
        exact reportsShape_optionally fun j _ => reportsShape_checkQueries j
  | null | bool b | number n | string s | array items => exact reportsShape_fault _ (by decide)

end Schema

/-! ## Reading documents -/

namespace Document

theorem read_eq_ok_iff {raw : Json} {d : Document} :
    read raw = .ok d ↔ check raw = .ok () ∧ ofJson? raw = some d := by
  unfold read
  cases check raw with
  | error e => simp
  | ok _ => cases ofJson? raw <;> simp

theorem exists_read_iff (raw : Json) : (∃ d, read raw = .ok d) ↔ check raw = .ok () := by
  simp only [read_eq_ok_iff]
  constructor
  · rintro ⟨d, h, -⟩
    exact h
  · intro h
    obtain ⟨d, hd⟩ := exists_ofJson? ((check_eq_ok_iff raw).mp h)
    exact ⟨d, h, hd⟩

/-- The error of a document that is not read is the one its check reports. -/
theorem check_eq_error_of_read {raw : Json} {e : ValidationError} (h : read raw = .error e) :
    check raw = .error e := by
  cases hcheck : check raw with
  | error e' => simpa [read, hcheck] using h
  | ok _ =>
      obtain ⟨d, hd⟩ := (exists_read_iff raw).mpr hcheck
      rw [h] at hd
      cases hd

/-- Check and decoder agree on every value, both accept exactly the schema, and a value that is
refused is refused for its shape. -/
theorem read_accepts_schema (raw : Json) :
    ((∃ d, read raw = .ok d) ↔ check raw = .ok ()) ∧
      (check raw = .ok () → ∃ d, ofJson? raw = some d) ∧
      ((∃ d, read raw = .ok d) ↔ IsDocument raw) ∧
      ∀ e, read raw = .error e → e.code ≠ "A2UI_E_PARSE" := by
  refine ⟨exists_read_iff raw, fun h => ?_, ?_, fun e h => ?_⟩
  · exact exists_ofJson? ((check_eq_ok_iff raw).mp h)
  · rw [exists_read_iff, check_eq_ok_iff]
  · exact reportsShape_check raw e (check_eq_error_of_read h)

end Document

end WidgetDoc
