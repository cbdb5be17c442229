import WidgetDoc.Document.Schema
import WidgetDoc.Proofs.Decoding

/-!
# The schema as predicates

`IsDocument` states what a document is, field by field and without an order of checking. The
checks of `Document.check` pass exactly the values of the matching predicate, wherever in the
document they are looked at, and no check reports a text that cannot be read.
-/

namespace WidgetDoc

namespace Schema

/-- An object of expressions. -/
def IsExprs (j : Json) : Prop :=
  ∃ fields, j = .object fields ∧ ∀ f ∈ fields, f.2.IsExpr

inductive IsView : Json → Prop where
  | node {fields : List (String × Json)}
      (type : ∃ s, fields.lookup "type" = some (.string s) ∧ s ≠ "")
      (props : ∀ j, fields.lookup "props" = some j → IsExprs j)
      (text : ∀ j, fields.lookup "text" = some j → j.IsExpr)
      (list : ∀ j, fields.lookup "children" = some j → ∃ items, j = .array items)
      (children : ∀ items, fields.lookup "children" = some (.array items) →
        ∀ x ∈ items, IsView x) : IsView (.object fields)

/-- The fields of a step that hold steps. -/
def stepLists : List String := ["steps", "then"]

inductive IsStep : Json → Prop where
  | step {fields : List (String × Json)}
      (id : ∀ j, fields.lookup "id" = some j → ∃ s, j = .string s)
      (kind : ∃ s, fields.lookup "kind" = some (.string s) ∧ s ≠ "")
      (input : ∀ j, fields.lookup "input" = some j → j.IsExpr)
      (condition : ∀ j, fields.lookup "if" = some j → j.IsExpr)
      (list : ∀ key ∈ stepLists, ∀ j, fields.lookup key = some j → ∃ items, j = .array items)
      (steps : ∀ key ∈ stepLists, ∀ items, fields.lookup key = some (.array items) →
        ∀ x ∈ items, IsStep x) : IsStep (.object fields)

inductive IsQuery : Json → Prop where
  | query {fields output : List (String × Json)} {input : Json} {target : String}
      (kind : QueryKind) (named : fields.lookup "kind" = some (.string kind.name))
      (asked : fields.lookup "input" = some input) (isExpr : input.IsExpr)
      (answered : fields.lookup "output" = some (.object output))
      (into : output.lookup "into" = some (.string target)) : IsQuery (.object fields)

def HasId (x : Json) (id : String) : Prop :=
  x.field? "id" = some (.string id) ∧ id ≠ ""

/-- Records whose ids are non-empty strings, no two of them equal. -/
def Identified (items : List Json) : Prop :=
  ∃ ids, List.Forall₂ HasId items ids ∧ ids.Nodup

/-- An array of identified records that all satisfy a predicate. -/
def IsRegister (P : Json → Prop) (j : Json) : Prop :=
  ∃ items, j = .array items ∧ Identified items ∧ ∀ x ∈ items, P x

inductive IsDocument : Json → Prop where
  | document {fields : List (String × Json)} {view : Json}
      (version : fields.lookup "specVersion" = some (.string "0.1"))
      (shown : fields.lookup "view" = some view) (isView : IsView view)
      (computed : ∀ j, fields.lookup "computed" = some j → IsExprs j)
      (actions : ∀ j, fields.lookup "actions" = some j → IsRegister IsStep j)
      (queries : ∀ j, fields.lookup "queries" = some j → IsRegister IsQuery j) :
      IsDocument (.object fields)

/-! ## When a check passes -/

@[simp] theorem fault_bind (f : Fault) (here : Location) (next : Unit → Check) :
    (fault f here >>= next) = fault f here := rfl

@[simp] theorem fault_ne_ok (f : Fault) (here : Location) : fault f here ≠ .ok () := by
  simp [fault]

theorem then_eq_ok_iff {c : Check} {next : Unit → Check} :
    (c >>= next) = .ok () ↔ c = .ok () ∧ next () = .ok () := by
  cases c <;> simp [bind, Except.bind]

theorem guard_eq_ok_iff {p : Prop} [Decidable p] {f : Fault} {here : Location} {c : Check} :
    (if p then fault f here else c) = .ok () ↔ ¬p ∧ c = .ok () := by
  by_cases h : p <;> simp [h]

theorem optionally_eq_ok_iff {check : Json → Check} {o : Option Json} :
    optionally check o = .ok () ↔ ∀ j, o = some j → check j = .ok () := by
  cases o <;> simp [optionally]

theorem isName_iff {o : Option Json} :
    isName o = true ↔ ∃ s, o = some (.string s) ∧ s ≠ "" := by
  rcases o with _ | (_ | b | n | s | items | fields) <;> simp [isName]

theorem checkExpr_eq_ok_iff (here : Location) (j : Json) :
    checkExpr here j = .ok () ↔ j.IsExpr := by
  rw [← Expr.exists_ofJson_iff]
  cases h : Expr.ofJson j <;> simp [checkExpr, h]

theorem checkExprFields_eq_ok_iff (here : Location) (fields : List (String × Json)) :
    checkExprFields here fields = .ok () ↔ ∀ f ∈ fields, f.2.IsExpr := by
  induction fields with
  | nil => simp [checkExprFields]
  | cons f fields ih =>
      rw [checkExprFields, then_eq_ok_iff, checkExpr_eq_ok_iff, ih, List.forall_mem_cons]

theorem checkExprs_eq_ok_iff (here : Location) (j : Json) :
    checkExprs here j = .ok () ↔ IsExprs j := by
  cases j <;> simp [checkExprs, IsExprs, checkExprFields_eq_ok_iff]

theorem checkChildrenField_eq (here : Location) (fields : List (String × Json)) :
    checkChildrenField here fields =
      optionally (checkChildren here) (fields.lookup "children") := by
  have hwalk : checkChildrenField here fields =
      (fields.lookup "children").elim (.ok ()) (checkChildren here) :=
    walk_eq_lookup rfl (fun _ _ _ => rfl) fields
  rw [hwalk]
  cases fields.lookup "children" <;> rfl

theorem checkStepsField_eq (here : Location) (name : String) (fields : List (String × Json)) :
    checkStepsField here name fields =
      optionally (checkStepList here name) (fields.lookup name) := by
  have hwalk : checkStepsField here name fields =
      (fields.lookup name).elim (.ok ()) (checkStepList here name) :=
    walk_eq_lookup rfl (fun _ _ _ => rfl) fields
  rw [hwalk]
  cases fields.lookup name <;> rfl

/-! ## Lists of records -/

/-- A walk that checks the items of a list one by one passes if all items do. -/
theorem walk_items_eq_ok_iff {P : Json → Prop} {check : Location → Json → Check}
    {walk : Nat → List Json → Check} {here : Location} (nil : ∀ i, walk i [] = .ok ())
    (cons : ∀ i x xs, walk i (x :: xs) = check (here ++ [.index i]) x >>= fun _ => walk (i + 1) xs)
    {items : List Json} (h : ∀ x ∈ items, ∀ here, check here x = .ok () ↔ P x) (i : Nat) :
    walk i items = .ok () ↔ ∀ x ∈ items, P x := by
  induction items generalizing i with
  | nil => simp [nil]
  | cons x xs ih =>
      obtain ⟨hx, hxs⟩ := List.forall_mem_cons.mp h
      rw [cons, then_eq_ok_iff, hx, ih hxs, List.forall_mem_cons]

/-- An optional list field is absent or an array whose items pass. -/
theorem listField_eq_ok_iff {P : Json → Prop} {check : Json → Check} {o : Option Json}
    (array : ∀ items, o = some (.array items) →
      (check (.array items) = .ok () ↔ ∀ x ∈ items, P x))
    (other : ∀ j : Json, j.array? = none → check j ≠ .ok ()) :
    optionally check o = .ok () ↔ (∀ j, o = some j → ∃ items, j = .array items) ∧
      ∀ items, o = some (.array items) → ∀ x ∈ items, P x := by
  rcases o with _ | j
  · simp [optionally]
  · cases j with
    | array items => simp [optionally, array items rfl]
    | null | bool b | number n | string s | object fields =>
        simpa [optionally] using other _ rfl

theorem checkView_eq_ok_iff (here : Location) (j : Json) :
    checkView here j = .ok () ↔ IsView j := by
  induction j using Json.recordInduction generalizing here with
  | other j hj =>
      have hview : ¬IsView j := by
        rintro ⟨⟩
        simp [Json.object?] at hj
      cases j <;> simp_all [checkView, Json.object?]
  | object fields ih =>
      have hchildren : ∀ here, checkChildrenField here fields = .ok () ↔
          (∀ j, fields.lookup "children" = some j → ∃ items, j = .array items) ∧
            ∀ items, fields.lookup "children" = some (.array items) → ∀ x ∈ items, IsView x := by
        intro here
        rw [checkChildrenField_eq]
        refine listField_eq_ok_iff (fun items hitems => ?_) fun j hj => ?_
        · exact walk_items_eq_ok_iff (fun _ => rfl) (fun _ _ _ => rfl)
            (fun x hx here => ih "children" items hitems x hx here) 0
        · cases j <;> simp_all [checkChildren, Json.array?]
      simp only [checkView, fault_bind, guard_eq_ok_iff, then_eq_ok_iff, optionally_eq_ok_iff,
        checkExpr_eq_ok_iff, checkExprs_eq_ok_iff, hchildren, Bool.not_eq_true', Bool.not_eq_false,
        isName_iff]
      constructor
      · rintro ⟨type, props, text, list, children⟩
        exact .node type props text list children
      · rintro ⟨type, props, text, list, children⟩
        exact ⟨type, props, text, list, children⟩

theorem checkStepId_eq_ok_iff (here : Location) (o : Option Json) :
    checkStepId here o = .ok () ↔ ∀ j, o = some j → ∃ s, j = .string s := by
  rcases o with _ | (_ | b | n | s | items | fields) <;> simp [checkStepId]

theorem checkStep_eq_ok_iff (here : Location) (j : Json) :
    checkStep here j = .ok () ↔ IsStep j := by
  induction j using Json.recordInduction generalizing here with
  | other j hj =>
      have hstep : ¬IsStep j := by
        rintro ⟨⟩
        simp [Json.object?] at hj
      cases j <;> simp_all [checkStep, Json.object?]
  | object fields ih =>
      have hlist : ∀ key, checkStepsField here key fields = .ok () ↔
          (∀ j, fields.lookup key = some j → ∃ items, j = .array items) ∧
            ∀ items, fields.lookup key = some (.array items) → ∀ x ∈ items, IsStep x := by
        intro key
        rw [checkStepsField_eq]
        refine listField_eq_ok_iff (fun items hitems => ?_) fun j hj => ?_
        · exact walk_items_eq_ok_iff (fun _ => rfl) (fun _ _ _ => rfl)
            (fun x hx here => ih key items hitems x hx here) 0
        · cases j <;> simp_all [checkStepList, Json.array?]
      simp only [checkStep, fault_bind, guard_eq_ok_iff, then_eq_ok_iff, optionally_eq_ok_iff,
        checkStepId_eq_ok_iff, checkExpr_eq_ok_iff, hlist, Bool.not_eq_true', Bool.not_eq_false,
        isName_iff]
      constructor
      · rintro ⟨id, kind, input, condition, ⟨list, steps⟩, list', branch⟩
        exact .step id kind input condition (by simpa [stepLists] using ⟨list, list'⟩)
          (by simpa [stepLists] using ⟨steps, branch⟩)
      · rintro ⟨id, kind, input, condition, list, steps⟩
        simp only [stepLists, List.forall_mem_cons] at list steps
        exact ⟨id, kind, input, condition, ⟨list.1, steps.1⟩, list.2.1, steps.2.1⟩

/-! ## Registers and documents -/

theorem nameUnder_eq_iff {key name : String} {j : Json} (h : name ≠ "") :
    nameUnder key j = name ↔ j.field? key = some (.string name) := by
  unfold nameUnder
  rcases j.field? key with _ | (_ | b | n | s | items | fields) <;>
    simp [Json.string?, Ne.symm h]

theorem hasId_iff {x : Json} {id : String} : HasId x id ↔ nameUnder "id" x = id ∧ id ≠ "" := by
  constructor
  · rintro ⟨h, hid⟩
    exact ⟨(nameUnder_eq_iff hid).mpr h, hid⟩
  · rintro ⟨h, hid⟩
    exact ⟨(nameUnder_eq_iff hid).mp h, hid⟩

/-- What is left of `Identified` when the ids `seen` have been used. -/
def IdentifiedBeyond (seen : List String) (items : List Json) : Prop :=
  ∃ ids, List.Forall₂ HasId items ids ∧ ids.Nodup ∧ ∀ id ∈ ids, id ∉ seen

theorem identifiedBeyond_cons {seen : List String} {x : Json} {xs : List Json} :
    IdentifiedBeyond seen (x :: xs) ↔ nameUnder "id" x ≠ "" ∧ nameUnder "id" x ∉ seen ∧
      IdentifiedBeyond (nameUnder "id" x :: seen) xs := by
  unfold IdentifiedBeyond
  constructor
  · rintro ⟨_, hall, hnodup, hseen⟩
    obtain ⟨id, ids, hid, hids, rfl⟩ := List.forall₂_cons_left_iff.mp hall
    obtain ⟨rfl, hne⟩ := hasId_iff.mp hid
    obtain ⟨hnew, hnodup⟩ := List.nodup_cons.mp hnodup
    obtain ⟨hhead, htail⟩ := List.forall_mem_cons.mp hseen
    refine ⟨hne, hhead, ids, hids, hnodup, fun id hid => ?_⟩
    rw [List.mem_cons, not_or]
    exact ⟨fun h => hnew (h ▸ hid), htail id hid⟩
  · rintro ⟨hne, hhead, ids, hids, hnodup, hseen⟩
    have hnew : nameUnder "id" x ∉ ids := fun h => hseen _ h List.mem_cons_self
    refine ⟨_ :: ids, .cons (hasId_iff.mpr ⟨rfl, hne⟩) hids, List.nodup_cons.mpr ⟨hnew, hnodup⟩, ?_⟩
    rw [List.forall_mem_cons]
    exact ⟨hhead, fun id hid hmem => hseen id hid (List.mem_cons_of_mem _ hmem)⟩

theorem identified_iff {items : List Json} : Identified items ↔ IdentifiedBeyond [] items := by
  simp [Identified, IdentifiedBeyond]

theorem checkActionItems_eq_ok_iff (i : Nat) (seen : List String) (items : List Json) :
    checkActionItems i seen items = .ok () ↔
      IdentifiedBeyond seen items ∧ ∀ x ∈ items, IsStep x := by
  induction items generalizing i seen with
  | nil => simp [checkActionItems, IdentifiedBeyond]
  | cons x xs ih =>
      simp only [checkActionItems, fault_bind, guard_eq_ok_iff, then_eq_ok_iff,
        checkStep_eq_ok_iff, ih, identifiedBeyond_cons, List.forall_mem_cons]
      tauto

theorem checkActions_eq_ok_iff (j : Json) : checkActions j = .ok () ↔ IsRegister IsStep j := by
  cases j <;> simp [checkActions, IsRegister, checkActionItems_eq_ok_iff, identified_iff]

theorem checkQueryInput_eq_ok_iff (here : Location) (o : Option Json) :
    checkQueryInput here o = .ok () ↔ ∃ j, o = some j ∧ j.IsExpr := by
  cases o <;> simp [checkQueryInput, checkExpr_eq_ok_iff]

theorem checkQueryTarget_eq_ok_iff (here : Location) (o : Option Json) :
    checkQueryTarget here o = .ok () ↔ ∃ s, o = some (.string s) := by
  rcases o with _ | (_ | b | n | s | items | fields) <;> simp [checkQueryTarget]

theorem checkQuery_eq_ok_iff (here : Location) (seen : List String)
    (fields : List (String × Json)) :
    checkQuery here seen (.object fields) = .ok () ↔
      nameUnder "id" (.object fields) ≠ "" ∧ nameUnder "id" (.object fields) ∉ seen ∧
        IsQuery (.object fields) := by
  simp only [checkQuery, fault_bind, guard_eq_ok_iff, then_eq_ok_iff, checkQueryInput_eq_ok_iff,
    checkQueryTarget_eq_ok_iff, ← ne_eq, Option.ne_none_iff_exists', QueryKind.ofName?_eq_some_iff]
  refine and_congr_right fun _ => and_congr_right fun _ => ?_
  constructor
  · rintro ⟨⟨kind, hkind⟩, ⟨input, asked, isExpr⟩, target, hinto⟩
    obtain ⟨output, houtput, hinto⟩ := Option.bind_eq_some_iff.mp hinto
    obtain ⟨fs, rfl, hinto⟩ := Json.field?_eq_some_iff.mp hinto
    have named := (nameUnder_eq_iff kind.name_ne_empty).mp hkind.symm
    exact .query kind named asked isExpr houtput hinto
  · rintro (@⟨_, output, input, target, kind, named, asked, isExpr, answered, into⟩)
    have hkind : nameUnder "kind" (.object fields) = kind.name :=
      (nameUnder_eq_iff kind.name_ne_empty).mpr named
    refine ⟨⟨kind, hkind.symm⟩, ⟨input, asked, isExpr⟩, target, ?_⟩
    exact Option.bind_eq_some_iff.mpr ⟨.object output, answered, into⟩

theorem checkQueryItems_eq_ok_iff (i : Nat) (seen : List String) (items : List Json) :
    checkQueryItems i seen items = .ok () ↔
      IdentifiedBeyond seen items ∧ ∀ x ∈ items, IsQuery x := by
  induction items generalizing i seen with
  | nil => simp [checkQueryItems, IdentifiedBeyond]
  | cons x xs ih =>
      simp only [checkQueryItems, fault_bind, guard_eq_ok_iff, then_eq_ok_iff, ih,
        identifiedBeyond_cons, List.forall_mem_cons]
      cases x with
      | object fields =>
          simp only [checkQuery_eq_ok_iff]
          simp only [Json.object?, Option.isNone_some]
          tauto
      | null | bool b | number n | string s | array items =>
          refine iff_of_false (by simp [Json.object?]) ?_
          rintro ⟨-, hquery, -⟩
          cases hquery

theorem checkQueries_eq_ok_iff (j : Json) : checkQueries j = .ok () ↔ IsRegister IsQuery j := by
  cases j <;> simp [checkQueries, IsRegister, checkQueryItems_eq_ok_iff, identified_iff]

theorem checkVersion_eq_ok_iff (o : Option Json) :
    checkVersion o = .ok () ↔ o = some (.string "0.1") := by
  rcases o with _ | (_ | b | n | s | items | fields)
  case some.string => by_cases h : s = "0.1" <;> simp [checkVersion, Document.version, h]
  all_goals simp [checkVersion]

theorem checkRootView_eq_ok_iff (o : Option Json) :
    checkRootView o = .ok () ↔ ∃ j, o = some j ∧ IsView j := by
  cases o <;> simp [checkRootView, checkView_eq_ok_iff]

/-- The check of whole documents passes exactly what the schema admits. -/
theorem check_eq_ok_iff (j : Json) : Document.check j = .ok () ↔ IsDocument j := by
  cases j with
  | object fields =>
      simp only [Document.check, then_eq_ok_iff, checkVersion_eq_ok_iff, checkRootView_eq_ok_iff,
        optionally_eq_ok_iff, checkExprs_eq_ok_iff, checkActions_eq_ok_iff, checkQueries_eq_ok_iff]
      constructor
      · rintro ⟨version, ⟨view, shown, isView⟩, computed, actions, queries⟩
        exact .document version shown isView computed actions queries
      · rintro ⟨version, shown, isView, computed, actions, queries⟩
        exact ⟨version, ⟨_, shown, isView⟩, computed, actions, queries⟩
  | null | bool b | number n | string s | array items =>
      simp only [Document.check, fault_ne_ok, false_iff]
      rintro ⟨⟩

end Schema

end WidgetDoc
