import WidgetDoc.Proofs.MalformedOperators
import WidgetDoc.Proofs.Schema
import WidgetDoc.Proofs.Violations

/-!
# The first violation

The checks stop at a fault, the visits do not. A check fails with the first violation at the visits
of its part, so that what is visited later has no influence on its result.
-/

namespace WidgetDoc

open Json

namespace Schema

/-- The first violation at the visits of a part. -/
def first? (here : Location) (role : Role) (found : Value) : Option ValidationError :=
  (visits here role found).findSome? Visit.violation?

def firstOf? (here : Location) (ps : List Part) : Option ValidationError :=
  ps.findSome? fun p => first? (here ++ p.steps) p.role p.found

theorem first?_eq (here : Location) (role : Role) (found : Value) :
    first? here role found =
      ((role.fault? found).map fun f => ⟨f, here⟩).or (firstOf? here (role.parts found)) := by
  rw [first?, visits_eq, List.findSome?_cons, findSome?_flatMap fun p _ => rfl, Visit.violation?]
  cases role.fault? found <;> rfl

@[simp] theorem firstOf?_nil (here : Location) : firstOf? here [] = none := rfl

theorem firstOf?_cons (here : Location) (p : Part) (ps : List Part) :
    firstOf? here (p :: ps) =
      (first? (here ++ p.steps) p.role p.found).or (firstOf? here ps) := by
  rw [firstOf?, List.findSome?_cons]
  cases first? (here ++ p.steps) p.role p.found <;> rfl

theorem firstOf?_append (here : Location) (ps qs : List Part) :
    firstOf? here (ps ++ qs) = (firstOf? here ps).or (firstOf? here qs) :=
  List.findSome?_append

/-! ## Expressions -/

/-- The violation of a part of an expression that cannot be read. -/
def misread (within here : Location) (e : ShapeError) : ValidationError :=
  ⟨.expr (e.under within), here ++ e.location⟩

theorem misread_under (within here steps : Location) (e : ShapeError) :
    misread within here (e.under steps) = misread (within ++ steps) (here ++ steps) e := by
  simp [misread, ShapeError.under]

/-- The parts of an expression are visited as they are read. -/
def Faithful (j : Json) : Prop :=
  ∀ within here, first? here (.expr within) (some j) =
    (error? (Expr.ofJson j)).map (misread within here)

theorem Faithful.partError? {x : Json} (h : Faithful x) (within here steps : Location) :
    first? (here ++ steps) (.expr (within ++ steps)) (some x) =
      (Expr.partError? (steps, x)).map (misread within here) := by
  rw [h, Expr.partError?, Option.map_map]
  congr 1
  funext e
  exact (misread_under within here steps e).symm

theorem firstOf?_eachItem {items : List Json} (h : ∀ x ∈ items, Faithful x)
    (within here steps : Location) :
    firstOf? (here ++ steps) (Part.eachItem items fun i => .expr (within ++ (steps ++ [.index i])))
      = ((itemsAt steps 0 items).findSome? Expr.partError?).map (misread within here) := by
  rw [firstOf?, Part.eachItem, itemsAt, List.findSome?_map, List.findSome?_map, List.map_findSome?]
  refine findSome?_congr fun p hp => ?_
  have hx := h p.1 (List.fst_mem_of_mem_zipIdx hp)
  have hpart := hx.partError? within here (steps ++ [.index p.2])
  rwa [← List.append_assoc here] at hpart

theorem firstOf?_eachField {fields : List (String × Json)} (h : ∀ f ∈ fields, Faithful f.2)
    (within here : Location) :
    firstOf? here (Part.eachField fields fun key => .expr (within ++ [.field key])) =
      ((fieldsAt fields).findSome? Expr.partError?).map (misread within here) := by
  rw [firstOf?, Part.eachField, fieldsAt, List.findSome?_map, List.findSome?_map,
    List.map_findSome?]
  refine findSome?_congr fun f hf => ?_
  exact (h f hf).partError? within here [.field f.1]

theorem forall_mem_of_itemsAt {P : Json → Prop} {steps : Location} {items : List Json}
    (h : ∀ p ∈ itemsAt steps 0 items, P p.2) : ∀ x ∈ items, P x := by
  intro x hx
  obtain ⟨i, hi⟩ := List.mem_iff_getElem?.mp hx
  exact h (steps ++ [.index i], x) (mem_itemsAt_iff.mpr ⟨i, hi, rfl⟩)

theorem firstOf?_fieldIfAny (here : Location) (fields : List (String × Json)) (key : String)
    (role : Role) : firstOf? here (Part.fieldIfAny fields key role) =
      (fields.lookup key).bind fun x => first? (here ++ [.field key]) role (some x) := by
  rw [Part.fieldIfAny]
  cases fields.lookup key with
  | none => rfl
  | some x =>
      rw [Option.toList_some, List.map_singleton, firstOf?_cons, firstOf?_nil, Option.or_none]
      rfl

theorem faithful (j : Json) : Faithful j := by
  induction j using exprParts_induction with
  | step j ih =>
      intro within here
      rw [Expr.error?_ofJson_parts, first?_eq]
      cases j with
      | null | bool b | number n | string s => rfl
      | array items =>
          have hitems := firstOf?_eachItem (forall_mem_of_itemsAt ih) within here []
          rw [List.append_nil] at hitems
          exact hitems
      | object fields =>
          simp only [Role.fault?, Role.parts, Role.partsOfObject, exprParts, shapeError?,
            misapplied?] at ih ⊢
          cases hop : Expr.operatorName? fields with
          | none =>
              simp only [hop] at ih ⊢
              have hfields : ∀ f ∈ fields, Faithful f.2 := fun f hf =>
                ih ([.field f.1], f.2) (List.mem_map.mpr ⟨f, hf, rfl⟩)
              simpa using firstOf?_eachField hfields within here
          | some name =>
              simp only [hop] at ih ⊢
              rw [firstOf?_fieldIfAny]
              rcases hargs : fields.lookup "args" with _ | (_ | _ | _ | _ | args | _)
              -- Only a list of arguments has parts; anything else is right or wrong by itself.
              case some.array =>
                rw [hargs] at ih
                have hitems := firstOf?_eachItem (forall_mem_of_itemsAt ih) within here
                  [.field "args"]
                rw [Option.bind_some, first?_eq]
                exact hitems
              case none => rfl
              all_goals
                rw [Option.bind_some, first?_eq]
                rfl

/-! ## Checks

Each check fails with the first violation of the role of its part. -/

theorem error?_fault (f : Fault) (here : Location) : error? (fault f here) = some ⟨f, here⟩ := rfl

theorem error?_then (c : Check) (next : Unit → Check) :
    error? (c >>= next) = (error? c).or (error? (next ())) :=
  error?_bind fun _ => rfl

theorem error?_guard {p : Prop} [Decidable p] (f : Fault) (here : Location) (c : Check) :
    error? (if p then fault f here else c) =
      ((demand (¬p) f).map fun f => ⟨f, here⟩).or (error? c) := by
  by_cases h : p <;> simp [h, demand, error?_fault]

theorem error?_checkExpr (here : Location) (j : Json) :
    error? (checkExpr here j) = first? here (.expr []) (some j) := by
  rw [faithful, checkExpr]
  cases Expr.ofJson j <;> rfl

theorem error?_checkExprFields (here : Location) (fields : List (String × Json)) :
    error? (checkExprFields here fields) =
      firstOf? here (Part.eachField fields fun _ => .expr []) := by
  induction fields with
  | nil => rfl
  | cons f fields ih =>
      rw [checkExprFields, error?_then, error?_checkExpr, ih, Part.eachField, Part.eachField,
        List.map_cons, firstOf?_cons]

theorem error?_checkExprs (here : Location) (j : Json) :
    error? (checkExprs here j) = first? here .exprs (some j) := by
  rw [first?_eq]
  cases j with
  | object fields => exact error?_checkExprFields here fields
  | null | bool b | number n | string s | array items => rfl

theorem error?_optionally (here : Location) {check : Json → Check}
    {fields : List (String × Json)} {key : String} {role : Role} (h : ∀ j, fields.lookup key = some j →
      error? (check j) = first? (here ++ [.field key]) role (some j)) :
    error? (optionally check (fields.lookup key)) =
      firstOf? here (Part.fieldIfAny fields key role) := by
  rw [firstOf?_fieldIfAny]
  cases hkey : fields.lookup key with
  | none => rfl
  | some j => exact h j hkey

/-- A walk over the items of a list finds the first violation of any of them. -/
theorem error?_walk {check : Location → Json → Check} {walk : Nat → List Json → Check}
    {role : Role} {here : Location} (nil : ∀ i, walk i [] = .ok ())
    (cons : ∀ i x xs, walk i (x :: xs) = check (here ++ [.index i]) x >>= fun _ => walk (i + 1) xs)
    {items : List Json} (h : ∀ x ∈ items, ∀ here, error? (check here x) = first? here role (some x))
    : error? (walk 0 items) = firstOf? here (Part.eachItem items fun _ => role) := by
  rw [Part.eachItem]
  generalize 0 = i
  induction items generalizing i with
  | nil => rw [nil]; rfl
  | cons x xs ih =>
      obtain ⟨hx, hxs⟩ := List.forall_mem_cons.mp h
      rw [cons, error?_then, hx, ih hxs, List.zipIdx_cons, List.map_cons, firstOf?_cons]

/-- What is wrong with a part without parts is wrong there. -/
theorem first?_leaf (here : Location) (role : Role) (found : Value)
    (object : ∀ fields, role.partsOfObject fields = [])
    (array : ∀ items, role.partsOfArray items = []) :
    first? here role found = (role.fault? found).map fun f => ⟨f, here⟩ := by
  have hparts : role.parts found = [] := by
    unfold Role.parts
    split
    · exact object _
    · exact array _
    · rfl
  rw [first?_eq, hparts, firstOf?_nil, Option.or_none]

/-- A part of the right shape is as right as its parts. -/
theorem first?_object {here : Location} {role : Role} {fields : List (String × Json)}
    (h : role.fault? (some (.object fields)) = none) :
    first? here role (some (.object fields)) = firstOf? here (role.partsOfObject fields) := by
  rw [first?_eq, h]
  rfl

theorem error?_unlessName (found : Value) (f : Fault) (here : Location) (c : Check) :
    error? (if (!isName found) = true then fault f here else c) =
      ((demand (textOf found ≠ "") f).map fun f => ⟨f, here⟩).or (error? c) := by
  have hname : isName found = true ↔ textOf found ≠ "" := by
    rcases found with _ | (_ | b | n | s | items | fields) <;> simp [isName, textOf, string?]
  rw [error?_guard]
  congr 3
  simp [← hname]

theorem error?_checkView (here : Location) (j : Json) :
    error? (checkView here j) = first? here .view (some j) := by
  induction j using Json.recordInduction generalizing here with
  | other j hj =>
      rw [first?_eq]
      cases j with
      | object fields => cases hj
      | null | bool b | number n | string s | array items => rfl
  | object fields ih =>
      have hprops := error?_optionally here fun j (_ : fields.lookup "props" = some j) =>
        error?_checkExprs (here ++ [.field "props"]) j
      have htext := error?_optionally here fun j (_ : fields.lookup "text" = some j) =>
        error?_checkExpr (here ++ [.field "text"]) j
      have hchildren : error? (optionally (checkChildren (here ++ [.field "children"]))
          (fields.lookup "children")) =
            firstOf? here (Part.fieldIfAny fields "children" .children) := by
        refine error?_optionally here fun j hj => ?_
        rw [first?_eq]
        cases j with
        | array items =>
            exact error?_walk (fun _ => rfl) (fun _ _ _ => rfl) fun x hx here =>
              ih "children" items hj x hx here
        | null | bool b | number n | string s | object fields => rfl
      have htype := first?_leaf (here ++ [.field "type"]) .viewType (fields.lookup "type")
        (fun _ => rfl) (fun _ => rfl)
      simp only [checkView, fault_bind, error?_unlessName, error?_then, checkChildrenField_eq,
        hprops, htext, hchildren]
      rw [first?_object rfl]
      simp only [Role.partsOfObject, firstOf?_cons, firstOf?_append, List.cons_append,
        Part.field, htype, Option.or_assoc]
      rfl

theorem error?_checkStepId (here : Location) (found : Value) :
    error? (checkStepId here found) = first? here .stepId found := by
  rw [first?_leaf _ _ _ (fun _ => rfl) (fun _ => rfl)]
  rcases found with _ | (_ | b | n | s | items | fields) <;> rfl

theorem error?_checkStep (here : Location) (j : Json) :
    error? (checkStep here j) = first? here .step (some j) := by
  induction j using Json.recordInduction generalizing here with
  | other j hj =>
      rw [first?_eq]
      cases j with
      | object fields => cases hj
      | null | bool b | number n | string s | array items => rfl
  | object fields ih =>
      have hexpr (key : String) := error?_optionally here fun j (_ : fields.lookup key = some j) =>
        error?_checkExpr (here ++ [.field key]) j
      have hsteps (key : String) : error? (optionally (checkStepList here key)
          (fields.lookup key)) = firstOf? here (Part.fieldIfAny fields key (.steps key)) := by
        refine error?_optionally here fun j hj => ?_
        rw [first?_eq]
        cases j with
        | array items =>
            exact error?_walk (fun _ => rfl) (fun _ _ _ => rfl) fun x hx here =>
              ih key items hj x hx here
        | null | bool b | number n | string s | object fields => rfl
      have hkind := first?_leaf (here ++ [.field "kind"]) .stepKind (fields.lookup "kind")
        (fun _ => rfl) (fun _ => rfl)
      simp only [checkStep, fault_bind, error?_unlessName, error?_then, error?_checkStepId,
        checkStepsField_eq, hexpr, hsteps]
      rw [first?_object rfl]
      simp only [Role.partsOfObject, firstOf?_cons, firstOf?_append, List.cons_append,
        List.nil_append, Part.field, hkind, Option.or_assoc]
      rfl

/-! ## Records with ids -/

theorem nameUnder_eq_textOf (key : String) (j : Json) : nameUnder key j = textOf (j.field? key) := rfl

/-- A check for the id of a record that comes after others. -/
theorem error?_unlessFresh {seen earlier : List String} (h : ∀ id, id ∈ seen ↔ id ∈ earlier)
    (missing : Fault) (duplicate : String → Fault) (here : Location) (id : String) (c : Check) :
    error? (if id = "" then fault missing here
        else if id ∈ seen then fault (duplicate id) here else c) =
      ((idFault? missing duplicate earlier id).map fun f => ⟨f, here⟩).or (error? c) := by
  by_cases hid : id = ""
  · simp [idFault?, hid, error?_fault]
  · by_cases hseen : id ∈ seen
    · simp [idFault?, demand, hid, hseen, (h id).mp hseen, error?_fault]
    · simp [idFault?, demand, hid, hseen, mt (h id).mpr hseen]

/-- A walk over records that keeps their ids finds the first violation of any of them. -/
theorem error?_register {walk : Nat → List String → List Json → Check} {here : Location}
    {parts : Nat → List String → Json → List Part} (nil : ∀ i seen, walk i seen [] = .ok ())
    (cons : ∀ i seen earlier x xs, (∀ id, id ∈ seen ↔ id ∈ earlier) →
      error? (walk i seen (x :: xs)) =
        (firstOf? here (parts i earlier x)).or (error? (walk (i + 1) (nameUnder "id" x :: seen) xs)))
    (items : List Json) : error? (walk 0 [] items) = firstOf? here (Part.eachRecord items parts) := by
  -- The records before the walk are those whose ids it has seen.
  suffices h : ∀ (rest before : List Json) (seen : List String),
      (∀ id, id ∈ seen ↔ id ∈ idsOf before) → error? (walk before.length seen rest) =
        firstOf? here ((rest.zipIdx before.length).flatMap fun p =>
          parts p.2 (idsOf ((before ++ rest).take p.2)) p.1) from
    h items [] [] (by simp [idsOf])
  intro rest
  induction rest with
  | nil =>
      intro before seen _
      rw [nil]
      rfl
  | cons x xs ih =>
      intro before seen hseen
      have hnext : ∀ id, id ∈ nameUnder "id" x :: seen ↔ id ∈ idsOf (before ++ [x]) := by
        intro id
        simp [hseen, idsOf, nameUnder_eq_textOf, or_comm]
      have hrest := ih (before ++ [x]) _ hnext
      rw [List.length_append, List.length_singleton, List.append_assoc] at hrest
      rw [cons _ _ _ _ _ hseen, List.zipIdx_cons, List.flatMap_cons, firstOf?_append, hrest]
      simp

theorem error?_checkActions (j : Json) :
    error? (checkActions j) = first? [.field "actions"] .actions (some j) := by
  rw [first?_eq]
  cases j with
  | array items =>
      refine error?_register (fun _ _ => rfl) (fun i seen earlier x xs h => ?_) items
      simp only [checkActionItems, fault_bind, error?_unlessFresh h, error?_then, error?_checkStep]
      have hid := first?_leaf [.field "actions", .index i, .field "id"] (.actionId earlier)
        (x.field? "id") (fun _ => rfl) (fun _ => rfl)
      simp only [Part.action, firstOf?_cons, firstOf?_nil, Option.or_none, Option.or_assoc,
        List.cons_append, List.nil_append, hid]
      rfl
  | null | bool b | number n | string s | object fields => rfl

theorem error?_checkQueryInput (here : Location) (fields : List (String × Json)) :
    error? (checkQueryInput (here ++ [.field "input"]) (fields.lookup "input")) =
      firstOf? here (Part.field fields "input" .queryInput ::
        Part.fieldIfAny fields "input" (.expr [])) := by
  rw [firstOf?_cons, firstOf?_fieldIfAny, first?_leaf _ _ _ (fun _ => rfl) (fun _ => rfl), Part.field]
  cases fields.lookup "input" with
  | none => rfl
  | some j => exact error?_checkExpr _ j

theorem error?_checkQueryTarget (here : Location) (found : Value) :
    error? (checkQueryTarget here found) = first? here .queryTarget found := by
  rw [first?_leaf _ _ _ (fun _ => rfl) (fun _ => rfl)]
  rcases found with _ | (_ | b | n | s | items | fields) <;> rfl

theorem error?_unlessQueryKind (name : String) (f : Fault) (here : Location) (c : Check) :
    error? (if QueryKind.ofName? name = none then fault f here else c) =
      ((demand (name ∈ QueryKind.all.map QueryKind.name) f).map fun f => ⟨f, here⟩).or
        (error? c) := by
  have hname : QueryKind.ofName? name ≠ none ↔ name ∈ QueryKind.all.map QueryKind.name := by
    simp [QueryKind.ofName?]
  rw [error?_guard]
  congr 3
  exact decide_eq_decide.mpr hname

theorem error?_checkQuery {seen earlier : List String} (h : ∀ id, id ∈ seen ↔ id ∈ earlier)
    (here : Location) (fields : List (String × Json)) :
    error? (checkQuery here seen (.object fields)) =
      first? here (.query earlier) (some (.object fields)) := by
  have hid := first?_leaf (here ++ [.field "id"]) (.queryId earlier) (fields.lookup "id")
    (fun _ => rfl) (fun _ => rfl)
  have hkind := first?_leaf (here ++ [.field "kind"]) .queryKind (fields.lookup "kind")
    (fun _ => rfl) (fun _ => rfl)
  simp only [checkQuery, fault_bind, error?_unlessFresh h, error?_unlessQueryKind, error?_then,
    error?_checkQueryTarget, field?_object, error?_checkQueryInput]
  rw [first?_object rfl]
  simp only [Role.partsOfObject, firstOf?_cons, firstOf?_append, firstOf?_nil, List.cons_append,
    List.nil_append, Part.field, hid, hkind, Option.or_assoc, Option.or_none]
  rfl

theorem error?_checkQueries (j : Json) :
    error? (checkQueries j) = first? [.field "queries"] .queries (some j) := by
  rw [first?_eq]
  cases j with
  | array items =>
      refine error?_register (fun _ _ => rfl) (fun i seen earlier x xs h => ?_) items
      rw [Part.query, firstOf?_cons, firstOf?_nil, Option.or_none]
      simp only [checkQueryItems, fault_bind, error?_guard, error?_then]
      cases x with
      | object fields =>
          rw [error?_checkQuery h]
          rfl
      | null | bool b | number n | string s | array items =>
          rw [first?_eq]
          rfl
  | null | bool b | number n | string s | object fields => rfl

theorem error?_checkVersion (fields : List (String × Json)) :
    error? (checkVersion (fields.lookup "specVersion")) =
      first? [.field "specVersion"] .version (fields.lookup "specVersion") := by
  rw [first?_leaf _ _ _ (fun _ => rfl) (fun _ => rfl)]
  rcases fields.lookup "specVersion" with _ | (_ | b | n | s | items | fields)
  case some.string =>
    by_cases hs : s = Document.version <;>
      simp [checkVersion, Role.fault?, versionFault?, demand, textOf, string?, hs, error?, fault]
  all_goals rfl

theorem error?_checkRootView (found : Value) :
    error? (checkRootView found) = first? [.field "view"] .view found := by
  cases found with
  | none =>
      rw [first?_eq]
      rfl
  | some j => exact error?_checkView _ j

/-- The check of a document fails with its first violation. -/
theorem error?_check (raw : Json) : error? (Document.check raw) = first? [] .document (some raw) := by
  cases raw with
  | object fields =>
      have hcomputed := error?_optionally [] fun j (_ : fields.lookup "computed" = some j)
        => error?_checkExprs [.field "computed"] j
      have hactions := error?_optionally [] fun j (_ : fields.lookup "actions" = some j)
        => error?_checkActions j
      have hqueries := error?_optionally [] fun j (_ : fields.lookup "queries" = some j)
        => error?_checkQueries j
      simp only [Document.check, error?_then, error?_checkVersion, error?_checkRootView, hcomputed,
        hactions, hqueries]
      rw [first?_object rfl]
      simp only [Role.partsOfObject, firstOf?_cons, firstOf?_append, List.cons_append,
        List.nil_append, Part.field, Option.or_assoc]
  | null | bool b | number n | string s | array items =>
      rw [first?_eq]
      rfl

/-! ## What a visit looks at -/

/-- A value as it is seen without a look into it. -/
def outline : Json → Json
  | .array _ => .array []
  | .object _ => .object []
  | j => j

section Outline

variable (found : Value)

@[simp] theorem isObject_outline : isObject (found.map outline) = isObject found := by
  rcases found with _ | (_ | _ | _ | _ | _ | _) <;> rfl

@[simp] theorem isArray_outline : isArray (found.map outline) = isArray found := by
  rcases found with _ | (_ | _ | _ | _ | _ | _) <;> rfl

@[simp] theorem isText_outline : isText (found.map outline) = isText found := by
  rcases found with _ | (_ | _ | _ | _ | _ | _) <;> rfl

@[simp] theorem textOf_outline : textOf (found.map outline) = textOf found := by
  rcases found with _ | (_ | _ | _ | _ | _ | _) <;> rfl

end Outline

/-- The code of what is wrong at a part is seen without a look into it. -/
theorem Role.code_fault?_outline (found : Value) (role : Role) :
    (role.fault? (found.map outline)).map Fault.code = (role.fault? found).map Fault.code := by
  cases role with
  | version | view | args operator within =>
      rcases found with _ | (_ | _ | _ | _ | _ | _) <;> rfl
  | _ => simp [fault?]

/-- A visit with the outline of what was found. -/
def Visit.glance (v : Visit) : Visit :=
  { v with found := v.found.map outline }

/-- The code and the location of what is wrong at a visit. -/
def Visit.report? (v : Visit) : Option (String × Location) :=
  v.violation?.map fun e => (e.code, e.location)

theorem Visit.report?_glance (v : Visit) : v.glance.report? = v.report? := by
  have hcode := Role.code_fault?_outline v.found v.role
  have hreport (found : Value) : Visit.report? { v with found } =
      ((v.role.fault? found).map Fault.code).map fun code => (code, v.location) := by
    simp only [report?, violation?, Option.map_map]
    rfl
  rw [glance, hreport, hcode, ← hreport]

end Schema

open Schema

namespace Document

theorem error?_check_eq_head? (raw : Json) : error? (check raw) = (violations raw).head? := by
  rw [error?_check, violations, List.head?_filterMap]
  rfl

theorem report_check (raw : Json) :
    (error? (check raw)).map (fun e => (e.code, e.location)) =
      ((visits raw).map Visit.glance).findSome? Visit.report? := by
  rw [error?_check_eq_head?, violations, List.head?_filterMap, List.map_findSome?,
    List.findSome?_map]
  refine findSome?_congr fun v _ => ?_
  exact v.report?_glance.symm

/-- What is visited after a first violation does not matter for its report. -/
theorem check_of_glances {before : List Visit} {v : Visit} {e : ValidationError} {raw : Json}
    (hbefore : ∀ u ∈ before, u.violation? = none) (hv : v.violation? = some e)
    (hseen : (before ++ [v]).map Visit.glance <+: (visits raw).map Visit.glance) :
    ∃ e', check raw = .error e' ∧ e'.code = e.code ∧ e'.path = e.path := by
  have hfirst : (before ++ [v]).findSome? Visit.report? = some (e.code, e.location) := by
    have hnone : before.findSome? Visit.report? = none := by
      refine List.findSome?_eq_none_iff.mpr fun u hu => ?_
      rw [Visit.report?, hbefore u hu, Option.map_none]
    rw [List.findSome?_append, hnone, Option.none_or, List.findSome?_singleton, Visit.report?, hv,
      Option.map_some]
  obtain ⟨rest, hrest⟩ := hseen
  have hreport := report_check raw
  rw [← hrest, List.findSome?_append, List.findSome?_map,
    findSome?_congr fun u _ => u.report?_glance, hfirst, Option.some_or,
    Option.map_eq_some_iff] at hreport
  obtain ⟨e', he', hsame⟩ := hreport
  obtain ⟨hcode, hlocation⟩ := Prod.mk.inj hsame
  exact ⟨e', error?_eq_some_iff.mp he', hcode, congrArg Location.text hlocation⟩

/-- The check passes if there is no violation and fails with the first one otherwise. The visits look
at what stands at their locations, and what is visited after the first violation has no influence on
the code and the path: any value at whose visits the same is seen up to there fails with them as
well. -/
theorem check_first_violation (raw : Json) :
    (violations raw = [] → check raw = .ok ()) ∧
    (∀ e rest, violations raw = e :: rest → check raw = .error e) ∧
    (∀ v ∈ visits raw, ∀ x, v.found = some x → raw.StandsAt v.location x) ∧
    ∀ e, check raw = .error e → ∃ before v after, visits raw = before ++ v :: after ∧
      (∀ u ∈ before, u.violation? = none) ∧ v.violation? = some e ∧
      ∀ raw', (before ++ [v]).map Visit.glance <+: (visits raw').map Visit.glance →
        ∃ e', check raw' = .error e' ∧ e'.code = e.code ∧ e'.path = e.path := by
  have hhead := error?_check_eq_head? raw
  refine ⟨fun h => ?_, fun e rest h => ?_, fun v hv x hx => standsAt_of_mem_visits hv hx,
    fun e he => ?_⟩
  · rw [h, List.head?_nil, error?_eq_none_iff] at hhead
    obtain ⟨⟨⟩, hok⟩ := hhead
    exact hok
  · rwa [h, List.head?_cons, error?_eq_some_iff] at hhead
  · rw [error?_eq_some_iff.mpr he, violations, List.head?_filterMap] at hhead
    obtain ⟨before, v, after, hvisits, hv, hbefore⟩ := List.findSome?_eq_some_iff.mp hhead.symm
    exact ⟨before, v, after, hvisits, hbefore, hv, fun raw' => check_of_glances hbefore hv⟩

/-- A document with five faults, of which the first is reported. -/
example :
    let twice : Json := .object [("id", .string "a"), ("kind", .null)]
    let misapplied : Json := .object [("op", .string "len"), ("args", .bool true)]
    let raw : Json := .object [("specVersion", .string "0.1"), ("actions", .array [twice, twice]),
      ("view", .object [("type", .string ""), ("text", .array [.null, misapplied])])]
    (violations raw).map (fun e => (e.code, e.path)) = [
      ("A2UI_E_VIEW_TYPE", "view.type"), ("A2UI_E_EXPR", "view.text[1].args"),
      ("A2UI_E_ACTION", "actions[0].kind"), ("A2UI_E_DUPLICATE_ID", "actions[1].id"),
      ("A2UI_E_ACTION", "actions[1].kind")] := by
  decide +kernel

end Document

end WidgetDoc
