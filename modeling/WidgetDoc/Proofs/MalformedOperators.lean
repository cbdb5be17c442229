import WidgetDoc.Proofs.ExprGrammar

/-!
# The first malformed operator

`Json.ExprAt` says which parts of a JSON value are read as expressions, and `Json.exprs` lists them
in the order of the document. Reading fails exactly if one of them is an operator whose arguments
are malformed, and it reports the first that is.
-/

namespace WidgetDoc

namespace Json

/-! ## Expression positions -/

/-- The immediate parts of a value that are read as expressions, with the steps that lead to them.
Of an operator these are its arguments; whatever else stands in its object is ignored. -/
inductive ExprPart : Json → Location → Json → Prop where
  | item {items : List Json} {i : Nat} {x : Json} (part : items[i]? = some x) :
      ExprPart (.array items) [.index i] x
  | field {fields : List (String × Json)} {key : String} {x : Json}
      (literal : ∀ name, fields.lookup "op" ≠ some (.string name)) (part : (key, x) ∈ fields) :
      ExprPart (.object fields) [.field key] x
  | arg {fields : List (String × Json)} {name : String} {args : List Json} {i : Nat} {x : Json}
      (named : fields.lookup "op" = some (.string name))
      (listed : fields.lookup "args" = some (.array args)) (part : args[i]? = some x) :
      ExprPart (.object fields) [.field "args", .index i] x

/-- All parts of a value that are read as expressions if the value is. -/
inductive ExprAt (j : Json) : Location → Json → Prop where
  | root : ExprAt j [] j
  | part {loc steps : Location} {x y : Json} (whole : ExprAt j loc x) (part : ExprPart x steps y) :
      ExprAt j (loc ++ steps) y

theorem ExprPart.standsAt {j x : Json} {steps : Location} (h : ExprPart j steps x) :
    j.StandsAt steps x := by
  cases h with
  | item part => exact StandsAt.root.item part
  | field _ part => exact StandsAt.root.field part
  | @arg fields name args i x _ listed part =>
      have hargs : (object fields).StandsAt [.field "args"] (.array args) := .of_field? listed
      exact hargs.item part

theorem ExprPart.sizeOf_lt {j x : Json} {steps : Location} (h : ExprPart j steps x) :
    sizeOf x < sizeOf j := by
  refine h.standsAt.sizeOf_lt ?_
  cases h <;> exact List.cons_ne_nil _ _

/-- The items of an array from index `i` on, with their locations; `steps` leads to the array. -/
def itemsAt (steps : Location) (i : Nat) (items : List Json) : List (Location × Json) :=
  (items.zipIdx i).map fun p => (steps ++ [.index p.2], p.1)

def fieldsAt (fields : List (String × Json)) : List (Location × Json) :=
  fields.map fun f => ([.field f.1], f.2)

/-- The immediate parts that are read as expressions, in the order of the document. -/
def exprParts : Json → List (Location × Json)
  | .array items => itemsAt [] 0 items
  | .object fields =>
    match Expr.operatorName? fields with
    | none => fieldsAt fields
    | some _ =>
      match fields.lookup "args" with
      | some (.array args) => itemsAt [.field "args"] 0 args
      | _ => []
  | _ => []

theorem mem_itemsAt_iff {steps : Location} {items : List Json} {p : Location × Json} :
    p ∈ itemsAt steps 0 items ↔ ∃ i, items[i]? = some p.2 ∧ p.1 = steps ++ [.index i] := by
  simp only [itemsAt, List.mem_map, Prod.exists, List.mk_mem_zipIdx_iff_getElem?]
  constructor
  · rintro ⟨x, i, hx, rfl⟩
    exact ⟨i, hx, rfl⟩
  · rintro ⟨i, hx, hloc⟩
    exact ⟨p.2, i, hx, Prod.ext hloc.symm rfl⟩

theorem exprPart_of_mem_exprParts {j : Json} {p : Location × Json} (h : p ∈ j.exprParts) :
    ExprPart j p.1 p.2 := by
  obtain ⟨loc, x⟩ := p
  cases j with
  | null | bool b | number n | string s => simp [exprParts] at h
  | array items =>
      obtain ⟨i, hx, rfl⟩ := mem_itemsAt_iff.mp h
      exact .item hx
  | object fields =>
      cases hop : Expr.operatorName? fields with
      | none =>
          rw [exprParts, hop] at h
          obtain ⟨f, hf, rfl, rfl⟩ := List.mem_map.mp h
          exact .field (Expr.operatorName?_eq_none_iff.mp hop) hf
      | some name =>
          rw [exprParts, hop] at h
          rcases hargs : fields.lookup "args" with _ | (_ | _ | _ | _ | args | _)
          case some.array =>
            rw [hargs] at h
            obtain ⟨i, hx, rfl⟩ := mem_itemsAt_iff.mp h
            exact .arg (Expr.operatorName?_eq_some_iff.mp hop) hargs hx
          all_goals simp [hargs] at h

theorem ExprPart.mem_exprParts {j x : Json} {steps : Location} (h : ExprPart j steps x) :
    (steps, x) ∈ j.exprParts := by
  cases h with
  | item part => exact mem_itemsAt_iff.mpr ⟨_, part, rfl⟩
  | field literal part =>
      rw [exprParts, Expr.operatorName?_eq_none_iff.mpr literal]
      exact List.mem_map.mpr ⟨_, part, rfl⟩
  | arg named listed part =>
      rw [exprParts, Expr.operatorName?_eq_some_iff.mpr named, listed]
      exact mem_itemsAt_iff.mpr ⟨_, part, rfl⟩

@[elab_as_elim]
theorem exprParts_induction {motive : Json → Prop}
    (step : ∀ j, (∀ p ∈ j.exprParts, motive p.2) → motive j) (j : Json) : motive j :=
  step j fun p _ => exprParts_induction step p.2
termination_by sizeOf j
decreasing_by exact (exprPart_of_mem_exprParts ‹_›).sizeOf_lt

/-- The same part, seen from further up. -/
def under (steps : Location) (p : Location × Json) : Location × Json :=
  (steps ++ p.1, p.2)

/-- All parts that are read as expressions, in the order of the document: a value comes before its
parts, items come by index and fields as they are written. -/
def exprs (j : Json) : List (Location × Json) :=
  ([], j) :: j.exprParts.attach.flatMap fun p => p.1.2.exprs.map (under p.1.1)
termination_by sizeOf j
decreasing_by exact (exprPart_of_mem_exprParts p.2).sizeOf_lt

theorem exprs_eq (j : Json) :
    j.exprs = ([], j) :: j.exprParts.flatMap fun p => p.2.exprs.map (under p.1) := by
  rw [exprs]
  simp only [List.flatMap_subtype, List.unattach_attach]

theorem mem_exprs_cases {j : Json} {p : Location × Json} :
    p ∈ j.exprs ↔ p = ([], j) ∨ ∃ part ∈ j.exprParts, ∃ q ∈ part.2.exprs, under part.1 q = p := by
  rw [exprs_eq, List.mem_cons, List.mem_flatMap]
  simp only [List.mem_map]

theorem exprAt_of_mem_exprs {root j : Json} {loc : Location} (h : root.ExprAt loc j)
    {p : Location × Json} (hp : p ∈ j.exprs) : root.ExprAt (loc ++ p.1) p.2 := by
  induction j using exprParts_induction generalizing loc p with
  | step j ih =>
      rcases mem_exprs_cases.mp hp with rfl | ⟨part, hpart, q, hq, rfl⟩
      · rwa [List.append_nil]
      · rw [under, ← List.append_assoc]
        exact ih part hpart (h.part (exprPart_of_mem_exprParts hpart)) hq

theorem mem_exprs_of_part {j y : Json} {steps : Location} {p : Location × Json}
    (hp : p ∈ j.exprs) (h : ExprPart p.2 steps y) : (p.1 ++ steps, y) ∈ j.exprs := by
  induction j using exprParts_induction generalizing p with
  | step j ih =>
      apply mem_exprs_cases.mpr
      rcases mem_exprs_cases.mp hp with rfl | ⟨part, hpart, q, hq, rfl⟩
      · refine .inr ⟨(steps, y), h.mem_exprParts, ([], y), mem_exprs_cases.mpr (.inl rfl), ?_⟩
        rw [under, List.append_nil, List.nil_append]
      · refine .inr ⟨part, hpart, (q.1 ++ steps, y), ih part hpart hq h, ?_⟩
        rw [under, under, List.append_assoc]

theorem mem_exprs_iff {j x : Json} {loc : Location} : (loc, x) ∈ j.exprs ↔ j.ExprAt loc x := by
  constructor
  · exact fun h => exprAt_of_mem_exprs .root h
  · intro h
    induction h with
    | root => exact mem_exprs_cases.mpr (.inl rfl)
    | part whole part ih => exact mem_exprs_of_part ih part

/-! ## Malformed operators -/

/-- An operator whose arguments are neither absent nor null nor an array. -/
inductive Misapplies : Json → String → Prop where
  | operator {fields : List (String × Json)} {name : String} {args : Json}
      (named : fields.lookup "op" = some (.string name))
      (given : fields.lookup "args" = some args) (notNull : args ≠ .null)
      (notList : args.array? = none) : Misapplies (.object fields) name

def wellApplied : Option Json → Bool
  | none | some .null | some (.array _) => true
  | _ => false

/-- The name of a malformed operator. -/
def misapplied? : Json → Option String
  | .object fields =>
    if wellApplied (fields.lookup "args") then none else Expr.operatorName? fields
  | _ => none

theorem wellApplied_eq_false_iff {o : Option Json} :
    wellApplied o = false ↔ ∃ args, o = some args ∧ args ≠ .null ∧ args.array? = none := by
  rcases o with _ | (_ | _ | _ | _ | _ | _) <;> simp [wellApplied, array?]

theorem misapplied?_eq_some_iff {j : Json} {name : String} :
    j.misapplied? = some name ↔ j.Misapplies name := by
  constructor
  · intro h
    cases j with
    | null | bool b | number n | string s | array items => simp [misapplied?] at h
    | object fields =>
        cases hargs : wellApplied (fields.lookup "args") with
        | true => simp [misapplied?, hargs] at h
        | false =>
            rw [misapplied?, hargs] at h
            obtain ⟨args, given, notNull, notList⟩ := wellApplied_eq_false_iff.mp hargs
            exact .operator (Expr.operatorName?_eq_some_iff.mp h) given notNull notList
  · rintro ⟨named, given, notNull, notList⟩
    have hargs := wellApplied_eq_false_iff.mpr ⟨_, given, notNull, notList⟩
    rw [misapplied?, hargs]
    exact Expr.operatorName?_eq_some_iff.mpr named

/-- The error of a part that is a malformed operator. -/
def shapeError? (p : Location × Json) : Option ShapeError :=
  p.2.misapplied?.map fun name => ⟨p.1 ++ [.field "args"], name⟩

theorem shapeError?_under (steps : Location) (p : Location × Json) :
    shapeError? (under steps p) = (shapeError? p).map (ShapeError.under steps) := by
  rw [shapeError?, shapeError?, Option.map_map, under]
  congr 1
  funext name
  rw [Function.comp_apply, ShapeError.under, List.append_assoc]

end Json

/-! ## What reading reports -/

namespace Expr

open Json

/-- The error of reading a part, as it is seen from above. -/
def partError? (p : Location × Json) : Option ShapeError :=
  (error? (ofJson p.2)).map (ShapeError.under p.1)

theorem error?_ofItems (steps : Location) (i : Nat) (items : List Json) :
    error? (ofItems steps i items) = (itemsAt steps i items).findSome? partError? := by
  induction items generalizing i with
  | nil => rfl
  | cons x xs ih =>
      rw [itemsAt, List.zipIdx_cons, List.map_cons, List.findSome?_cons, ofItems, partError?]
      cases hx : ofJson x with
      | error e => rfl
      | ok e => exact (error?_map _ _).trans (ih (i + 1))

theorem error?_ofFields (fields : List (String × Json)) :
    error? (ofFields fields) = (fieldsAt fields).findSome? partError? := by
  induction fields with
  | nil => rfl
  | cons f fields ih =>
      rw [fieldsAt, List.map_cons, List.findSome?_cons, ofFields, partError?]
      cases hx : ofJson f.2 with
      | error e => rfl
      | ok e => exact (error?_map _ _).trans ih

/-- Reading fails with the error of the value itself or with that of its first part that has one. -/
theorem error?_ofJson_parts (j : Json) :
    error? (ofJson j) = (shapeError? ([], j)).or (j.exprParts.findSome? partError?) := by
  cases j with
  | null | bool b | number n | string s => rfl
  | array items =>
      rw [ofJson, error?_map, error?_ofItems]
      rfl
  | object fields =>
      cases hop : operatorName? fields with
      | none =>
          have hown : shapeError? ([], .object fields) = none := by
            simp [shapeError?, misapplied?, hop]
          simp only [ofJson, hop, hown, exprParts]
          rw [error?_map, error?_ofFields, Option.none_or]
      | some name =>
          simp only [ofJson, hop, exprParts]
          rw [error?_map, ofArgsField_eq, shapeError?, misapplied?, hop]
          rcases fields.lookup "args" with _ | (_ | _ | _ | _ | args | _)
          -- Only a list of arguments has parts; with anything else the value itself decides.
          case some.array => exact error?_ofItems [.field "args"] 0 args
          all_goals rfl

/-- Reading reports the first malformed operator. -/
theorem error?_ofJson (j : Json) : error? (ofJson j) = j.exprs.findSome? shapeError? := by
  induction j using exprParts_induction with
  | step j ih =>
      -- The error of a part is the first one of its own parts, and both get the same prefix.
      have hparts : (j.exprParts.flatMap fun p => p.2.exprs.map (Json.under p.1)).findSome?
          shapeError? = j.exprParts.findSome? partError? := by
        apply findSome?_flatMap
        intro p hp
        rw [partError?, ih p hp, List.findSome?_map, List.map_findSome?]
        congr 1
        funext q
        exact (shapeError?_under p.1 q).symm
      rw [error?_ofJson_parts, exprs_eq, List.findSome?_cons, hparts]
      cases shapeError? ([], j) <;> rfl

theorem shapeError?_eq_some_iff {p : Location × Json} {e : ShapeError} :
    shapeError? p = some e ↔ p.2.Misapplies e.operator ∧ e.location = p.1 ++ [.field "args"] := by
  obtain ⟨location, operator⟩ := e
  simp only [shapeError?, Option.map_eq_some_iff, misapplied?_eq_some_iff, ShapeError.mk.injEq]
  constructor
  · rintro ⟨name, h, rfl, rfl⟩
    exact ⟨h, rfl⟩
  · rintro ⟨h, rfl⟩
    exact ⟨operator, h, rfl, rfl⟩

theorem shapeError?_eq_none_iff {p : Location × Json} :
    shapeError? p = none ↔ ∀ name, ¬p.2.Misapplies name := by
  rw [shapeError?, Option.map_eq_none_iff, Option.eq_none_iff_forall_ne_some]
  exact forall_congr' fun name => not_congr misapplied?_eq_some_iff

theorem exists_error_iff {j : Json} :
    (∃ e, ofJson j = .error e) ↔ ∃ loc x name, j.ExprAt loc x ∧ x.Misapplies name := by
  have hnone : error? (ofJson j) = none ↔ ∀ p ∈ j.exprs, ∀ name, ¬p.2.Misapplies name := by
    rw [error?_ofJson, List.findSome?_eq_none_iff]
    exact forall₂_congr fun p _ => shapeError?_eq_none_iff
  simp only [← error?_eq_some_iff, ← Option.ne_none_iff_exists', ne_eq, hnone, not_forall,
    not_not, Prod.exists, mem_exprs_iff, exists_prop, exists_and_left]

theorem ofJson_eq_error_iff {j : Json} {e : ShapeError} :
    ofJson j = .error e ↔ ∃ before loc x after, j.exprs = before ++ (loc, x) :: after ∧
      (∀ p ∈ before, ∀ name, ¬p.2.Misapplies name) ∧ x.Misapplies e.operator ∧
      e.location = loc ++ [.field "args"] := by
  rw [← error?_eq_some_iff, error?_ofJson, List.findSome?_eq_some_iff]
  simp only [shapeError?_eq_some_iff, shapeError?_eq_none_iff, Prod.exists]
  constructor
  · rintro ⟨before, loc, x, after, hsplit, hx, hbefore⟩
    exact ⟨before, loc, x, after, hsplit, hbefore, hx⟩
  · rintro ⟨before, loc, x, after, hsplit, hbefore, hx⟩
    exact ⟨before, loc, x, after, hsplit, hx, hbefore⟩

/-- A JSON value is no expression exactly if one of its parts that are read as expressions is a
malformed operator. The error names the first of them in the order of the document and says where
its arguments stand. -/
theorem ofJson_rejects (j : Json) :
    (∀ loc x, (loc, x) ∈ j.exprs ↔ j.ExprAt loc x) ∧
    ((∃ e, ofJson j = .error e) ↔ ∃ loc x name, j.ExprAt loc x ∧ x.Misapplies name) ∧
    ∀ e, ofJson j = .error e ↔ ∃ before loc x after, j.exprs = before ++ (loc, x) :: after ∧
      (∀ p ∈ before, ∀ name, ¬p.2.Misapplies name) ∧ x.Misapplies e.operator ∧
      e.location = loc ++ [.field "args"] ∧
      Location.relativeText e.location = Location.relativeText loc ++ ".args" ∧
      e.reason = "operator '" ++ e.operator ++ "' args must be an array" := by
  refine ⟨fun _ _ => mem_exprs_iff, exists_error_iff, fun e => ?_⟩
  rw [ofJson_eq_error_iff]
  constructor
  · rintro ⟨before, loc, x, after, hsplit, hbefore, hx, hloc⟩
    refine ⟨before, loc, x, after, hsplit, hbefore, hx, hloc, ?_, rfl⟩
    rw [hloc, Location.relativeText_append]
    rfl
  · rintro ⟨before, loc, x, after, hsplit, hbefore, hx, hloc, -, -⟩
    exact ⟨before, loc, x, after, hsplit, hbefore, hx, hloc⟩

/-- An operator that is hidden in another field of an operator does not count. -/
example :
    let hidden : Json := .object [("op", .string "len"), ("args", .bool true)]
    let labelled : Json := .object [("op", .string "len"), ("note", hidden)]
    let titled : Json := .object [("title", .array [labelled, hidden])]
    (error? (ofJson labelled)).isNone ∧
      (error? (ofJson titled)).map ShapeError.message =
        some ".title[1].args: operator 'len' args must be an array" := by
  decide +kernel

end Expr

end WidgetDoc
