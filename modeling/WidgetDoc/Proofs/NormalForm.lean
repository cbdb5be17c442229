import WidgetDoc.Proofs.JsonEquality
import WidgetDoc.Proofs.RoundTrip

/-!
# The normal form of a document

`Json.normalForm` is written from the rules of the format alone: which fields a record has, what
stands in them, and which values of them are left out. A document that was read is written as the
normal form of what it was read from, up to the order of fields.
-/

namespace WidgetDoc

open Encoding

/-- The records of the format. Operators are the ones inside expressions. -/
inductive RecordKind where
  | document
  | view
  | step
  | query
  | output
  | operator

/-- What is kept of a value. -/
inductive Shape where
  | verbatim
  | expr
  /-- An object of expressions. -/
  | exprs
  | record (kind : RecordKind)
  | list (item : Shape)

/-- Which values of a known field are left out. -/
inductive Omission where
  | never
  | null
  | vacant

namespace Omission

def omits : Omission → Json → Bool
  | null, .null => true
  | vacant, .null => true
  | vacant, .array [] => true
  | vacant, .object [] => true
  | _, _ => false

end Omission

namespace RecordKind

/-- The fields of a record; all others are dropped. -/
def rules : RecordKind → List (String × Shape × Omission)
  | document => [
    ("specVersion", .verbatim, .never),
    ("view", .record view, .never),
    ("computed", .exprs, .vacant),
    ("actions", .list (.record step), .vacant),
    ("queries", .list (.record query), .vacant)]
  | view => [
    ("type", .verbatim, .never),
    ("props", .exprs, .vacant),
    ("children", .list (.record view), .vacant),
    ("text", .expr, .null)]
  | step => [
    ("id", .verbatim, .never),
    ("kind", .verbatim, .never),
    ("input", .expr, .null),
    ("steps", .list (.record step), .vacant),
    ("if", .expr, .null),
    ("then", .list (.record step), .vacant)]
  | query => [
    ("id", .verbatim, .never),
    ("kind", .verbatim, .never),
    ("input", .expr, .never),
    ("output", .record output, .never)]
  | output => [("into", .verbatim, .never)]
  | operator => [
    ("op", .verbatim, .never),
    ("args", .list .expr, .vacant)]

/-- The fields that a record gets although it lacks them: the id of a step. -/
def added (kind : RecordKind) (fields : List (String × Json)) : List (String × Json) :=
  match kind with
  | step => if fields.lookup "id" = none then [("id", .string "")] else []
  | _ => []

end RecordKind

namespace Shape

mutual
def normal : Shape → Json → Json
  | expr, .array items => .array (normalItems expr items)
  | expr, .object fields =>
    match Expr.operatorName? fields with
    | some _ => .object (normalFields RecordKind.operator.rules fields)
    | none => .object (normalValues fields)
  | exprs, .object fields => .object (normalValues fields)
  | record kind, .object fields => .object (kind.added fields ++ normalFields kind.rules fields)
  | list item, .array items => .array (normalItems item items)
  | _, j => j

def normalItems (item : Shape) : List Json → List Json
  | [] => []
  | x :: xs => normal item x :: normalItems item xs

/-- All fields, with an expression in each. -/
def normalValues : List (String × Json) → List (String × Json)
  | [] => []
  | (key, x) :: fs => (key, normal expr x) :: normalValues fs

/-- The fields that have a rule and are not left out by it. -/
def normalFields (rules : List (String × Shape × Omission)) :
    List (String × Json) → List (String × Json)
  | [] => []
  | (key, x) :: fs =>
    match rules.lookup key with
    | some (shape, omission) =>
      if omission.omits x then normalFields rules fs
      else (key, normal shape x) :: normalFields rules fs
    | none => normalFields rules fs
end

theorem normalItems_eq_map (item : Shape) (items : List Json) :
    normalItems item items = items.map (normal item) := by
  induction items with
  | nil => rfl
  | cons x items ih => rw [normalItems, ih, List.map_cons]

theorem normalValues_eq_map (fields : List (String × Json)) :
    normalValues fields = fields.map fun f => (f.1, normal expr f.2) := by
  induction fields with
  | nil => rfl
  | cons f fields ih => rw [normalValues, ih, List.map_cons]

/-- What is written for a value that stands under a field with a rule. -/
def kept? (rule : Shape × Omission) (x : Json) : Option Json :=
  if rule.2.omits x then none else some (normal rule.1 x)

theorem lookup_normalFields (rules : List (String × Shape × Omission))
    {fields : List (String × Json)} (distinct : Fields.Distinct fields) (key : String) :
    (normalFields rules fields).lookup key =
      (rules.lookup key).bind fun rule => (fields.lookup key).bind (kept? rule) := by
  induction fields with
  | nil => cases rules.lookup key <;> rfl
  | cons f fields ih =>
      obtain ⟨k, x⟩ := f
      obtain ⟨hk, hfields⟩ := List.nodup_cons.mp distinct
      have hrest := ih hfields
      by_cases hkey : key = k
      · subst hkey
        -- The key does not come again, so a value that is left out leaves nothing behind.
        have hnone : fields.lookup key = none := Fields.lookup_eq_none_iff.mpr hk
        rw [hnone] at hrest
        cases hrule : rules.lookup key with
        | none => simp [normalFields, hrule, hrest]
        | some rule => cases hdrop : rule.2.omits x <;> simp [normalFields, kept?, *]
      · have hkey' : (key == k) = false := beq_false_of_ne hkey
        rw [List.lookup_cons, hkey', ← hrest, normalFields]
        split
        · split <;> simp [List.lookup_cons, hkey']
        · rfl

theorem keys_normalFields_sublist (rules : List (String × Shape × Omission))
    (fields : List (String × Json)) :
    (Fields.keys (normalFields rules fields)).Sublist (Fields.keys fields) := by
  induction fields with
  | nil => exact .slnil
  | cons f fields ih =>
      rw [normalFields]
      split
      · split
        · exact ih.cons f.1
        · exact ih.cons_cons f.1
      · exact ih.cons f.1

end Shape

namespace RecordKind

theorem added_step_of_none {fields : List (String × Json)} (h : fields.lookup "id" = none) :
    step.added fields = [("id", .string "")] :=
  if_pos h

theorem added_eq_nil_of_lookup {kind : RecordKind} {fields : List (String × Json)} {j : Json}
    (h : fields.lookup "id" = some j) : kind.added fields = [] := by
  cases kind <;> simp [added, h]

theorem lookup_added_of_ne (kind : RecordKind) (fields : List (String × Json)) {key : String}
    (h : key ≠ "id") : (kind.added fields ++ fields).lookup key = fields.lookup key := by
  cases hid : fields.lookup "id" with
  | some j => rw [added_eq_nil_of_lookup hid, List.nil_append]
  | none => cases kind <;> simp [added, hid, List.lookup_cons, beq_false_of_ne h]

theorem distinct_added (kind : RecordKind) {fields : List (String × Json)}
    (h : Fields.Distinct fields) : Fields.Distinct (kind.added fields ++ fields) := by
  cases hid : fields.lookup "id" with
  | some j => rwa [added_eq_nil_of_lookup hid, List.nil_append]
  | none =>
      cases kind with
      | step =>
          rw [added_step_of_none hid]
          exact List.nodup_cons.mpr ⟨Fields.lookup_eq_none_iff.mp hid, h⟩
      | _ => exact h

/-- An added field has a rule, and is kept by it as it is. -/
theorem normalFields_added (kind : RecordKind) (fields : List (String × Json)) :
    Shape.normalFields kind.rules (kind.added fields ++ fields) =
      kind.added fields ++ Shape.normalFields kind.rules fields := by
  cases hid : fields.lookup "id" with
  | some j => rw [added_eq_nil_of_lookup hid, List.nil_append, List.nil_append]
  | none =>
      cases kind with
      | step =>
          rw [added_step_of_none hid]
          rfl
      | _ => rfl

/-- The normal form of a record, field by field. -/
def normalEntries (kind : RecordKind) (fields : List (String × Json)) :
    List (String × Option Json) :=
  kind.rules.map fun r => (r.1, (fields.lookup r.1).bind (Shape.kept? r.2))

theorem lookup_normal (kind : RecordKind) {fields : List (String × Json)}
    (h : Fields.Distinct fields) (key : String) :
    (Shape.normalFields kind.rules fields).lookup key =
      ((kind.normalEntries fields).lookup key).join := by
  have hentries : (kind.normalEntries fields).lookup key = (kind.rules.lookup key).map _ :=
    lookup_mapFields (fun k rule => (fields.lookup k).bind (Shape.kept? rule)) _ key
  rw [hentries, Shape.lookup_normalFields _ h]
  cases kind.rules.lookup key <;> simp

/-- A record is written as its normal form if each of its entries is. -/
theorem matches_record (kind : RecordKind) {fields : List (String × Json)}
    {entries : List (String × Option Json)} (distinct : Fields.Distinct fields)
    (distinct' : Fields.Distinct entries)
    (h : List.Forall₂ (fun e f => e.1 = f.1 ∧ Option.Rel Json.Matches e.2 f.2)
      entries (kind.normalEntries (kind.added fields ++ fields))) :
    (Json.object (record entries)).Matches ((Shape.record kind).normal (.object fields)) := by
  have hfull := kind.distinct_added distinct
  have hnormal : Fields.Distinct (Shape.normalFields kind.rules (kind.added fields ++ fields)) :=
    hfull.sublist (Shape.keys_normalFields_sublist _ _)
  rw [Shape.normal, ← normalFields_added]
  refine Json.matches_object (distinct_record distinct') hnormal fun key => ?_
  rw [lookup_record distinct', lookup_normal kind hfull]
  exact rel_join (lookup_rel_of_forall₂ h key)

end RecordKind

/-! ## What is written for each field -/

/-- A field is written as its rule keeps it of the value it was read from. -/
def WrittenBy (rule : Shape × Omission) (raw written : Option Json) : Prop :=
  Option.Rel Json.Matches written (raw.bind (Shape.kept? rule))

theorem writtenBy_some {shape : Shape} {omission : Omission} {x y : Json}
    (kept : omission.omits x = false) (h : y.Matches (shape.normal x)) :
    WrittenBy (shape, omission) (some x) (some y) := by
  have hkept : Shape.kept? (shape, omission) x = some (shape.normal x) := by
    simp [Shape.kept?, kept]
  rw [WrittenBy, Option.bind_some, hkept]
  exact .some h

theorem writtenBy_none {shape : Shape} {omission : Omission} {o : Option Json}
    (h : ∀ x, o = some x → omission.omits x = true) :
    WrittenBy (shape, omission) o none := by
  cases o with
  | none => exact .none
  | some x =>
      have hkept : Shape.kept? (shape, omission) x = none := by simp [Shape.kept?, h x rfl]
      rw [WrittenBy, Option.bind_some, hkept]
      exact .none

theorem writtenBy_absent {shape : Shape} {omission : Omission} {o : Option Json}
    (h : o = none ∨ o = some .null) (omitted : omission.omits .null = true) :
    WrittenBy (shape, omission) o none := by
  refine writtenBy_none fun x hx => ?_
  rcases h with hnone | hnull
  · cases hnone.symm.trans hx
  · cases hnull.symm.trans hx
    exact omitted

theorem writtenBy_string {o : Option Json} {s : String} (h : o = some (.string s)) :
    WrittenBy (.verbatim, .never) o (some (.string s)) := by
  subst h
  exact writtenBy_some rfl ⟨trivial, beq_self_eq_true s⟩

theorem matches_items {α : Type} {R : Json → α → Prop} {write : α → Json} {item : Shape}
    {items : List Json} {rs : List α} (h : List.Forall₂ R items rs)
    (each : ∀ x ∈ items, ∀ r, R x r → (write r).Matches (item.normal x)) :
    (Json.array (rs.map write)).Matches (.array (Shape.normalItems item items)) := by
  rw [Json.matches_array, Shape.normalItems_eq_map, List.forall₂_map_left_iff,
    List.forall₂_map_right_iff]
  exact (forall₂_imp_mem h each).flip

/-- An array is written as its normal form; one without items is left out. -/
theorem writtenBy_array {item : Shape} {items ys : List Json}
    (h : (Json.array ys).Matches (.array (Shape.normalItems item items))) :
    WrittenBy (.list item, .vacant) (some (.array items)) (arrayOf? ys) := by
  cases items with
  | nil =>
      obtain rfl : ys = [] := List.forall₂_nil_right_iff.mp (Json.matches_array.mp h)
      exact writtenBy_none (by rintro _ ⟨⟩; rfl)
  | cons x items =>
      have hne : ys ≠ [] := by
        rintro rfl
        cases Json.matches_array.mp h
      rw [arrayOf?, if_neg hne]
      exact writtenBy_some rfl h

theorem Expr.matches_values {fields : List (String × Json)} {es : List (String × Expr)}
    (h : List.Forall₂ (fun f g => f.1 = g.1 ∧ Expr.ofJson f.2 = .ok g.2) fields es)
    (distinct : Fields.Distinct fields)
    (each : ∀ f ∈ fields, ∀ e, ofJson f.2 = .ok e →
      e.toJson.Matches (Shape.expr.normal f.2)) :
    (Json.object (toJsonFields es)).Matches (.object (Shape.normalValues fields)) := by
  rw [toJsonFields_eq_map, Shape.normalValues_eq_map]
  apply Json.matches_object_of_forall₂
  · rwa [Fields.Distinct, Fields.keys, List.map_map]
  · rw [List.forall₂_map_left_iff, List.forall₂_map_right_iff]
    exact (forall₂_imp_mem h fun f hf g hg => ⟨hg.1.symm, each f hf g.2 hg.2⟩).flip

/-- The arguments of an operator are written as its rule says, if they are as an array. -/
theorem Expr.writtenBy_args {name : String} {fields : List (String × Json)} {es : List Expr}
    (h : ofArgsField name fields = .ok es)
    (listed : ∀ items, fields.lookup "args" = some (.array items) →
      ofJson (.array items) = .ok (.array es) →
      (Json.array (es.map toJson)).Matches (.array (Shape.normalItems .expr items))) :
    WrittenBy (.list .expr, .vacant) (fields.lookup "args") (arrayOf? (es.map toJson)) := by
  obtain ⟨hbare, rfl⟩ | ⟨items, hitems, hes⟩ := (ofArgsField_eq_ok_iff name fields es).mp h
  · exact writtenBy_absent hbare rfl
  · rw [hitems]
    exact writtenBy_array (listed items hitems (ofJson_array hes))

/-- The entries of an operator, as its JSON form lists them. -/
def Expr.operatorEntries (name : String) (args : List Expr) : List (String × Option Json) := [
  ("op", some (.string name)),
  ("args", arrayOf? (args.map toJson))]

theorem Expr.toJson_operator (name : String) (args : List Expr) :
    (operator name args).toJson = .object (record (operatorEntries name args)) := by
  cases args <;> simp [toJson, record, operatorEntries, arrayOf?, present, toJsonItems_eq_map]

theorem Expr.matches_normal {j : Json} {e : Expr} (h : ofJson j = .ok e) (wf : j.WellFormed) :
    e.toJson.Matches (Shape.expr.normal j) := by
  induction j generalizing e with
  | null | bool b | number n =>
      simp only [ofJson, Except.ok.injEq] at h
      subst h
      simp [toJson, Shape.normal, Json.Matches, Json.WellFormed, Json.same]
  | string s =>
      have hs : e.toJson = .string s := by
        simp only [ofJson, Except.ok.injEq] at h
        subst h
        cases hb : Binding.ofString? s with
        | none => rfl
        | some b => rw [toJson, Binding.raw_of_ofString? hb]
      simp [hs, Shape.normal, Json.Matches, Json.WellFormed, Json.same]
  | array items ih =>
      obtain ⟨es, hes, rfl⟩ := map_eq_ok_iff.mp h
      rw [ofItems_eq_ok_iff] at hes
      have hwf := Json.wellFormedItems_iff.mp wf
      rw [toJson, toJsonItems_eq_map, Shape.normal]
      exact matches_items hes fun x hx e he => ih x hx he (hwf x hx)
  | object fields ih =>
      obtain ⟨distinct, hwf⟩ := Json.wellFormed_object_iff.mp wf
      rw [ofJson] at h
      cases hop : operatorName? fields with
      | none =>
          rw [hop] at h
          obtain ⟨es, hes, rfl⟩ := map_eq_ok_iff.mp h
          rw [ofFields_eq_ok_iff] at hes
          rw [toJson, Shape.normal, hop]
          exact matches_values hes distinct fun f hf e he => ih f hf he (hwf f hf)
      | some name =>
          rw [hop] at h
          obtain ⟨es, hes, rfl⟩ := map_eq_ok_iff.mp h
          have hargs : WrittenBy (.list .expr, .vacant) (fields.lookup "args")
              (arrayOf? (es.map toJson)) := by
            refine writtenBy_args hes fun items hitems hread => ?_
            have hmatches := ih _ (mem_of_lookup hitems) hread (wf.of_lookup hitems)
            rwa [toJson, toJsonItems_eq_map, Shape.normal] at hmatches
          have hname := writtenBy_string (operatorName?_eq_some_iff.mp hop)
          rw [toJson_operator, Shape.normal, hop]
          refine RecordKind.matches_record .operator distinct ?_ ?_
          · simp [Fields.Distinct, Fields.keys, operatorEntries]
          · exact .cons ⟨rfl, hname⟩ (.cons ⟨rfl, hargs⟩ .nil)

theorem writtenBy_expr {o : Option Json} {r : Option Expr} (h : optionalExpr? o = some r)
    (wf : ∀ j, o = some j → j.WellFormed) :
    WrittenBy (.expr, .null) o (r.map Expr.toJson) := by
  obtain ⟨habsent, rfl⟩ | ⟨j, e, rfl, hj, he, rfl⟩ := optionalExpr?_eq_some_iff.mp h
  · exact writtenBy_absent habsent rfl
  · have kept : Omission.null.omits j = false := by cases j <;> simp_all [Omission.omits]
    exact writtenBy_some kept (Expr.matches_normal he (wf j rfl))

theorem writtenBy_exprs {o : Option Json} {es : List (String × Expr)}
    (h : exprFields? o = some es) (wf : ∀ j, o = some j → j.WellFormed) :
    WrittenBy (.exprs, .vacant) o (objectOf? (Expr.toJsonFields es)) := by
  obtain ⟨rfl, rfl⟩ | ⟨fields, rfl, hfields⟩ := exprFields?_eq_some_iff.mp h
  · exact .none
  · rw [Expr.ofFields_eq_ok_iff] at hfields
    obtain ⟨distinct, hwf⟩ := Json.wellFormed_object_iff.mp (wf _ rfl)
    have hmatches := Expr.matches_values hfields distinct fun f hf e he =>
      Expr.matches_normal he (hwf f hf)
    cases hfields with
    | nil => exact writtenBy_none (by rintro _ ⟨⟩; rfl)
    | cons hfg hrest => exact writtenBy_some rfl hmatches

/-- A list of records is written as its normal form if every record is. -/
theorem writtenBy_list {α : Type} {read : Json → Option α} {write : α → Json} {item : Shape}
    {o : Option Json} {rs : List α} (h : ReadsList read o rs)
    (wf : ∀ j, o = some j → j.WellFormed)
    (each : ∀ items, o = some (.array items) → ∀ x ∈ items, x.WellFormed → ∀ r,
      read x = some r → (write r).Matches (item.normal x)) :
    WrittenBy (.list item, .vacant) o (arrayOf? (rs.map write)) := by
  obtain ⟨rfl, rfl⟩ | ⟨items, rfl, hrs⟩ := h
  · exact .none
  · have hwf := Json.wellFormedItems_iff.mp (wf _ rfl)
    exact writtenBy_array (matches_items hrs fun x hx => each items rfl x hx (hwf x hx))

/-! ## Records -/

theorem ViewNode.matches_normal {j : Json} (h : Schema.IsView j) {n : ViewNode}
    (hn : ofJson? j = some n) (wf : j.WellFormed) :
    n.toJson.Matches ((Shape.record .view).normal j) := by
  induction h generalizing n with
  | @node fields type props text list children ih =>
      obtain ⟨htype, hprops, hchildren, htext⟩ := ofJson?_object_eq_some_iff.mp hn
      have hwf : ∀ key x, fields.lookup key = some x → x.WellFormed := fun _ _ => wf.of_lookup
      rw [toJson_eq]
      refine RecordKind.matches_record .view (Json.wellFormed_object_iff.mp wf).1
        n.distinct_entries ?_
      refine .cons ⟨rfl, writtenBy_string htype⟩ <|
        .cons ⟨rfl, writtenBy_exprs hprops (hwf "props")⟩ <|
        .cons ⟨rfl, writtenBy_list hchildren (hwf "children") ?_⟩ <|
        .cons ⟨rfl, writtenBy_expr htext (hwf "text")⟩ .nil
      exact fun items hitems x hx hwx c hc => ih items hitems x hx hc hwx

theorem Action.lookup_added_id {fields : List (String × Json)} {id : String}
    (h : id? (fields.lookup "id") = some id) :
    (RecordKind.step.added fields ++ fields).lookup "id" = some (.string id) := by
  cases hid : fields.lookup "id" with
  | none =>
      rw [hid] at h
      cases h
      simp [RecordKind.added_step_of_none hid]
  | some j =>
      rw [hid] at h
      rw [RecordKind.added_eq_nil_of_lookup hid, List.nil_append, hid]
      exact congrArg some (Json.string?_eq_some_iff.mp h)

theorem Action.matches_normal {j : Json} (h : Schema.IsStep j) {a : Action}
    (ha : ofJson? j = some a) (wf : j.WellFormed) :
    a.toJson.Matches ((Shape.record .step).normal j) := by
  induction h generalizing a with
  | @step fields id kind input condition list steps ih =>
      obtain ⟨hid, hkind, hinput, hsteps, hcondition, hbranch⟩ := ofJson?_object_eq_some_iff.mp ha
      simp only [Schema.stepLists, List.forall_mem_cons] at ih
      have hwf : ∀ key x, fields.lookup key = some x → x.WellFormed := fun _ _ => wf.of_lookup
      have hlookup : ∀ key, key ≠ "id" →
          (RecordKind.step.added fields ++ fields).lookup key = fields.lookup key :=
        fun _ => RecordKind.step.lookup_added_of_ne fields
      have hid' := lookup_added_id hid
      rw [toJson_eq]
      refine RecordKind.matches_record .step (Json.wellFormed_object_iff.mp wf).1
        a.distinct_entries ?_
      simp only [RecordKind.normalEntries, RecordKind.rules, List.map_cons, List.map_nil,
        hlookup "kind" (by decide), hlookup "input" (by decide), hlookup "steps" (by decide),
        hlookup "if" (by decide), hlookup "then" (by decide)]
      refine .cons ⟨rfl, writtenBy_string hid'⟩ <|
        .cons ⟨rfl, writtenBy_string hkind⟩ <|
        .cons ⟨rfl, writtenBy_expr hinput (hwf "input")⟩ <|
        .cons ⟨rfl, writtenBy_list hsteps (hwf "steps") ?_⟩ <|
        .cons ⟨rfl, writtenBy_expr hcondition (hwf "if")⟩ <|
        .cons ⟨rfl, writtenBy_list hbranch (hwf "then") ?_⟩ .nil
      · exact fun items hitems x hx hwx s hs => ih.1 items hitems x hx hs hwx
      · exact fun items hitems x hx hwx s hs => ih.2.1 items hitems x hx hs hwx

theorem Query.matches_normal {j : Json} {q : Query} (hq : ofJson? j = some q) (wf : j.WellFormed) :
    q.toJson.Matches ((Shape.record .query).normal j) := by
  obtain ⟨fields, rfl⟩ := exists_fields_of_ofJson? hq
  obtain ⟨hid, hkind, ⟨input, hinput, he⟩, output, houtput, hinto⟩ :=
    ofJson?_object_eq_some_iff.mp hq
  have hwrittenInput : WrittenBy (.expr, .never) (fields.lookup "input") (some q.input.toJson) := by
    rw [hinput]
    exact writtenBy_some rfl (Expr.matches_normal he (wf.of_lookup hinput))
  have hwrittenOutput : WrittenBy (.record .output, .never) (fields.lookup "output")
      (some (.object [("into", .string q.target)])) := by
    rw [houtput]
    have distinct := (Json.wellFormed_object_iff.mp (wf.of_lookup houtput)).1
    have distinct' : Fields.Distinct [("into", some (Json.string q.target))] := by
      simp [Fields.Distinct, Fields.keys]
    exact writtenBy_some rfl
      (RecordKind.matches_record .output distinct distinct' (.cons ⟨rfl, writtenBy_string hinto⟩ .nil))
  rw [toJson_eq]
  exact RecordKind.matches_record .query (Json.wellFormed_object_iff.mp wf).1 q.distinct_entries <|
    .cons ⟨rfl, writtenBy_string hid⟩ <| .cons ⟨rfl, writtenBy_string hkind⟩ <|
    .cons ⟨rfl, hwrittenInput⟩ <| .cons ⟨rfl, hwrittenOutput⟩ .nil

/-- What a raw document amounts to. -/
def Json.normalForm (raw : Json) : Json :=
  (Shape.record .document).normal raw

namespace Document

theorem matches_normalForm {raw : Json} {d : Document} (h : read raw = .ok d) (wf : raw.WellFormed) :
    d.toJson.Matches raw.normalForm := by
  obtain ⟨fields, rfl, hdoc, hd⟩ := fields_of_read h
  obtain ⟨⟨view, hview, hn⟩, hcomputed, hactions, hqueries⟩ := ofJson?_object_eq_some_iff.mp hd
  have hwf : ∀ key x, fields.lookup key = some x → x.WellFormed := fun _ _ => wf.of_lookup
  cases hdoc with
  | @document _ view' version shown isView computed actions queries =>
      obtain rfl : view' = view := Option.some.inj (shown.symm.trans hview)
      have hwrittenView : WrittenBy (.record .view, .never) (fields.lookup "view")
          (some d.view.toJson) := by
        rw [hview]
        exact writtenBy_some rfl (ViewNode.matches_normal isView hn (hwf "view" _ hview))
      rw [toJson_eq, Json.normalForm]
      refine RecordKind.matches_record .document (Json.wellFormed_object_iff.mp wf).1
        d.distinct_entries ?_
      refine .cons ⟨rfl, writtenBy_string version⟩ <| .cons ⟨rfl, hwrittenView⟩ <|
        .cons ⟨rfl, writtenBy_exprs hcomputed (hwf "computed")⟩ <|
        .cons ⟨rfl, writtenBy_list hactions (hwf "actions") ?_⟩ <|
        .cons ⟨rfl, writtenBy_list hqueries (hwf "queries") ?_⟩ .nil
      · intro items hitems x hx hwx a ha
        obtain ⟨_, ⟨⟩, -, hsteps⟩ := actions _ hitems
        exact Action.matches_normal (hsteps x hx) ha hwx
      · exact fun items hitems x hx hwx q hq => Query.matches_normal hq hwx

/-- A document that was read is read back from its JSON form, writes nothing but this form, and
this form is the normal form of what the document was read from. -/
theorem toJson_round_trip {raw : Json} {d : Document} (h : read raw = .ok d) :
    read d.toJson = .ok d ∧ (∀ d', read d.toJson = .ok d' → d'.toJson = d.toJson) ∧
      (raw.WellFormed → d.toJson.WellFormed ∧ d.toJson.same raw.normalForm = true) := by
  have hback := read_toJson h
  refine ⟨hback, fun d' hd' => ?_, matches_normalForm h⟩
  rw [hback] at hd'
  cases hd'
  rfl

/-- A document with unknown fields, nulls and empty collections, and with an operator among the
arguments of another one. -/
def cluttered : Json := .object [
  ("note", .bool true),
  ("specVersion", .string "0.1"),
  ("view", .object [("text", .null), ("props", .object []), ("type", .string "box"),
    ("children", .array [.object [("type", .string "label"), ("text", .object [
      ("op", .string "concat"), ("note", .null), ("args", .array [.string "${uiState.name}",
        .object [("op", .string "now"), ("args", .null)]])])]])]),
  ("actions", .array [.object [("id", .string "go"), ("kind", .string "sequence"),
    ("steps", .array [.object [("kind", .string "log"), ("if", .null), ("then", .array [])]])]]),
  ("queries", .array [.object [("id", .string "q"), ("kind", .string "fsFileExists"),
    ("input", .null), ("output", .object [("into", .string "found"), ("note", .null)])]])]

theorem toJson_round_trip_cluttered : ∃ d, read cluttered = .ok d ∧ cluttered.WellFormed ∧
    read d.toJson = .ok d ∧ d.toJson.WellFormed ∧ d.toJson.same cluttered.normalForm = true := by
  obtain ⟨d, hd⟩ : ∃ d, read cluttered = .ok d := ⟨_, rfl⟩
  have hwf : cluttered.WellFormed := by
    simp [cluttered, Json.WellFormed, Json.WellFormedItems, Json.WellFormedFields,
      Fields.Distinct, Fields.keys]
  obtain ⟨hback, -, hmatches⟩ := toJson_round_trip hd
  exact ⟨d, hd, hwf, hback, hmatches hwf⟩

end Document

end WidgetDoc
