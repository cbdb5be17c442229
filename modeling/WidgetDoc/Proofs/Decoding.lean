import WidgetDoc.Document.Encoding
import WidgetDoc.Proofs.ExprGrammar

/-!
# What the decoders return

One equation per decoder: which value it returns, in terms of the fields it looks up. Lists of
records are read item by item.
-/

namespace WidgetDoc

@[simp] theorem Json.string?_eq_some_iff {j : Json} {s : String} :
    j.string? = some s ↔ j = .string s := by
  cases j <;> simp [Json.string?]

theorem Json.array?_eq_some_iff {j : Json} {items : List Json} :
    j.array? = some items ↔ j = .array items := by
  cases j <;> simp [Json.array?]

theorem Json.array?_eq_none_iff {j : Json} : j.array? = none ↔ ∀ items, j ≠ .array items := by
  simp [Option.eq_none_iff_forall_ne_some, Json.array?_eq_some_iff]

@[simp] theorem Json.field?_object (fields : List (String × Json)) (key : String) :
    (Json.object fields).field? key = fields.lookup key := rfl

theorem Json.field?_eq_some_iff {j x : Json} {key : String} :
    j.field? key = some x ↔ ∃ fields, j = .object fields ∧ fields.lookup key = some x := by
  cases j <;> simp [Json.field?]

namespace QueryKind

theorem name_ne_empty (kind : QueryKind) : kind.name ≠ "" := by
  cases kind <;> decide

@[simp] theorem ofName?_name (kind : QueryKind) : ofName? kind.name = some kind := by
  cases kind <;> decide

theorem ofName?_eq_some_iff {name : String} {kind : QueryKind} :
    ofName? name = some kind ↔ kind.name = name := by
  constructor
  · intro h
    simpa using List.find?_some h
  · rintro rfl
    exact ofName?_name kind

end QueryKind

namespace Encoding

theorem expr?_eq_some_iff {j : Json} {e : Expr} : expr? j = some e ↔ Expr.ofJson j = .ok e :=
  toOption_eq_some_iff

theorem optionalExpr?_eq_some_iff {o : Option Json} {r : Option Expr} :
    optionalExpr? o = some r ↔ ((o = none ∨ o = some .null) ∧ r = none) ∨
      ∃ j e, o = some j ∧ j ≠ .null ∧ Expr.ofJson j = .ok e ∧ r = some e := by
  rcases o with _ | j
  · cases r <;> simp [optionalExpr?]
  · by_cases h : j = .null
    · subst h
      cases r <;> simp [optionalExpr?]
    · rw [optionalExpr?.eq_3 _ h]
      cases r <;> simp [h, expr?_eq_some_iff]

theorem exprFields?_eq_some_iff {o : Option Json} {es : List (String × Expr)} :
    exprFields? o = some es ↔ (o = none ∧ es = []) ∨
      ∃ fields, o = some (.object fields) ∧ Expr.ofFields fields = .ok es := by
  rcases o with _ | (_ | b | n | s | items | fields)
  case none => cases es <;> simp [exprFields?]
  case some.object => simp [exprFields?, toOption_eq_some_iff]
  all_goals simp [exprFields?]

/-- The records in an optional list field, as a decoder reads them. -/
def ReadsList {α : Type} (read : Json → Option α) (o : Option Json) (rs : List α) : Prop :=
  (o = none ∧ rs = []) ∨
    ∃ items, o = some (.array items) ∧ List.Forall₂ (fun x r => read x = some r) items rs

/-- A list field whose items can all be read is read. -/
theorem exists_readsList {α : Type} {read : Json → Option α} {o : Option Json}
    (list : ∀ j, o = some j → ∃ items, j = .array items)
    (readable : ∀ items, o = some (.array items) → ∀ x ∈ items, ∃ r, read x = some r) :
    ∃ rs, ReadsList read o rs := by
  rcases o with _ | j
  · exact ⟨[], .inl ⟨rfl, rfl⟩⟩
  · obtain ⟨items, rfl⟩ := list j rfl
    obtain ⟨rs, hrs⟩ := exists_forall₂_iff.mpr (readable items rfl)
    exact ⟨rs, .inr ⟨items, rfl, hrs⟩⟩

/-- A walk that reads the items of a list one by one returns what each of them is read as. -/
theorem walk_items_eq_some_iff {α : Type} (read : Json → Option α)
    (walk : List Json → Option (List α)) (nil : walk [] = some [])
    (cons : ∀ x xs, walk (x :: xs) = (read x).bind fun r => (walk xs).bind fun rs => some (r :: rs))
    (xs : List Json) (rs : List α) :
    walk xs = some rs ↔ List.Forall₂ (fun x r => read x = some r) xs rs := by
  induction xs generalizing rs with
  | nil => cases rs <;> simp [nil]
  | cons x xs ih =>
      rw [cons]
      cases rs <;> simp [Option.bind_eq_some_iff, ih]

/-- A list field that is read as a whole, absent or an array, is read item by item. -/
theorem elim_eq_some_iff {α : Type} {read : Json → Option α} {list : Json → Option (List α)}
    {o : Option Json} {rs : List α} (other : ∀ j : Json, j.array? = none → list j = none)
    (array : ∀ items rs, list (.array items) = some rs ↔
      List.Forall₂ (fun x r => read x = some r) items rs) :
    o.elim (some []) list = some rs ↔ ReadsList read o rs := by
  rcases o with _ | j
  · cases rs <;> simp [ReadsList]
  · cases hj : j.array? with
    | none => simp [ReadsList, other j hj, Json.array?_eq_none_iff.mp hj]
    | some items =>
        obtain rfl := Json.array?_eq_some_iff.mp hj
        simp [ReadsList, array]

end Encoding

open Encoding

namespace ViewNode

theorem ofChildrenField?_eq_some_iff {fields : List (String × Json)} {ns : List ViewNode} :
    ofChildrenField? fields = some ns ↔ ReadsList ofJson? (fields.lookup "children") ns := by
  have hwalk : ofChildrenField? fields = (fields.lookup "children").elim (some []) ofChildren? :=
    walk_eq_lookup rfl (fun _ _ _ => rfl) fields
  rw [hwalk]
  refine elim_eq_some_iff (fun j hj => ?_) fun items rs => ?_
  · cases j <;> simp_all [ofChildren?, Json.array?]
  · exact walk_items_eq_some_iff ofJson? ofItems? rfl (fun _ _ => rfl) items rs

theorem ofJson?_object_eq_some_iff {fields : List (String × Json)} {n : ViewNode} :
    ofJson? (.object fields) = some n ↔ fields.lookup "type" = some (.string n.type) ∧
      exprFields? (fields.lookup "props") = some n.props ∧
      ReadsList ofJson? (fields.lookup "children") n.children ∧
      optionalExpr? (fields.lookup "text") = some n.text := by
  obtain ⟨type, props, text, children⟩ := n
  simp [ofJson?, Option.bind_eq_some_iff, ofChildrenField?_eq_some_iff]

end ViewNode

namespace Action

theorem ofField?_eq_some_iff {name : String} {fields : List (String × Json)} {as : List Action} :
    ofField? name fields = some as ↔ ReadsList ofJson? (fields.lookup name) as := by
  have hwalk : ofField? name fields = (fields.lookup name).elim (some []) ofList? :=
    walk_eq_lookup rfl (fun _ _ _ => rfl) fields
  rw [hwalk]
  refine elim_eq_some_iff (fun j hj => ?_) fun items rs => ?_
  · cases j <;> simp_all [ofList?, Json.array?]
  · exact walk_items_eq_some_iff ofJson? ofItems? rfl (fun _ _ => rfl) items rs

theorem ofJson?_object_eq_some_iff {fields : List (String × Json)} {a : Action} :
    ofJson? (.object fields) = some a ↔ id? (fields.lookup "id") = some a.id ∧
      fields.lookup "kind" = some (.string a.kind) ∧
      optionalExpr? (fields.lookup "input") = some a.input ∧
      ReadsList ofJson? (fields.lookup "steps") a.steps ∧
      optionalExpr? (fields.lookup "if") = some a.condition ∧
      ReadsList ofJson? (fields.lookup "then") a.branch := by
  obtain ⟨id, kind, input, steps, condition, branch⟩ := a
  simp [ofJson?, Option.bind_eq_some_iff, ofField?_eq_some_iff]

end Action

theorem Query.ofJson?_object_eq_some_iff {fields : List (String × Json)} {q : Query} :
    Query.ofJson? (.object fields) = some q ↔ fields.lookup "id" = some (.string q.id) ∧
      fields.lookup "kind" = some (.string q.kind.name) ∧
      (∃ input, fields.lookup "input" = some input ∧ Expr.ofJson input = .ok q.input) ∧
      ∃ output, fields.lookup "output" = some (.object output) ∧
        output.lookup "into" = some (.string q.target) := by
  obtain ⟨id, kind, input, target⟩ := q
  have houtput : ((fields.lookup "output").bind fun j => j.field? "into") = some (.string target) ↔
      ∃ output, fields.lookup "output" = some (.object output) ∧
        output.lookup "into" = some (.string target) := by
    rw [Option.bind_eq_some_iff]
    constructor
    · rintro ⟨_, hj, hinto⟩
      obtain ⟨output, rfl, hinto⟩ := Json.field?_eq_some_iff.mp hinto
      exact ⟨output, hj, hinto⟩
    · rintro ⟨output, hj, hinto⟩
      exact ⟨.object output, hj, hinto⟩
  rw [← houtput]
  simp [Query.ofJson?, Option.bind_eq_some_iff, expr?_eq_some_iff, QueryKind.ofName?_eq_some_iff]

namespace Document

theorem ofArray?_eq_some_iff {α : Type} {read : Json → Option α} {o : Option Json} {rs : List α} :
    ofArray? read o = some rs ↔ ReadsList read o rs := by
  have hmap : ∀ items rs, items.mapM read = some rs ↔
      List.Forall₂ (fun x r => read x = some r) items rs := by
    intro items rs
    exact walk_items_eq_some_iff read (List.mapM read) rfl (by simp) items rs
  rcases o with _ | (_ | b | n | s | items | fields)
  case none => cases rs <;> simp [ofArray?, ReadsList]
  case some.array => simp [ofArray?, ReadsList, hmap]
  all_goals simp [ofArray?, ReadsList]

theorem ofJson?_object_eq_some_iff {fields : List (String × Json)} {d : Document} :
    ofJson? (.object fields) = some d ↔
      (∃ view, fields.lookup "view" = some view ∧ ViewNode.ofJson? view = some d.view) ∧
      exprFields? (fields.lookup "computed") = some d.computed ∧
      ReadsList Action.ofJson? (fields.lookup "actions") d.actions ∧
      ReadsList Query.ofJson? (fields.lookup "queries") d.queries := by
  obtain ⟨view, computed, actions, queries⟩ := d
  simp [ofJson?, Json.field?, Option.bind_eq_some_iff, ofArray?_eq_some_iff]

end Document

end WidgetDoc
