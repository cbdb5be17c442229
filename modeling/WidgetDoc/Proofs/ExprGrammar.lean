import WidgetDoc.Proofs.Nesting
import WidgetDoc.Proofs.Results

/-!
# Which JSON values write expressions

`Json.IsExpr` says it without the reader: everything is an expression whose parts are, and an
operator takes its arguments from an array or has none. `exists_ofJson_iff` shows that the reader
accepts exactly these values.
-/

namespace WidgetDoc

/-- The JSON values that write an expression. Of an operator only the arguments count; whatever
else stands in its object is ignored. -/
inductive Json.IsExpr : Json → Prop where
  | null : IsExpr .null
  | bool (b : Bool) : IsExpr (.bool b)
  | number (n : Number) : IsExpr (.number n)
  | string (s : String) : IsExpr (.string s)
  | array {items : List Json} (parts : ∀ x ∈ items, IsExpr x) : IsExpr (.array items)
  | object {fields : List (String × Json)}
      (literal : ∀ name, fields.lookup "op" ≠ some (.string name))
      (parts : ∀ f ∈ fields, IsExpr f.2) : IsExpr (.object fields)
  | bareOperator {fields : List (String × Json)} {name : String}
      (named : fields.lookup "op" = some (.string name))
      (bare : fields.lookup "args" = none ∨ fields.lookup "args" = some .null) :
      IsExpr (.object fields)
  | operator {fields : List (String × Json)} {name : String} {args : List Json}
      (named : fields.lookup "op" = some (.string name))
      (listed : fields.lookup "args" = some (.array args))
      (parts : ∀ x ∈ args, IsExpr x) : IsExpr (.object fields)

namespace Expr

theorem operatorName?_eq_some_iff {fields : List (String × Json)} {name : String} :
    operatorName? fields = some name ↔ fields.lookup "op" = some (.string name) := by
  simp only [operatorName?, Option.bind_eq_some_iff]
  constructor
  · rintro ⟨j, hj, hname⟩
    cases j <;> simp_all [Json.string?]
  · intro h
    exact ⟨.string name, h, rfl⟩

theorem operatorName?_eq_none_iff {fields : List (String × Json)} :
    operatorName? fields = none ↔ ∀ name, fields.lookup "op" ≠ some (.string name) := by
  simp only [Option.eq_none_iff_forall_ne_some, ne_eq, operatorName?_eq_some_iff]

theorem ofItems_eq_ok_iff (steps : Location) (i : Nat) (xs : List Json) (es : List Expr) :
    ofItems steps i xs = .ok es ↔ List.Forall₂ (fun x e => ofJson x = .ok e) xs es := by
  induction xs generalizing i es with
  | nil => cases es <;> simp [ofItems]
  | cons x xs ih =>
      cases hx : ofJson x with
      | error e => cases es <;> simp [ofItems, hx]
      | ok e => cases es <;> simp [ofItems, hx, map_eq_ok_iff, ih, and_comm]

theorem ofJson_array {items : List Json} {es : List Expr}
    (h : List.Forall₂ (fun x e => ofJson x = .ok e) items es) :
    ofJson (.array items) = .ok (.array es) := by
  rw [ofJson, (ofItems_eq_ok_iff [] 0 items es).mpr h]
  rfl

theorem ofFields_eq_ok_iff (fields : List (String × Json)) (es : List (String × Expr)) :
    ofFields fields = .ok es ↔
      List.Forall₂ (fun f g => f.1 = g.1 ∧ ofJson f.2 = .ok g.2) fields es := by
  induction fields generalizing es with
  | nil => cases es <;> simp [ofFields]
  | cons f fields ih =>
      obtain ⟨key, x⟩ := f
      cases hx : ofJson x with
      | error e => cases es <;> simp [ofFields, hx]
      | ok e => cases es <;> simp [ofFields, hx, map_eq_ok_iff, ih, Prod.ext_iff, and_comm]

/-- The arguments of an operator are those under its first field `args`. -/
theorem ofArgsField_eq (name : String) (fields : List (String × Json)) :
    ofArgsField name fields = (fields.lookup "args").elim (.ok []) (ofArgs name) :=
  walk_eq_lookup rfl (fun _ _ _ => rfl) fields

theorem ofArgs_eq_ok_iff (name : String) (j : Json) (es : List Expr) :
    ofArgs name j = .ok es ↔ (j = .null ∧ es = []) ∨
      ∃ items, j = .array items ∧ List.Forall₂ (fun x e => ofJson x = .ok e) items es := by
  cases j with
  | null => cases es <;> simp [ofArgs]
  | array items => simp [ofArgs, ofItems_eq_ok_iff]
  | bool b | number n | string s | object fields => simp [ofArgs]

/-- Reading an operator succeeds on absent, null and listed arguments. -/
theorem ofArgsField_eq_ok_iff (name : String) (fields : List (String × Json)) (es : List Expr) :
    ofArgsField name fields = .ok es ↔
      ((fields.lookup "args" = none ∨ fields.lookup "args" = some .null) ∧ es = []) ∨
      ∃ items, fields.lookup "args" = some (.array items) ∧
        List.Forall₂ (fun x e => ofJson x = .ok e) items es := by
  rw [ofArgsField_eq]
  cases h : fields.lookup "args" with
  | none => cases es <;> simp
  | some j => simp [ofArgs_eq_ok_iff]

/-- Exactly the values of the grammar are read as expressions. -/
theorem exists_ofJson_iff (j : Json) : (∃ e, ofJson j = .ok e) ↔ j.IsExpr := by
  constructor
  · induction j with
    | null => exact fun _ => .null
    | bool b => exact fun _ => .bool b
    | number n => exact fun _ => .number n
    | string s => exact fun _ => .string s
    | array items ih =>
        simp only [ofJson, map_eq_ok_iff, ofItems_eq_ok_iff]
        rintro ⟨_, es, hes, -⟩
        exact .array fun x hx => ih x hx (exists_forall₂_iff.mp ⟨es, hes⟩ x hx)
    | object fields ih =>
        rintro ⟨e, he⟩
        cases hop : operatorName? fields with
        | none =>
            simp only [ofJson, hop, map_eq_ok_iff, ofFields_eq_ok_iff] at he
            obtain ⟨es, hes, -⟩ := he
            refine .object (operatorName?_eq_none_iff.mp hop) fun f hf => ih f hf ?_
            obtain ⟨g, -, hg⟩ := exists_forall₂_iff.mp ⟨es, hes⟩ f hf
            exact ⟨g.2, hg⟩
        | some name =>
            have named := operatorName?_eq_some_iff.mp hop
            simp only [ofJson, hop, map_eq_ok_iff, ofArgsField_eq_ok_iff] at he
            obtain ⟨es, ⟨bare, -⟩ | ⟨items, listed, hes⟩, -⟩ := he
            · exact .bareOperator named bare
            · -- The arguments are the items of the field `args`, which is an expression itself.
              have hargs : (Json.array items).IsExpr := by
                apply ih _ (mem_of_lookup listed)
                simp only [ofJson, map_eq_ok_iff, ofItems_eq_ok_iff]
                exact ⟨.array es, es, hes, rfl⟩
              cases hargs with
              | array parts => exact .operator named listed parts
  · intro h
    induction h with
    | null => exact ⟨.null, rfl⟩
    | bool b => exact ⟨.bool b, rfl⟩
    | number n => exact ⟨.number n, rfl⟩
    | string s => exact ⟨_, rfl⟩
    | array parts ih =>
        obtain ⟨es, hes⟩ := exists_forall₂_iff.mpr ih
        exact ⟨.array es, ofJson_array hes⟩
    | @object fields literal parts ih =>
        obtain ⟨es, hes⟩ : ∃ es, ofFields fields = .ok es := by
          simp only [ofFields_eq_ok_iff, exists_forall₂_iff]
          intro f hf
          obtain ⟨e, he⟩ := ih f hf
          exact ⟨(f.1, e), rfl, he⟩
        have hop := operatorName?_eq_none_iff.mpr literal
        exact ⟨.object es, by simp [ofJson, hop, hes, Except.map]⟩
    | @bareOperator fields name named bare =>
        have hop := operatorName?_eq_some_iff.mpr named
        have hargs := (ofArgsField_eq_ok_iff name fields []).mpr (.inl ⟨bare, rfl⟩)
        exact ⟨.operator name [], by simp [ofJson, hop, hargs, Except.map]⟩
    | @operator fields name args named listed parts ih =>
        have hop := operatorName?_eq_some_iff.mpr named
        obtain ⟨es, hes⟩ := exists_forall₂_iff.mpr ih
        have hargs := (ofArgsField_eq_ok_iff name fields es).mpr (.inr ⟨args, listed, hes⟩)
        exact ⟨.operator name es, by simp [ofJson, hop, hargs, Except.map]⟩

end Expr

end WidgetDoc
