import WidgetDoc.Evaluation
import WidgetDoc.Proofs.Nesting
import WidgetDoc.Proofs.Results

/-!
# Evaluation through the parts of an expression

What an expression evaluates to is put together from what its immediate parts evaluate to, one
level deeper. A relation between results that sequencing keeps therefore relates two evaluations of
an expression, be it in two contexts or at two depths, as soon as it relates those of its parts.
-/

namespace WidgetDoc

namespace Expr

/-- The immediate parts of an expression. -/
def parts : Expr → List Expr
  | array items => items
  | object fields => fields.map (·.2)
  | operator _ args => args
  | _ => []

@[elab_as_elim]
theorem parts_induction {motive : Expr → Prop}
    (step : ∀ e, (∀ p ∈ e.parts, motive p) → motive e) (e : Expr) : motive e := by
  induction e with
  | null | bool b | number n | text s | binding b => exact step _ (by simp [parts])
  | array items ih => exact step _ ih
  | object fields ih => exact step _ (List.forall_mem_map.mpr ih)
  | operator name args ih => exact step _ ih

theorem eval_of_lt {ctx : Context} {depth : Nat} (e : Expr) (h : maxDepth < depth) :
    e.eval ctx depth = .error .tooDeep := by
  rw [eval.eq_def, if_pos h]

end Expr

/-- A relation between results that holds of a value twice and is kept by going on from related
results in related ways. -/
structure Sequential (R : (α : Type) → Except EvalError α → Except EvalError α → Prop) : Prop where
  ok : ∀ {α : Type} (a : α), R α (.ok a) (.ok a)
  bind : ∀ {α β : Type} {r r' : Except EvalError α} {f f' : α → Except EvalError β},
    R α r r' → (∀ a, R β (f a) (f' a)) → R β (r.bind f) (r'.bind f')

namespace Sequential

variable {R : (α : Type) → Except EvalError α → Except EvalError α → Prop} (hR : Sequential R)
  {ctx ctx' : Context} {depth depth' : Nat} {es : List Expr}

include hR

theorem map {α β : Type} {r r' : Except EvalError α} (h : R α r r') (f : α → β) :
    R β (r.map f) (r'.map f) := by
  have hmap : ∀ r : Except EvalError α, r.map f = r.bind fun a => .ok (f a) := by
    intro r
    cases r <;> rfl
  rw [hmap, hmap]
  exact hR.bind h fun a => hR.ok (f a)

theorem evalItems (h : ∀ e ∈ es, R Value (e.eval ctx depth) (e.eval ctx' depth')) :
    R _ (Expr.evalItems ctx depth es) (Expr.evalItems ctx' depth' es) := by
  induction es with
  | nil => exact hR.ok []
  | cons e es ih =>
      obtain ⟨he, hes⟩ := List.forall_mem_cons.mp h
      exact hR.bind he fun v => hR.map (ih hes) _

theorem evalFields {fields : List (String × Expr)}
    (h : ∀ f ∈ fields, R Value (f.2.eval ctx depth) (f.2.eval ctx' depth')) :
    R _ (Expr.evalFields ctx depth fields) (Expr.evalFields ctx' depth' fields) := by
  induction fields with
  | nil => exact hR.ok []
  | cons f fields ih =>
      obtain ⟨hf, hfields⟩ := List.forall_mem_cons.mp h
      exact hR.bind hf fun v => hR.map (ih hfields) _

theorem evalArg (h : ∀ e ∈ es, R Value (e.eval ctx depth) (e.eval ctx' depth')) (i : Nat) :
    R _ (Expr.evalArg ctx depth i es) (Expr.evalArg ctx' depth' i es) := by
  induction es generalizing i with
  | nil => cases i <;> exact hR.ok none
  | cons e es ih =>
      obtain ⟨he, hes⟩ := List.forall_mem_cons.mp h
      cases i with
      | zero => exact he
      | succ i => exact ih hes i

theorem evalTexts (h : ∀ e ∈ es, R Value (e.eval ctx depth) (e.eval ctx' depth')) :
    R _ (Expr.evalTexts ctx depth es) (Expr.evalTexts ctx' depth' es) := by
  induction es with
  | nil => exact hR.ok ""
  | cons e es ih =>
      obtain ⟨he, hes⟩ := List.forall_mem_cons.mp h
      exact hR.bind he fun v => hR.map (ih hes) _

theorem evalAll (h : ∀ e ∈ es, R Value (e.eval ctx depth) (e.eval ctx' depth')) :
    R _ (Expr.evalAll ctx depth es) (Expr.evalAll ctx' depth' es) := by
  induction es with
  | nil => exact hR.ok true
  | cons e es ih =>
      obtain ⟨he, hes⟩ := List.forall_mem_cons.mp h
      refine hR.bind he fun v => ?_
      split
      · exact ih hes
      · exact hR.ok false

theorem evalAny (h : ∀ e ∈ es, R Value (e.eval ctx depth) (e.eval ctx' depth')) :
    R _ (Expr.evalAny ctx depth es) (Expr.evalAny ctx' depth' es) := by
  induction es with
  | nil => exact hR.ok false
  | cons e es ih =>
      obtain ⟨he, hes⟩ := List.forall_mem_cons.mp h
      refine hR.bind he fun v => ?_
      split
      · exact hR.ok true
      · exact ih hes

/-- Two evaluations within the depth that is allowed are related if those of the immediate parts
are. Besides its parts an expression shows what a binding reads and which operator is unknown. -/
theorem eval {e : Expr} (hdepth : depth ≤ maxDepth) (hdepth' : depth' ≤ maxDepth)
    (hbinding : ∀ b, e = .binding b → b.resolve ctx = b.resolve ctx')
    (hunknown : ∀ name args, e = .operator name args → Operator.ofName? name = none →
      R Value (.error (.unknownOperator name)) (.error (.unknownOperator name)))
    (h : ∀ p ∈ e.parts, R Value (p.eval ctx (depth + 1)) (p.eval ctx' (depth' + 1))) :
    R Value (e.eval ctx depth) (e.eval ctx' depth') := by
  have hnot : ¬ maxDepth < depth := by omega
  have hnot' : ¬ maxDepth < depth' := by omega
  rw [Expr.eval.eq_def ctx, Expr.eval.eq_def ctx', if_neg hnot, if_neg hnot']
  cases e with
  | null | bool b | number n | text s => exact hR.ok _
  | binding b =>
      simp only [hbinding b rfl]
      exact hR.ok _
  | array items => exact hR.map (hR.evalItems h) _
  | object fields => exact hR.map (hR.evalFields (List.forall_mem_map.mp h)) _
  | operator name args =>
      simp only
      cases hop : Operator.ofName? name with
      | none => exact hunknown name args rfl hop
      | some op =>
          cases op with
          | unary op => exact hR.map (hR.evalArg h 0) _
          | binary op => exact hR.bind (hR.evalArg h 0) fun v => hR.map (hR.evalArg h 1) _
          | concat => exact hR.map (hR.evalTexts h) _
          | and => exact hR.map (hR.evalAll h) _
          | or => exact hR.map (hR.evalAny h) _
          | choose => exact hR.bind (hR.evalArg h 0) fun v => hR.evalArg h _

end Sequential

/-! ## Expressions that are evaluated one after the other -/

namespace Expr

variable {ctx : Context} {depth : Nat}

/-- The error of the first expression that has one. -/
def firstError? (ctx : Context) (depth : Nat) (es : List Expr) : Option EvalError :=
  es.findSome? fun e => error? (e.eval ctx depth)

theorem firstError?_cons (e : Expr) (es : List Expr) :
    firstError? ctx depth (e :: es) =
      (error? (e.eval ctx depth)).or (firstError? ctx depth es) := by
  rw [firstError?, List.findSome?_cons]
  cases error? (e.eval ctx depth) <;> rfl

theorem firstError?_append (es es' : List Expr) :
    firstError? ctx depth (es ++ es') =
      (firstError? ctx depth es).or (firstError? ctx depth es') :=
  List.findSome?_append

theorem firstError?_eq_none_iff {es : List Expr} :
    firstError? ctx depth es = none ↔ ∀ e ∈ es, Succeeds (e.eval ctx depth) := by
  simp only [firstError?, List.findSome?_eq_none_iff, error?_eq_none_iff]

theorem firstError?_eq_some_iff {es : List Expr} {err : EvalError} :
    firstError? ctx depth es = some err ↔ ∃ before e after, es = before ++ e :: after ∧
      (∀ b ∈ before, Succeeds (b.eval ctx depth)) ∧ e.eval ctx depth = .error err := by
  simp only [firstError?, List.findSome?_eq_some_iff, error?_eq_none_iff, error?_eq_some_iff]
  exact exists_congr fun before => exists_congr fun e => exists_congr fun after =>
    and_congr_right' and_comm

theorem error?_evalItems (es : List Expr) :
    error? (evalItems ctx depth es) = firstError? ctx depth es := by
  induction es with
  | nil => rfl
  | cons e es ih =>
      rw [evalItems, firstError?_cons, ← ih]
      exact error?_bind fun v => error?_map _ _

theorem error?_evalFields (fields : List (String × Expr)) :
    error? (evalFields ctx depth fields) = firstError? ctx depth (fields.map (·.2)) := by
  induction fields with
  | nil => rfl
  | cons f fields ih =>
      rw [evalFields, List.map_cons, firstError?_cons, ← ih]
      exact error?_bind fun v => error?_map _ _

theorem error?_evalTexts (es : List Expr) :
    error? (evalTexts ctx depth es) = firstError? ctx depth es := by
  induction es with
  | nil => rfl
  | cons e es ih =>
      rw [evalTexts, firstError?_cons, ← ih]
      exact error?_bind fun v => error?_map _ _

theorem succeeds_of_evalArg {es : List Expr} {n : Nat} (hlength : es.length ≤ n)
    (h : ∀ i < n, Succeeds (evalArg ctx depth i es)) : ∀ e ∈ es, Succeeds (e.eval ctx depth) := by
  induction es generalizing n with
  | nil => simp
  | cons e es ih =>
      rw [List.length_cons] at hlength
      refine List.forall_mem_cons.mpr ⟨h 0 (by omega), ?_⟩
      refine ih (Nat.le_sub_one_of_lt hlength) ?_
      intro i hi
      exact h (i + 1) (by omega)

end Expr

end WidgetDoc
