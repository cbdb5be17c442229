import WidgetDoc.Proofs.DepthLimit

/-!
# Operators that gather their arguments

`concat`, `and` and `or` take any number of arguments, read something from one after the other and
may stop early. What they gather from a list they gather from any two parts of it in a row, and from
their own result as an argument they read what it was made of. Hence nested applications flatten.
-/

open WidgetDoc.Expr

namespace WidgetDoc

/-- How an operator gathers its arguments. By what was read from one of them, `next` decides what
becomes of that and what the others would give. -/
structure Gathering (α : Type) where
  unit : α
  read : Value → α
  next : α → Except EvalError α → Except EvalError α
  result : α → Json
  read_result : ∀ a, read (some (result a)) = a
  next_unit : ∀ r, next unit r = r
  next_assoc : ∀ a r r', (next a r).bind (fun b => next b r') = next a (r.bind fun b => next b r')
  next_same : ∀ a {r r'}, SameUnlessTooDeep r r' → SameUnlessTooDeep (next a r) (next a r')

namespace Gathering

/-- The texts of all arguments, joined. -/
def texts : Gathering String where
  unit := ""
  read := Value.display
  next s r := r.map fun rest => s ++ rest
  result := .string
  read_result _ := rfl
  next_unit r := by
    cases r <;> simp [Except.map]
  next_assoc s r r' := by
    cases r with
    | error e => rfl
    | ok t => cases r' <;> simp [Except.map, Except.bind, String.append_assoc]
  next_same s _ _ h := sequential_sameUnlessTooDeep.map h _

/-- Whether the truth of an argument is the decisive one; the first that is ends the walk. -/
def truths (decisive : Bool) : Gathering Bool where
  unit := !decisive
  read := Value.truthy
  next b r := if b = decisive then .ok decisive else r
  result := .bool
  read_result _ := rfl
  next_unit r := by simp
  next_assoc b r r' := by
    by_cases h : b = decisive <;> simp [h, Except.bind]
  next_same b _ _ h := by
    by_cases hb : b = decisive
    · simpa [hb] using sequential_sameUnlessTooDeep.ok decisive
    · simpa [hb] using h

variable {α : Type} (g : Gathering α) (ctx : Context) (depth : Nat)

def gather : List Expr → Except EvalError α
  | [] => .ok g.unit
  | e :: es => (e.eval ctx depth).bind fun v => g.next (g.read v) (gather es)

theorem gather_append (es es' : List Expr) :
    g.gather ctx depth (es ++ es') =
      (g.gather ctx depth es).bind fun a => g.next a (g.gather ctx depth es') := by
  induction es with
  | nil => exact (g.next_unit _).symm
  | cons e es ih =>
      rw [List.cons_append, gather, gather, ih]
      cases e.eval ctx depth with
      | error err => rfl
      | ok v => exact (g.next_assoc _ _ _).symm

theorem gather_of_succ (es : List Expr) :
    SameUnlessTooDeep (g.gather ctx (depth + 1) es) (g.gather ctx depth es) := by
  induction es with
  | nil => exact .inr rfl
  | cons e es ih =>
      apply sequential_sameUnlessTooDeep.bind (e.eval_of_le ctx (Nat.le_succ depth))
      intro v
      exact g.next_same _ ih

/-- The operator of this name gathers its arguments in this way. -/
def Describes (name : String) : Prop :=
  ∀ (args : List Expr) (ctx : Context) (depth : Nat), depth ≤ maxDepth →
    (operator name args).eval ctx depth =
      (g.gather ctx (depth + 1) args).map fun a => some (g.result a)

theorem evalTexts_eq_gather (es : List Expr) :
    evalTexts ctx depth es = texts.gather ctx depth es := by
  induction es with
  | nil => rfl
  | cons e es ih =>
      rw [evalTexts, gather, ih]
      rfl

theorem evalAll_eq_gather (es : List Expr) :
    evalAll ctx depth es = (truths false).gather ctx depth es := by
  induction es with
  | nil => rfl
  | cons e es ih =>
      rw [evalAll, gather, ih]
      congr
      funext v
      cases h : Value.truthy v <;> simp [truths, h]

theorem evalAny_eq_gather (es : List Expr) :
    evalAny ctx depth es = (truths true).gather ctx depth es := by
  induction es with
  | nil => rfl
  | cons e es ih =>
      rw [evalAny, gather, ih]
      rfl

theorem describes_concat : texts.Describes "concat" := by
  intro args ctx depth h
  have hop : Operator.ofName? "concat" = some .concat := rfl
  rw [eval, if_neg (Nat.not_lt.mpr h), ← evalTexts_eq_gather]
  simp only [hop]
  rfl

theorem describes_and : (truths false).Describes "and" := by
  intro args ctx depth h
  have hop : Operator.ofName? "and" = some .and := rfl
  rw [eval, if_neg (Nat.not_lt.mpr h), ← evalAll_eq_gather]
  simp only [hop]
  rfl

theorem describes_or : (truths true).Describes "or" := by
  intro args ctx depth h
  have hop : Operator.ofName? "or" = some .or := rfl
  rw [eval, if_neg (Nat.not_lt.mpr h), ← evalAny_eq_gather]
  simp only [hop]
  rfl

variable {g ctx depth} {name : String}

/-- An application among the arguments of the same operator gives what its own arguments would give
in its place, one level higher up. -/
theorem Describes.gather_nested (h : g.Describes name) (ys zs : List Expr) :
    SameUnlessTooDeep (g.gather ctx depth (operator name ys :: zs))
      (g.gather ctx depth (ys ++ zs)) := by
  by_cases hdepth : maxDepth < depth
  · rw [gather, eval_of_lt _ hdepth]
    exact .inl rfl
  · have hinner : g.gather ctx depth (operator name ys :: zs) =
        (g.gather ctx (depth + 1) ys).bind fun a => g.next a (g.gather ctx depth zs) := by
      rw [gather, h ys ctx depth (Nat.not_lt.mp hdepth)]
      cases g.gather ctx (depth + 1) ys with
      | error err => rfl
      | ok a => exact congrArg (fun b => g.next b _) (g.read_result a)
    rw [hinner, gather_append]
    apply sequential_sameUnlessTooDeep.bind (g.gather_of_succ ctx depth ys)
    intro a
    exact .inr rfl

theorem Describes.eval_nested (h : g.Describes name) (xs ys zs : List Expr) :
    SameUnlessTooDeep ((operator name (xs ++ [operator name ys] ++ zs)).eval ctx depth)
      ((operator name (xs ++ ys ++ zs)).eval ctx depth) := by
  by_cases hdepth : maxDepth < depth
  · exact .inl (eval_of_lt _ hdepth)
  · rw [h _ ctx depth (Nat.not_lt.mp hdepth), h _ ctx depth (Nat.not_lt.mp hdepth),
      List.append_assoc, List.append_assoc, g.gather_append ctx (depth + 1) xs,
      g.gather_append ctx (depth + 1) xs]
    apply sequential_sameUnlessTooDeep.map
    apply sequential_sameUnlessTooDeep.bind (.inr rfl)
    intro a
    exact g.next_same a (h.gather_nested ys zs)

end Gathering

namespace Expr

/-- An application of `concat`, `and` or `or` among the arguments of the same operator may be
replaced by its arguments: if the depth limit is not exceeded, the result stays the same, be it a
value or the error that an operator is unknown. -/
theorem eval_flattened {name : String} (hname : name ∈ ["concat", "and", "or"])
    (xs ys zs : List Expr) (ctx : Context) (depth : Nat)
    (h : (operator name (xs ++ [operator name ys] ++ zs)).eval ctx depth ≠ .error .tooDeep) :
    (operator name (xs ++ ys ++ zs)).eval ctx depth =
      (operator name (xs ++ [operator name ys] ++ zs)).eval ctx depth := by
  have hsame : SameUnlessTooDeep
      ((operator name (xs ++ [operator name ys] ++ zs)).eval ctx depth)
      ((operator name (xs ++ ys ++ zs)).eval ctx depth) := by
    simp only [List.mem_cons, List.not_mem_nil, or_false] at hname
    rcases hname with rfl | rfl | rfl
    · exact Gathering.describes_concat.eval_nested xs ys zs
    · exact Gathering.describes_and.eval_nested xs ys zs
    · exact Gathering.describes_or.eval_nested xs ys zs
  exact (hsame.resolve_left h).symm

/-- The inner conjunction is decided before an operator that does not exist, and so is the outer
one. The texts before such an operator do not save the concatenation. -/
theorem eval_flattened_unknown :
    let ctx : Context := ⟨.empty, .empty, .empty, .empty, none⟩
    let unknown := operator "nope" []
    (operator "and" [.text "a", operator "and" [.bool false, unknown], unknown]).eval ctx 0 =
        .ok (some (.bool false)) ∧
      (operator "and" [.text "a", .bool false, unknown, unknown]).eval ctx 0 =
        .ok (some (.bool false)) ∧
      (operator "concat" [.text "a", operator "concat" [unknown, .null]]).eval ctx 0 =
        .error (.unknownOperator "nope") ∧
      (operator "concat" [.text "a", unknown, .null]).eval ctx 0 =
        .error (.unknownOperator "nope") := by
  intro ctx unknown
  have hand : (operator "and" [.text "a", operator "and" [.bool false, unknown],
      unknown]).eval ctx 0 = .ok (some (.bool false)) := rfl
  have hconcat : (operator "concat" [.text "a",
      operator "concat" [unknown, .null]]).eval ctx 0 = .error (.unknownOperator "nope") := rfl
  refine ⟨hand, ?_, hconcat, ?_⟩
  · rw [← hand]
    apply eval_flattened (by decide) [.text "a"] [.bool false, unknown] [unknown]
    exact fun h => nomatch hand.symm.trans h
  · rw [← hconcat]
    apply eval_flattened (by decide) [.text "a"] [unknown, .null] []
    exact fun h => nomatch hconcat.symm.trans h

end Expr

end WidgetDoc
