import WidgetDoc.Proofs.Gathering

/-!
# Negated conjunctions and disjunctions

De Morgan's laws hold of results, with errors and with arguments that are never evaluated. A
conjunction ends at the first argument that is false, where the disjunction of the negations ends
too, and the arguments stand equally deep on both sides.
-/

open WidgetDoc.Expr

namespace WidgetDoc

namespace Gathering

variable {ctx : Context} {depth : Nat}

theorem eval_not (e : Expr) (h : depth ≤ maxDepth) :
    (operator "not" [e]).eval ctx depth =
      (e.eval ctx (depth + 1)).map fun v => some (.bool !Value.truthy v) := by
  have hop : Operator.ofName? "not" = some (.unary .not) := rfl
  rw [eval, if_neg (Nat.not_lt.mpr h)]
  simp only [hop]
  rfl

theorem next_not (decisive b : Bool) (r : Except EvalError Bool) :
    (truths !decisive).next (!b) (r.map not) = ((truths decisive).next b r).map not := by
  by_cases h : b = decisive <;> simp [truths, h, Except.map]

/-- Among negations the other truth is decisive, and whatever is gathered is negated. -/
theorem gather_negations (decisive : Bool) (es : List Expr) (h : depth ≤ maxDepth) :
    (truths !decisive).gather ctx depth (es.map fun e => operator "not" [e]) =
      ((truths decisive).gather ctx (depth + 1) es).map not := by
  induction es with
  | nil => rfl
  | cons e es ih =>
      rw [List.map_cons, gather, gather, ih, eval_not e h]
      cases e.eval ctx (depth + 1) with
      | error err => rfl
      | ok v => exact next_not decisive (Value.truthy v) _

/-- Negating the result of an operator is applying the dual one to the negated arguments. -/
theorem Describes.eval_not {name dual : String} {decisive : Bool}
    (h : (truths decisive).Describes name) (hdual : (truths !decisive).Describes dual)
    (xs : List Expr) (hdepth : depth < maxDepth) :
    (operator "not" [operator name xs]).eval ctx depth =
      (operator dual (xs.map fun x => operator "not" [x])).eval ctx depth := by
  have hle : depth ≤ maxDepth := Nat.le_of_lt hdepth
  rw [Gathering.eval_not _ hle, h xs ctx (depth + 1) hdepth, hdual _ ctx depth hle,
    gather_negations decisive xs hdepth]
  cases (truths decisive).gather ctx (depth + 1 + 1) xs <;> rfl

end Gathering

namespace Expr

/-- A negated conjunction and the disjunction of the negated arguments have the same result, and so
have a negated disjunction and the conjunction of the negated arguments. At the deepest level the
laws fail without arguments, since the inner operator of the left sides is too deep there. -/
theorem eval_de_morgan (xs : List Expr) (ctx : Context) (depth : Nat) (h : depth < maxDepth) :
    (operator "not" [operator "and" xs]).eval ctx depth =
        (operator "or" (xs.map fun x => operator "not" [x])).eval ctx depth ∧
      (operator "not" [operator "or" xs]).eval ctx depth =
        (operator "and" (xs.map fun x => operator "not" [x])).eval ctx depth :=
  ⟨Gathering.describes_and.eval_not Gathering.describes_or xs h,
    Gathering.describes_or.eval_not Gathering.describes_and xs h⟩

/-- What is false decides the conjunction before an operator that does not exist, but not after it.
One level deeper the arguments are too deep on both sides. -/
theorem eval_de_morgan_unknown :
    let ctx : Context := ⟨.empty, .empty, .empty, .empty, none⟩
    let unknown := operator "nope" []
    let negated := fun x => operator "not" [x]
    62 < maxDepth ∧ 63 < maxDepth ∧
      (operator "or" ([.bool false, unknown].map negated)).eval ctx 62 =
        .ok (some (.bool true)) ∧
      (operator "or" ([unknown, .bool false].map negated)).eval ctx 62 =
        .error (.unknownOperator "nope") ∧
      (operator "and" ([.bool true].map negated)).eval ctx 63 = .error .tooDeep := by
  intro ctx unknown negated
  have hdepth : 62 < maxDepth := by decide
  have hdeeper : 63 < maxDepth := by decide
  refine ⟨hdepth, hdeeper, ?_, ?_, ?_⟩
  · rw [← (eval_de_morgan [.bool false, unknown] ctx 62 hdepth).1]
    rfl
  · rw [← (eval_de_morgan [unknown, .bool false] ctx 62 hdepth).1]
    rfl
  · rw [← (eval_de_morgan [.bool true] ctx 63 hdeeper).2]
    rfl

end Expr

end WidgetDoc
