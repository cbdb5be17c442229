import WidgetDoc.Proofs.Checkable

/-!
# Constant expressions

Every JSON value is written by a constant expression, in which strings are texts and never
bindings. In every context, and at every depth that leaves room for its height, it has that value.
-/

namespace WidgetDoc.Expr

mutual
/-- The constant expression of a JSON value. -/
def constant : Json → Expr
  | .null => null
  | .bool b => bool b
  | .number n => number n
  | .string s => text s
  | .array items => array (constantItems items)
  | .object fields => object (constantFields fields)

def constantItems : List Json → List Expr
  | [] => []
  | x :: xs => constant x :: constantItems xs

def constantFields : List (String × Json) → List (String × Expr)
  | [] => []
  | (key, x) :: fs => (key, constant x) :: constantFields fs
end

theorem constantItems_eq_map (items : List Json) : constantItems items = items.map constant := by
  induction items with
  | nil => rfl
  | cons x xs ih => rw [constantItems, ih, List.map_cons]

theorem constantFields_eq_map (fields : List (String × Json)) :
    constantFields fields = fields.map fun f => (f.1, constant f.2) := by
  induction fields with
  | nil => rfl
  | cons f fs ih => rw [constantFields, ih, List.map_cons]

variable {ctx : Context} {depth : Nat}

theorem evalItems_constantItems {items : List Json}
    (h : ∀ x ∈ items, (constant x).eval ctx depth = .ok (some x)) :
    evalItems ctx depth (constantItems items) = .ok items := by
  induction items with
  | nil => rfl
  | cons x xs ih =>
      obtain ⟨hx, hxs⟩ := List.forall_mem_cons.mp h
      rw [constantItems, evalItems, hx, ih hxs]
      rfl

theorem evalFields_constantFields {fields : List (String × Json)}
    (h : ∀ f ∈ fields, (constant f.2).eval ctx depth = .ok (some f.2)) :
    evalFields ctx depth (constantFields fields) = .ok fields := by
  induction fields with
  | nil => rfl
  | cons f fs ih =>
      obtain ⟨hf, hfs⟩ := List.forall_mem_cons.mp h
      rw [constantFields, evalFields, hf, ih hfs]
      rfl

theorem eval_constant {j : Json} (h : depth + (constant j).height ≤ maxDepth) :
    (constant j).eval ctx depth = .ok (some j) := by
  have hnot : ¬ maxDepth < depth := by omega
  induction j generalizing depth with
  | null | bool b | number n | string s => rw [constant, eval, if_neg hnot]
  | array items ih =>
      have hlow : ∀ e ∈ constantItems items, e.height + 1 ≤ maxDepth - depth := by
        rw [constant, height] at h
        exact heightOfAll_le_iff.mp (by omega)
      have hitems : ∀ x ∈ items, (constant x).eval ctx (depth + 1) = .ok (some x) := by
        intro x hx
        have hheight := hlow (constant x) (constantItems_eq_map items ▸ List.mem_map_of_mem hx)
        exact ih x hx (by omega) (by omega)
      rw [constant, eval, if_neg hnot, evalItems_constantItems hitems]
      rfl
  | object fields ih =>
      have hlow : ∀ f ∈ constantFields fields, f.2.height + 1 ≤ maxDepth - depth := by
        rw [constant, height] at h
        exact heightOfFields_le_iff.mp (by omega)
      have hfields : ∀ f ∈ fields, (constant f.2).eval ctx (depth + 1) = .ok (some f.2) := by
        intro f hf
        have hheight := hlow (f.1, constant f.2)
          (constantFields_eq_map fields ▸ List.mem_map_of_mem hf)
        dsimp only at hheight
        exact ih f hf (by omega) (by omega)
      rw [constant, eval, if_neg hnot, evalFields_constantFields hfields]
      rfl

end WidgetDoc.Expr
