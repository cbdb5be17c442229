import WidgetDoc.Proofs.ExprParts

/-!
# What an expression reads

The bindings that occur in an expression are all that its evaluation reads of a context. Two
contexts that agree on their paths give the same result at every depth, be it a value or an error.
-/

namespace WidgetDoc

namespace Expr

mutual
/-- The bindings that occur in an expression. -/
def bindings : Expr → List Binding
  | binding b => [b]
  | array items => bindingsOfAll items
  | object fields => bindingsOfFields fields
  | operator _ args => bindingsOfAll args
  | _ => []

def bindingsOfAll : List Expr → List Binding
  | [] => []
  | e :: es => e.bindings ++ bindingsOfAll es

def bindingsOfFields : List (String × Expr) → List Binding
  | [] => []
  | (_, e) :: fs => e.bindings ++ bindingsOfFields fs
end

theorem mem_bindingsOfAll {b : Binding} {es : List Expr} :
    b ∈ bindingsOfAll es ↔ ∃ e ∈ es, b ∈ e.bindings := by
  induction es with
  | nil => simp [bindingsOfAll]
  | cons e es ih => simp [bindingsOfAll, ih]

theorem mem_bindingsOfFields {b : Binding} {fields : List (String × Expr)} :
    b ∈ bindingsOfFields fields ↔ ∃ f ∈ fields, b ∈ f.2.bindings := by
  induction fields with
  | nil => simp [bindingsOfFields]
  | cons f fields ih => simp [bindingsOfFields, ih]

end Expr

theorem Binding.resolve_congr {b : Binding} {ctx₁ ctx₂ : Context}
    (h : ctx₁.resolve b.path = ctx₂.resolve b.path) : b.resolve ctx₁ = b.resolve ctx₂ := by
  rw [resolve, resolve, h]

namespace Expr

variable {ctx₁ ctx₂ : Context} {depth : Nat}

theorem bindings_subset_of_mem_parts {e p : Expr} (h : p ∈ e.parts) :
    p.bindings ⊆ e.bindings := by
  intro b hb
  cases e with
  | null | bool b | number n | text s | binding b => simp [parts] at h
  | array items | operator name args => exact mem_bindingsOfAll.mpr ⟨p, h, hb⟩
  | object fields =>
      obtain ⟨f, hf, rfl⟩ := List.mem_map.mp h
      exact mem_bindingsOfFields.mpr ⟨f, hf, hb⟩

theorem sequential_eq : Sequential fun _ r r' => r = r' where
  ok _ := rfl
  bind := by
    rintro α β r _ f f' rfl hf
    rw [funext hf]

theorem evalFields_congr {fields : List (String × Expr)}
    (h : ∀ f ∈ fields, f.2.eval ctx₁ depth = f.2.eval ctx₂ depth) :
    evalFields ctx₁ depth fields = evalFields ctx₂ depth fields :=
  sequential_eq.evalFields h

/-- Contexts that agree on the paths of all bindings of an expression give it the same result. -/
theorem eval_congr {e : Expr} (h : ∀ b ∈ e.bindings, ctx₁.resolve b.path = ctx₂.resolve b.path)
    (depth : Nat) : e.eval ctx₁ depth = e.eval ctx₂ depth := by
  induction e using parts_induction generalizing depth with
  | step e ih =>
      by_cases hdepth : maxDepth < depth
      · rw [eval_of_lt e hdepth, eval_of_lt e hdepth]
      · have hle : depth ≤ maxDepth := by omega
        refine sequential_eq.eval hle hle ?_ (fun _ _ _ _ => rfl) fun p hp => ?_
        · rintro b rfl
          exact Binding.resolve_congr (h b (List.mem_singleton.mpr rfl))
        · exact ih p hp (fun b hb => h b (bindings_subset_of_mem_parts hp hb)) (depth + 1)

end Expr

end WidgetDoc
