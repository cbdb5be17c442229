import WidgetDoc.Proofs.ExprParts

/-!
# Expressions that cannot fail

An expression can fail in two ways only: it applies an operator that the table does not have, or it
is nested too deep. Both can be seen before anything is evaluated. An expression whose height is
within what the depth leaves has a value in every context.
-/

namespace WidgetDoc

namespace Expr

mutual
/-- The number of levels below an expression: none below what has no parts, and one more than below
the highest part of anything else. -/
def height : Expr → Nat
  | array items => heightOfAll items
  | object fields => heightOfFields fields
  | operator _ args => heightOfAll args
  | _ => 0

def heightOfAll : List Expr → Nat
  | [] => 0
  | e :: es => max (e.height + 1) (heightOfAll es)

def heightOfFields : List (String × Expr) → Nat
  | [] => 0
  | (_, e) :: fs => max (e.height + 1) (heightOfFields fs)
end

mutual
/-- The names of all operators in an expression, also of those that need not be evaluated. -/
def operatorNames : Expr → List String
  | array items => operatorNamesOfAll items
  | object fields => operatorNamesOfFields fields
  | operator name args => name :: operatorNamesOfAll args
  | _ => []

def operatorNamesOfAll : List Expr → List String
  | [] => []
  | e :: es => e.operatorNames ++ operatorNamesOfAll es

def operatorNamesOfFields : List (String × Expr) → List String
  | [] => []
  | (_, e) :: fs => e.operatorNames ++ operatorNamesOfFields fs
end

theorem heightOfAll_le_iff {es : List Expr} {n : Nat} :
    heightOfAll es ≤ n ↔ ∀ e ∈ es, e.height + 1 ≤ n := by
  induction es with
  | nil => simp [heightOfAll]
  | cons e es ih => simp only [heightOfAll, Nat.max_le, ih, List.forall_mem_cons]

theorem heightOfFields_le_iff {fields : List (String × Expr)} {n : Nat} :
    heightOfFields fields ≤ n ↔ ∀ f ∈ fields, f.2.height + 1 ≤ n := by
  induction fields with
  | nil => simp [heightOfFields]
  | cons f fields ih => simp only [heightOfFields, Nat.max_le, ih, List.forall_mem_cons]

theorem mem_operatorNamesOfAll {name : String} {es : List Expr} :
    name ∈ operatorNamesOfAll es ↔ ∃ e ∈ es, name ∈ e.operatorNames := by
  induction es with
  | nil => simp [operatorNamesOfAll]
  | cons e es ih => simp [operatorNamesOfAll, ih]

theorem mem_operatorNamesOfFields {name : String} {fields : List (String × Expr)} :
    name ∈ operatorNamesOfFields fields ↔ ∃ f ∈ fields, name ∈ f.2.operatorNames := by
  induction fields with
  | nil => simp [operatorNamesOfFields]
  | cons f fields ih => simp [operatorNamesOfFields, ih]

theorem height_le_iff {e : Expr} {n : Nat} :
    e.height ≤ n ↔ ∀ p ∈ e.parts, p.height + 1 ≤ n := by
  cases e with
  | null | bool b | number n | text s | binding b => simp [height, parts]
  | array items => exact heightOfAll_le_iff
  | object fields =>
      rw [height, heightOfFields_le_iff, parts, List.forall_mem_map]
  | operator name args => exact heightOfAll_le_iff

theorem operatorNames_subset_of_mem_parts {e p : Expr} (h : p ∈ e.parts) :
    p.operatorNames ⊆ e.operatorNames := by
  intro name hname
  cases e with
  | null | bool b | number n | text s | binding b => simp [parts] at h
  | array items => exact mem_operatorNamesOfAll.mpr ⟨p, h, hname⟩
  | object fields =>
      obtain ⟨f, hf, rfl⟩ := List.mem_map.mp h
      exact mem_operatorNamesOfFields.mpr ⟨f, hf, hname⟩
  | operator name args =>
      exact List.mem_cons_of_mem _ (mem_operatorNamesOfAll.mpr ⟨p, h, hname⟩)

/-- All operators are in the table. -/
def Known (e : Expr) : Prop :=
  ∀ name ∈ e.operatorNames, name ∈ Fields.keys Operator.table

/-- What can be seen of an expression that cannot fail: its operators are known and its height is
within the depth that is allowed. -/
structure Checkable (e : Expr) : Prop where
  known : e.Known
  height_le : e.height ≤ maxDepth

instance (e : Expr) : Decidable e.Checkable :=
  decidable_of_iff ((∀ name ∈ e.operatorNames, name ∈ Fields.keys Operator.table) ∧
      e.height ≤ maxDepth)
    ⟨fun h => ⟨h.1, h.2⟩, fun h => ⟨h.1, h.2⟩⟩

theorem Known.of_mem_parts {e p : Expr} (h : e.Known) (hp : p ∈ e.parts) : p.Known :=
  fun name hname => h name (operatorNames_subset_of_mem_parts hp hname)

theorem Known.ofName?_ne_none {name : String} {args : List Expr}
    (h : (operator name args).Known) : Operator.ofName? name ≠ none := by
  intro hop
  exact Fields.lookup_eq_none_iff.mp hop (h name List.mem_cons_self)

/-! ## Evaluation -/

variable {ctx : Context} {depth : Nat}

/-- Of an expression that is known, the parts are all that can fail. -/
theorem Known.eval_of_parts {R : (α : Type) → Except EvalError α → Except EvalError α → Prop}
    (hR : Sequential R) {e : Expr} (known : e.Known) (hdepth : depth ≤ maxDepth)
    (h : ∀ p ∈ e.parts, R Value (p.eval ctx (depth + 1)) (p.eval ctx (depth + 1))) :
    R Value (e.eval ctx depth) (e.eval ctx depth) := by
  refine hR.eval hdepth hdepth (fun _ _ => rfl) ?_ h
  rintro name args rfl hop
  exact absurd hop known.ofName?_ne_none

theorem sequential_succeeds : Sequential fun _ r _ => Succeeds r where
  ok := succeeds_ok
  bind h hf := h.bind hf

/-- An expression of known operators has a value at every depth that leaves room for its height. -/
theorem succeeds_eval {e : Expr} (known : e.Known) (hdepth : depth + e.height ≤ maxDepth) :
    Succeeds (e.eval ctx depth) := by
  induction e using parts_induction generalizing depth with
  | step e ih =>
      have hlow : ∀ p ∈ e.parts, p.height + 1 ≤ maxDepth - depth := height_le_iff.mp (by omega)
      apply known.eval_of_parts sequential_succeeds (by omega)
      intro p hp
      have := hlow p hp
      exact ih p hp (known.of_mem_parts hp) (by omega)

theorem Checkable.succeeds {e : Expr} (h : e.Checkable) (ctx : Context) :
    Succeeds (e.eval ctx 0) := by
  have hdepth : 0 + e.height ≤ maxDepth := by
    rw [Nat.zero_add]
    exact h.height_le
  exact succeeds_eval h.known hdepth

end Expr

end WidgetDoc
