import WidgetDoc.Document
import WidgetDoc.Location
import WidgetDoc.Proofs.Fields

/-!
# Nested data

JSON values, expressions, view nodes and actions hold lists of their own kind. Each gets an
induction principle in which a claim may be assumed of all immediate parts. `Json.StandsAt` says
where the parts of a JSON value are.
-/

namespace WidgetDoc

/-- Induction on a JSON value through its items and the values of its fields. -/
@[elab_as_elim, induction_eliminator]
theorem Json.induction {motive : Json → Prop} (null : motive .null)
    (bool : ∀ b, motive (.bool b)) (number : ∀ n, motive (.number n))
    (string : ∀ s, motive (.string s))
    (array : ∀ items, (∀ x ∈ items, motive x) → motive (.array items))
    (object : ∀ fields, (∀ f ∈ fields, motive f.2) → motive (.object fields)) (j : Json) :
    motive j := by
  match j with
  | .null => exact null
  | .bool b => exact bool b
  | .number n => exact number n
  | .string s => exact string s
  | .array items =>
      exact array items fun x _ => Json.induction null bool number string array object x
  | .object fields =>
      exact object fields fun f _ => Json.induction null bool number string array object f.2
termination_by sizeOf j
decreasing_by
  · have hx : sizeOf x < sizeOf items := List.sizeOf_lt_of_mem ‹_›
    simp only [Json.array.sizeOf_spec]
    omega
  · have hf : sizeOf f < sizeOf fields := List.sizeOf_lt_of_mem ‹_›
    obtain ⟨key, x⟩ := f
    simp only [Json.object.sizeOf_spec, Prod.mk.sizeOf_spec] at hf ⊢
    omega

/-- Induction on a JSON value that holds records of its own kind in lists under some of its
fields, as view nodes and actions do. -/
@[elab_as_elim]
theorem Json.recordInduction {motive : Json → Prop}
    (other : ∀ j : Json, j.object? = none → motive j)
    (object : ∀ fields, (∀ key items, fields.lookup key = some (.array items) →
      ∀ x ∈ items, motive x) → motive (.object fields)) (j : Json) : motive j := by
  -- The items of a list field are two levels down, so they are carried along in the claim.
  suffices h : motive j ∧ ∀ items, j = .array items → ∀ x ∈ items, motive x from h.1
  induction j with
  | null | bool b | number n | string s => exact ⟨other _ rfl, by simp⟩
  | array items ih =>
      refine ⟨other _ rfl, ?_⟩
      rintro _ ⟨⟩ x hx
      exact (ih x hx).1
  | object fields ih =>
      refine ⟨object fields ?_, by simp⟩
      intro key items hkey x hx
      exact (ih (key, .array items) (mem_of_lookup hkey)).2 items rfl x hx

/-- The parts of a value and where they stand in it. -/
inductive Json.StandsAt (j : Json) : Location → Json → Prop where
  | root : StandsAt j [] j
  | field {here : Location} {fields : List (String × Json)} {key : String} {x : Json}
      (whole : StandsAt j here (.object fields)) (part : (key, x) ∈ fields) :
      StandsAt j (here ++ [.field key]) x
  | item {here : Location} {items : List Json} {i : Nat} {x : Json}
      (whole : StandsAt j here (.array items)) (part : items[i]? = some x) :
      StandsAt j (here ++ [.index i]) x

namespace Json.StandsAt

variable {j x y : Json} {here : Location}

theorem trans (hx : j.StandsAt here x) {steps : Location} (hy : x.StandsAt steps y) :
    j.StandsAt (here ++ steps) y := by
  induction hy with
  | root => rwa [List.append_nil]
  | field _ part ih =>
      rw [← List.append_assoc]
      exact ih.field part
  | item _ part ih =>
      rw [← List.append_assoc]
      exact ih.item part

theorem of_field? {key : String} (h : j.field? key = some x) : j.StandsAt [.field key] x := by
  cases j with
  | object fields => exact root.field (mem_of_lookup h)
  | null | bool b | number n | string s | array items => cases h

theorem sizeOf_le (h : j.StandsAt here x) : sizeOf x + here.length ≤ sizeOf j := by
  induction h with
  | root => exact Nat.le_refl _
  | @field here fields key x _ part ih =>
      have hx : sizeOf (key, x) < sizeOf fields := List.sizeOf_lt_of_mem part
      simp only [Json.object.sizeOf_spec, Prod.mk.sizeOf_spec, List.length_append,
        List.length_singleton] at ih hx ⊢
      omega
  | @item here items i x _ part ih =>
      have hx : sizeOf x < sizeOf items := List.sizeOf_lt_of_mem (List.mem_of_getElem? part)
      simp only [Json.array.sizeOf_spec, List.length_append, List.length_singleton] at ih ⊢
      omega

/-- Whatever stands below a value is smaller. -/
theorem sizeOf_lt (h : j.StandsAt here x) (hne : here ≠ []) : sizeOf x < sizeOf j := by
  have hle := h.sizeOf_le
  have hlength := List.length_pos_iff.mpr hne
  omega

end Json.StandsAt

/-- Induction on an expression through its items, fields and arguments. -/
@[elab_as_elim, induction_eliminator]
theorem Expr.induction {motive : Expr → Prop} (null : motive .null)
    (bool : ∀ b, motive (.bool b)) (number : ∀ n, motive (.number n))
    (text : ∀ s, motive (.text s)) (binding : ∀ b, motive (.binding b))
    (array : ∀ items, (∀ e ∈ items, motive e) → motive (.array items))
    (object : ∀ fields, (∀ f ∈ fields, motive f.2) → motive (.object fields))
    (operator : ∀ name args, (∀ e ∈ args, motive e) → motive (.operator name args)) (e : Expr) :
    motive e := by
  match e with
  | .null => exact null
  | .bool b => exact bool b
  | .number n => exact number n
  | .text s => exact text s
  | .binding b => exact binding b
  | .array items =>
      exact array items fun e _ =>
        Expr.induction null bool number text binding array object operator e
  | .object fields =>
      exact object fields fun f _ =>
        Expr.induction null bool number text binding array object operator f.2
  | .operator name args =>
      exact operator name args fun e _ =>
        Expr.induction null bool number text binding array object operator e
termination_by sizeOf e
decreasing_by
  · have he : sizeOf e < sizeOf items := List.sizeOf_lt_of_mem ‹_›
    simp only [Expr.array.sizeOf_spec]
    omega
  · have hf : sizeOf f < sizeOf fields := List.sizeOf_lt_of_mem ‹_›
    obtain ⟨key, e⟩ := f
    simp only [Expr.object.sizeOf_spec, Prod.mk.sizeOf_spec] at hf ⊢
    omega
  · have he : sizeOf e < sizeOf args := List.sizeOf_lt_of_mem ‹_›
    simp only [Expr.operator.sizeOf_spec]
    omega

@[elab_as_elim, induction_eliminator]
theorem ViewNode.induction {motive : ViewNode → Prop}
    (node : ∀ type props text children, (∀ n ∈ children, motive n) →
      motive ⟨type, props, text, children⟩) (n : ViewNode) : motive n := by
  match n with
  | ⟨type, props, text, children⟩ =>
      exact node type props text children fun n _ => ViewNode.induction node n
termination_by sizeOf n
decreasing_by
  have hn : sizeOf n < sizeOf children := List.sizeOf_lt_of_mem ‹_›
  simp only [ViewNode.mk.sizeOf_spec]
  omega

@[elab_as_elim, induction_eliminator]
theorem Action.induction {motive : Action → Prop}
    (action : ∀ id kind input steps condition branch, (∀ a ∈ steps, motive a) →
      (∀ a ∈ branch, motive a) → motive ⟨id, kind, input, steps, condition, branch⟩)
    (a : Action) : motive a := by
  match a with
  | ⟨id, kind, input, steps, condition, branch⟩ =>
      exact action id kind input steps condition branch
        (fun a _ => Action.induction action a) (fun a _ => Action.induction action a)
termination_by sizeOf a
decreasing_by
  · have ha : sizeOf a < sizeOf steps := List.sizeOf_lt_of_mem ‹_›
    simp only [Action.mk.sizeOf_spec]
    omega
  · have ha : sizeOf a < sizeOf branch := List.sizeOf_lt_of_mem ‹_›
    simp only [Action.mk.sizeOf_spec]
    omega

end WidgetDoc
