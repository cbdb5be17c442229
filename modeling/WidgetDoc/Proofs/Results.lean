import Mathlib.Data.List.Forall2

/-!
# Results and lists of results

When a computation that may fail succeeds, and how relations between results carry over to options
and lists of results.
-/

namespace WidgetDoc

variable {ε α β : Type}

theorem map_eq_ok_iff {r : Except ε α} {f : α → β} {b : β} :
    r.map f = .ok b ↔ ∃ a, r = .ok a ∧ f a = b := by
  cases r <;> simp [Except.map]

theorem bind_eq_ok_iff {r : Except ε α} {f : α → Except ε β} {b : β} :
    r.bind f = .ok b ↔ ∃ a, r = .ok a ∧ f a = .ok b := by
  cases r <;> simp [Except.bind]

theorem bind_eq_error_iff {r : Except ε α} {f : α → Except ε β} {e : ε} :
    r.bind f = .error e ↔ r = .error e ∨ ∃ a, r = .ok a ∧ f a = .error e := by
  cases r <;> simp [Except.bind]

theorem map_eq_error_iff {r : Except ε α} {f : α → β} {e : ε} :
    r.map f = .error e ↔ r = .error e := by
  cases r <;> simp [Except.map]

theorem toOption_eq_some_iff {r : Except ε α} {a : α} : r.toOption = some a ↔ r = .ok a := by
  cases r <;> simp [Except.toOption]

/-- A computation that does not fail. -/
def Succeeds (r : Except ε α) : Prop :=
  ∃ a, r = .ok a

theorem succeeds_ok (a : α) : Succeeds (.ok a : Except ε α) :=
  ⟨a, rfl⟩

theorem Succeeds.map {r : Except ε α} (h : Succeeds r) (f : α → β) : Succeeds (r.map f) := by
  obtain ⟨a, rfl⟩ := h
  exact ⟨f a, rfl⟩

theorem Succeeds.bind {r : Except ε α} {f : α → Except ε β} (h : Succeeds r)
    (hf : ∀ a, Succeeds (f a)) : Succeeds (r.bind f) := by
  obtain ⟨a, rfl⟩ := h
  exact hf a

theorem succeeds_map_iff {r : Except ε α} {f : α → β} : Succeeds (r.map f) ↔ Succeeds r := by
  cases r <;> simp [Succeeds, Except.map]

theorem succeeds_bind_iff {r : Except ε α} {f : α → Except ε β} :
    Succeeds (r.bind f) ↔ ∃ a, r = .ok a ∧ Succeeds (f a) := by
  cases r <;> simp [Succeeds, Except.bind]

/-- The error of a computation that fails. -/
def error? : Except ε α → Option ε
  | .ok _ => none
  | .error e => some e

theorem error?_eq_none_iff {r : Except ε α} : error? r = none ↔ Succeeds r := by
  cases r <;> simp [error?, Succeeds]

theorem error?_eq_some_iff {r : Except ε α} {e : ε} : error? r = some e ↔ r = .error e := by
  cases r <;> simp [error?]

theorem error?_map (r : Except ε α) (f : α → β) : error? (r.map f) = error? r := by
  cases r <;> rfl

/-- The error of two computations in a row, of which the second fails alike after every value. -/
theorem error?_bind {r : Except ε α} {f : α → Except ε β} {o : Option ε}
    (h : ∀ a, error? (f a) = o) : error? (r.bind f) = (error? r).or o := by
  cases r with
  | ok a => exact h a
  | error e => rfl

theorem rel_join {R : α → β → Prop} {o : Option (Option α)} {o' : Option (Option β)}
    (h : Option.Rel (Option.Rel R) o o') : Option.Rel R o.join o'.join := by
  cases h with
  | none => exact .none
  | some h => exact h

/-- If every item is related to something, then so is the list of all items. -/
theorem exists_forall₂_iff {R : α → β → Prop} {xs : List α} :
    (∃ ys, List.Forall₂ R xs ys) ↔ ∀ x ∈ xs, ∃ y, R x y := by
  induction xs with
  | nil => simp
  | cons x xs ih =>
      simp only [List.forall₂_cons_left_iff, List.forall_mem_cons, ← ih]
      constructor
      · rintro ⟨_, y, ys, hy, hys, rfl⟩
        exact ⟨⟨y, hy⟩, ys, hys⟩
      · rintro ⟨⟨y, hy⟩, ys, hys⟩
        exact ⟨y :: ys, y, ys, hy, hys, rfl⟩

/-- Two related lists stay related when each pair may use that its first part is in the list. -/
theorem forall₂_imp_mem {R S : α → β → Prop} {xs : List α} {ys : List β}
    (h : List.Forall₂ R xs ys) (hS : ∀ x ∈ xs, ∀ y, R x y → S x y) : List.Forall₂ S xs ys := by
  induction h with
  | nil => exact .nil
  | @cons x y xs ys hxy hrest ih =>
      obtain ⟨hx, hxs⟩ := List.forall_mem_cons.mp hS
      exact .cons (hx y hxy) (ih hxs)

/-- What holds of everything related to an item of the first list holds on the second list. -/
theorem forall_mem_of_forall₂ {R : α → β → Prop} {P : β → Prop} {xs : List α} {ys : List β}
    (h : List.Forall₂ R xs ys) (hP : ∀ x ∈ xs, ∀ y, R x y → P y) : ∀ y ∈ ys, P y := by
  have hyP : List.Forall₂ (fun _ y => P y) xs ys := forall₂_imp_mem h hP
  induction hyP with
  | nil => simp
  | @cons x y xs ys hy _ ih =>
      cases h with
      | cons _ hrest =>
          exact List.forall_mem_cons.mpr
            ⟨hy, ih hrest fun x hx => hP x (List.mem_cons_of_mem _ hx)⟩

theorem rel_getElem?_of_forall₂ {R : α → β → Prop} {xs : List α} {ys : List β}
    (h : List.Forall₂ R xs ys) (i : Nat) : Option.Rel R xs[i]? ys[i]? := by
  induction h generalizing i with
  | nil => exact .none
  | @cons x y xs ys hxy _ ih =>
      cases i with
      | zero => exact .some hxy
      | succ i => exact ih i

theorem findSome?_congr {f g : α → Option β} {xs : List α} (h : ∀ x ∈ xs, f x = g x) :
    xs.findSome? f = xs.findSome? g := by
  rw [← List.head?_filterMap, List.filterMap_congr h, List.head?_filterMap]

/-- Searching lists one after the other, each by what its origin stands for. -/
theorem findSome?_flatMap {γ : Type} {f : α → Option γ} {g : α → List β} {h : β → Option γ}
    {xs : List α} (hfg : ∀ x ∈ xs, f x = (g x).findSome? h) :
    (xs.flatMap g).findSome? h = xs.findSome? f := by
  induction xs with
  | nil => rfl
  | cons x xs ih =>
      obtain ⟨hx, hxs⟩ := List.forall_mem_cons.mp hfg
      rw [List.flatMap_cons, List.findSome?_append, ← hx, ih hxs, List.findSome?_cons]
      cases f x <;> rfl

end WidgetDoc
