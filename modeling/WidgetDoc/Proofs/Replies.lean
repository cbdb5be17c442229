import WidgetDoc.Dialogue

/-!
# Whatever is replied

`Dialogue.Always` says that all results that a dialogue can end with have a property, be the replies
as they may. So do then the results under replies that depend on the questions before, and after
another dialogue has been put in the place of every question. `Dialogue.Asks` says the like of the
questions, as long as the replies are possible.
-/

namespace WidgetDoc.Dialogue

variable {Q R : Type} {A : Q → Type} {B : R → Type} {α β : Type}

/-- All results that replies can lead to have a property. -/
def Always (P : α → Prop) : Dialogue Q A α → Prop
  | done a => P a
  | ask q next => ∀ reply : A q, (next reply).Always P

theorem always_true (d : Dialogue Q A α) : d.Always fun _ => True := by
  induction d with
  | done a => trivial
  | ask q next ih => exact ih

theorem Always.imp {P P' : α → Prop} {d : Dialogue Q A α} (h : d.Always P)
    (hP : ∀ a, P a → P' a) : d.Always P' := by
  induction d with
  | done a => exact hP a h
  | ask q next ih => exact fun reply => ih reply (h reply)

theorem Always.bind {P : α → Prop} {P' : β → Prop} {d : Dialogue Q A α}
    {f : α → Dialogue Q A β} (h : d.Always P) (hf : ∀ a, P a → (f a).Always P') :
    (d.bind f).Always P' := by
  induction d with
  | done a => exact hf a h
  | ask q next ih => exact fun reply => ih reply (h reply)

theorem Always.map {P : α → Prop} {P' : β → Prop} {d : Dialogue Q A α} {f : α → β}
    (h : d.Always P) (hf : ∀ a, P a → P' (f a)) : (d.map f).Always P' :=
  h.bind hf

theorem Always.through {P : α → Prop} {d : Dialogue Q A α} (h : d.Always P)
    (reply : (q : Q) → Dialogue R B (A q)) : (d.through reply).Always P := by
  induction d with
  | done a => exact h
  | ask q next ih => exact (always_true (reply q)).bind fun answer _ => ih answer (h answer)

theorem Always.run {P : α → Prop} {d : Dialogue Q A α} (h : d.Always P)
    (reply : (q : Q) → A q) : P (d.run reply) := by
  induction d with
  | done a => exact h
  | ask q next ih => exact ih (reply q) (h (reply q))

theorem Always.runFrom {P : α → Prop} {d : Dialogue Q A α} (h : d.Always P)
    (reply : List Q → (q : Q) → A q) (past : List Q) : P (d.runFrom reply past).2 := by
  induction d generalizing past with
  | done a => exact h
  | ask q next ih => exact ih (reply past q) (h (reply past q)) (past ++ [q])

theorem runFrom_bind (reply : List Q → (q : Q) → A q) (past : List Q) (d : Dialogue Q A α)
    (f : α → Dialogue Q A β) :
    (d.bind f).runFrom reply past =
      (f (d.runFrom reply past).2).runFrom reply (d.runFrom reply past).1 := by
  induction d generalizing past with
  | done a => rfl
  | ask q next ih => exact ih (reply past q) (past ++ [q])

theorem runFrom_map (reply : List Q → (q : Q) → A q) (past : List Q) (f : α → β)
    (d : Dialogue Q A α) :
    (d.map f).runFrom reply past = ((d.runFrom reply past).1, f (d.runFrom reply past).2) :=
  runFrom_bind reply past d _

/-! ## Whatever is asked -/

variable {possible : (q : Q) → A q → Prop} {P : Q → Prop}

/-- All questions that possible replies can lead to have a property. -/
def Asks (possible : (q : Q) → A q → Prop) (P : Q → Prop) : Dialogue Q A α → Prop
  | done _ => True
  | ask q next => P q ∧ ∀ reply, possible q reply → (next reply).Asks possible P

theorem Asks.imp {P' : Q → Prop} {d : Dialogue Q A α} (h : d.Asks possible P)
    (hP : ∀ q, P q → P' q) : d.Asks possible P' := by
  induction d with
  | done a => trivial
  | ask q next ih => exact ⟨hP q h.1, fun reply hreply => ih reply (h.2 reply hreply)⟩

theorem Asks.bind {d : Dialogue Q A α} {f : α → Dialogue Q A β} (h : d.Asks possible P)
    (hf : ∀ a, (f a).Asks possible P) : (d.bind f).Asks possible P := by
  induction d with
  | done a => exact hf a
  | ask q next ih => exact ⟨h.1, fun reply hreply => ih reply (h.2 reply hreply)⟩

theorem Asks.map {d : Dialogue Q A α} (h : d.Asks possible P) (f : α → β) :
    (d.map f).Asks possible P :=
  h.bind fun _ => trivial

theorem asks_question_bind {q : Q} {f : A q → Dialogue Q A β} :
    ((question q).bind f).Asks possible P ↔
      P q ∧ ∀ reply, possible q reply → (f reply).Asks possible P :=
  Iff.rfl

theorem Asks.transcript {d : Dialogue Q A α} (h : d.Asks possible P) {reply : (q : Q) → A q}
    (hreply : ∀ q, possible q (reply q)) : ∀ q ∈ d.transcript reply, P q := by
  induction d with
  | done a => simp [Dialogue.transcript]
  | ask q next ih =>
      rw [Dialogue.transcript, List.forall_mem_cons]
      exact ⟨h.1, ih _ (h.2 _ (hreply q))⟩

end WidgetDoc.Dialogue
