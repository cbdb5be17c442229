/-!
# Dialogues with the outside world

A dialogue is a finished answer or a question whose reply decides how it goes on. Replies may come
from a function, from one that remembers the questions before, or from a monad; `transcript` lists
the questions that were asked.
-/

namespace WidgetDoc

/-- A computation that may put questions `Q`, each with its own type of reply. -/
inductive Dialogue (Q : Type) (A : Q → Type) (α : Type) where
  | done (a : α)
  | ask (q : Q) (next : A q → Dialogue Q A α)

namespace Dialogue

variable {Q R : Type} {A : Q → Type} {B : R → Type} {α β : Type}

def bind : Dialogue Q A α → (α → Dialogue Q A β) → Dialogue Q A β
  | done a, f => f a
  | ask q next, f => ask q fun r => (next r).bind f

def map (f : α → β) (d : Dialogue Q A α) : Dialogue Q A β :=
  d.bind fun a => done (f a)

instance : Monad (Dialogue Q A) where
  pure := done
  bind := bind

/-- Asks one question and ends with its reply. -/
def question (q : Q) : Dialogue Q A (A q) :=
  ask q done

/-- The result under replies that depend on the question only. -/
def run (reply : (q : Q) → A q) : Dialogue Q A α → α
  | done a => a
  | ask q next => (next (reply q)).run reply

/-- The questions asked under replies that depend on the question only. -/
def transcript (reply : (q : Q) → A q) : Dialogue Q A α → List Q
  | done _ => []
  | ask q next => q :: (next (reply q)).transcript reply

/-- The questions asked and the result, under replies that may depend on the questions before. -/
def runFrom (reply : List Q → (q : Q) → A q) (past : List Q) : Dialogue Q A α → List Q × α
  | done a => (past, a)
  | ask q next => (next (reply past q)).runFrom reply (past ++ [q])

/-- Replies that are computed in a monad. -/
def runIn {m : Type → Type} [Monad m] (reply : (q : Q) → m (A q)) : Dialogue Q A α → m α
  | done a => pure a
  | ask q next => do (next (← reply q)).runIn reply

/-- Replaces every question by a dialogue that finds its reply. -/
def through (reply : (q : Q) → Dialogue R B (A q)) : Dialogue Q A α → Dialogue R B α
  | done a => done a
  | ask q next => (reply q).bind fun r => (next r).through reply

theorem bind_done (d : Dialogue Q A α) : d.bind done = d := by
  induction d with
  | done a => rfl
  | ask q next ih => simp only [bind, ih]

theorem bind_assoc {γ : Type} (d : Dialogue Q A α) (f : α → Dialogue Q A β)
    (g : β → Dialogue Q A γ) : (d.bind f).bind g = d.bind fun a => (f a).bind g := by
  induction d with
  | done a => rfl
  | ask q next ih => simp only [bind, ih]

@[simp] theorem run_bind (reply : (q : Q) → A q) (d : Dialogue Q A α) (f : α → Dialogue Q A β) :
    (d.bind f).run reply = (f (d.run reply)).run reply := by
  induction d with
  | done a => rfl
  | ask q next ih => exact ih (reply q)

@[simp] theorem transcript_bind (reply : (q : Q) → A q) (d : Dialogue Q A α)
    (f : α → Dialogue Q A β) :
    (d.bind f).transcript reply = d.transcript reply ++ (f (d.run reply)).transcript reply := by
  induction d with
  | done a => rfl
  | ask q next ih => simp [bind, transcript, run, ih]

@[simp] theorem run_map (reply : (q : Q) → A q) (f : α → β) (d : Dialogue Q A α) :
    (d.map f).run reply = f (d.run reply) := by
  simp [map, run]

@[simp] theorem transcript_map (reply : (q : Q) → A q) (f : α → β) (d : Dialogue Q A α) :
    (d.map f).transcript reply = d.transcript reply := by
  simp [map, transcript]

@[simp] theorem run_through (reply : (q : Q) → Dialogue R B (A q)) (answer : (r : R) → B r)
    (d : Dialogue Q A α) :
    (d.through reply).run answer = d.run fun q => (reply q).run answer := by
  induction d with
  | done a => rfl
  | ask q next ih => simp [through, run, ih]

theorem runFrom_of_run (reply : (q : Q) → A q) (past : List Q) (d : Dialogue Q A α) :
    d.runFrom (fun _ => reply) past = (past ++ d.transcript reply, d.run reply) := by
  induction d generalizing past with
  | done a => simp [runFrom, transcript, run]
  | ask q next ih => simp [runFrom, transcript, run, ih]

end Dialogue

end WidgetDoc
