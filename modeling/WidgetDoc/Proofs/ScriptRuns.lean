import WidgetDoc.Command.Run
import WidgetDoc.Proofs.Replies

/-!
# Runs of scripts

A script is run against a disk that may remember what it was asked before. A run that ends with a
result falls into runs of the script's parts that end with results.
-/

namespace WidgetDoc

/-- A disk that may change between calls. -/
abbrev RememberingDisk := List DiskCall → Disk

namespace Script

variable {α β ε : Type} {disk : RememberingDisk} {past final : List DiskCall}

/-- The calls of a script after those of the past, and its result. -/
def runFrom (disk : RememberingDisk) (past : List DiskCall) (s : Script α) :
    List DiskCall × Except CommandError α :=
  Dialogue.runFrom disk past s.run

theorem runFrom_bind (s : Script α) (f : α → Script β) :
    runFrom disk past (s >>= f) =
      match (runFrom disk past s).2 with
      | .ok a => runFrom disk (runFrom disk past s).1 (f a)
      | .error e => ((runFrom disk past s).1, .error e) := by
  have hbind : (s >>= f).run = Dialogue.bind s.run fun r =>
      match r with
      | .ok a => (f a).run
      | .error e => .done (.error e) := by
    change Dialogue.bind s.run (ExceptT.bindCont f) = _
    congr 1
    funext r
    cases r <;> rfl
  rw [runFrom, hbind, Dialogue.runFrom_bind]
  rw [← runFrom]
  cases (runFrom disk past s).2 <;> rfl

theorem runFrom_bind_eq_ok_iff {s : Script α} {f : α → Script β} {b : β} :
    runFrom disk past (s >>= f) = (final, .ok b) ↔ ∃ mid a,
      runFrom disk past s = (mid, .ok a) ∧ runFrom disk mid (f a) = (final, .ok b) := by
  rw [runFrom_bind]
  obtain ⟨mid, r⟩ := runFrom disk past s
  cases r with
  | ok a =>
      constructor
      · intro h
        exact ⟨mid, a, rfl, h⟩
      · rintro ⟨_, _, ⟨rfl, rfl⟩, h⟩
        exact h
  | error e => simp

theorem runFrom_pure_eq_ok_iff {a b : α} :
    runFrom disk past (pure a : Script α) = (final, .ok b) ↔ past = final ∧ a = b := by
  change (past, (.ok a : Except CommandError α)) = (final, .ok b) ↔ _
  simp

theorem runFrom_ask_eq_ok_iff {d : DiskDialogue α} {a : α} :
    runFrom disk past (ask d) = (final, .ok a) ↔ d.runFrom disk past = (final, a) := by
  have hask : runFrom disk past (ask d) =
      ((d.runFrom disk past).1, .ok (d.runFrom disk past).2) :=
    Dialogue.runFrom_map disk past _ d
  rw [hask]
  simp [Prod.ext_iff]

theorem runFrom_orFail_eq_ok_iff {causes : ε → List Cause} {r : Except ε α} {a : α} :
    runFrom disk past (orFail causes r) = (final, .ok a) ↔ past = final ∧ r = .ok a := by
  cases r with
  | ok b =>
      have hpure : runFrom disk past (orFail causes (.ok b)) = (past, .ok b) := rfl
      simp [hpure]
  | error e =>
      have hthrow : runFrom disk past (orFail causes (.error e) : Script α) =
        (past, .error (causes e)) := rfl
      simp [hthrow]

end Script

end WidgetDoc
