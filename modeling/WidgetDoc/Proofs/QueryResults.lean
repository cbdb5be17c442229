import Mathlib.Data.List.Induction
import Mathlib.Data.String.Basic
import WidgetDoc.Command.Run
import WidgetDoc.Proofs.Fields

/-!
# Printed results

What a query command prints about the queries that ran: their ids in order, each once, with the last
of its answers.
-/

namespace WidgetDoc.Command

theorem mem_keys_setSorted {key other : String} {value : Json} {fields : Fields Json} :
    other ∈ Fields.keys (setSorted key value fields) ↔
      other = key ∨ other ∈ Fields.keys fields := by
  induction fields with
  | nil => simp [setSorted, Fields.keys]
  | cons f fields ih =>
      obtain ⟨k, v⟩ := f
      simp only [Fields.keys] at ih
      simp only [setSorted, Fields.keys]
      split
      · simp
      · split
        · next hkey => simp [hkey]
        · simp only [List.map_cons, List.mem_cons, ih]
          exact or_left_comm

theorem sorted_setSorted {fields : Fields Json} (h : (Fields.keys fields).Pairwise (· < ·))
    (key : String) (value : Json) :
    (Fields.keys (setSorted key value fields)).Pairwise (· < ·) := by
  induction fields with
  | nil => simp [setSorted, Fields.keys]
  | cons f fields ih =>
      obtain ⟨k, v⟩ := f
      obtain ⟨hfirst, hrest⟩ := List.pairwise_cons.mp h
      rw [setSorted]
      split
      · next hless =>
          refine List.pairwise_cons.mpr ⟨fun other hother => ?_, h⟩
          rcases List.mem_cons.mp hother with rfl | hother
          · exact hless
          · exact lt_trans hless (hfirst other hother)
      · next hless =>
          split
          · next hkey =>
              subst hkey
              exact List.pairwise_cons.mpr ⟨hfirst, hrest⟩
          · next hkey =>
              refine List.pairwise_cons.mpr ⟨fun other hother => ?_, ih hrest⟩
              rcases mem_keys_setSorted.mp hother with rfl | hother
              · exact lt_of_le_of_ne (not_lt.mp hless) (Ne.symm hkey)
              · exact hfirst other hother

theorem lookup_setSorted_self (key : String) (value : Json) (fields : Fields Json) :
    (setSorted key value fields).lookup key = some value := by
  induction fields with
  | nil => simp [setSorted]
  | cons f fields ih =>
      obtain ⟨k, v⟩ := f
      rw [setSorted]
      split
      · exact List.lookup_cons_self
      · split
        · exact List.lookup_cons_self
        · next hkey => rw [List.lookup_cons, beq_false_of_ne hkey, ih]

theorem lookup_setSorted_of_ne {key other : String} (h : other ≠ key) (value : Json)
    (fields : Fields Json) : (setSorted key value fields).lookup other = fields.lookup other := by
  have hother : (other == key) = false := beq_false_of_ne h
  induction fields with
  | nil => rw [setSorted, List.lookup_cons, hother]
  | cons f fields ih =>
      obtain ⟨k, v⟩ := f
      rw [setSorted]
      split
      · rw [List.lookup_cons, hother]
      · split
        · next hkey =>
            subst hkey
            rw [List.lookup_cons, List.lookup_cons, hother]
        · rw [List.lookup_cons, List.lookup_cons, ih]

theorem results_append (ran : List (String × Bool)) (r : String × Bool) :
    results (ran ++ [r]) = setSorted r.1 (.bool r.2) (results ran) := by
  rw [results, List.foldl_append]
  rfl

theorem sorted_results (ran : List (String × Bool)) :
    (Fields.keys (results ran)).Pairwise (· < ·) := by
  induction ran using List.reverseRecOn with
  | nil => exact .nil
  | append_singleton ran r ih =>
      rw [results_append]
      exact sorted_setSorted ih r.1 _

theorem mem_keys_results {ran : List (String × Bool)} {id : String} :
    id ∈ Fields.keys (results ran) ↔ id ∈ ran.map (·.1) := by
  induction ran using List.reverseRecOn with
  | nil => exact Iff.rfl
  | append_singleton ran r ih =>
      rw [results_append, mem_keys_setSorted, ih, List.map_append, List.mem_append]
      simp [or_comm]

theorem lookup_results (ran : List (String × Bool)) (id : String) :
    (results ran).lookup id = (ran.reverse.lookup id).map .bool := by
  induction ran using List.reverseRecOn with
  | nil => rfl
  | append_singleton ran r ih =>
      obtain ⟨k, found⟩ := r
      rw [results_append, List.reverse_append, List.reverse_singleton, List.singleton_append,
        List.lookup_cons]
      by_cases hid : id = k
      · subst hid
        rw [lookup_setSorted_self, beq_self_eq_true]
        rfl
      · rw [lookup_setSorted_of_ne hid, beq_false_of_ne hid, ih]

end WidgetDoc.Command
