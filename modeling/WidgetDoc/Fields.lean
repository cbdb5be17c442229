/-!
# Ordered fields

A list of named values in order of insertion. Setting a field that is there keeps its position.
-/

namespace WidgetDoc

abbrev Fields (α : Type) := List (String × α)

namespace Fields

variable {α : Type}

def keys (fields : Fields α) : List String :=
  fields.map (·.1)

def Distinct (fields : Fields α) : Prop :=
  (keys fields).Nodup

instance (fields : Fields α) : Decidable (Distinct fields) :=
  inferInstanceAs (Decidable (keys fields).Nodup)

def set (key : String) (value : α) : Fields α → Fields α
  | [] => [(key, value)]
  | (k, v) :: rest => if k = key then (k, value) :: rest else (k, v) :: set key value rest

@[simp] theorem lookup_set_self (fields : Fields α) (key : String) (value : α) :
    (set key value fields).lookup key = some value := by
  induction fields with
  | nil => simp [set]
  | cons f fs ih =>
    obtain ⟨k, v⟩ := f
    by_cases h : k = key
    · simp [set, h]
    · have h' : (key == k) = false := beq_false_of_ne fun e => h e.symm
      simp [set, h, List.lookup_cons, h', ih]

theorem lookup_set_of_ne (fields : Fields α) {key other : String} (value : α) (h : other ≠ key) :
    (set key value fields).lookup other = fields.lookup other := by
  induction fields with
  | nil => simp [set, List.lookup_cons, beq_false_of_ne h]
  | cons f fs ih =>
    obtain ⟨k, v⟩ := f
    by_cases hk : k = key
    · subst hk
      simp [set, List.lookup_cons, beq_false_of_ne h]
    · simp only [set, hk, if_false, List.lookup_cons, ih]

theorem keys_set (fields : Fields α) (key : String) (value : α) :
    keys (set key value fields) =
      if key ∈ keys fields then keys fields else keys fields ++ [key] := by
  induction fields with
  | nil => simp [set, keys]
  | cons f fs ih =>
    obtain ⟨k, v⟩ := f
    by_cases h : k = key
    · simp [set, keys, h]
    · have h' : key ≠ k := fun e => h e.symm
      simp only [keys] at ih
      simp only [set, h, if_false, keys, List.map_cons, ih, List.mem_cons, h', false_or]
      split <;> simp_all

end Fields

end WidgetDoc
