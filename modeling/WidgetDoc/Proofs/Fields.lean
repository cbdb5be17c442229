import Mathlib.Data.List.Forall2
import WidgetDoc.Json

/-!
# Looking up fields

Facts about look-ups in ordered fields: when they fail, what they find when no key occurs twice,
and how walks over fields and lists of related fields behave under them.
-/

namespace WidgetDoc

variable {α β : Type}

theorem mem_of_lookup {fields : List (String × α)} {key : String} {x : α}
    (h : fields.lookup key = some x) : (key, x) ∈ fields := by
  obtain ⟨before, after, rfl, -⟩ := List.lookup_eq_some_iff.mp h
  simp

/-- A walk over fields that ends at the first field with a key looks this key up. -/
theorem walk_eq_lookup {walk : List (String × Json) → β} {found : Json → β}
    {missing : β} {key : String} (nil : walk [] = missing)
    (cons : ∀ k x fs, walk ((k, x) :: fs) = if k = key then found x else walk fs)
    (fields : List (String × Json)) : walk fields = (fields.lookup key).elim missing found := by
  induction fields with
  | nil => simpa using nil
  | cons f fields ih =>
      obtain ⟨k, x⟩ := f
      by_cases h : k = key
      · simp [cons, h]
      · have h' : (key == k) = false := beq_false_of_ne fun e => h e.symm
        simp [cons, h, h', List.lookup_cons, ih]

theorem lookup_mapFields (f : String → α → β) (fields : List (String × α)) (key : String) :
    (fields.map fun g => (g.1, f g.1 g.2)).lookup key = (fields.lookup key).map (f key) := by
  induction fields with
  | nil => rfl
  | cons g fields ih =>
      rw [List.map_cons, List.lookup_cons, List.lookup_cons, ih]
      cases hkey : key == g.1 with
      | true => rw [eq_of_beq hkey, Option.map_some]
      | false => rfl

theorem lookup_mapValues (f : α → β) (fields : List (String × α)) (key : String) :
    (fields.map fun g => (g.1, f g.2)).lookup key = (fields.lookup key).map f :=
  lookup_mapFields (fun _ => f) fields key

/-- Two lists of fields with the same keys and related values are related under every key. -/
theorem lookup_rel_of_forall₂ {R : α → β → Prop} {fs : List (String × α)}
    {gs : List (String × β)} (h : List.Forall₂ (fun f g => f.1 = g.1 ∧ R f.2 g.2) fs gs)
    (key : String) : Option.Rel R (fs.lookup key) (gs.lookup key) := by
  induction h with
  | nil => exact .none
  | @cons f g fs gs hfg _ ih =>
      obtain ⟨k, x⟩ := f
      obtain ⟨k', y⟩ := g
      obtain ⟨rfl, hxy⟩ := hfg
      rw [List.lookup_cons, List.lookup_cons]
      cases key == k with
      | true => exact .some hxy
      | false => exact ih

namespace Fields

theorem lookup_eq_none_iff {fields : Fields α} {key : String} :
    fields.lookup key = none ↔ key ∉ keys fields := by
  rw [List.lookup_eq_none_iff]
  simp only [keys, bne_iff_ne, ne_eq, List.mem_map, not_exists, not_and]
  exact forall₂_congr fun f _ => ⟨fun h e => h e.symm, fun h e => h e.symm⟩

theorem keys_eq_of_forall₂ {fs : Fields α} {gs : Fields β}
    (h : List.Forall₂ (fun f g => f.1 = g.1) fs gs) : keys fs = keys gs := by
  induction h with
  | nil => rfl
  | @cons f g fs gs hfg _ ih =>
      simp only [keys] at ih ⊢
      rw [List.map_cons, List.map_cons, hfg, ih]

theorem lookup_of_mem {fields : Fields α} (h : Distinct fields) {key : String} {x : α}
    (hx : (key, x) ∈ fields) : fields.lookup key = some x := by
  induction fields with
  | nil => simp at hx
  | cons f fields ih =>
      obtain ⟨k, y⟩ := f
      obtain ⟨hk, hfields⟩ := List.nodup_cons.mp h
      rcases List.mem_cons.mp hx with heq | hrest
      · cases heq
        simp
      · have hne : key ≠ k := by
          rintro rfl
          exact hk (List.mem_map.mpr ⟨(key, x), hrest, rfl⟩)
        simpa [List.lookup_cons, beq_false_of_ne hne] using ih hfields hrest

theorem set_set (fields : Fields α) (key : String) (x y : α) :
    set key y (set key x fields) = set key y fields := by
  induction fields with
  | nil => simp [set]
  | cons f fields ih =>
      obtain ⟨k, z⟩ := f
      by_cases h : k = key
      · simp [set, h]
      · simp [set, h, ih]

theorem set_of_lookup {fields : Fields α} {key : String} {x : α}
    (h : fields.lookup key = some x) : set key x fields = fields := by
  induction fields with
  | nil => simp at h
  | cons f fields ih =>
      obtain ⟨k, y⟩ := f
      by_cases hk : k = key
      · subst hk
        obtain rfl : y = x := by simpa using h
        simp [set]
      · have hne : (key == k) = false := beq_false_of_ne fun e => hk e.symm
        rw [List.lookup_cons, hne] at h
        rw [set, if_neg hk, ih h]

end Fields

end WidgetDoc
