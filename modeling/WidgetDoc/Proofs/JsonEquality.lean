import WidgetDoc.Proofs.Nesting
import WidgetDoc.Proofs.Results

/-!
# Equality up to the order of fields

Two arrays are the same if their items are, one by one. Two objects without repeated keys are the
same as soon as every key finds the same value in both, or in neither.
-/

namespace WidgetDoc

@[simp] theorem Number.same_refl (n : Number) : n.same n = true := by
  cases n <;> simp [Number.same, Double.sameValue]

namespace Json

theorem wellFormedItems_iff {items : List Json} :
    WellFormedItems items ↔ ∀ x ∈ items, x.WellFormed := by
  induction items with
  | nil => simp [WellFormedItems]
  | cons x items ih => rw [WellFormedItems, ih, List.forall_mem_cons]

theorem wellFormedFields_iff {fields : List (String × Json)} :
    WellFormedFields fields ↔ ∀ f ∈ fields, f.2.WellFormed := by
  induction fields with
  | nil => simp [WellFormedFields]
  | cons f fields ih => rw [WellFormedFields, ih, List.forall_mem_cons]

theorem wellFormed_object_iff {fields : List (String × Json)} :
    (object fields).WellFormed ↔ Fields.Distinct fields ∧ ∀ f ∈ fields, f.2.WellFormed := by
  rw [WellFormed, wellFormedFields_iff]

/-- What stands under a key of a well-formed object is well formed. -/
theorem WellFormed.of_lookup {fields : List (String × Json)} (h : (object fields).WellFormed)
    {key : String} {x : Json} (hx : fields.lookup key = some x) : x.WellFormed :=
  (wellFormed_object_iff.mp h).2 (key, x) (mem_of_lookup hx)

theorem sameItems_iff {xs ys : List Json} :
    sameItems xs ys = true ↔ List.Forall₂ (fun x y => x.same y = true) xs ys := by
  induction xs generalizing ys with
  | nil => cases ys <;> simp [sameItems]
  | cons x xs ih => cases ys <;> simp [sameItems, ih]

theorem sameFields_iff {fs gs : List (String × Json)} :
    sameFields fs gs = true ↔
      ∀ f ∈ fs, ∃ y, gs.lookup f.1 = some y ∧ f.2.same y = true := by
  induction fs with
  | nil => simp [sameFields]
  | cons f fs ih =>
      obtain ⟨key, x⟩ := f
      rw [sameFields, Bool.and_eq_true, ih, List.forall_mem_cons]
      cases gs.lookup key <;> simp

/-- Objects that agree under every key have the same keys. -/
theorem keys_perm_of_rel {R : Json → Json → Prop} {fs gs : List (String × Json)}
    (hfs : Fields.Distinct fs) (hgs : Fields.Distinct gs)
    (h : ∀ key, Option.Rel R (fs.lookup key) (gs.lookup key)) :
    (Fields.keys fs).Perm (Fields.keys gs) := by
  rw [List.perm_ext_iff_of_nodup hfs hgs]
  intro key
  rw [← not_iff_not, ← Fields.lookup_eq_none_iff, ← Fields.lookup_eq_none_iff]
  have hkey := h key
  cases hf : fs.lookup key <;> cases hg : gs.lookup key <;> simp [hf, hg] at hkey ⊢

theorem length_eq_of_rel {R : Json → Json → Prop} {fs gs : List (String × Json)}
    (hfs : Fields.Distinct fs) (hgs : Fields.Distinct gs)
    (h : ∀ key, Option.Rel R (fs.lookup key) (gs.lookup key)) : fs.length = gs.length := by
  have hkeys := (keys_perm_of_rel hfs hgs h).length_eq
  rwa [Fields.keys, Fields.keys, List.length_map, List.length_map] at hkeys

theorem exists_lookup_of_rel {R : Json → Json → Prop} {fs gs : List (String × Json)}
    (hfs : Fields.Distinct fs) (h : ∀ key, Option.Rel R (fs.lookup key) (gs.lookup key)) :
    ∀ f ∈ fs, ∃ y, gs.lookup f.1 = some y ∧ R f.2 y := by
  intro f hf
  have hkey := h f.1
  rw [Fields.lookup_of_mem hfs hf] at hkey
  cases hy : gs.lookup f.1 with
  | none => simp [hy] at hkey
  | some y =>
      rw [hy] at hkey
      obtain ⟨hxy⟩ := hkey
      exact ⟨y, rfl, hxy⟩

/-- A well-formed value that is the same as another one. -/
def Matches (x y : Json) : Prop :=
  x.WellFormed ∧ x.same y = true

theorem matches_array {xs ys : List Json} :
    Matches (array xs) (array ys) ↔ List.Forall₂ Matches xs ys := by
  simp only [Matches, WellFormed, same, wellFormedItems_iff, sameItems_iff]
  constructor
  · rintro ⟨hwf, hsame⟩
    exact forall₂_imp_mem hsame fun x hx y hxy => ⟨hwf x hx, hxy⟩
  · intro h
    exact ⟨forall_mem_of_forall₂ h.flip fun _ _ _ hxy => hxy.1, h.imp fun _ _ hxy => hxy.2⟩

theorem matches_object {fs gs : List (String × Json)} (hfs : Fields.Distinct fs)
    (hgs : Fields.Distinct gs)
    (h : ∀ key, Option.Rel Matches (fs.lookup key) (gs.lookup key)) :
    Matches (object fs) (object gs) := by
  have hmem := exists_lookup_of_rel hfs h
  constructor
  · refine wellFormed_object_iff.mpr ⟨hfs, fun f hf => ?_⟩
    obtain ⟨y, -, hy⟩ := hmem f hf
    exact hy.1
  · simp only [same, length_eq_of_rel hfs hgs h, beq_self_eq_true, Bool.true_and, sameFields_iff]
    intro f hf
    obtain ⟨y, hlookup, hy⟩ := hmem f hf
    exact ⟨y, hlookup, hy.2⟩

theorem matches_object_of_forall₂ {fs gs : List (String × Json)} (hgs : Fields.Distinct gs)
    (h : List.Forall₂ (fun f g => f.1 = g.1 ∧ Matches f.2 g.2) fs gs) :
    Matches (object fs) (object gs) := by
  have hkeys : Fields.keys fs = Fields.keys gs :=
    Fields.keys_eq_of_forall₂ (h.imp fun _ _ hfg => hfg.1)
  have hfs : Fields.Distinct fs := by rwa [Fields.Distinct, hkeys]
  exact matches_object hfs hgs (lookup_rel_of_forall₂ h)

end Json

end WidgetDoc
