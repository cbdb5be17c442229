import Mathlib.Data.List.Perm.Subperm
import WidgetDoc.Proofs.Comparisons
import WidgetDoc.Proofs.ObjectPaths

/-!
# Laws of equality and order

Equality of values is an equivalence. Numbers are equal across their kinds, and objects whatever the
order of their fields. The order of numbers fits it: of two numbers one is less, or they are equal.
-/

namespace WidgetDoc

open Double

namespace Number

theorem same_symm {m n : Number} (h : m.same n = true) : n.same m = true := by
  cases m <;> cases n <;> simp_all [same, sameValue]

theorem same_trans {m n p : Number} (hmn : m.same n = true) (hnp : n.same p = true) :
    m.same p = true := by
  cases m <;> cases n <;> cases p <;> simp_all [same, sameValue]

/-- An integer and a double that denotes it have one value. -/
theorem units_eq_of_denotes {n : Int} {fits : FitsWord n} {x : Double}
    (h : x.units = n * unitsPerOne) : (integer n fits).units = (double x).units := by
  rw [units_integer, nearest_of_units h, ← h]
  rfl

end Number

theorem Fields.lookup_eq_of_perm {α : Type} {fs gs : Fields α} (hfs : Distinct fs)
    (h : fs.Perm gs) (key : String) : fs.lookup key = gs.lookup key := by
  have hgs : Distinct gs := (h.map Prod.fst).nodup_iff.mp hfs
  ext x
  constructor
  · exact fun hx => lookup_of_mem hgs (h.mem_iff.mp (mem_of_lookup hx))
  · exact fun hx => lookup_of_mem hfs (h.mem_iff.mpr (mem_of_lookup hx))

theorem forall₂_iff_rel_getElem? {α β : Type} {R : α → β → Prop} {xs : List α} {ys : List β} :
    List.Forall₂ R xs ys ↔ ∀ i : Nat, Option.Rel R xs[i]? ys[i]? := by
  refine ⟨rel_getElem?_of_forall₂, fun h => ?_⟩
  induction xs generalizing ys with
  | nil =>
      cases ys with
      | nil => exact .nil
      | cons y ys => cases h 0
  | cons x xs ih =>
      cases ys with
      | nil => cases h 0
      | cons y ys =>
          obtain ⟨hxy⟩ : Option.Rel R (some x) (some y) := h 0
          exact .cons hxy (ih fun i => h (i + 1))

namespace Json

/-- Two values are the same. -/
def Same (x y : Json) : Prop :=
  x.same y = true

variable {x y z : Json}

/-! ## What is the same as a value -/

theorem same_null_iff : null.Same y ↔ y = null := by
  cases y <;> simp [Same, same]

theorem same_bool_iff {b : Bool} : (bool b).Same y ↔ y = bool b := by
  cases y <;> simp [Same, same, eq_comm (a := b)]

theorem same_number_iff {m : Number} :
    (number m).Same y ↔ ∃ n, y = number n ∧ m.same n = true := by
  cases y <;> simp [Same, same]

theorem same_string_iff {s : String} : (string s).Same y ↔ y = string s := by
  cases y <;> simp [Same, same, eq_comm (a := s)]

theorem same_array_iff {xs : List Json} : (array xs).Same y ↔
    ∃ ys, y = array ys ∧ ∀ i : Nat, Option.Rel Same xs[i]? ys[i]? := by
  simp only [← forall₂_iff_rel_getElem?]
  cases y with
  | array ys =>
      have hitems : (array xs).Same (array ys) ↔ List.Forall₂ Same xs ys := sameItems_iff
      simp [hitems]
  | null | bool b | number n | string s | object fs => simp [Same, same]

theorem keys_subset_of_sameFields {fs gs : List (String × Json)}
    (h : sameFields fs gs = true) : Fields.keys fs ⊆ Fields.keys gs := by
  intro key hkey
  obtain ⟨f, hf, rfl⟩ := List.mem_map.mp hkey
  obtain ⟨y, hy, -⟩ := sameFields_iff.mp h f hf
  exact List.mem_map.mpr ⟨(f.1, y), mem_of_lookup hy, rfl⟩

/-- Two objects are the same if every key finds the same in both, or is in neither. -/
theorem same_objects_iff {fs gs : List (String × Json)} (hfs : Fields.Distinct fs)
    (hgs : Fields.Distinct gs) : (object fs).Same (object gs) ↔
      ∀ key, Option.Rel Same (fs.lookup key) (gs.lookup key) := by
  rw [Same, same, Bool.and_eq_true, beq_iff_eq]
  constructor
  · rintro ⟨hlength, hsame⟩ key
    cases hf : fs.lookup key with
    | some x =>
        obtain ⟨y, hy, hxy⟩ := sameFields_iff.mp hsame (key, x) (mem_of_lookup hf)
        rw [hy]
        exact .some hxy
    | none =>
        -- There are as many keys in both, so those of the first are all that the second has.
        have hkeys : (Fields.keys fs).Perm (Fields.keys gs) := by
          apply (List.subperm_of_subset hfs (keys_subset_of_sameFields hsame)).perm_of_length_le
          simp [Fields.keys, hlength]
        have hnone : gs.lookup key = none := by
          rw [Fields.lookup_eq_none_iff] at hf ⊢
          exact fun hkey => hf (hkeys.mem_iff.mpr hkey)
        rw [hnone]
        exact .none
  · intro hrel
    exact ⟨length_eq_of_rel hfs hgs hrel, sameFields_iff.mpr (exists_lookup_of_rel hfs hrel)⟩

theorem same_object_iff {fs : List (String × Json)} (hfs : Fields.Distinct fs)
    (hy : y.WellFormed) : (object fs).Same y ↔ ∃ gs, y = object gs ∧
      ∀ key, Option.Rel Same (fs.lookup key) (gs.lookup key) := by
  cases y with
  | object gs =>
      rw [same_objects_iff hfs (wellFormed_object_iff.mp hy).1]
      simp
  | null | bool b | number n | string s | array ys => simp [Same, same]

theorem not_number_of_same (hxy : x.Same y) (hx : ∀ m, x ≠ number m) (n : Number) :
    y ≠ number n := by
  rintro rfl
  cases x with
  | number m => exact hx m rfl
  | null | bool b | string s | array xs | object fs => simp [Same, same] at hxy

/-! ## Equality is an equivalence -/

theorem rel_same_symm {o o' : Option Json} (h : Option.Rel Same o o')
    (hsymm : ∀ x ∈ o, ∀ y ∈ o', x.Same y → y.Same x) : Option.Rel Same o' o := by
  cases h with
  | none => exact .none
  | some hxy => exact .some (hsymm _ rfl _ rfl hxy)

theorem rel_same_trans {o o' o'' : Option Json} (h : Option.Rel Same o o')
    (h' : Option.Rel Same o' o'')
    (htrans : ∀ x ∈ o, ∀ y ∈ o', ∀ z ∈ o'', x.Same y → y.Same z → x.Same z) :
    Option.Rel Same o o'' := by
  cases h with
  | none => exact h'
  | some hxy =>
      cases h' with
      | some hyz => exact .some (htrans _ rfl _ rfl _ rfl hxy hyz)

theorem WellFormed.of_getElem? {items : List Json} (h : (array items).WellFormed) {i : Nat}
    (hx : items[i]? = some x) : x.WellFormed := by
  rw [WellFormed, wellFormedItems_iff] at h
  exact h x (List.mem_of_getElem? hx)

theorem Same.refl (h : x.WellFormed) : x.Same x :=
  (matches_refl h).2

theorem Same.symm (h : x.Same y) (hx : x.WellFormed) (hy : y.WellFormed) : y.Same x := by
  induction x generalizing y with
  | null =>
      obtain rfl := same_null_iff.mp h
      exact h
  | bool b =>
      obtain rfl := same_bool_iff.mp h
      exact h
  | number m =>
      obtain ⟨n, rfl, hmn⟩ := same_number_iff.mp h
      exact same_number_iff.mpr ⟨m, rfl, Number.same_symm hmn⟩
  | string s =>
      obtain rfl := same_string_iff.mp h
      exact h
  | array xs ih =>
      obtain ⟨ys, rfl, hitems⟩ := same_array_iff.mp h
      refine same_array_iff.mpr ⟨xs, rfl, fun i => rel_same_symm (hitems i) ?_⟩
      intro x hxi y hyi hxy
      exact ih x (List.mem_of_getElem? hxi) hxy (hx.of_getElem? hxi) (hy.of_getElem? hyi)
  | object fs ih =>
      have hfs := (wellFormed_object_iff.mp hx).1
      obtain ⟨gs, rfl, hfields⟩ := (same_object_iff hfs hy).mp h
      have hgs := (wellFormed_object_iff.mp hy).1
      refine (same_objects_iff hgs hfs).mpr fun key => rel_same_symm (hfields key) ?_
      intro x hxk y hyk hxy
      exact ih (key, x) (mem_of_lookup hxk) hxy (hx.of_lookup hxk) (hy.of_lookup hyk)

theorem Same.trans (hxy : x.Same y) (hyz : y.Same z) (hx : x.WellFormed) (hy : y.WellFormed)
    (hz : z.WellFormed) : x.Same z := by
  induction x generalizing y z with
  | null =>
      obtain rfl := same_null_iff.mp hxy
      exact hyz
  | bool b =>
      obtain rfl := same_bool_iff.mp hxy
      exact hyz
  | number m =>
      obtain ⟨n, rfl, hmn⟩ := same_number_iff.mp hxy
      obtain ⟨p, rfl, hnp⟩ := same_number_iff.mp hyz
      exact same_number_iff.mpr ⟨p, rfl, Number.same_trans hmn hnp⟩
  | string s =>
      obtain rfl := same_string_iff.mp hxy
      exact hyz
  | array xs ih =>
      obtain ⟨ys, rfl, hxs⟩ := same_array_iff.mp hxy
      obtain ⟨zs, rfl, hys⟩ := same_array_iff.mp hyz
      refine same_array_iff.mpr ⟨zs, rfl, fun i => rel_same_trans (hxs i) (hys i) ?_⟩
      intro x hxi y hyi z hzi h h'
      exact ih x (List.mem_of_getElem? hxi) h h' (hx.of_getElem? hxi) (hy.of_getElem? hyi)
        (hz.of_getElem? hzi)
  | object fs ih =>
      have hfs := (wellFormed_object_iff.mp hx).1
      obtain ⟨gs, rfl, hfields⟩ := (same_object_iff hfs hy).mp hxy
      have hgs := (wellFormed_object_iff.mp hy).1
      obtain ⟨ks, rfl, hothers⟩ := (same_object_iff hgs hz).mp hyz
      refine (same_object_iff hfs hz).mpr ⟨ks, rfl, fun key => ?_⟩
      refine rel_same_trans (hfields key) (hothers key) ?_
      intro x hxk y hyk z hzk h h'
      exact ih (key, x) (mem_of_lookup hxk) h h' (hx.of_lookup hxk) (hy.of_lookup hyk)
        (hz.of_lookup hzk)

end Json

/-! ## Equality of values -/

/-- No object in a value repeats a key. -/
def Value.WellFormed (v : Value) : Prop :=
  ∀ x ∈ v, x.WellFormed

namespace Value

variable {v w u : Value} {x y : Json}

theorem wellFormed_some_iff : WellFormed (some x) ↔ x.WellFormed := by
  simp [WellFormed]

theorem wellFormed_object {fields : List (String × Json)} (hdistinct : Fields.Distinct fields)
    (hfields : ∀ f ∈ fields, f.2.WellFormed) : WellFormed (some (.object fields)) :=
  wellFormed_some_iff.mpr (Json.wellFormed_object_iff.mpr ⟨hdistinct, hfields⟩)

theorem same_none_iff : same none w = true ↔ w = none := by
  cases w <;> simp [same]

theorem same_number_iff {m : Number} : same (some (.number m)) w = true ↔
    ∃ n, w = some (.number n) ∧ m.units = n.units := by
  cases w with
  | none => simp [same]
  | some y =>
      cases y with
      | number n => simp [same_numbers]
      | null | bool b | string s | array xs | object fs => simp [same, Json.same]

theorem same_some_iff (hx : ∀ m, x ≠ .number m) :
    same (some x) w = true ↔ ∃ y, w = some y ∧ x.Same y := by
  cases w with
  | none => simp [same]
  | some y =>
      cases x with
      | number m => exact absurd rfl (hx m)
      | null | bool b | string s | array xs | object fs => simp [same, Json.Same]

theorem none_or_number_or_other (v : Value) : v = none ∨ (∃ m, v = some (.number m)) ∨
    ∃ x, v = some x ∧ ∀ m, x ≠ .number m := by
  cases v with
  | none => exact .inl rfl
  | some x =>
      by_cases hx : ∃ m, x = .number m
      · obtain ⟨m, rfl⟩ := hx
        exact .inr (.inl ⟨m, rfl⟩)
      · exact .inr (.inr ⟨x, rfl, not_exists.mp hx⟩)

theorem same_refl (hv : v.WellFormed) : same v v = true := by
  obtain rfl | ⟨m, rfl⟩ | ⟨x, rfl, hx⟩ := none_or_number_or_other v
  · exact same_none_iff.mpr rfl
  · exact same_number_iff.mpr ⟨m, rfl, rfl⟩
  · exact (same_some_iff hx).mpr ⟨x, rfl, .refl (hv x rfl)⟩

theorem same_symm (hv : v.WellFormed) (hw : w.WellFormed) (h : same v w = true) :
    same w v = true := by
  obtain rfl | ⟨m, rfl⟩ | ⟨x, rfl, hx⟩ := none_or_number_or_other v
  · obtain rfl := same_none_iff.mp h
    exact h
  · obtain ⟨n, rfl, hmn⟩ := same_number_iff.mp h
    exact same_number_iff.mpr ⟨m, rfl, hmn.symm⟩
  · obtain ⟨y, rfl, hxy⟩ := (same_some_iff hx).mp h
    have hyx := hxy.symm (hv x rfl) (hw y rfl)
    exact (same_some_iff (Json.not_number_of_same hxy hx)).mpr ⟨x, rfl, hyx⟩

theorem same_trans (hv : v.WellFormed) (hw : w.WellFormed) (hu : u.WellFormed)
    (h : same v w = true) (h' : same w u = true) : same v u = true := by
  obtain rfl | ⟨m, rfl⟩ | ⟨x, rfl, hx⟩ := none_or_number_or_other v
  · obtain rfl := same_none_iff.mp h
    exact h'
  · obtain ⟨n, rfl, hmn⟩ := same_number_iff.mp h
    obtain ⟨p, rfl, hnp⟩ := same_number_iff.mp h'
    exact same_number_iff.mpr ⟨p, rfl, hmn.trans hnp⟩
  · obtain ⟨y, rfl, hxy⟩ := (same_some_iff hx).mp h
    obtain ⟨z, rfl, hyz⟩ := (same_some_iff (Json.not_number_of_same hxy hx)).mp h'
    exact (same_some_iff hx).mpr ⟨z, rfl, hxy.trans hyz (hv x rfl) (hw y rfl) (hu z rfl)⟩

theorem same_of_denotes {n : Int} {fits : FitsWord n} {d : Double}
    (h : d.units = n * unitsPerOne) :
    same (some (.number (.integer n fits))) (some (.number (.double d))) = true :=
  same_number_iff.mpr ⟨.double d, rfl, Number.units_eq_of_denotes h⟩

theorem same_of_perm {fs gs : List (String × Json)} (hfs : (Json.object fs).WellFormed)
    (h : fs.Perm gs) : same (some (.object fs)) (some (.object gs)) = true := by
  have hdistinct := (Json.wellFormed_object_iff.mp hfs).1
  have hgs : Fields.Distinct gs := (h.map Prod.fst).nodup_iff.mp hdistinct
  have hsame : (Json.object fs).Same (.object gs) := by
    refine (Json.same_objects_iff hdistinct hgs).mpr fun key => ?_
    rw [← Fields.lookup_eq_of_perm hdistinct h]
    cases hx : fs.lookup key with
    | none => exact .none
    | some x => exact .some (.refl (hfs.of_lookup hx))
  exact hsame

end Value

/-! ## Order -/

namespace BinaryOperator

theorem holds_gte (i j : Int) : gte.holds i j = !lt.holds i j := by
  simp only [holds, ← decide_not, not_lt]

theorem holds_lte (i j : Int) : lte.holds i j = !gt.holds i j := by
  simp only [holds, ← decide_not, not_lt]

/-- Exactly one of the three holds. -/
theorem holds_one (i j : Int) :
    (lt.holds i j).toNat + (eq.holds i j).toNat + (gt.holds i j).toNat = 1 := by
  rcases lt_trichotomy i j with h | rfl | h
  · simp [holds, h, beq_false_of_ne h.ne, h.not_gt]
  · simp [holds]
  · simp [holds, h, beq_false_of_ne h.ne', h.not_gt]

theorem holds_both (i j : Int) : (gte.holds i j && lte.holds i j) = eq.holds i j := by
  have heq : eq.holds i j = decide (i = j) := beq_eq_decide i j
  rw [heq, holds, holds, ← Bool.decide_and, decide_eq_decide, and_comm, ← le_antisymm_iff]

end BinaryOperator

namespace Value

/-- Equality is an equivalence. -/
structure EqualityLaws (v w u : Value) : Prop where
  refl : same v v = true
  symm : same v w = same w v
  trans : same v w = true → same w u = true → same v u = true

/-- The four orders of two values come from one. -/
structure OrderLaws (v w : Value) : Prop where
  gt : BinaryOperator.gt.apply v w = BinaryOperator.lt.apply w v
  gte : BinaryOperator.gte.apply v w = !BinaryOperator.lt.apply v w
  lte : BinaryOperator.lte.apply v w = !BinaryOperator.gt.apply v w

/-- Of two numbers one is less, or they are equal. -/
structure NumberLaws (v w : Value) : Prop where
  one : (BinaryOperator.lt.apply v w).toNat + (BinaryOperator.eq.apply v w).toNat +
    (BinaryOperator.gt.apply v w).toNat = 1
  both : (BinaryOperator.gte.apply v w && BinaryOperator.lte.apply v w) =
    BinaryOperator.eq.apply v w

theorem equalityLaws (hv : v.WellFormed) (hw : w.WellFormed) (hu : u.WellFormed) :
    EqualityLaws v w u where
  refl := same_refl hv
  symm := Bool.eq_iff_iff.mpr ⟨same_symm hv hw, same_symm hw hv⟩
  trans := same_trans hv hw hu

theorem orderLaws {a b : Double} (hv : toDouble? v = some a) (hw : toDouble? w = some b) :
    OrderLaws v w where
  gt := by
    rw [BinaryOperator.apply_of_toDouble? hv hw (by decide),
      BinaryOperator.apply_of_toDouble? hw hv (by decide)]
    rfl
  gte := by
    rw [BinaryOperator.apply_of_toDouble? hv hw (by decide),
      BinaryOperator.apply_of_toDouble? hv hw (by decide)]
    apply BinaryOperator.holds_gte
  lte := by
    rw [BinaryOperator.apply_of_toDouble? hv hw (by decide),
      BinaryOperator.apply_of_toDouble? hv hw (by decide)]
    apply BinaryOperator.holds_lte

theorem numberLaws (m n : Number) : NumberLaws (some (.number m)) (some (.number n)) where
  one := by
    simp only [BinaryOperator.apply_numbers]
    apply BinaryOperator.holds_one
  both := by
    simp only [BinaryOperator.apply_numbers]
    apply BinaryOperator.holds_both

/-- Equality is an equivalence that sees neither the kind of a number nor the order of fields. Values
that are no numbers are not ordered, the others are, and two numbers are equal if neither is less. -/
theorem equality_and_order_coherent (hv : v.WellFormed) (hw : w.WellFormed)
    (hu : u.WellFormed) :
    EqualityLaws v w u ∧
    (toDouble? v = none ∨ toDouble? w = none →
      ∀ op : BinaryOperator, op.IsOrder → op.apply v w = false) ∧
    (∀ a b, toDouble? v = some a → toDouble? w = some b → OrderLaws v w) ∧
    (∀ m n, v = some (.number m) → w = some (.number n) → NumberLaws v w) ∧
    (∀ (n : Int) (fits : FitsWord n) (d : Double), d.units = n * unitsPerOne →
      v = some (.number (.integer n fits)) → w = some (.number (.double d)) → same v w = true) ∧
    ∀ fs gs, v = some (.object fs) → w = some (.object gs) →
      (fs.Perm gs → same v w = true) ∧
      (same v w = true ↔ ∀ key, Option.Rel Json.Same (fs.lookup key) (gs.lookup key)) := by
  refine ⟨equalityLaws hv hw hu, fun h op => BinaryOperator.apply_of_toDouble?_eq_none h,
    fun a b => orderLaws, ?_, ?_, ?_⟩
  · rintro m n rfl rfl
    exact numberLaws m n
  · rintro n fits d hd rfl rfl
    exact same_of_denotes hd
  · rintro fs gs rfl rfl
    have hfs := (Json.wellFormed_object_iff.mp (hv _ rfl)).1
    have hgs := (Json.wellFormed_object_iff.mp (hw _ rfl)).1
    exact ⟨same_of_perm (hv _ rfl), Json.same_objects_iff hfs hgs⟩

/-- Fields change places and a zero its sign, and the record stays the same. -/
theorem equality_and_order_coherent_of_reordered :
    let id : String × Json := ("id", .number (.integer 3 (by decide)))
    let tags (negative : Bool) : String × Json :=
      ("tags", .array [.number (.double (zero negative))])
    let v : Value := some (.object [id, tags false])
    let w : Value := some (.object [tags false, id])
    let u : Value := some (.object [tags true, id])
    v.WellFormed ∧ w.WellFormed ∧ u.WellFormed ∧ same v w = true ∧ same w u = true ∧
      same v u = true ∧ BinaryOperator.lt.apply v w = false ∧
      ∃ three : Double, same (some id.2) (some (.number (.double three))) = true ∧
        BinaryOperator.gte.apply (some id.2) (some (.number (.double three))) = true ∧
        BinaryOperator.lte.apply (some id.2) (some (.number (.double three))) = true := by
  intro id tags v w u
  have hid : id.2.WellFormed := by
    simp [id, Json.WellFormed]
  have htags (negative : Bool) : (tags negative).2.WellFormed := by
    simp [tags, Json.WellFormed, Json.WellFormedItems]
  have hv : v.WellFormed := wellFormed_object (by decide) (by simp [hid, htags])
  have hw : w.WellFormed := wellFormed_object (by decide) (by simp [hid, htags])
  have hu : u.WellFormed := wellFormed_object (by decide) (by simp [hid, htags])
  obtain ⟨hequality, hclosed, -, -, -, hfields⟩ := equality_and_order_coherent hv hw hu
  have hvw : same v w = true := (hfields _ _ rfl rfl).1 (.swap _ _ _)
  have hwu : same w u = true := by decide +kernel
  have hlt : BinaryOperator.lt.apply v w = false := hclosed (.inl rfl) _ (by decide)
  refine ⟨hv, hw, hu, hvw, hwu, hequality.trans hvw hwu, hlt, ?_⟩
  let three : Double := ⟨false, 0x18000000000000, 1023, by decide, by decide, by decide⟩
  have hthree : WellFormed (some (.number (.double three))) := by
    simp [wellFormed_some_iff, Json.WellFormed]
  obtain ⟨-, -, -, hnumbers, hkinds, -⟩ :=
    equality_and_order_coherent (wellFormed_some_iff.mpr hid) hthree hv
  have hsame := hkinds 3 _ three (by decide +kernel) rfl rfl
  have hboth := (hnumbers _ _ rfl rfl).both.trans hsame
  exact ⟨three, hsame, Bool.and_eq_true_iff.mp hboth⟩

end Value

end WidgetDoc
