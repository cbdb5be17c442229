import WidgetDoc.Proofs.Decoding

/-!
# Written expressions and records

An expression that was read is read as itself when it is written again. A written record lists the
entries that have a value, in a fixed order; what is absent or empty is left out and read as absent
or empty.
-/

namespace WidgetDoc

open Encoding

/-! ## Expressions -/

theorem Binding.raw_of_ofString? {s : String} {b : Binding} (h : ofString? s = some b) :
    b.raw = s := by
  obtain ⟨⟨path, comparison⟩, -, rfl⟩ := Option.map_eq_some_iff.mp h
  rfl

namespace Expr

/-- An expression that its JSON form is read as. -/
def Canonical (e : Expr) : Prop :=
  ofJson e.toJson = .ok e

theorem toJsonItems_eq_map (es : List Expr) : toJsonItems es = es.map toJson := by
  induction es with
  | nil => rfl
  | cons e es ih => rw [toJsonItems, ih, List.map_cons]

theorem toJsonFields_eq_map (fields : List (String × Expr)) :
    toJsonFields fields = fields.map fun f => (f.1, f.2.toJson) := by
  induction fields with
  | nil => rfl
  | cons f fields ih => rw [toJsonFields, ih, List.map_cons]

theorem forall₂_toJsonItems {es : List Expr} (h : ∀ e ∈ es, e.Canonical) :
    List.Forall₂ (fun x e => ofJson x = .ok e) (toJsonItems es) es := by
  rw [toJsonItems_eq_map, List.forall₂_map_left_iff, List.forall₂_same]
  exact h

theorem ofFields_toJsonFields {fields : List (String × Expr)} (h : ∀ f ∈ fields, f.2.Canonical) :
    ofFields (toJsonFields fields) = .ok fields := by
  rw [ofFields_eq_ok_iff, toJsonFields_eq_map, List.forall₂_map_left_iff, List.forall₂_same]
  exact fun f hf => ⟨rfl, h f hf⟩

/-- Only a string is read as something that is written as a string. -/
theorem eq_string_of_toJson {j : Json} {e : Expr} (h : ofJson j = .ok e) {s : String}
    (hs : e.toJson = .string s) : j = .string s := by
  cases j with
  | string s' =>
      cases hb : Binding.ofString? s' with
      | none =>
          obtain rfl : text s' = e := by simpa [ofJson, hb] using h
          simpa [toJson] using hs
      | some b =>
          obtain rfl : binding b = e := by simpa [ofJson, hb] using h
          simpa [toJson, Binding.raw_of_ofString? hb] using hs
  | null | bool b | number n =>
      simp only [ofJson, Except.ok.injEq] at h
      subst h
      simp [toJson] at hs
  | array items =>
      obtain ⟨es, -, rfl⟩ := map_eq_ok_iff.mp h
      simp [toJson] at hs
  | object fields =>
      rw [ofJson] at h
      split at h
      · obtain ⟨es, -, rfl⟩ := map_eq_ok_iff.mp h
        cases es <;> simp [toJson] at hs
      · obtain ⟨es, -, rfl⟩ := map_eq_ok_iff.mp h
        simp [toJson] at hs

/-- Only null is read as something that is written as null. -/
theorem eq_null_of_toJson {j : Json} {e : Expr} (h : ofJson j = .ok e) (hnull : e.toJson = .null) :
    j = .null := by
  cases e with
  | null =>
      cases j with
      | null => rfl
      | string s => rw [ofJson] at h; split at h <;> simp at h
      | bool b | number n => simp [ofJson] at h
      | array items => simp [ofJson, map_eq_ok_iff] at h
      | object fields => rw [ofJson] at h; split at h <;> simp [map_eq_ok_iff] at h
  | operator name args => cases args <;> simp [toJson] at hnull
  | bool b | number n | text s | binding b | array items | object fields =>
      simp [toJson] at hnull

theorem operatorName?_toJsonFields {fields : List (String × Json)} {es : List (String × Expr)}
    (h : List.Forall₂ (fun f g => f.1 = g.1 ∧ ofJson f.2 = .ok g.2) fields es)
    (hop : operatorName? fields = none) : operatorName? (toJsonFields es) = none := by
  rw [operatorName?_eq_none_iff] at hop ⊢
  intro name hname
  rw [toJsonFields_eq_map, lookup_mapValues, Option.map_eq_some_iff] at hname
  obtain ⟨e, he, hstring⟩ := hname
  have hrel := lookup_rel_of_forall₂ (R := fun x e => ofJson x = .ok e) h "op"
  rw [he] at hrel
  cases hx : fields.lookup "op" with
  | none => simp [hx] at hrel
  | some x =>
      rw [hx, Option.rel_some_some] at hrel
      exact hop name (hx.trans (congrArg some (eq_string_of_toJson hrel hstring)))

/-- Whatever is read as an expression is read as the same expression when it is written again. -/
theorem canonical_of_ofJson {j : Json} {e : Expr} (h : ofJson j = .ok e) : e.Canonical := by
  induction j generalizing e with
  | null | bool b | number n =>
      simp only [ofJson, Except.ok.injEq] at h
      subst h
      rfl
  | string s =>
      cases hb : Binding.ofString? s with
      | none =>
          obtain rfl : text s = e := by simpa [ofJson, hb] using h
          simp [Canonical, toJson, ofJson, hb]
      | some b =>
          obtain rfl : binding b = e := by simpa [ofJson, hb] using h
          simp [Canonical, toJson, ofJson, Binding.raw_of_ofString? hb, hb]
  | array items ih =>
      obtain ⟨es, hes, rfl⟩ := map_eq_ok_iff.mp h
      rw [ofItems_eq_ok_iff] at hes
      have hcanonical : ∀ e ∈ es, e.Canonical :=
        forall_mem_of_forall₂ hes fun x hx e he => ih x hx he
      have hback := (ofItems_eq_ok_iff [] 0 _ es).mpr (forall₂_toJsonItems hcanonical)
      simp [Canonical, toJson, ofJson, hback, Except.map]
  | object fields ih =>
      cases hop : operatorName? fields with
      | none =>
          rw [ofJson, hop] at h
          obtain ⟨es, hes, rfl⟩ := map_eq_ok_iff.mp h
          rw [ofFields_eq_ok_iff] at hes
          have hcanonical : ∀ g ∈ es, g.2.Canonical :=
            forall_mem_of_forall₂ hes fun f hf g hg => ih f hf hg.2
          simp [Canonical, toJson, ofJson, operatorName?_toJsonFields hes hop,
            ofFields_toJsonFields hcanonical, Except.map]
      | some name =>
          rw [ofJson, hop] at h
          obtain ⟨es, hes, rfl⟩ := map_eq_ok_iff.mp h
          obtain ⟨-, rfl⟩ | ⟨items, listed, hes⟩ := (ofArgsField_eq_ok_iff name fields es).mp hes
          · rfl
          · -- The list of arguments is read back, so it is under the field `args` as well.
            have hback := ih _ (mem_of_lookup listed) (ofJson_array hes)
            simp only [Canonical, toJson, ofJson, map_eq_ok_iff, ofItems_eq_ok_iff, array.injEq,
              exists_eq_right] at hback
            cases es with
            | nil => rfl
            | cons e es =>
                have hargs := (ofItems_eq_ok_iff [.field "args"] 0 _ _).mpr hback
                simp [Canonical, toJson, ofJson, operatorName?, Json.string?, ofArgsField, ofArgs,
                  hargs, Except.map]

end Expr

/-! ## Records -/

namespace Encoding

/-- The fields of a record of which some may be missing. -/
def record (entries : List (String × Option Json)) : List (String × Json) :=
  entries.flatMap fun e => present e.1 e.2

/-- An object, missing when it has no fields. -/
def objectOf? (fields : List (String × Json)) : Option Json :=
  if fields = [] then none else some (.object fields)

/-- An array, missing when it has no items. -/
def arrayOf? (items : List Json) : Option Json :=
  if items = [] then none else some (.array items)

theorem nonEmptyObject_eq (key : String) (fields : List (String × Json)) :
    nonEmptyObject key fields = present key (objectOf? fields) := by
  cases fields <;> simp [nonEmptyObject, objectOf?, present]

theorem nonEmptyArray_eq (key : String) (items : List Json) :
    nonEmptyArray key items = present key (arrayOf? items) := by
  cases items <;> simp [nonEmptyArray, arrayOf?, present]

theorem keys_present_sublist (key : String) (o : Option Json) :
    (Fields.keys (present key o)).Sublist [key] := by
  cases o <;> simp [present, Fields.keys]

theorem keys_record_sublist (entries : List (String × Option Json)) :
    (Fields.keys (record entries)).Sublist (Fields.keys entries) := by
  induction entries with
  | nil => exact .slnil
  | cons e entries ih =>
      have happend := (keys_present_sublist e.1 e.2).append ih
      simpa [Fields.keys, record] using happend

theorem distinct_record {entries : List (String × Option Json)} (h : Fields.Distinct entries) :
    Fields.Distinct (record entries) :=
  List.Nodup.sublist (keys_record_sublist entries) h

/-- Under a key a record holds what its entry says. -/
theorem lookup_record {entries : List (String × Option Json)} (h : Fields.Distinct entries)
    (key : String) : (record entries).lookup key = (entries.lookup key).join := by
  induction entries with
  | nil => rfl
  | cons e entries ih =>
      obtain ⟨k, o⟩ := e
      obtain ⟨hk, hentries⟩ := List.nodup_cons.mp h
      have hrec : record ((k, o) :: entries) = present k o ++ record entries := rfl
      rw [hrec, List.lookup_append, ih hentries, List.lookup_cons]
      by_cases hkey : key = k
      · subst hkey
        -- No later entry has this key, so a missing value is not replaced by one.
        have hnone : entries.lookup key = none := Fields.lookup_eq_none_iff.mpr hk
        cases o <;> simp [present, hnone]
      · have hkey' : (key == k) = false := beq_false_of_ne hkey
        cases o <;> simp [present, List.lookup_cons, hkey']

theorem exprFields?_objectOf? {fields : List (String × Expr)} (h : ∀ f ∈ fields, f.2.Canonical) :
    exprFields? (objectOf? (Expr.toJsonFields fields)) = some fields := by
  rw [exprFields?_eq_some_iff]
  cases fields with
  | nil => exact .inl ⟨rfl, rfl⟩
  | cons f fields => exact .inr ⟨_, rfl, Expr.ofFields_toJsonFields h⟩

theorem canonical_of_exprFields? {o : Option Json} {fields : List (String × Expr)}
    (h : exprFields? o = some fields) : ∀ f ∈ fields, f.2.Canonical := by
  obtain ⟨-, rfl⟩ | ⟨raw, -, hraw⟩ := exprFields?_eq_some_iff.mp h
  · simp
  · rw [Expr.ofFields_eq_ok_iff] at hraw
    exact forall_mem_of_forall₂ hraw fun f _ g hg => Expr.canonical_of_ofJson hg.2

theorem optionalExpr?_map_toJson {o : Option Json} {r : Option Expr}
    (h : optionalExpr? o = some r) : optionalExpr? (r.map Expr.toJson) = some r := by
  rw [optionalExpr?_eq_some_iff] at h ⊢
  obtain ⟨-, rfl⟩ | ⟨j, e, -, hj, he, rfl⟩ := h
  · exact .inl ⟨.inl rfl, rfl⟩
  · exact .inr ⟨e.toJson, e, rfl, fun hnull => hj (Expr.eq_null_of_toJson he hnull),
      Expr.canonical_of_ofJson he, rfl⟩

theorem readsList_arrayOf? {α : Type} {read : Json → Option α} {write : α → Json} {rs : List α}
    (h : ∀ r ∈ rs, read (write r) = some r) : ReadsList read (arrayOf? (rs.map write)) rs := by
  cases rs with
  | nil => exact .inl ⟨rfl, rfl⟩
  | cons r rs =>
      refine .inr ⟨_, rfl, ?_⟩
      rw [List.forall₂_map_left_iff, List.forall₂_same]
      exact h

/-- What holds of whatever is read from an item of a list field holds of all its records. -/
theorem forall_mem_of_readsList {α : Type} {read : Json → Option α} {o : Option Json}
    {rs : List α} {P : α → Prop} (h : ReadsList read o rs)
    (hP : ∀ items, o = some (.array items) → ∀ x ∈ items, ∀ r, read x = some r → P r) :
    ∀ r ∈ rs, P r := by
  obtain ⟨-, rfl⟩ | ⟨items, hitems, hrs⟩ := h
  · simp
  · exact forall_mem_of_forall₂ hrs (hP items hitems)

end Encoding

end WidgetDoc
