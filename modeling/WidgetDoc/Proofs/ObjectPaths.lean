import WidgetDoc.Json.Path
import WidgetDoc.Proofs.JsonEquality

/-!
# Paths through objects

A write makes objects of everything above the value that it puts in place. What counts after writes
is therefore what paths reach through objects alone: `Json.reach?` is changed by a write at the path
and below it, at most made an object above it, and nowhere else. Two well-formed values that show
the same along all these paths are the same up to the order of fields.
-/

namespace WidgetDoc

/-- Neither path is a prefix of the other. -/
def Diverge (p q : List String) : Prop :=
  ¬ p <+: q ∧ ¬ q <+: p

instance (p q : List String) : Decidable (Diverge p q) :=
  inferInstanceAs (Decidable (¬ p <+: q ∧ ¬ q <+: p))

namespace Diverge

variable {p q : List String} {a b : String}

theorem symm (h : Diverge p q) : Diverge q p :=
  ⟨h.2, h.1⟩

theorem tail (h : Diverge (a :: p) (a :: q)) : Diverge p q :=
  ⟨fun hpq => h.1 (List.cons_prefix_cons.mpr ⟨rfl, hpq⟩),
    fun hqp => h.2 (List.cons_prefix_cons.mpr ⟨rfl, hqp⟩)⟩

theorem left_ne_nil (h : Diverge p q) : p ≠ [] := by
  rintro rfl
  exact h.1 List.nil_prefix

theorem right_ne_nil (h : Diverge p q) : q ≠ [] :=
  h.symm.left_ne_nil

end Diverge

namespace Json

/-- What a path reaches that leads through objects only. -/
def reach? : Json → List String → Option Json
  | j, [] => some j
  | j, segment :: rest => (j.fieldsOrNone.lookup segment).bind fun c => reach? c rest

@[simp] theorem reach?_nil (j : Json) : j.reach? [] = some j := rfl

theorem reach?_cons (j : Json) (segment : String) (rest : List String) :
    j.reach? (segment :: rest) = (j.fieldsOrNone.lookup segment).bind fun c => c.reach? rest :=
  rfl

@[simp] theorem fieldsOrNone_object (fields : List (String × Json)) :
    (object fields).fieldsOrNone = fields := rfl

theorem reach?_append (j : Json) (p q : List String) :
    j.reach? (p ++ q) = (j.reach? p).bind fun c => c.reach? q := by
  induction p generalizing j with
  | nil => rfl
  | cons segment p ih =>
      rw [List.cons_append, reach?_cons, reach?_cons]
      cases j.fieldsOrNone.lookup segment with
      | none => rfl
      | some c => exact ih c

theorem reach?_empty {p : List String} (h : p ≠ []) : empty.reach? p = none := by
  cases p with
  | nil => exact absurd rfl h
  | cons segment p => rfl

/-! ## Reading

Both readers of paths find what a path reaches through objects, and go on from there. -/

theorem descend?_of_reach? {j x : Json} {p : List String} (h : j.reach? p = some x) :
    j.descend? p = some x := by
  induction p generalizing j with
  | nil => exact h
  | cons segment p ih =>
      rw [reach?_cons, Option.bind_eq_some_iff] at h
      obtain ⟨c, hc, hx⟩ := h
      cases j with
      | object fields =>
          have hchild : (object fields).child? segment = some c := hc
          rw [descend?, hchild]
          exact ih hx
      | null | bool b | number n | string s | array items => cases hc

theorem descend?_append_of_reach? {j x : Json} {p : List String} (h : j.reach? p = some x)
    (rest : List String) : j.descend? (p ++ rest) = x.descend? rest := by
  rw [descend?_append, descend?_of_reach? h]
  rfl

theorem resolve?_append_of_reach? {j x : Json} {p : List String} (h : j.reach? p = some x)
    (rest : List String) : j.resolve? (p ++ rest) = x.resolve? rest := by
  induction p generalizing j with
  | nil =>
      obtain rfl : j = x := Option.some.inj h
      rfl
  | cons segment p ih =>
      rw [reach?_cons, Option.bind_eq_some_iff] at h
      obtain ⟨c, hc, hx⟩ := h
      cases j with
      | object fields =>
          have hlookup : fields.lookup segment = some c := hc
          rw [List.cons_append, resolve?_object_cons, hlookup]
          exact ih hx
      | null | bool b | number n | string s | array items => cases hc

theorem resolve?_of_reach? {j x : Json} {p : List String} (h : j.reach? p = some x) :
    j.resolve? p = some x := by
  have hnil := resolve?_append_of_reach? h []
  rwa [List.append_nil] at hnil

/-! ## Writing -/

/-- At a prefix of the path of a write stands what the rest of the path was written into. -/
theorem reach?_write_append (value : Json) (p rest : List String) (j : Json) :
    (write value (p ++ rest) j).reach? p =
      some (write value rest ((j.reach? p).getD empty)) := by
  induction p generalizing j with
  | nil => rfl
  | cons segment p ih =>
      rw [List.cons_append, write, reach?_cons, reach?_cons, fieldsOrNone_object,
        Fields.lookup_set_self, Option.bind_some, ih]
      cases j.fieldsOrNone.lookup segment with
      | some c => rfl
      | none =>
          have hempty : (empty.reach? p).getD empty = empty := by
            cases p <;> rfl
          rw [Option.getD_none, hempty]
          rfl

theorem reach?_write_self (value : Json) (p : List String) (j : Json) :
    (write value p j).reach? p = some value := by
  have h := reach?_write_append value p [] j
  rwa [List.append_nil] at h

theorem reach?_write_of_diverge {p q : List String} (h : Diverge p q) (value j : Json) :
    (write value p j).reach? q = j.reach? q := by
  induction p generalizing q j with
  | nil => exact absurd rfl h.left_ne_nil
  | cons a p ih =>
      cases q with
      | nil => exact absurd rfl h.right_ne_nil
      | cons b q =>
          rw [write, reach?_cons, reach?_cons, fieldsOrNone_object]
          by_cases hab : b = a
          · subst hab
            rw [Fields.lookup_set_self, Option.bind_some, ih h.tail]
            cases j.fieldsOrNone.lookup b with
            | some c => rfl
            | none => exact reach?_empty h.tail.right_ne_nil
          · rw [Fields.lookup_set_of_ne _ _ hab]

theorem wellFormed_empty : empty.WellFormed :=
  wellFormed_object_iff.mpr ⟨List.nodup_nil, by simp⟩

theorem WellFormed.fieldsOrNone {j : Json} (h : j.WellFormed) :
    (object j.fieldsOrNone).WellFormed := by
  cases j with
  | object fields => exact h
  | null | bool b | number n | string s | array items => exact wellFormed_empty

theorem WellFormed.set {fields : List (String × Json)} (h : (object fields).WellFormed)
    {value : Json} (hvalue : value.WellFormed) (key : String) :
    (object (Fields.set key value fields)).WellFormed := by
  obtain ⟨hdistinct, hfields⟩ := wellFormed_object_iff.mp h
  have hset : Fields.Distinct (Fields.set key value fields) := by
    rw [Fields.Distinct, Fields.keys_set]
    split
    · exact hdistinct
    · next hkey =>
        refine List.nodup_append.mpr ⟨hdistinct, by simp, ?_⟩
        rintro a ha b hb rfl
        exact hkey (List.mem_singleton.mp hb ▸ ha)
  refine wellFormed_object_iff.mpr ⟨hset, fun f hf => ?_⟩
  have hlookup := Fields.lookup_of_mem hset hf
  by_cases hkey : f.1 = key
  · rw [hkey, Fields.lookup_set_self] at hlookup
    cases hlookup
    exact hvalue
  · rw [Fields.lookup_set_of_ne _ _ hkey] at hlookup
    exact h.of_lookup hlookup

theorem WellFormed.write {value : Json} (hvalue : value.WellFormed) (p : List String) {j : Json}
    (h : j.WellFormed) : (write value p j).WellFormed := by
  induction p generalizing j with
  | nil => exact hvalue
  | cons segment p ih =>
      have hfields := h.fieldsOrNone
      have hchild : ((j.fieldsOrNone.lookup segment).getD empty).WellFormed := by
        cases hlookup : j.fieldsOrNone.lookup segment with
        | none => exact wellFormed_empty
        | some c => exact hfields.of_lookup hlookup
      exact hfields.set (ih hchild) segment

/-! ## What paths show -/

/-- A value without its parts: of an object only that it is one. -/
def outline : Json → Json
  | object _ => empty
  | j => j

/-- What a path through objects shows of the value that it reaches. -/
def show? (j : Json) (p : List String) : Option Json :=
  (j.reach? p).map outline

theorem show?_write_below (value : Json) (p rest : List String) (j : Json) :
    (write value p j).show? (p ++ rest) = value.show? rest := by
  rw [show?, reach?_append, reach?_write_self]
  rfl

theorem show?_write_above (value : Json) (q : List String) {rest : List String} (h : rest ≠ [])
    (j : Json) : (write value (q ++ rest) j).show? q = some empty := by
  rw [show?, reach?_write_append]
  cases rest with
  | nil => exact absurd rfl h
  | cons segment rest => rfl

theorem show?_write_of_diverge {p q : List String} (h : Diverge p q) (value j : Json) :
    (write value p j).show? q = j.show? q := by
  rw [show?, reach?_write_of_diverge h]
  rfl

/-- What paths show after a write, as a function of what they showed before it. -/
def overwrite (value : Json) (p : List String) (before : List String → Option Json) :
    List String → Option Json := fun q =>
  if p <+: q then value.show? (q.drop p.length)
  else if q <+: p then some empty
  else before q

theorem show?_write (value : Json) (p : List String) (j : Json) :
    (write value p j).show? = overwrite value p j.show? := by
  funext q
  rw [overwrite]
  split
  · next hpq =>
      obtain ⟨rest, rfl⟩ := hpq
      rw [show?_write_below, List.drop_left]
  · next hpq =>
      split
      · next hqp =>
          obtain ⟨rest, rfl⟩ := hqp
          have hrest : rest ≠ [] := by
            rintro rfl
            exact hpq ⟨[], by simp⟩
          exact show?_write_above value q hrest j
      · next hqp => exact show?_write_of_diverge ⟨hpq, hqp⟩ value j

/-- Writes at diverging paths commute in all that paths show. -/
theorem overwrite_comm {p q : List String} (h : Diverge p q) (v w : Json)
    (before : List String → Option Json) :
    overwrite v p (overwrite w q before) = overwrite w q (overwrite v p before) := by
  funext r
  simp only [overwrite]
  by_cases hpr : p <+: r
  · -- No path lies below both, and none above one of them is below the other.
    have hqr : ¬ q <+: r := fun hqr => (List.prefix_or_prefix_of_prefix hpr hqr).elim h.1 h.2
    have hrq : ¬ r <+: q := fun hrq => h.1 (hpr.trans hrq)
    simp only [if_pos hpr, if_neg hqr, if_neg hrq]
  · by_cases hqr : q <+: r
    · have hrp : ¬ r <+: p := fun hrp => h.2 (hqr.trans hrp)
      simp only [if_neg hpr, if_pos hqr, if_neg hrp]
    · simp only [if_neg hpr, if_neg hqr]
      split <;> split <;> rfl

/-! ## Equality from what paths show -/

theorem matches_refl {x : Json} (h : x.WellFormed) : x.Matches x := by
  induction x with
  | null => exact ⟨h, rfl⟩
  | bool b => exact ⟨h, by simp [same]⟩
  | number n => exact ⟨h, by simp [same]⟩
  | string s => exact ⟨h, by simp [same]⟩
  | array items ih =>
      have hitems := wellFormedItems_iff.mp h
      exact matches_array.mpr (List.forall₂_same.mpr fun x hx => ih x hx (hitems x hx))
  | object fields ih =>
      have hdistinct := (wellFormed_object_iff.mp h).1
      refine matches_object hdistinct hdistinct fun key => ?_
      cases hkey : fields.lookup key with
      | none => exact .none
      | some x => exact .some (ih (key, x) (mem_of_lookup hkey) (h.of_lookup hkey))

/-- What a key of an object holds shows the same in two objects that show the same. -/
theorem rel_lookup_of_show? {fs gs : List (String × Json)}
    (h : (object fs).show? = (object gs).show?) (key : String) :
    Option.Rel (fun x y => x.show? = y.show?) (fs.lookup key) (gs.lookup key) := by
  have hpath : ∀ rest, ((fs.lookup key).bind fun c => c.reach? rest).map outline =
      ((gs.lookup key).bind fun c => c.reach? rest).map outline := fun rest =>
    congrFun h (key :: rest)
  have hhere := hpath []
  cases hf : fs.lookup key with
  | none =>
      cases hg : gs.lookup key with
      | none => exact .none
      | some y => simp [hf, hg] at hhere
  | some x =>
      cases hg : gs.lookup key with
      | none => simp [hf, hg] at hhere
      | some y =>
          rw [hf, hg] at hpath
          exact .some (funext hpath)

/-- Only objects have parts that their outline does not show. -/
theorem eq_of_outline {x y : Json} (hx : x.object? = none) (h : x.outline = y.outline) : x = y := by
  have hself : x.outline = x := by
    cases x with
    | object fs => cases hx
    | null | bool b | number n | string s | array items => rfl
  rw [hself] at h
  cases y with
  | object gs =>
      subst h
      cases hx
  | null | bool b | number n | string s | array items => exact h

theorem matches_of_show? {x y : Json} (hx : x.WellFormed) (hy : y.WellFormed)
    (h : x.show? = y.show?) : x.Matches y := by
  have hroot : x.outline = y.outline := Option.some.inj (congrFun h [])
  induction x generalizing y with
  | object fs ih =>
      cases y with
      | object gs =>
          refine matches_object (wellFormed_object_iff.mp hx).1 (wellFormed_object_iff.mp hy).1
            fun key => ?_
          have hkey := rel_lookup_of_show? h key
          cases hf : fs.lookup key with
          | none =>
              rw [hf] at hkey
              cases hg : gs.lookup key with
              | none => exact .none
              | some y => simp [hg] at hkey
          | some x =>
              rw [hf] at hkey
              cases hg : gs.lookup key with
              | none => simp [hg] at hkey
              | some y =>
                  rw [hg, Option.rel_some_some] at hkey
                  exact .some (ih (key, x) (mem_of_lookup hf) (hx.of_lookup hf) (hy.of_lookup hg)
                    hkey (Option.some.inj (congrFun hkey [])))
      | null | bool b | number n | string s | array items => cases hroot
  | null | bool b | number n | string s | array items =>
      obtain rfl := eq_of_outline rfl hroot
      exact matches_refl hx

end Json

end WidgetDoc
