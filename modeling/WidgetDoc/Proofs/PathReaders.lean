import Mathlib.Data.String.Basic
import WidgetDoc.Proofs.BindingGrammar

/-!
# The two readers of paths

A dot path and a binding read the same parts of a value, but only a binding can end in the length of
an array or string. These have no part of the name `length`, and an object that has one answers with
its field. So where both readers find something, it is the same.
-/

namespace WidgetDoc

namespace Json

variable {j x : Json} {segment : String} {rest path : List String}

theorem sizeFor?_eq_some_iff {n : Nat} :
    j.sizeFor? segment = some n ↔ segment = "length" ∧ j.size? = some n := by
  simp [sizeFor?]

theorem size?_eq_some_iff {n : Nat} : j.size? = some n ↔
    (∃ items, j = array items ∧ items.length = n) ∨ ∃ s, j = string s ∧ s.length = n := by
  cases j <;> simp [size?]

/-- What has a size has no part of the name that asks for it. -/
theorem child?_length_of_size? {n : Nat} (h : j.size? = some n) : j.child? "length" = none := by
  have hindex : arrayIndex? "length" = none := by decide
  rcases size?_eq_some_iff.mp h with ⟨items, rfl, -⟩ | ⟨s, rfl, -⟩
  · rw [child?, hindex, Option.bind_none]
  · rfl

theorem resolve?_cons_eq_some_iff : j.resolve? (segment :: rest) = some x ↔
    (∃ c, j.child? segment = some c ∧ c.resolve? rest = some x) ∨
      segment = "length" ∧ rest = [] ∧ ∃ n, j.size? = some n ∧ x = number (.ofNat n) := by
  rw [resolve?]
  cases hsize : j.sizeFor? segment with
  | some n =>
      obtain ⟨rfl, hn⟩ := sizeFor?_eq_some_iff.mp hsize
      simp [child?_length_of_size? hn, hn, eq_comm]
  | none =>
      have hother (hsegment : segment = "length") (n : Nat) : j.size? ≠ some n := fun hn =>
        absurd (sizeFor?_eq_some_iff.mpr ⟨hsegment, hn⟩) (by simp [hsize])
      rw [Option.bind_eq_some_iff]
      constructor
      · exact .inl
      · rintro (hchild | ⟨hsegment, -, n, hn, -⟩)
        · exact hchild
        · exact absurd hn (hother hsegment n)

/-- A binding reads what a dot path reads, or else the length of what is above its last segment. -/
theorem resolve?_eq_some_iff : j.resolve? path = some x ↔ j.descend? path = some x ∨
    ∃ above c n, path = above ++ ["length"] ∧ j.descend? above = some c ∧ c.size? = some n ∧
      x = number (.ofNat n) := by
  induction path generalizing j with
  | nil => simp [resolve?, descend?]
  | cons segment rest ih =>
      rw [resolve?_cons_eq_some_iff, descend?, Option.bind_eq_some_iff]
      simp only [ih]
      constructor
      · rintro (⟨c, hc, hx | ⟨above, d, n, rfl, hd, hn, rfl⟩⟩ | ⟨rfl, rfl, n, hn, rfl⟩)
        · exact .inl ⟨c, hc, hx⟩
        · exact .inr ⟨segment :: above, d, n, rfl, by rw [descend?, hc]; exact hd, hn, rfl⟩
        · exact .inr ⟨[], j, n, rfl, rfl, hn, rfl⟩
      · rintro (⟨c, hc, hx⟩ | ⟨above, d, n, hpath, hd, hn, rfl⟩)
        · exact .inl ⟨c, hc, .inl hx⟩
        · rcases List.cons_eq_append_iff.mp hpath with ⟨rfl, hlast⟩ | ⟨above, rfl, rfl⟩
          · obtain ⟨rfl, rfl⟩ := List.cons.inj hlast
            obtain rfl := Option.some.inj hd
            exact .inr ⟨rfl, rfl, n, hn, rfl⟩
          · obtain ⟨c, hc, hd⟩ := Option.bind_eq_some_iff.mp hd
            exact .inl ⟨c, hc, .inr ⟨above, d, n, rfl, hd, hn, rfl⟩⟩

end Json

namespace DotPath

/-- A segment that can be written in a dot path. -/
def IsSegment (s : String) : Prop :=
  s ≠ "" ∧ '.' ∉ s.toList

instance (s : String) : Decidable (IsSegment s) :=
  inferInstanceAs (Decidable (_ ∧ _))

theorem segments_join {path : List String} (h : ∀ s ∈ path, IsSegment s) :
    segments (".".intercalate path) = path := by
  by_cases hnil : path = []
  · subst hnil
    rfl
  · have hpieces : Text.pieces '.' (".".intercalate path).toList = path.map String.toList := by
      rw [String.toList_intercalate]
      refine Text.pieces_intercalate (fun text htext => ?_) (by simpa using hnil)
      obtain ⟨s, hs, rfl⟩ := List.mem_map.mp htext
      exact (h s hs).2
    have hfilter : (path.map String.toList).filter (· ≠ []) = path.map String.toList := by
      simpa using fun s hs => (h s hs).1
    rw [segments, hpieces, hfilter, List.map_map]
    simp [Function.comp_def]

variable {ctx : Context} {name : String} {v : Json} {path : List String}

/-- A dot path into the value of a namespace and a path that starts with the namespace read the
same, except that only the second can end in the length of an array or string. -/
theorem readers_agree (hroot : ctx.root? name = some v) (hpath : ∀ s ∈ path, IsSegment s) :
    (∀ x, get? v (".".intercalate path) = some x → ctx.resolve (name :: path) = some x) ∧
    ∀ x, (ctx.resolve (name :: path) = some x ∧ get? v (".".intercalate path) = none) ↔
      ∃ above c, path = above ++ ["length"] ∧ get? v (".".intercalate above) = some c ∧
        ((∃ items, c = .array items ∧ x = .number (.ofNat items.length)) ∨
          ∃ s, c = .string s ∧ x = .number (.ofNat s.length)) := by
  have hresolve : ctx.resolve (name :: path) = v.resolve? path := by
    rw [Context.resolve, hroot, Option.bind_some]
  have hget (p : List String) (hp : ∀ s ∈ p, IsSegment s) :
      get? v (".".intercalate p) = v.descend? p := by
    rw [get?, segments_join hp]
  rw [hresolve, hget path hpath]
  refine ⟨fun x hx => Json.resolve?_eq_some_iff.mpr (.inl hx), fun x => ?_⟩
  constructor
  · rintro ⟨hx, hnone⟩
    rcases Json.resolve?_eq_some_iff.mp hx with hx | ⟨above, c, n, rfl, hc, hn, rfl⟩
    · simp [hnone] at hx
    · have habove := hget above fun s hs => hpath s (List.mem_append_left _ hs)
      refine ⟨above, c, rfl, habove.trans hc, ?_⟩
      rcases Json.size?_eq_some_iff.mp hn with ⟨items, rfl, rfl⟩ | ⟨s, rfl, rfl⟩
      · exact .inl ⟨items, rfl, rfl⟩
      · exact .inr ⟨s, rfl, rfl⟩
  · rintro ⟨above, c, rfl, hc, hx⟩
    rw [hget above fun s hs => hpath s (List.mem_append_left _ hs)] at hc
    obtain ⟨n, hn, rfl⟩ : ∃ n, c.size? = some n ∧ x = .number (.ofNat n) := by
      rcases hx with ⟨items, rfl, rfl⟩ | ⟨s, rfl, rfl⟩
      · exact ⟨items.length, rfl, rfl⟩
      · exact ⟨s.length, rfl, rfl⟩
    refine ⟨Json.resolve?_eq_some_iff.mpr (.inr ⟨above, c, n, rfl, hc, hn, rfl⟩), ?_⟩
    rw [Json.descend?_append, hc, Option.bind_some, Json.descend?, Json.child?_length_of_size? hn]
    rfl

/-- A field named `length` is read by both, below it only the binding asks for a length. -/
theorem readers_agree_measured :
    let v : Json := .object [("list", .array [.null, .object [("length", .string "abc")]])]
    let ctx : Context := ⟨.null, .empty, v, .empty, none⟩
    let path := ["list", "1", "length"]
    ctx.root? "uiState" = some v ∧ (∀ s ∈ path ++ ["length"], IsSegment s) ∧
      ctx.resolve ("uiState" :: path) = some (.string "abc") ∧
      ctx.resolve ("uiState" :: (path ++ ["length"])) = some (.number (.ofNat 3)) ∧
      get? v (".".intercalate (path ++ ["length"])) = none ∧
      ctx.resolve ["uiState", "list", "length", "1"] = none := by
  intro v ctx path
  have hroot : ctx.root? "uiState" = some v := rfl
  have hpath : ∀ s ∈ path, IsSegment s := by decide
  have hlonger : ∀ s ∈ path ++ ["length"], IsSegment s := by decide
  have hget : get? v (".".intercalate path) = some (.string "abc") := by
    rw [get?, segments_join hpath]
    rfl
  obtain ⟨hlength, hnone⟩ := ((readers_agree hroot hlonger).2 (.number (.ofNat 3))).mpr
    ⟨path, .string "abc", rfl, hget, .inr ⟨"abc", rfl, rfl⟩⟩
  exact ⟨hroot, hlonger, (readers_agree hroot hpath).1 _ hget, hlength, hnone, rfl⟩

end DotPath

end WidgetDoc
