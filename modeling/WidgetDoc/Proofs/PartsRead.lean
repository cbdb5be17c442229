import WidgetDoc.Location
import WidgetDoc.Proofs.Reading

/-!
# The parts that an expression reads

A binding addresses the parts on its path: those that it goes through, the one that it ends at and
all below that. A change of any other part of a context, be it another value or the coming or going
of a field, leaves the value of the binding as it is, and so that of every expression whose
bindings do not address the part.
-/

namespace WidgetDoc

def Step.NamedBy (segment : String) : Step → Prop
  | field name => segment = name
  | index i => arrayIndex? segment = some i

namespace Location

/-- A part is on a path if each of the two leads to the end of the other or further. -/
def OnPath : List String → Location → Prop
  | segment :: rest, step :: location => step.NamedBy segment ∧ OnPath rest location
  | _, _ => True

end Location

/-- Two values that are the same but for the part at a location, of which either may be without. An
array keeps its length. -/
def Value.SameBut : Location → Value → Value → Prop
  | [], _, _ => True
  | .field name :: location, v, w => v = w ∨
    ∃ fields fields', v = some (.object fields) ∧ w = some (.object fields') ∧
      (∀ key, key ≠ name → fields.lookup key = fields'.lookup key) ∧
      SameBut location (fields.lookup name) (fields'.lookup name)
  | .index i :: location, v, w => v = w ∨
    ∃ items items', v = some (.array items) ∧ w = some (.array items') ∧
      items.length = items'.length ∧ (∀ k, k ≠ i → items[k]? = items'[k]?) ∧
      SameBut location items[i]? items'[i]?

/-! ## Paths that do not lead to a part -/

theorem Json.resolve?_array_length (items : List Json) (rest : List String) :
    (array items).resolve? ("length" :: rest) =
      if rest = [] then some (number (.ofNat items.length)) else none := by
  rw [resolve?, sizeFor?, if_pos rfl, size?]

theorem Json.resolve?_array_cons (items : List Json) {segment : String} (h : segment ≠ "length")
    (rest : List String) : (array items).resolve? (segment :: rest) =
      ((arrayIndex? segment).bind fun i => items[i]?).bind fun j => j.resolve? rest := by
  rw [resolve?, sizeFor?, if_neg h]
  rfl

namespace Value.SameBut

/-- A path that does not lead to the part reads the same of both values. -/
theorem resolve_eq {location : Location} {v w : Value} {path : List String}
    (h : Value.SameBut location v w) (hpath : ¬ location.OnPath path) :
    (v.bind fun j => j.resolve? path) = w.bind fun j => j.resolve? path := by
  induction location generalizing v w path with
  | nil => exact absurd (by cases path <;> trivial) hpath
  | cons step location ih =>
      cases path with
      | nil => exact absurd trivial hpath
      | cons segment rest =>
          cases step with
          | field name =>
              rcases h with rfl | ⟨fields, fields', rfl, rfl, hother, hpart⟩
              · rfl
              · simp only [Option.bind_some, Json.resolve?_object_cons]
                by_cases hname : segment = name
                · subst hname
                  exact ih hpart fun hrest => hpath ⟨rfl, hrest⟩
                · rw [hother segment hname]
          | index i =>
              rcases h with rfl | ⟨items, items', rfl, rfl, hlength, hother, hpart⟩
              · rfl
              · -- An array answers for its length before its items are looked at.
                by_cases hsegment : segment = "length"
                · subst hsegment
                  simp only [Option.bind_some, Json.resolve?_array_length, hlength]
                · simp only [Option.bind_some, Json.resolve?_array_cons _ hsegment]
                  cases hindex : arrayIndex? segment with
                  | none => rfl
                  | some k =>
                      by_cases hk : k = i
                      · subst hk
                        exact ih hpart fun hrest => hpath ⟨hindex, hrest⟩
                      · simp only [Option.bind_some, hother k hk]

end Value.SameBut

/-! ## Contexts -/

/-- Two contexts that are the same but for the part at a location of a namespace. -/
structure Context.SameBut (name : String) (location : Location) (ctx₁ ctx₂ : Context) : Prop where
  other : ∀ key, key ≠ name → ctx₁.root? key = ctx₂.root? key
  part : Value.SameBut location (ctx₁.root? name) (ctx₂.root? name)

/-- A binding addresses a part of a namespace that is on its path. -/
def Binding.Addresses (b : Binding) (name : String) (location : Location) : Prop :=
  ∃ rest, b.path = name :: rest ∧ location.OnPath rest

theorem Context.SameBut.resolve_eq {name : String} {location : Location} {ctx₁ ctx₂ : Context}
    (h : Context.SameBut name location ctx₁ ctx₂) {b : Binding} (hb : ¬ b.Addresses name location) :
    ctx₁.resolve b.path = ctx₂.resolve b.path := by
  cases hpath : b.path with
  | nil => rfl
  | cons key rest =>
      rw [resolve, resolve]
      by_cases hkey : key = name
      · subst hkey
        exact h.part.resolve_eq fun hrest => hb ⟨rest, hpath, hrest⟩
      · rw [h.other key hkey]

/-- Two contexts that agree on the paths of all bindings of an expression give it the same result,
be it a value, undefined or an error. So a change of any part that no binding addresses does not
change the result. -/
theorem Expr.eval_reads_addressed (e : Expr) (depth : Nat) (ctx₁ ctx₂ : Context) :
    ((∀ b ∈ e.bindings, ctx₁.resolve b.path = ctx₂.resolve b.path) →
      e.eval ctx₁ depth = e.eval ctx₂ depth) ∧
    ∀ (name : String) (location : Location), Context.SameBut name location ctx₁ ctx₂ →
      (∀ b ∈ e.bindings, ¬ b.Addresses name location) →
      e.eval ctx₁ depth = e.eval ctx₂ depth := by
  refine ⟨fun h => eval_congr h depth, fun name location h hb => ?_⟩
  exact eval_congr (fun b hmem => h.resolve_eq (hb b hmem)) depth

/-- A binding of a node reads the same with an event and without one. -/
theorem Expr.eval_reads_addressed_event :
    let b : Binding := ⟨"$\x7bnode.x\x7d", ["node", "x"], none⟩
    let ctx₁ : Context := ⟨.object [("x", .bool true)], .empty, .empty, .empty, some .null⟩
    let ctx₂ : Context := ⟨.object [("x", .bool true)], .empty, .empty, .empty, none⟩
    ctx₁.resolve b.path = ctx₂.resolve b.path ∧ Context.SameBut "event" [] ctx₁ ctx₂ ∧
      ¬ b.Addresses "event" [] ∧ (Expr.binding b).eval ctx₁ 0 = (Expr.binding b).eval ctx₂ 0 := by
  intro b ctx₁ ctx₂
  have hpart : Context.SameBut "event" [] ctx₁ ctx₂ := by
    refine ⟨fun key hkey => ?_, trivial⟩
    simp [Context.root?, hkey, ctx₁, ctx₂]
  have hb : ∀ b' ∈ (Expr.binding b).bindings, ¬ b'.Addresses "event" [] := by
    rintro b' hb' ⟨rest, hpath, -⟩
    rw [List.mem_singleton.mp hb'] at hpath
    simp [b] at hpath
  refine ⟨rfl, hpart, hb b (List.mem_singleton.mpr rfl), ?_⟩
  exact (Expr.eval_reads_addressed (.binding b) 0 ctx₁ ctx₂).2 "event" [] hpart hb

end WidgetDoc
