import WidgetDoc.Proofs.BindingGrammar
import WidgetDoc.Proofs.Constants
import WidgetDoc.Proofs.DepthLimit
import WidgetDoc.Proofs.ExprGrammar

/-!
# Plain data

A JSON value in which nothing is a binding or an operator is written by itself: it is read as its
constant expression, whose value in every context is the value that was written.
-/

namespace WidgetDoc

theorem Binding.ofString?_eq_none_iff {raw : String} :
    ofString? raw = none ↔ ∀ s : Spelling, s.text ≠ raw := by
  constructor
  · rintro hnone s rfl
    rw [ofString?_text] at hnone
    cases hnone
  · intro h
    cases hb : ofString? raw with
    | none => rfl
    | some b =>
        obtain ⟨s, hs, -⟩ := exists_of_ofString? hb
        exact absurd hs (h s)

namespace Json

/-- The values in which no string spells a binding and no object has a string as its `op`. -/
inductive Plain : Json → Prop where
  | null : Plain .null
  | bool (b : Bool) : Plain (.bool b)
  | number (n : Number) : Plain (.number n)
  | string {s : String} (unspelled : ∀ spelling : Binding.Spelling, spelling.text ≠ s) :
      Plain (.string s)
  | array {items : List Json} (parts : ∀ x ∈ items, Plain x) : Plain (.array items)
  | object {fields : List (String × Json)}
      (literal : ∀ name, fields.lookup "op" ≠ some (.string name))
      (parts : ∀ f ∈ fields, Plain f.2) : Plain (.object fields)

mutual
/-- The number of containers around the deepest part; an empty container is around nothing. -/
def nesting : Json → Nat
  | array items => nestingOfItems items
  | object fields => nestingOfFields fields
  | _ => 0

def nestingOfItems : List Json → Nat
  | [] => 0
  | x :: xs => max (x.nesting + 1) (nestingOfItems xs)

def nestingOfFields : List (String × Json) → Nat
  | [] => 0
  | (_, x) :: fs => max (x.nesting + 1) (nestingOfFields fs)
end

end Json

namespace Expr

/-! ## Reading -/

theorem ofJson_plain {j : Json} (h : j.Plain) : ofJson j = .ok (constant j) := by
  induction h with
  | null | bool b | number n => rfl
  | string unspelled => rw [ofJson, Binding.ofString?_eq_none_iff.mpr unspelled, constant]
  | array parts ih =>
      rw [constant, constantItems_eq_map]
      exact ofJson_array (List.forall₂_map_right_iff.mpr (List.forall₂_same.mpr ih))
  | @object fields literal parts ih =>
      have hfields : ofFields fields = .ok (constantFields fields) := by
        rw [ofFields_eq_ok_iff, constantFields_eq_map, List.forall₂_map_right_iff]
        exact List.forall₂_same.mpr fun f hf => ⟨rfl, ih f hf⟩
      rw [ofJson, operatorName?_eq_none_iff.mpr literal, hfields]
      rfl

/-! ## Height and strictness -/

theorem heightOfAll_constantItems {items : List Json}
    (h : ∀ x ∈ items, (constant x).height = x.nesting) :
    heightOfAll (constantItems items) = Json.nestingOfItems items := by
  induction items with
  | nil => rfl
  | cons x xs ih =>
      obtain ⟨hx, hxs⟩ := List.forall_mem_cons.mp h
      rw [constantItems, heightOfAll, Json.nestingOfItems, hx, ih hxs]

theorem heightOfFields_constantFields {fields : List (String × Json)}
    (h : ∀ f ∈ fields, (constant f.2).height = f.2.nesting) :
    heightOfFields (constantFields fields) = Json.nestingOfFields fields := by
  induction fields with
  | nil => rfl
  | cons f fs ih =>
      obtain ⟨hf, hfs⟩ := List.forall_mem_cons.mp h
      rw [constantFields, heightOfFields, Json.nestingOfFields, hf, ih hfs]

theorem height_constant (j : Json) : (constant j).height = j.nesting := by
  induction j with
  | null | bool b | number n | string s => rfl
  | array items ih => exact heightOfAll_constantItems ih
  | object fields ih => exact heightOfFields_constantFields ih

theorem strict_constant (j : Json) : (constant j).Strict := by
  induction j with
  | null => exact .null
  | bool b => exact .bool b
  | number n => exact .number n
  | string s => exact .text s
  | array items ih =>
      rw [constant, constantItems_eq_map]
      exact .array (List.forall_mem_map.mpr ih)
  | object fields ih =>
      rw [constant, constantFields_eq_map]
      exact .object (List.forall_mem_map.mpr ih)

/-- Plain data is read without an error. In every context its value is itself at the depths that
leave room for its nesting, and it is too deep at all others. -/
theorem eval_plain {j : Json} (h : j.Plain) :
    ∃ e, ofJson j = .ok e ∧ ∀ (ctx : Context) (depth : Nat),
      (depth + j.nesting ≤ maxDepth → e.eval ctx depth = .ok (some j)) ∧
      (maxDepth < depth + j.nesting → e.eval ctx depth = .error .tooDeep) := by
  refine ⟨constant j, ofJson_plain h, ?_⟩
  intro ctx depth
  rw [← height_constant j]
  exact ⟨eval_constant, (strict_constant j).eval_eq_tooDeep⟩

/-- An object that is nearly an operator, with a text that is nearly a binding. -/
def nearlyOperator : Json :=
  .object [("op", .object [("op", .null)]),
    ("args", .array [.null, .string "$\x7bnode.x", .array [], .object []])]

theorem plain_nearlyOperator : nearlyOperator.Plain := by
  have htext : Binding.ofString? "$\x7bnode.x" = none := by decide +kernel
  have hinner : (Json.object [("op", .null)]).Plain := .object nofun (by simp [Json.Plain.null])
  have hnil : (Json.array []).Plain := .array nofun
  have hempty : (Json.object []).Plain := .object nofun nofun
  have hargs : (Json.array [.null, .string "$\x7bnode.x", .array [], .object []]).Plain := by
    refine .array ?_
    simp only [List.forall_mem_cons]
    exact ⟨.null, .string (Binding.ofString?_eq_none_iff.mp htext), hnil, hempty, nofun⟩
  refine .object nofun ?_
  simp only [List.forall_mem_cons]
  exact ⟨hinner, hargs, nofun⟩

theorem eval_plain_nearlyOperator :
    let ctx : Context := ⟨.empty, .empty, .empty, .empty, none⟩
    nearlyOperator.Plain ∧ nearlyOperator.nesting = 2 ∧
      ∃ e, ofJson nearlyOperator = .ok e ∧ e.eval ctx 62 = .ok (some nearlyOperator) ∧
        e.eval ctx 63 = .error .tooDeep := by
  intro ctx
  obtain ⟨e, he, hresult⟩ := eval_plain plain_nearlyOperator
  exact ⟨plain_nearlyOperator, rfl, e, he, (hresult ctx 62).1 (by decide),
    (hresult ctx 63).2 (by decide)⟩

end Expr

end WidgetDoc
