import WidgetDoc.Proofs.Constants
import WidgetDoc.Proofs.Literals

/-!
# Comparisons and operators

A binding with a comparison says the same as the operator `eq` or `neq` on the binding of its path
alone and the constant of its literal. A literal without a value is a missing argument.
-/

namespace WidgetDoc

def Comparator.operator : Comparator → BinaryOperator
  | equal => .eq
  | unequal => .neq

def Comparator.operatorName : Comparator → String
  | equal => "eq"
  | unequal => "neq"

theorem Comparator.ofName?_operatorName (c : Comparator) :
    Operator.ofName? c.operatorName = some (.binary c.operator) := by
  cases c <;> rfl

namespace Binding

/-! ## Bindings without a comparison -/

/-- The text of the binding that reads a path. -/
def bareText (path : List String) : String :=
  "$\x7b" ++ ".".intercalate path ++ "\x7d"

def bareSpelling (p : PathSpelling) : Spelling where
  before := []
  path := p
  after := []
  parts := none
  isBlank_before := isBlank_of_mem_nil
  isBlank_after := isBlank_of_mem_nil
  one_line := nofun

theorem text_bareSpelling (p : PathSpelling) : (bareSpelling p).text = bareText p.path := by
  rw [← String.toList_inj]
  simp [bareText, bareSpelling, Spelling.text, Spelling.inner, comparedText, PathSpelling.text,
    PathSpelling.path, String.toList_intercalate, Function.comp_def]

/-- The path of a binding can be written by itself. -/
theorem ofString?_bareText {raw : String} {b : Binding} (h : ofString? raw = some b) :
    ofString? (bareText b.path) = some ⟨bareText b.path, b.path, none⟩ := by
  obtain ⟨s, rfl, rfl⟩ := exists_of_ofString? h
  have hpath : s.binding.path = s.path.path := rfl
  rw [hpath, ← text_bareSpelling, ofString?_text]
  rfl

/-! ## Comparisons as operators -/

theorem resolve_eq_apply {b : Binding} {c : Comparison} (hc : b.comparison = some c)
    (ctx : Context) :
    b.resolve ctx = some (.bool (c.comparator.operator.apply (ctx.resolve b.path) c.literal)) := by
  obtain ⟨comparator, literal⟩ := c
  rw [resolve, hc]
  cases comparator <;> rfl

theorem height_constant_of_literalOf {text : List Char} {j : Json} (h : literalOf text = some j) :
    (Expr.constant j).height = 0 := by
  obtain ⟨l, rfl⟩ := exists_of_literalOf h
  rw [literalOf_text] at h
  cases l with
  | numeral n =>
      obtain ⟨m, -, rfl⟩ := Option.map_eq_some_iff.mp h
      rfl
  | quoted quote inner | bool b | null =>
      obtain rfl := Option.some.inj h
      rfl

theorem exists_literalOf_eq {raw : String} {b : Binding} {c : Comparison}
    (h : ofString? raw = some b) (hc : b.comparison = some c) :
    ∃ text, literalOf text = c.literal := by
  obtain ⟨s, rfl, rfl⟩ := exists_of_ofString? h
  obtain ⟨⟨comparator, rest⟩, -, rfl⟩ := Option.map_eq_some_iff.mp hc
  exact ⟨Text.trim rest, rfl⟩

/-- An argument that is the constant of a literal has its value, and is missing if it has none. -/
theorem evalArg_literalOf (text : List Char) (ctx : Context) {depth : Nat}
    (hdepth : depth ≤ maxDepth) :
    Expr.evalArg ctx depth 0 ((literalOf text).map Expr.constant).toList = .ok (literalOf text) := by
  cases hliteral : literalOf text with
  | none => rfl
  | some j =>
      refine Expr.eval_constant ?_
      rw [height_constant_of_literalOf hliteral]
      exact hdepth

/-- A comparison and the operator that it applies, on the binding of the path alone and the constant
of the literal, have the same result in every context and at every depth that leaves room for
arguments. -/
theorem eval_comparison_eq_operator {raw : String} {b : Binding} {c : Comparison}
    (h : ofString? raw = some b) (hc : b.comparison = some c) :
    ∃ bare, ofString? (bareText b.path) = some bare ∧ bare.path = b.path ∧
      bare.comparison = none ∧ ∀ (ctx : Context) (depth : Nat), depth < maxDepth →
        (Expr.binding b).eval ctx depth =
          (Expr.operator c.comparator.operatorName
            (.binding bare :: (c.literal.map Expr.constant).toList)).eval ctx depth := by
  refine ⟨_, ofString?_bareText h, rfl, rfl, fun ctx depth hdepth => ?_⟩
  have hnot : ¬ maxDepth < depth := by omega
  have hleft : Expr.evalArg ctx (depth + 1) 0
      (.binding ⟨bareText b.path, b.path, none⟩ :: (c.literal.map Expr.constant).toList) =
      .ok (ctx.resolve b.path) := by
    rw [Expr.evalArg, Expr.eval, if_neg (Nat.not_lt.mpr hdepth)]
    rfl
  have hright : Expr.evalArg ctx (depth + 1) 1
      (.binding ⟨bareText b.path, b.path, none⟩ :: (c.literal.map Expr.constant).toList) =
      .ok c.literal := by
    obtain ⟨text, htext⟩ := exists_literalOf_eq h hc
    rw [← htext]
    exact evalArg_literalOf text ctx hdepth
  rw [Expr.eval, if_neg hnot, resolve_eq_apply hc, Expr.eval, if_neg hnot]
  simp only [Comparator.ofName?_operatorName, hleft, hright]
  rfl

/-- A string that looks like a binding is compared as it is, by the comparison and by the operator
alike. -/
theorem eval_comparison_eq_operator_text :
    let b := (nodeSpelling " '$\x7bnode.y\x7d'".toList (by decide)).binding
    let ctx := { bareContext with node := .object [("x", .string "$\x7bnode.y\x7d")] }
    ofString? b.raw = some b ∧
      b.comparison = some ⟨.equal, some (.string "$\x7bnode.y\x7d")⟩ ∧
      ∃ bare, ofString? "$\x7bnode.x\x7d" = some bare ∧
        (Expr.operator "eq" [.binding bare, .text "$\x7bnode.y\x7d"]).eval ctx 0 =
          .ok (some (.bool true)) := by
  intro b ctx
  have hb : ofString? b.raw = some b := ofString?_text _
  have hc : b.comparison = some ⟨.equal, some (.string "$\x7bnode.y\x7d")⟩ := rfl
  have htext : bareText b.path = "$\x7bnode.x\x7d" := by
    have hpath : b.path = ["node", "x"] := rfl
    rw [hpath]
    decide +kernel
  have hresult : (Expr.binding b).eval ctx 0 = .ok (some (.bool true)) := by
    have hnot : ¬ maxDepth < 0 := by decide
    have hvalue : ctx.resolve b.path = some (.string "$\x7bnode.y\x7d") := rfl
    rw [Expr.eval, if_neg hnot, resolve_eq_apply hc, hvalue]
    rfl
  obtain ⟨bare, hbare, -, -, heval⟩ := eval_comparison_eq_operator hb hc
  rw [htext] at hbare
  refine ⟨hb, hc, bare, hbare, ?_⟩
  rw [← hresult]
  exact (heval ctx 0 (by decide)).symm

end Binding

end WidgetDoc
