import WidgetDoc.Proofs.ComparisonOperator
import WidgetDoc.Proofs.ComparisonText
import WidgetDoc.Proofs.Comparisons

/-!
# Comparing integers

Operators and bindings compare integers as the nearest doubles. Their order is the order of the
integers, so all that can go wrong is that two integers with one nearest double count as equal.
-/

namespace WidgetDoc

namespace Double

/-- The nearest doubles tell two integers apart, unless they are equal. -/
def Separate (a b : Int) : Prop :=
  nearest a = nearest b → a = b

instance (a b : Int) : Decidable (Separate a b) :=
  inferInstanceAs (Decidable (_ → _))

variable {a b : Int}

theorem separate_of_lt (h : a.natAbs < 2 ^ 53 ∨ b.natAbs < 2 ^ 53) : Separate a b := by
  intro heq
  rcases h with ha | hb
  · exact eq_of_nearest_eq ha heq
  · exact (eq_of_nearest_eq hb heq.symm).symm

theorem Separate.symm (h : Separate a b) : Separate b a :=
  fun heq => (h heq.symm).symm

theorem Separate.eq_iff (h : Separate a b) : nearest a = nearest b ↔ a = b :=
  ⟨h, congrArg nearest⟩

theorem Separate.le_iff (h : Separate a b) : nearest a ≤ nearest b ↔ a ≤ b := by
  refine ⟨fun hle => ?_, nearest_mono⟩
  by_contra hlt
  have hback := nearest_mono (Int.le_of_lt (not_le.mp hlt))
  exact hlt (h (le_antisymm hle hback)).le

theorem Separate.lt_iff (h : Separate a b) : nearest a < nearest b ↔ a < b := by
  rw [← not_le, ← not_le, h.symm.le_iff]

end Double

open Double

/-- An integer as a value. -/
def Value.integer (n : Int) (fits : FitsWord n) : Value :=
  some (.number (.integer n fits))

namespace BinaryOperator

variable {a b : Int}

theorem holds_nearest (h : Separate a b) (op : BinaryOperator) :
    op.holds (nearest a) (nearest b) = op.holds a b := by
  rw [Bool.eq_iff_iff]
  cases op <;> simp [holds, h.eq_iff, h.le_iff, h.lt_iff, h.symm.le_iff, h.symm.lt_iff]

theorem apply_integers (ha : FitsWord a) (hb : FitsWord b) (op : BinaryOperator) :
    op.apply (.integer a ha) (.integer b hb) = op.holds (nearest a) (nearest b) := by
  have hpos : (0 : Int) < unitsPerOne := by exact_mod_cast unitsPerOne_pos
  rw [Value.integer, Value.integer, apply_numbers, Number.units_integer, Number.units_integer,
    holds_mul_right op _ _ hpos]

/-- Equality is exact for two integers only if their doubles tell them apart. -/
theorem apply_integers_eq_holds_iff (ha : FitsWord a) (hb : FitsWord b) (c : Comparator) :
    c.operator.apply (.integer a ha) (.integer b hb) = c.operator.holds a b ↔ Separate a b := by
  rw [apply_integers]
  refine ⟨fun h heq => ?_, fun h => holds_nearest h _⟩
  have hequal : (nearest a == nearest b) = (a == b) := by
    cases c with
    | equal => exact h
    | unequal => exact Bool.not_inj h
  rw [heq, beq_self_eq_true] at hequal
  exact beq_iff_eq.mp hequal.symm

end BinaryOperator

namespace Binding

/-- The binding that a printed comparison spells. -/
def PrintedComparison.binding (p : PrintedComparison) : Binding :=
  ⟨p.text, p.path.path, some ⟨p.comparator, some p.comparand.json⟩⟩

theorem PrintedComparison.binding_spelling (p : PrintedComparison) :
    p.spelling.binding = p.binding := by
  have hliteral : literalOf (Text.trim (p.lead ++ (p.comparand.text ++ p.trail))) =
      some p.comparand.json := by
    rw [p.trim_printed, p.comparand.literalOf_text]
  rw [PrintedComparison.binding, ← p.text_spelling, ← hliteral]
  rfl

theorem PrintedComparison.resolve_binding {p : PrintedComparison} {b : Int} {hb : FitsWord b}
    (hp : p.comparand.json = .number (.integer b hb)) (ctx : Context) :
    p.binding.resolve ctx =
      some (.bool (p.comparator.operator.apply (ctx.resolve p.path.path) (.integer b hb))) := by
  have hcomparison : p.binding.comparison = some ⟨p.comparator, .integer b hb⟩ := by
    rw [PrintedComparison.binding, hp]
    rfl
  exact resolve_eq_apply hcomparison ctx

end Binding

open Binding

/-- All operators, and the binding that compares a path to an integer, answer as the integers
compare exactly if the nearest doubles tell the integers apart. This is so for every integer beside
one below `2 ^ 53`. -/
theorem BinaryOperator.integers_exact_iff {a b : Int} (ha : FitsWord a) (hb : FitsWord b) :
    ((∀ op : BinaryOperator, op.apply (.integer a ha) (.integer b hb) = op.holds a b) ↔
      Separate a b) ∧
    (∀ p : PrintedComparison, p.comparand.json = .number (.integer b hb) →
      ∃ binding, ofString? p.text = some binding ∧ binding.path = p.path.path ∧
        ∀ ctx : Context, ctx.resolve binding.path = .integer a ha →
          (binding.resolve ctx = some (.bool (p.comparator.operator.holds a b)) ↔
            Separate a b)) ∧
    (a.natAbs < 2 ^ 53 ∨ b.natAbs < 2 ^ 53 → Separate a b) := by
  refine ⟨⟨fun h => ?_, fun h op => ?_⟩, fun p hp => ?_, separate_of_lt⟩
  · exact (apply_integers_eq_holds_iff ha hb .equal).mp (h .eq)
  · rw [apply_integers, holds_nearest h]
  · have hread : ofString? p.text = some p.binding := by
      rw [← p.text_spelling, ofString?_text, p.binding_spelling]
    refine ⟨p.binding, hread, rfl, fun ctx hctx => ?_⟩
    have hpath : ctx.resolve p.path.path = .integer a ha := hctx
    rw [PrintedComparison.resolve_binding hp, hpath, Option.some.injEq, Json.bool.injEq,
      apply_integers_eq_holds_iff]

theorem Binding.isBlank_of_mem_space : ∀ c ∈ [' '], Text.isBlank c = true :=
  List.all_eq_true.mp (by decide)

/-- The comparison of `node.x` to a natural number. -/
def Binding.numberComparison (comparator : Comparator) (n : Nat) (h : FitsSigned n) :
    PrintedComparison where
  before := []
  path := (nodeSpelling [] (by decide)).path
  after := [' ']
  comparator := comparator
  lead := [' ']
  comparand := .integer false 0 n h
  trail := []
  isBlank_before := isBlank_of_mem_nil
  isBlank_after := isBlank_of_mem_space
  isBlank_lead := isBlank_of_mem_space
  isBlank_trail := isBlank_of_mem_nil

/-- The context in which `node.x` is an integer. -/
def Context.ofInteger (n : Int) (fits : FitsWord n) : Context :=
  { Binding.bareContext with node := .object [("x", .number (.integer n fits))] }

/-- Integers on both sides of `2 ^ 53` are told apart. -/
theorem BinaryOperator.integers_exact_iff_astride :
    let a : Int := 9007199254740993
    let b : Int := 9007199254740991
    ∃ (ha : FitsWord a) (hb : FitsWord b) (p : PrintedComparison) (binding : Binding),
      p.comparand.json = .number (.integer b hb) ∧
      p.text = "$\x7bnode.x != 9007199254740991\x7d" ∧ ofString? p.text = some binding ∧
      (Context.ofInteger a ha).resolve binding.path = .integer a ha ∧
      binding.resolve (Context.ofInteger a ha) = some (.bool true) ∧
      ∀ op : BinaryOperator, op.apply (.integer a ha) (.integer b hb) = op.holds a b := by
  intro a b
  have ha : FitsWord a := by decide
  have hb : FitsWord b := by decide
  obtain ⟨hoperators, hbindings, hsmall⟩ := integers_exact_iff ha hb
  have hseparate : Separate a b := hsmall (.inr (by decide))
  let p := numberComparison .unequal 9007199254740991 (by decide)
  have hp : p.comparand.json = .number (.integer b hb) := rfl
  obtain ⟨binding, hread, hpath, hresolve⟩ := hbindings p hp
  have hvalue : (Context.ofInteger a ha).resolve binding.path = .integer a ha := by
    rw [hpath]
    rfl
  refine ⟨ha, hb, p, binding, hp, by decide +kernel, hread, hvalue, ?_, ?_⟩
  · exact (hresolve _ hvalue).mpr hseparate
  · exact hoperators.mpr hseparate

/-- Two ids that differ by one have the same nearest double, so they count as equal. -/
theorem BinaryOperator.equal_of_distinct_ids :
    let a : Int := 9007199254740993
    let b : Int := 9007199254740992
    a ≠ b ∧ ∃ (ha : FitsWord a) (hb : FitsWord b) (binding : Binding),
      eq.apply (.integer a ha) (.integer b hb) = true ∧
      gt.apply (.integer a ha) (.integer b hb) = false ∧
      ofString? "$\x7bnode.x == 9007199254740992\x7d" = some binding ∧
      (Context.ofInteger a ha).resolve binding.path = .integer a ha ∧
      binding.resolve (Context.ofInteger a ha) = some (.bool true) := by
  intro a b
  have ha : FitsWord a := by decide
  have hb : FitsWord b := by decide
  have hshared : nearest a = nearest b := by decide +kernel
  have hequal : eq.apply (.integer a ha) (.integer b hb) = true := by
    rw [apply_integers, hshared]
    exact beq_self_eq_true _
  let p := numberComparison .equal 9007199254740992 (by decide)
  have hp : p.comparand.json = .number (.integer b hb) := rfl
  have htext : p.text = "$\x7bnode.x == 9007199254740992\x7d" := by decide +kernel
  refine ⟨by decide, ha, hb, p.binding, hequal, ?_, ?_, rfl, ?_⟩
  · rw [apply_integers, hshared]
    simp [holds]
  · rw [← htext, ← p.text_spelling, ofString?_text, p.binding_spelling]
  · rw [PrintedComparison.resolve_binding hp]
    exact congrArg (fun found => some (Json.bool found)) hequal

end WidgetDoc
