import WidgetDoc.Proofs.ComparisonText
import WidgetDoc.Proofs.EventData
import WidgetDoc.Proofs.Gathering
import WidgetDoc.Proofs.NearestDouble

/-!
# The texts of integral numbers

An integer shows its digits. A double that denotes an integer shows the same digits only below
`10 ^ 15`; from there on its text has a point or an exponent, which no integer has. Wherever the
text of a number goes, a number that shows its digits counts as the integer.
-/

open WidgetDoc.Expr

namespace WidgetDoc

open Double

/-! ## Integral doubles -/

theorem Double.toInt?_eq_some_iff {x : Double} {k : Int} :
    x.toInt? = some k ↔ x.units = k * unitsPerOne := by
  have hpos : (unitsPerOne : Int) ≠ 0 := by exact_mod_cast unitsPerOne_pos.ne'
  have hdvd : x.magnitude % unitsPerOne = 0 ↔ (unitsPerOne : Int) ∣ x.units := by
    rw [← Nat.dvd_iff_mod_eq_zero, ← natAbs_units, Int.natCast_dvd]
  rw [toInt?]
  constructor
  · intro h
    split_ifs at h with hmod
    obtain rfl := Option.some.inj h
    exact (Int.ediv_mul_cancel (hdvd.mp hmod)).symm
  · intro h
    have hmod : x.magnitude % unitsPerOne = 0 := hdvd.mpr ⟨k, by rw [h, Int.mul_comm]⟩
    rw [if_pos hmod, h, Int.mul_ediv_cancel _ hpos]

/-! ## Texts that no integer has -/

/-- A numeral shows a point, or else an exponent. -/
theorem Decimal.exists_mark_format (style : Style) (d : Decimal) :
    ∃ c ∈ (format style d).toList, c = '.' ∨ c = 'e' := by
  unfold format
  extract_lets digits count first fraction sign body
  have hbody : ∃ c ∈ body, c = '.' ∨ c = 'e' := by
    by_cases hpositional : style.lowest ≤ first ∧ first < style.highest
    · refine ⟨'.', ?_, .inl rfl⟩
      simp only [body, if_pos hpositional]
      split_ifs <;> simp
    · exact ⟨'e', by simp [body, if_neg hpositional], .inr rfl⟩
  obtain ⟨c, hc, hmark⟩ := hbody
  rw [String.toList_ofList]
  split
  · exact ⟨c, List.mem_cons_of_mem _ hc, hmark⟩
  · exact ⟨c, hc, hmark⟩

theorem sign_or_digit_of_mem_repr {k : Int} {c : Char} (h : c ∈ k.repr.toList) :
    c = '-' ∨ c.isDigit = true := by
  cases k with
  | ofNat n => exact .inr (Decimal.isDigit_zeros_repr 0 n c h)
  | negSucc n =>
      rw [Int.repr, String.toList_append] at h
      rcases List.mem_append.mp h with hsign | hdigit
      · exact .inl (List.mem_singleton.mp hsign)
      · exact .inr (Decimal.isDigit_zeros_repr 0 _ c hdigit)

theorem Decimal.format_ne_repr (style : Style) (d : Decimal) (k : Int) :
    format style d ≠ k.repr := by
  intro h
  obtain ⟨c, hc, hmark⟩ := exists_mark_format style d
  rw [h] at hc
  rcases hmark with rfl | rfl
  · exact absurd (sign_or_digit_of_mem_repr hc) (by decide)
  · exact absurd (sign_or_digit_of_mem_repr hc) (by decide)

/-! ## Numbers that denote integers -/

namespace Number

/-- The value of the number is an integer. -/
def Denotes : Number → Int → Prop
  | integer n _, k => n = k
  | double x, k => x.units = k * unitsPerOne

/-- The number is of the integer kind, or it is small. -/
def ShowsDigits (n : Number) (k : Int) : Prop :=
  (∃ fits, n = integer k fits) ∨ k.natAbs < 10 ^ 15

variable {n : Number} {k : Int}

theorem display_double {x : Double} (h : (double x).Denotes k) :
    (double x).display = if k.natAbs < 10 ^ 15 then k.repr else (double x).literal := by
  rw [display, toInt?_eq_some_iff.mpr h]
  rfl

/-- The exact digits are shown by integers, and by small doubles only. -/
theorem display_eq_repr_iff (h : n.Denotes k) : n.display = k.repr ↔ n.ShowsDigits k := by
  cases n with
  | integer m fits =>
      obtain rfl : m = k := h
      exact iff_of_true rfl (.inl ⟨fits, rfl⟩)
  | double x =>
      rw [display_double h, ShowsDigits]
      split_ifs with hsmall
      · exact iff_of_true rfl (.inr hsmall)
      · refine iff_of_false (Decimal.format_ne_repr _ _ _) ?_
        rintro (⟨fits, hkind⟩ | hlt)
        · exact nomatch hkind
        · exact hsmall hlt

end Number

/-! ## Where the text of a number goes -/

/-- A number counts as a text in a concatenation, for a length, as the id of a node that an input or
the host names, and as the path of a write. -/
structure Number.CountsAs (n : Number) (text : String) : Prop where
  concat : ∀ (before after : List Expr) {ctx depth e s t}, depth ≤ maxDepth →
    evalTexts ctx (depth + 1) before = .ok s → e.eval ctx (depth + 1) = .ok (some (.number n)) →
    evalTexts ctx (depth + 1) after = .ok t →
    (operator "concat" (before ++ e :: after)).eval ctx depth =
      .ok (some (.string (s ++ (text ++ t))))
  len : ∀ {ctx depth e es}, depth ≤ maxDepth →
    e.eval ctx (depth + 1) = .ok (some (.number n)) →
    (operator "len" (e :: es)).eval ctx depth =
      .ok (some (.number (.ofNat text.length)))
  named : ∀ {node input}, Value.field? input "nodeId" = some (.number n) →
    Effect.nodeId? node input = some text
  own : ∀ {node input}, Effect.textField input "nodeId" = "" →
    DotPath.get? node "id" = some (.number n) → Effect.nodeId? node input = some text
  path : ∀ {node input}, Value.field? input "path" = some (.number n) →
    Effect.setUiState.deed node input = .write text (Effect.payload input)

theorem Number.countsAs_display (n : Number) : n.CountsAs n.display where
  concat before after _ _ _ _ _ hdepth hbefore he hafter := by
    rw [Gathering.evalTexts_eq_gather] at hbefore hafter
    rw [Gathering.describes_concat _ _ _ hdepth, Gathering.gather_append, hbefore,
      Gathering.gather, he]
    simp only [Except.bind, hafter]
    rfl
  len hdepth he := by
    have hop : Operator.ofName? "len" = some (.unary .len) := rfl
    rw [eval, if_neg (Nat.not_lt.mpr hdepth)]
    simp only [hop]
    rw [evalArg, he]
    rfl
  named h := by
    rw [Effect.nodeId?, Effect.textField, h]
    exact if_pos n.display_ne_empty
  own hunnamed hid := by
    rw [Effect.nodeId?, hunnamed, hid]
    exact if_pos n.display_ne_empty
  path h := by
    rw [Effect.deed, Effect.textField, h]
    exact if_neg n.display_ne_empty

/-- A number that denotes an integer shows its digits, and counts as the integer of the other kind,
exactly if it is an integer or a double below `10 ^ 15`. -/
theorem Number.text_of_integral_iff {n : Number} {k : Int} (h : n.Denotes k) :
    (n.display = k.repr ↔ n.ShowsDigits k) ∧
    (n.ShowsDigits k → n.CountsAs k.repr) ∧
    ∀ fits : FitsWord k, n.display = (integer k fits).display ↔ n.ShowsDigits k := by
  have hiff := display_eq_repr_iff h
  refine ⟨hiff, fun hshows => ?_, fun fits => hiff⟩
  rw [← hiff.mpr hshows]
  exact n.countsAs_display

/-- The greatest double below the bound that denotes an integer, with a sign. -/
theorem Number.text_of_integral_iff_below :
    let k : Int := -999999999999999
    let n : Number := .double ⟨true, 7999999999999992, 1071, by decide, by decide, by decide⟩
    n.Denotes k ∧ n.ShowsDigits k ∧ n.display = "-999999999999999" ∧
      (operator "concat" [.text "#", .number n]).eval Binding.bareContext 0 =
        .ok (some (.string "#-999999999999999")) ∧
      Effect.nodeId? (.object [("id", .number n)]) none = some "-999999999999999" := by
  intro k n
  have hn : n.Denotes k := by
    show _ = _
    decide +kernel
  have hshows : n.ShowsDigits k := .inr (by decide)
  obtain ⟨hdisplay, hcounts, -⟩ := text_of_integral_iff hn
  refine ⟨hn, hshows, hdisplay.mpr hshows, ?_, ?_⟩
  · exact (hcounts hshows).concat [.text "#"] [] (Nat.zero_le _) rfl rfl rfl
  · exact (hcounts hshows).own rfl rfl

/-- From `10 ^ 15` on the text of a double has a fraction, or an exponent. -/
theorem Number.text_of_integral_double :
    let k : Int := 1000000000000000
    let n : Number := .double ⟨false, 8000000000000000, 1071, by decide, by decide, by decide⟩
    n.Denotes k ∧ n.display = "1000000000000000.0" ∧ n.display ≠ k.repr ∧
      ∃ fits : FitsWord k, Value.same (some (.number n)) (some (.number (.integer k fits))) = true ∧
        (integer k fits).display = k.repr := by
  intro k n
  have hn : n.Denotes k := by
    show _ = _
    decide +kernel
  have hdisplay : n.display = "1000000000000000.0" := by decide +kernel
  refine ⟨hn, hdisplay, ?_, by decide, by decide +kernel, rfl⟩
  rw [hdisplay]
  decide

end WidgetDoc
