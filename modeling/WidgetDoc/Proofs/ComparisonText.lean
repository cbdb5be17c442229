import Mathlib.Data.List.Basic
import WidgetDoc.Proofs.Literals

/-!
# Printing comparisons

A comparison is printed as a path, a comparator and what it is compared to, with blanks around
them. Strings are printed between quotes as they are, so a string may hold quotes and braces, and
may start and end with blanks. Reading the text gives back the three parts.
-/

namespace WidgetDoc

namespace Text

theorem blankSpans_apart_digits :
    ∀ s ∈ blankSpans, ∀ t ∈ [((0x30, 0x39) : Span)], s.2 < t.1 ∨ t.2 < s.1 := by
  decide +kernel

theorem isBlank_eq_false_of_isDigit {c : Char} (h : c.isDigit = true) : isBlank c = false := by
  rw [Bool.eq_false_iff]
  intro hblank
  have hapart := inSpans_eq_false_of_apart blankSpans_apart_digits hblank
  obtain ⟨hlow, hhigh⟩ := Char.isDigit_iff_toNat.mp h
  rw [Bool.eq_false_iff, ne_eq, inSpans_iff] at hapart
  exact hapart ⟨_, List.mem_singleton_self _, hlow, hhigh⟩

/-- A text that neither starts nor ends with a blank is what trimming leaves. -/
theorem trim_of_blanks {before text after : List Char}
    (hbefore : ∀ c ∈ before, isBlank c = true) (hafter : ∀ c ∈ after, isBlank c = true)
    (hne : text ≠ []) (hfirst : ∀ c ∈ text.head?, isBlank c = false)
    (hlast : ∀ c ∈ text.getLast?, isBlank c = false) :
    trim (before ++ (text ++ after)) = text := by
  have hleft : trimLeft (before ++ (text ++ after)) = text ++ after := by
    refine trimLeft_of_span (span_eq_iff.mpr ⟨rfl, hbefore, ?_⟩)
    rwa [List.head?_append_of_ne_nil _ hne]
  have hright : trimLeft (text ++ after).reverse = text.reverse := by
    refine trimLeft_of_span (span_eq_iff.mpr ⟨List.reverse_append, ?_, ?_⟩)
    · simpa using hafter
    · rwa [List.head?_reverse]
  rw [trim, hleft, trimRight, hright, List.reverse_reverse]

end Text

/-! ## Naturals in decimal -/

namespace Decimal

theorem isDigit_zeros_repr (zeros n : Nat) :
    ∀ c ∈ List.replicate zeros '0' ++ n.repr.toList, c.isDigit = true := by
  intro c hc
  rcases List.mem_append.mp hc with hzero | hdigit
  · rw [List.eq_of_mem_replicate hzero]
    rfl
  · rw [Nat.repr_eq_ofList_toDigits, String.toList_ofList] at hdigit
    exact Nat.isDigit_of_mem_toDigits (b := 10) (by decide) (by decide) hdigit

theorem ofDigits_zeros_repr (zeros n : Nat) :
    ofDigits (List.replicate zeros '0' ++ n.repr.toList) = n := by
  rw [ofDigits_eq, Nat.ofDigitChars_append, Nat.ofDigitChars_replicate_zero, Nat.mul_zero,
    Nat.repr_eq_ofList_toDigits, String.toList_ofList, Nat.ofDigitChars_ten_toDigits]

end Decimal

namespace Binding

/-! ## Comparands -/

/-- What a comparison may compare to, as it is printed: a string without line ends, in either of
the quotes, an integer of 64 bits with its sign and any number of zeros before it, a truth value or
null. -/
inductive Comparand where
  | string (quote : Quote) (s : String) (one_line : '\n' ∉ s.toList)
  | integer (negative : Bool) (zeros magnitude : Nat)
      (fits : FitsSigned (if negative then -(magnitude : Int) else magnitude))
  | bool (b : Bool)
  | null

namespace Comparand

def text : Comparand → List Char
  | string quote s _ => quote.char :: (s.toList ++ [quote.char])
  | integer negative zeros magnitude _ =>
    (if negative then ['-'] else []) ++ (List.replicate zeros '0' ++ magnitude.repr.toList)
  | bool true => ['t', 'r', 'u', 'e']
  | bool false => ['f', 'a', 'l', 's', 'e']
  | null => ['n', 'u', 'l', 'l']

/-- The value that is printed. -/
def json : Comparand → Json
  | string _ s _ => .string s
  | integer _ _ _ fits => .number (.integer _ fits.fitsWord)
  | bool b => .bool b
  | null => .null

def wholeNumeral (negative : Bool) (zeros magnitude : Nat) : Numeral :=
  .ofWhole negative (List.replicate zeros '0' ++ magnitude.repr.toList)
    (List.append_ne_nil_of_right_ne_nil _ (String.toList_eq_nil_iff.not.mpr Nat.repr_ne_empty))
    (Decimal.isDigit_zeros_repr zeros magnitude)

def literal : Comparand → Literal
  | string quote s _ => .quoted quote s.toList
  | integer negative zeros magnitude _ => .numeral (wholeNumeral negative zeros magnitude)
  | bool b => .bool b
  | null => .null

theorem text_literal (v : Comparand) : v.literal.text = v.text := by
  cases v with
  | string quote s one_line => rfl
  | integer negative zeros magnitude fits => exact Numeral.text_ofWhole
  | bool b => cases b <;> rfl
  | null => rfl

theorem number?_wholeNumeral {negative : Bool} {zeros magnitude : Nat}
    (h : FitsSigned (if negative then -(magnitude : Int) else magnitude)) :
    (wholeNumeral negative zeros magnitude).number? = some (.integer _ h.fitsWord) := by
  have hinteger : (wholeNumeral negative zeros magnitude).integer =
      if negative then -(magnitude : Int) else magnitude := by
    rw [Numeral.integer, wholeNumeral, Numeral.ofWhole, Decimal.ofDigits_zeros_repr]
  have hwhole : (wholeNumeral negative zeros magnitude).fraction = [] := rfl
  rw [Numeral.number?, if_pos hwhole, hinteger, signedInteger?, dif_pos h, Option.some_or]

theorem value_literal (v : Comparand) : v.literal.value = some v.json := by
  cases v with
  | string quote s one_line => rw [literal, Literal.value, String.ofList_toList, json]
  | integer negative zeros magnitude fits =>
      rw [literal, Literal.value, number?_wholeNumeral fits]
      rfl
  | bool b => rfl
  | null => rfl

theorem literalOf_text (v : Comparand) : literalOf v.text = some v.json := by
  rw [← v.text_literal, Binding.literalOf_text, v.value_literal]

/-! ## The ends of a printed comparand -/

theorem isBlank_integer {negative : Bool} {zeros magnitude : Nat}
    {fits : FitsSigned (if negative then -(magnitude : Int) else magnitude)} :
    ∀ c ∈ (integer negative zeros magnitude fits).text, Text.isBlank c = false := by
  have hminus : Text.isBlank '-' = false := by decide
  intro c hc
  rcases List.mem_append.mp hc with hsign | hdigit
  · cases negative <;> simp_all
  · exact Text.isBlank_eq_false_of_isDigit
      ((wholeNumeral negative zeros magnitude).isDigit_whole c hdigit)

/-- Blanks around a printed comparand are not taken for a part of it. -/
theorem isBlank_ends (v : Comparand) : v.text ≠ [] ∧
    (∀ c ∈ v.text.head?, Text.isBlank c = false) ∧
    ∀ c ∈ v.text.getLast?, Text.isBlank c = false := by
  cases v with
  | string quote s one_line =>
      have hquote : Text.isBlank quote.char = false := by cases quote <;> decide
      have hlast : (quote.char :: (s.toList ++ [quote.char])).getLast? = some quote.char := by
        rw [← List.cons_append, List.getLast?_concat]
      rw [text, hlast]
      exact ⟨List.cons_ne_nil _ _, by simpa using hquote, by simpa using hquote⟩
  | integer negative zeros magnitude fits =>
      have hne : (integer negative zeros magnitude fits).text ≠ [] :=
        List.append_ne_nil_of_right_ne_nil _ (wholeNumeral negative zeros magnitude).whole_ne_nil
      exact ⟨hne, fun c hc => isBlank_integer c (List.mem_of_mem_head? hc),
        fun c hc => isBlank_integer c (List.mem_of_mem_getLast? hc)⟩
  | bool b => cases b <;> simp [text] <;> decide
  | null => simp [text]; decide

theorem one_line_text (v : Comparand) : '\n' ∉ v.text := by
  cases v with
  | string quote s one_line => cases quote <;> simp [text, Quote.char, one_line]
  | integer negative zeros magnitude fits =>
      -- A line end is a blank, and no blank is in the text of an integer.
      intro hline
      have hblank : Text.isBlank '\n' = true := by decide
      rw [isBlank_integer _ hline] at hblank
      cases hblank
  | bool b => cases b <;> decide
  | null => decide

end Comparand

/-! ## Printed comparisons -/

/-- A comparison as it is printed, with its blanks. -/
structure PrintedComparison where
  before : List Char
  path : PathSpelling
  after : List Char
  comparator : Comparator
  lead : List Char
  comparand : Comparand
  trail : List Char
  isBlank_before : ∀ c ∈ before, Text.isBlank c = true
  isBlank_after : ∀ c ∈ after, Text.isBlank c = true
  isBlank_lead : ∀ c ∈ lead, Text.isBlank c = true
  isBlank_trail : ∀ c ∈ trail, Text.isBlank c = true

namespace PrintedComparison

variable (p : PrintedComparison)

def text : String :=
  "$\x7b" ++ String.ofList (p.before ++ p.path.text ++ p.after ++ p.comparator.text ++ p.lead ++
    p.comparand.text ++ p.trail) ++ "\x7d"

theorem trim_printed : Text.trim (p.lead ++ (p.comparand.text ++ p.trail)) = p.comparand.text := by
  obtain ⟨hne, hfirst, hlast⟩ := p.comparand.isBlank_ends
  exact Text.trim_of_blanks p.isBlank_lead p.isBlank_trail hne hfirst hlast

def spelling : Spelling where
  before := p.before
  path := p.path
  after := p.after
  parts := some (p.comparator, p.lead ++ (p.comparand.text ++ p.trail))
  isBlank_before := p.isBlank_before
  isBlank_after := p.isBlank_after
  one_line := by
    rintro part ⟨rfl⟩
    rw [p.trim_printed]
    exact p.comparand.one_line_text

theorem text_spelling : p.spelling.text = p.text := by
  rw [← String.toList_inj]
  simp [text, Spelling.text, Spelling.inner, spelling, comparedText]

end PrintedComparison

/-- Reading a printed comparison gives back its path, its comparator and the value of what it
compares to. -/
theorem ofString?_printed (p : PrintedComparison) :
    ofString? p.text = some ⟨p.text, p.path.path, some ⟨p.comparator, some p.comparand.json⟩⟩ := by
  have hliteral : literalOf (Text.trim (p.lead ++ (p.comparand.text ++ p.trail))) =
      some p.comparand.json := by
    rw [p.trim_printed, p.comparand.literalOf_text]
  calc ofString? p.text = some p.spelling.binding := by rw [← p.text_spelling, ofString?_text]
    _ = some ⟨p.text, p.path.path, some ⟨p.comparator, some p.comparand.json⟩⟩ := by
      rw [← hliteral, ← p.text_spelling]
      rfl

end Binding

end WidgetDoc
