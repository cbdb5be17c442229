import WidgetDoc.Proofs.BindingGrammar
import WidgetDoc.Proofs.DoubleRange

/-!
# The literals of comparisons

A literal is a text between equal quotes, one of three words, or a decimal number. Every text of
one of these forms has a value, but for the numbers that are too great for a double, and no other
text has one. A comparison whose literal has a value is never equal to something undefined.
-/

namespace WidgetDoc

theorem Decimal.ofDigits_eq (digits : List Char) :
    ofDigits digits = Nat.ofDigitChars 10 digits 0 :=
  Nat.ofDigitChars_eq_foldl.symm

theorem Decimal.ofDigits_one_zeros (k : Nat) :
    ofDigits ('1' :: List.replicate k '0') = 10 ^ k := by
  have hone : 10 * 0 + ('1'.toNat - '0'.toNat) = 1 := by decide
  rw [ofDigits_eq, Nat.ofDigitChars_cons, Nat.ofDigitChars_replicate_zero, hone, Nat.mul_one]

namespace Binding

/-! ## Decimal numbers -/

/-- A decimal number, as its digits are written. Without digits after the point there is no
point. -/
structure Numeral where
  negative : Bool
  whole : List Char
  fraction : List Char
  whole_ne_nil : whole ≠ []
  isDigit_whole : ∀ c ∈ whole, c.isDigit = true
  isDigit_fraction : ∀ c ∈ fraction, c.isDigit = true

namespace Numeral

def ofWhole (negative : Bool) (whole : List Char) (hne : whole ≠ [])
    (hdigits : ∀ c ∈ whole, c.isDigit = true) : Numeral where
  negative := negative
  whole := whole
  fraction := []
  whole_ne_nil := hne
  isDigit_whole := hdigits
  isDigit_fraction := nofun

/-- The text of a number after its sign. -/
def unsignedText (n : Numeral) : List Char :=
  n.whole ++ (if n.fraction = [] then [] else '.' :: n.fraction)

def text (n : Numeral) : List Char :=
  if n.negative then '-' :: n.unsignedText else n.unsignedText

def decimal (n : Numeral) : Decimal :=
  ⟨n.negative, Decimal.ofDigits (n.whole ++ n.fraction), -n.fraction.length⟩

/-- The integer before the point. -/
def integer (n : Numeral) : Int :=
  if n.negative then -(Decimal.ofDigits n.whole : Int) else Decimal.ofDigits n.whole

/-- The number that is read: an integer of 64 bits if there is no point, or else a double. -/
def number? (n : Numeral) : Option Number :=
  let nearest := n.decimal.toDouble?.map Number.double
  if n.fraction = [] then (signedInteger? n.integer).or nearest else nearest

theorem text_ofWhole {negative : Bool} {whole : List Char} {hne : whole ≠ []}
    {hdigits : ∀ c ∈ whole, c.isDigit = true} :
    (ofWhole negative whole hne hdigits).text = (if negative then ['-'] else []) ++ whole := by
  cases negative <;> simp [ofWhole, text, unsignedText]

variable (n : Numeral)

theorem exists_unsignedText_cons : ∃ d rest, n.unsignedText = d :: rest ∧ d.isDigit = true := by
  obtain ⟨d, rest, hwhole⟩ := List.exists_cons_of_ne_nil n.whole_ne_nil
  exact ⟨d, _, by rw [unsignedText, hwhole, List.cons_append],
    n.isDigit_whole d (by rw [hwhole]; exact List.mem_cons_self)⟩

theorem exists_text_cons : ∃ c rest, n.text = c :: rest ∧ (c = '-' ∨ c.isDigit = true) := by
  rw [text]
  split
  · exact ⟨'-', _, rfl, .inl rfl⟩
  · obtain ⟨d, rest, hcons, hdigit⟩ := n.exists_unsignedText_cons
    exact ⟨d, rest, hcons, .inr hdigit⟩

theorem spanDigits_unsignedText : Decimal.spanDigits n.unsignedText =
    (n.whole, if n.fraction = [] then [] else '.' :: n.fraction) := by
  refine Text.span_eq_iff.mpr ⟨rfl, n.isDigit_whole, ?_⟩
  split
  · nofun
  · simp

variable {n} in
theorem magnitude_of_integer (h : n.fraction = []) :
    n.decimal.magnitude = Decimal.ofDigits n.whole := by
  simp [decimal, Decimal.magnitude, h]

variable {n} in
/-- An integer of 64 bits is in the range of the doubles. -/
theorem magnitude_lt_of_fits (hfraction : n.fraction = []) (h : FitsSigned n.integer) :
    n.decimal.magnitude < Double.limit := by
  have hword : Decimal.ofDigits n.whole < 2 ^ 64 := by
    obtain ⟨hlow, hhigh⟩ := h
    rw [integer] at hlow hhigh
    split at hlow <;> simp_all <;> omega
  rw [magnitude_of_integer hfraction]
  exact lt_trans (by exact_mod_cast hword) Double.two_pow_lt_limit

/-- A number is read exactly if it is in the range of the doubles. -/
theorem isSome_number?_iff :
    n.number?.isSome = true ↔ n.decimal.magnitude < Double.limit := by
  rw [number?]
  split_ifs with hfraction
  · rw [Option.isSome_or, Bool.or_eq_true, Option.isSome_map, Decimal.isSome_toDouble?_iff]
    refine or_iff_right_of_imp fun h => magnitude_lt_of_fits hfraction ?_
    by_contra hfits
    simp [signedInteger?, hfits] at h
  · rw [Option.isSome_map, Decimal.isSome_toDouble?_iff]

end Numeral

theorem number?_text (n : Numeral) : number? n.text = n.number? := by
  have hspan := n.spanDigits_unsignedText
  have hplain : ∀ rest, n.unsignedText = '-' :: rest → False := by
    obtain ⟨d, _, hcons, hdigit⟩ := n.exists_unsignedText_cons
    intro rest h
    obtain ⟨rfl, -⟩ := List.cons.inj (hcons.symm.trans h)
    cases hdigit
  have hfraction : n.fraction.all Char.isDigit = true := List.all_eq_true.mpr n.isDigit_fraction
  rw [Numeral.text, Numeral.number?, Numeral.decimal, Numeral.integer]
  cases n.negative with
  | true =>
      rw [if_pos rfl, number?, hspan]
      by_cases hempty : n.fraction = [] <;> simp [hempty, n.whole_ne_nil, hfraction]
  | false =>
      rw [if_neg Bool.false_ne_true, number?.eq_2 _ hplain, hspan]
      by_cases hempty : n.fraction = [] <;> simp [hempty, n.whole_ne_nil, hfraction]

/-- Whatever is read after the sign, as an integer or with a point, its digits are those of a
number. -/
theorem exists_numeral (negative : Bool) {digits whole rest : List Char} {integer : Option Number}
    {pointed : List Char → Option Number} {m : Number}
    (hspan : Decimal.spanDigits digits = (whole, rest))
    (h : (if whole = [] then none
      else match rest with
        | [] => integer
        | c :: fraction =>
          if c = '.' ∧ fraction ≠ [] ∧ fraction.all Char.isDigit then pointed fraction
          else none) = some m) :
    ∃ n : Numeral, n.negative = negative ∧ n.unsignedText = digits := by
  obtain ⟨rfl, hdigits, -⟩ := Text.span_eq_iff.mp hspan
  obtain ⟨hwhole, h⟩ := Option.ite_none_left_eq_some.mp h
  cases rest with
  | nil => exact ⟨.ofWhole negative whole hwhole hdigits, rfl, rfl⟩
  | cons c fraction =>
      obtain ⟨⟨rfl, hne, hfraction⟩, -⟩ := Option.ite_none_right_eq_some.mp h
      refine ⟨⟨negative, whole, fraction, hwhole, hdigits, List.all_eq_true.mp hfraction⟩, rfl, ?_⟩
      rw [Numeral.unsignedText, if_neg hne]

theorem exists_of_number? {text : List Char} {m : Number} (h : number? text = some m) :
    ∃ n : Numeral, n.text = text := by
  by_cases hminus : ∃ rest, text = '-' :: rest
  · obtain ⟨digits, rfl⟩ := hminus
    obtain ⟨whole, rest, hspan⟩ : ∃ xs ys, Decimal.spanDigits digits = (xs, ys) := ⟨_, _, rfl⟩
    rw [number?, hspan] at h
    obtain ⟨n, hnegative, rfl⟩ := exists_numeral true hspan h
    exact ⟨n, by rw [Numeral.text, hnegative, if_pos rfl]⟩
  · obtain ⟨whole, rest, hspan⟩ : ∃ xs ys, Decimal.spanDigits text = (xs, ys) := ⟨_, _, rfl⟩
    rw [number?.eq_2 text fun rest hrest => hminus ⟨rest, hrest⟩, hspan] at h
    obtain ⟨n, hnegative, rfl⟩ := exists_numeral false hspan h
    exact ⟨n, by rw [Numeral.text, hnegative, if_neg Bool.false_ne_true]⟩

/-! ## Literals -/

inductive Quote where
  | single
  | double

def Quote.char : Quote → Char
  | single => '\''
  | double => '"'

inductive Literal where
  | quoted (quote : Quote) (inner : List Char)
  | bool (b : Bool)
  | null
  | numeral (n : Numeral)

namespace Literal

def text : Literal → List Char
  | quoted quote inner => quote.char :: (inner ++ [quote.char])
  | bool true => ['t', 'r', 'u', 'e']
  | bool false => ['f', 'a', 'l', 's', 'e']
  | null => ['n', 'u', 'l', 'l']
  | numeral n => n.text

/-- The value that is read. -/
def value : Literal → Value
  | quoted _ inner => some (.string (String.ofList inner))
  | bool b => some (.bool b)
  | null => some .null
  | numeral n => n.number?.map Json.number

/-- Only a number may be out of range. -/
def InRange : Literal → Prop
  | numeral n => n.decimal.magnitude < Double.limit
  | _ => True

end Literal

theorem unquote?_eq_some_iff {quote : Char} {text inner : List Char} :
    unquote? quote text = some inner ↔ text = quote :: (inner ++ [quote]) := by
  cases text with
  | nil => simp [unquote?]
  | cons c rest =>
      simp only [unquote?, Option.ite_none_right_eq_some, List.getLast?_eq_some_iff, List.cons.injEq]
      constructor
      · rintro ⟨⟨rfl, ys, rfl⟩, h⟩
        simpa using h
      · rintro ⟨rfl, rfl⟩
        simp

theorem unquote?_of_head {quote c : Char} {rest : List Char} (h : c ≠ quote) :
    unquote? quote (c :: rest) = none := by
  simp [unquote?, h]

theorem literalOf_text (l : Literal) : literalOf l.text = l.value := by
  cases l with
  | quoted quote inner =>
      cases quote with
      | single =>
          have h : unquote? '\'' (Literal.text (.quoted .single inner)) = some inner :=
            unquote?_eq_some_iff.mpr rfl
          rw [literalOf, h]
          rfl
      | double =>
          have hsingle : unquote? '\'' (Literal.text (.quoted .double inner)) = none :=
            unquote?_of_head (by decide)
          have h : unquote? '"' (Literal.text (.quoted .double inner)) = some inner :=
            unquote?_eq_some_iff.mpr rfl
          rw [literalOf, hsingle, h]
          rfl
  | bool b => cases b <;> rfl
  | null => rfl
  | numeral n =>
      obtain ⟨c, rest, hcons, hc⟩ := n.exists_text_cons
      have hfirst : c ≠ '\'' ∧ c ≠ '"' ∧ c ≠ 't' ∧ c ≠ 'f' ∧ c ≠ 'n' := by
        refine ⟨?_, ?_, ?_, ?_, ?_⟩ <;>
          · rintro rfl
            revert hc
            decide
      rw [Literal.text, literalOf, number?_text, hcons, unquote?_of_head hfirst.1,
        unquote?_of_head hfirst.2.1]
      simp [hfirst, Literal.value]

theorem exists_of_literalOf {text : List Char} {j : Json} (h : literalOf text = some j) :
    ∃ l : Literal, l.text = text := by
  rw [literalOf] at h
  split at h
  next inner hinner =>
    rw [Option.or_eq_some_iff] at hinner
    rcases hinner with hinner | ⟨-, hinner⟩
    · exact ⟨.quoted .single inner, (unquote?_eq_some_iff.mp hinner).symm⟩
    · exact ⟨.quoted .double inner, (unquote?_eq_some_iff.mp hinner).symm⟩
  next =>
    split_ifs at h with htrue hfalse hnull
    · exact ⟨.bool true, htrue.symm⟩
    · exact ⟨.bool false, hfalse.symm⟩
    · exact ⟨.null, hnull.symm⟩
    · obtain ⟨m, hm, -⟩ := Option.map_eq_some_iff.mp h
      obtain ⟨n, hn⟩ := exists_of_number? hm
      exact ⟨.numeral n, hn⟩

theorem Literal.isSome_value_iff (l : Literal) : l.value.isSome = true ↔ l.InRange := by
  cases l with
  | numeral n => rw [value, Option.isSome_map, n.isSome_number?_iff, InRange]
  | quoted quote inner => exact iff_of_true rfl trivial
  | bool b => exact iff_of_true rfl trivial
  | null => exact iff_of_true rfl trivial

/-- A text that has a value as a literal. -/
def Accepted (text : List Char) : Prop :=
  ∃ l : Literal, l.text = text ∧ l.InRange

theorem isSome_literalOf_iff {text : List Char} :
    (literalOf text).isSome = true ↔ Accepted text := by
  constructor
  · intro h
    obtain ⟨j, hj⟩ := Option.isSome_iff_exists.mp h
    obtain ⟨l, rfl⟩ := exists_of_literalOf hj
    rw [literalOf_text, l.isSome_value_iff] at h
    exact ⟨l, rfl, h⟩
  · rintro ⟨l, rfl, hrange⟩
    rw [literalOf_text, l.isSome_value_iff]
    exact hrange

/-! ## Comparisons with something undefined -/

theorem resolve_of_undefined {b : Binding} {c : Comparison} (hc : b.comparison = some c)
    {ctx : Context} (h : ctx.resolve b.path = none) :
    b.resolve ctx = some (.bool (c.comparator == .equal)) ↔ c.literal.isSome = false := by
  obtain ⟨comparator, literal⟩ := c
  rw [resolve, hc, h]
  cases comparator <;> cases literal <;> simp [Value.same]

/-- The literal of a comparison has a value exactly if what is left of its text without the blanks
around it has one of the accepted forms and is no number beyond the doubles. Exactly the other
comparisons hold of something undefined when they ask for equality, and fail of it when they do
not. -/
theorem comparison_defined_iff {raw : String} {b : Binding} {c : Comparison}
    (h : ofString? raw = some b) (hc : b.comparison = some c) :
    ∃ (s : Spelling) (rest : List Char), s.text = raw ∧ s.parts = some (c.comparator, rest) ∧
      (c.literal.isSome = true ↔ Accepted (Text.trim rest)) ∧
      ∀ ctx : Context, ctx.resolve b.path = none →
        (b.resolve ctx = some (.bool (c.comparator == .equal)) ↔ ¬ Accepted (Text.trim rest)) := by
  obtain ⟨s, rfl, rfl⟩ := exists_of_ofString? h
  obtain ⟨⟨comparator, rest⟩, hparts, rfl⟩ := Option.map_eq_some_iff.mp hc
  refine ⟨s, rest, rfl, hparts, isSome_literalOf_iff, fun ctx hundefined => ?_⟩
  rw [resolve_of_undefined hc hundefined, ← isSome_literalOf_iff, Bool.not_eq_true]

/-- The context in which nothing below a namespace is defined. -/
def bareContext : Context :=
  ⟨.empty, .empty, .empty, .empty, none⟩

theorem isBlank_of_mem_nil : ∀ c ∈ [], Text.isBlank c = true :=
  nofun

/-- The spelling of `${node.x ==` with a rest of its own. -/
def nodeSpelling (rest : List Char) (h : '\n' ∉ Text.trim rest) : Spelling where
  before := []
  path :=
    { start := 'n'
      stem := ['o', 'd', 'e']
      more := [['x']]
      isPathStart_start := rfl
      isPathChar_stem := List.all_eq_true.mp (by decide +kernel)
      isPathChar_more := List.forall_mem_singleton.mpr
        ⟨List.cons_ne_nil _ _, List.all_eq_true.mp (by decide +kernel)⟩ }
  after := [' ']
  parts := some (.equal, rest)
  isBlank_before := isBlank_of_mem_nil
  isBlank_after := List.all_eq_true.mp (by decide)
  one_line := by simpa using h

theorem comparison_defined_iff_quoted :
    let b := (nodeSpelling " 'it's' ".toList (by decide)).binding
    ofString? b.raw = some b ∧ b.comparison = some ⟨.equal, some (.string "it's")⟩ ∧
      bareContext.resolve b.path = none ∧ b.resolve bareContext ≠ some (.bool true) := by
  intro b
  have hb : ofString? b.raw = some b := ofString?_text _
  have hc : b.comparison = some ⟨.equal, some (.string "it's")⟩ := rfl
  obtain ⟨_, _, -, -, hdefined, hundefined⟩ := comparison_defined_iff hb hc
  exact ⟨hb, hc, rfl, fun htrue => (hundefined bareContext rfl).mp htrue (hdefined.mp rfl)⟩

/-- The number of a one and 309 zeros. -/
def greatNumeral : Numeral :=
  .ofWhole false ('1' :: List.replicate 309 '0') (List.cons_ne_nil _ _)
    (List.all_eq_true.mp (by decide +kernel))

/-- A number that is too great for a double equals something undefined. -/
theorem equal_of_undefined_great :
    let rest := ' ' :: greatNumeral.text
    Text.trim rest = (Literal.numeral greatNumeral).text ∧
      ∃ s : Spelling, s.parts = some (.equal, rest) ∧
        ofString? s.text = some ⟨s.text, ["node", "x"], some ⟨.equal, none⟩⟩ ∧
        s.binding.resolve bareContext = some (.bool true) := by
  intro rest
  have htrim : Text.trim rest = (Literal.numeral greatNumeral).text := by decide +kernel
  have hdigits : Decimal.ofDigits greatNumeral.whole = 10 ^ 309 := Decimal.ofDigits_one_zeros 309
  have hliteral : literalOf (Text.trim rest) = none := by
    rw [htrim, literalOf_text, ← Option.not_isSome_iff_eq_none, Literal.isSome_value_iff,
      Literal.InRange, Numeral.magnitude_of_integer rfl, hdigits, not_lt, Nat.cast_pow,
      Nat.cast_ofNat]
    exact Double.limit_le
  have hline : '\n' ∉ Text.trim rest := by decide +kernel
  let b := (nodeSpelling rest hline).binding
  have hcomparison : b.comparison = some ⟨.equal, none⟩ := by
    rw [← hliteral]
    rfl
  refine ⟨htrim, nodeSpelling rest hline, rfl, ?_, (resolve_of_undefined hcomparison rfl).mpr rfl⟩
  calc ofString? b.raw = some ⟨b.raw, b.path, b.comparison⟩ := ofString?_text _
    _ = some ⟨b.raw, ["node", "x"], some ⟨.equal, none⟩⟩ := by rw [hcomparison]; rfl

end Binding

end WidgetDoc
