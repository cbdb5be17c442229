import Mathlib.Data.List.TakeDrop
import Mathlib.Data.List.TakeWhile
import WidgetDoc.Binding

/-!
# The grammar of bindings

A binding is spelled `${path}`, `${path == literal}` or `${path != literal}`, with blanks around the
parts. Reading accepts these spellings and no other text. Since a blank, a character of a path and
the first character of a comparison are never the same, no text has two spellings.
-/

namespace WidgetDoc

namespace Text

/-! ## Characters -/

theorem inSpans_eq_false_of_apart {xs ys : List Span}
    (h : ∀ s ∈ xs, ∀ t ∈ ys, s.2 < t.1 ∨ t.2 < s.1) {c : Char} (hc : inSpans xs c = true) :
    inSpans ys c = false := by
  rw [Bool.eq_false_iff, ne_eq, inSpans_iff]
  rintro ⟨t, ht, hlow, hhigh⟩
  obtain ⟨s, hs, hlow', hhigh'⟩ := inSpans_iff.mp hc
  rcases h s hs t ht with hlt | hlt <;> omega

theorem blankSpans_apart_wordSpans :
    ∀ s ∈ blankSpans, ∀ t ∈ wordSpans, s.2 < t.1 ∨ t.2 < s.1 := by
  decide +kernel

theorem isWord_eq_false_of_isBlank {c : Char} (h : isBlank c = true) : isWord c = false :=
  inSpans_eq_false_of_apart blankSpans_apart_wordSpans h

theorem isWord_of_isAlpha {c : Char} (h : c.isAlpha = true) : isWord c = true := by
  have hspans : (0x41, 0x5A) ∈ wordSpans ∧ (0x61, 0x7A) ∈ wordSpans := by decide +kernel
  rw [isWord, inSpans_iff]
  rcases (Bool.or_eq_true c.isUpper c.isLower).mp h with hc | hc
  · obtain ⟨hlow, hhigh⟩ := of_decide_eq_true hc
    exact ⟨_, hspans.1, hlow, hhigh⟩
  · obtain ⟨hlow, hhigh⟩ := (Bool.and_eq_true _ _).mp hc
    exact ⟨_, hspans.2, of_decide_eq_true hlow, of_decide_eq_true hhigh⟩

/-! ## Runs of characters -/

theorem span_eq_iff {p : Char → Bool} {text xs ys : List Char} :
    text.span p = (xs, ys) ↔
      text = xs ++ ys ∧ (∀ c ∈ xs, p c = true) ∧ ∀ c ∈ ys.head?, p c = false := by
  rw [List.span_eq_takeWhile_dropWhile, Prod.mk.injEq]
  constructor
  · rintro ⟨rfl, rfl⟩
    refine ⟨List.takeWhile_append_dropWhile.symm, fun c => List.mem_takeWhile_imp, ?_⟩
    intro c hc
    have hhead := List.head?_dropWhile_not p text
    rw [Option.mem_def.mp hc] at hhead
    exact hhead
  · rintro ⟨rfl, hxs, hys⟩
    rw [List.takeWhile_append_of_pos hxs, List.dropWhile_append_of_pos hxs]
    cases ys with
    | nil => simp
    | cons c ys => simp [hys c rfl]

theorem trimLeft_of_span {text xs ys : List Char} (h : text.span isBlank = (xs, ys)) :
    trimLeft text = ys := by
  rw [List.span_eq_takeWhile_dropWhile] at h
  exact congrArg Prod.snd h

/-! ## Pieces -/

theorem pieces_eq_splitOn (separator : Char) (text : List Char) :
    pieces separator text = text.splitOn separator := by
  induction text with
  | nil => rfl
  | cons c rest ih =>
      rw [List.splitOn, List.splitOnP_cons_eq_if_modifyHead, pieces, ← List.splitOn, ← ih]
      by_cases h : c = separator
      · simp [h]
      · cases hrest : pieces separator rest with
        | nil => exact absurd hrest (pieces_ne_nil separator rest)
        | cons piece more => simp [h]

theorem pieces_intercalate {separator : Char} {texts : List (List Char)}
    (h : ∀ text ∈ texts, separator ∉ text) (hne : texts ≠ []) :
    pieces separator ([separator].intercalate texts) = texts := by
  rw [pieces_eq_splitOn]
  exact List.splitOn_intercalate separator h hne

/-- The pieces hold the characters of the text but the separators. -/
theorem forall_mem_pieces {P : Char → Prop} {separator : Char} {text : List Char}
    (h : ∀ c ∈ text, c ≠ separator → P c) :
    ∀ piece ∈ pieces separator text, ∀ c ∈ piece, P c := by
  induction text with
  | nil => simp [pieces]
  | cons d rest ih =>
      have hrest := ih fun c hc => h c (List.mem_cons_of_mem d hc)
      by_cases hd : d = separator
      · rw [pieces, if_pos hd]
        exact List.forall_mem_cons.mpr ⟨by simp, hrest⟩
      · rw [pieces, if_neg hd]
        cases hpieces : pieces separator rest with
        | nil => exact absurd hpieces (pieces_ne_nil separator rest)
        | cons piece more =>
            rw [hpieces] at hrest
            obtain ⟨hpiece, hmore⟩ := List.forall_mem_cons.mp hrest
            have hfirst := List.forall_mem_cons.mpr ⟨h d List.mem_cons_self hd, hpiece⟩
            exact List.forall_mem_cons.mpr ⟨hfirst, hmore⟩

theorem forall_mem_intercalate {P : Char → Prop} {separator : Char} (hseparator : P separator)
    {pieces : List (List Char)} (h : ∀ piece ∈ pieces, ∀ c ∈ piece, P c) :
    ∀ c ∈ [separator].intercalate pieces, P c := by
  induction pieces with
  | nil => simp
  | cons piece more ih =>
      obtain ⟨hpiece, hmore⟩ := List.forall_mem_cons.mp h
      cases more with
      | nil => simpa using hpiece
      | cons next more =>
          rw [List.intercalate_cons_cons]
          intro c hc
          rcases List.mem_append.mp hc with hc | hc
          · rcases List.mem_append.mp hc with hc | hc
            · exact hpiece c hc
            · exact List.mem_singleton.mp hc ▸ hseparator
          · exact ih hmore c hc

theorem head?_intercalate (separator c : Char) (piece : List Char) (more : List (List Char)) :
    ([separator].intercalate ((c :: piece) :: more)).head? = some c := by
  cases more with
  | nil => rw [List.intercalate_singleton, List.head?_cons]
  | cons next more =>
      rw [List.intercalate_cons_cons, List.cons_append, List.cons_append, List.head?_cons]

end Text

def Comparator.text : Comparator → List Char
  | equal => ['=', '=']
  | unequal => ['!', '=']

namespace Binding

/-! ## Paths -/

/-- The text of a path: segments with dots between them, of which the first starts with a letter,
an underscore or a dollar sign. -/
@[ext] structure PathSpelling where
  start : Char
  stem : List Char
  more : List (List Char)
  isPathStart_start : isPathStart start = true
  isPathChar_stem : ∀ c ∈ stem, isPathChar c = true
  isPathChar_more : ∀ segment ∈ more, segment ≠ [] ∧ ∀ c ∈ segment, isPathChar c = true

theorem isPathChar_of_isPathStart {c : Char} (h : isPathStart c = true) : isPathChar c = true := by
  have hscore : isPathChar '_' = true := by decide +kernel
  have hdollar : isPathChar '$' = true := by decide +kernel
  simp only [isPathStart, Bool.or_eq_true, beq_iff_eq] at h
  rcases h with (h | rfl) | rfl
  · rw [isPathChar, Text.isWord_of_isAlpha h, Bool.true_or]
  · exact hscore
  · exact hdollar

theorem isPathChar_dot : isPathChar '.' = false := by
  decide +kernel

/-- A character of a path, dots included. -/
def isDotted (c : Char) : Bool :=
  isPathChar c || c == '.'

theorem isDotted_eq_false_of_isBlank {c : Char} (h : Text.isBlank c = true) :
    isDotted c = false := by
  have hdollar : Text.isBlank '$' = false := by decide
  have hdot : Text.isBlank '.' = false := by decide
  have hne : c ≠ '$' ∧ c ≠ '.' := by
    constructor <;> rintro rfl <;> simp_all
  rw [isDotted, isPathChar, Text.isWord_eq_false_of_isBlank h]
  simp [hne.1, hne.2]

namespace PathSpelling

def segments (p : PathSpelling) : List (List Char) :=
  (p.start :: p.stem) :: p.more

def text (p : PathSpelling) : List Char :=
  ['.'].intercalate p.segments

/-- The path that is read. -/
def path (p : PathSpelling) : List String :=
  p.segments.map String.ofList

theorem isPathChar_segments (p : PathSpelling) :
    ∀ segment ∈ p.segments, segment ≠ [] ∧ ∀ c ∈ segment, isPathChar c = true := by
  refine List.forall_mem_cons.mpr ⟨⟨List.cons_ne_nil _ _, ?_⟩, p.isPathChar_more⟩
  exact List.forall_mem_cons.mpr
    ⟨isPathChar_of_isPathStart p.isPathStart_start, p.isPathChar_stem⟩

theorem pieces_text (p : PathSpelling) : Text.pieces '.' p.text = p.segments := by
  refine Text.pieces_intercalate (fun segment hsegment hdot => ?_) (List.cons_ne_nil _ _)
  have hchar := (p.isPathChar_segments segment hsegment).2 '.' hdot
  rw [isPathChar_dot] at hchar
  cases hchar

theorem text_injective : Function.Injective text := by
  intro p q h
  have hsegments : p.segments = q.segments := by
    rw [← p.pieces_text, h, q.pieces_text]
  obtain ⟨hfirst, hmore⟩ := List.cons.inj hsegments
  obtain ⟨hstart, hstem⟩ := List.cons.inj hfirst
  exact PathSpelling.ext hstart hstem hmore

theorem head?_text (p : PathSpelling) : p.text.head? = some p.start :=
  Text.head?_intercalate '.' p.start p.stem p.more

theorem isDotted_text (p : PathSpelling) : ∀ c ∈ p.text, isDotted c = true := by
  have hdot : isDotted '.' = true := by simp [isDotted]
  refine Text.forall_mem_intercalate hdot fun segment hsegment c hc => ?_
  rw [isDotted, (p.isPathChar_segments segment hsegment).2 c hc, Bool.true_or]

theorem pathOf?_text (p : PathSpelling) : pathOf? p.text = some p.path := by
  have hsegments : p.segments.all (· ≠ []) = true := by
    rw [List.all_eq_true]
    intro segment hsegment
    exact decide_eq_true (p.isPathChar_segments segment hsegment).1
  have hstart : p.text.head?.any isPathStart = true := by
    rw [p.head?_text]
    exact p.isPathStart_start
  rw [pathOf?, p.pieces_text]
  exact if_pos ⟨hsegments, hstart⟩

theorem exists_of_pathOf? {text : List Char} {path : List String} (h : pathOf? text = some path)
    (hdotted : ∀ c ∈ text, isDotted c = true) :
    ∃ p : PathSpelling, p.text = text ∧ p.path = path := by
  have hchars : ∀ segment ∈ Text.pieces '.' text, ∀ c ∈ segment, isPathChar c = true := by
    refine Text.forall_mem_pieces fun c hc hdot => ?_
    simpa [isDotted, hdot] using hdotted c hc
  simp only [pathOf?, Option.ite_none_right_eq_some, List.all_eq_true, decide_eq_true_eq] at h
  obtain ⟨⟨hne, hstart⟩, hpath⟩ := h
  have htext := Text.intercalate_pieces '.' text
  cases hpieces : Text.pieces '.' text with
  | nil => exact absurd hpieces (Text.pieces_ne_nil '.' text)
  | cons first more =>
      rw [hpieces] at hchars hne hpath htext
      obtain ⟨hfirst, hmore⟩ := List.forall_mem_cons.mp hchars
      obtain ⟨hfirstne, hmorene⟩ := List.forall_mem_cons.mp hne
      obtain ⟨start, stem, rfl⟩ := List.exists_cons_of_ne_nil hfirstne
      have hhead : text.head? = some start := by
        rw [← htext]
        exact Text.head?_intercalate '.' start stem more
      rw [hhead] at hstart
      have hstem := (List.forall_mem_cons.mp hfirst).2
      exact ⟨⟨start, stem, more, hstart, hstem, fun segment hsegment =>
        ⟨hmorene segment hsegment, hmore segment hsegment⟩⟩, htext, Option.some.inj hpath⟩

end PathSpelling

/-! ## Comparisons -/

/-- A comparator and all that follows it. -/
def comparedText : Option (Comparator × List Char) → List Char
  | some (comparator, rest) => comparator.text ++ rest
  | none => []

/-- The comparison that is read: the literal is what follows the comparator, without the blanks
around it. -/
def compared : Option (Comparator × List Char) → Option Comparison :=
  Option.map fun (comparator, rest) => ⟨comparator, literalOf (Text.trim rest)⟩

theorem comparedText_injective : Function.Injective comparedText := by
  rintro (_ | ⟨_ | _, rest⟩) (_ | ⟨_ | _, rest'⟩) h <;>
    simp_all [comparedText, Comparator.text]

theorem comparisonOf?_text {parts : Option (Comparator × List Char)}
    (h : ∀ part ∈ parts, '\n' ∉ Text.trim part.2) :
    comparisonOf? (comparedText parts) = some (compared parts) := by
  rcases parts with _ | ⟨comparator, rest⟩
  · rfl
  · have hline : '\n' ∉ Text.trim rest := h _ rfl
    cases comparator <;> simp [comparedText, Comparator.text, comparisonOf?, hline, compared]

theorem exists_of_comparisonOf? {text : List Char} {comparison : Option Comparison}
    (h : comparisonOf? text = some comparison) : ∃ parts, comparedText parts = text ∧
      (∀ part ∈ parts, '\n' ∉ Text.trim part.2) ∧ compared parts = comparison := by
  rcases text with _ | ⟨first, _ | ⟨second, rest⟩⟩
  · exact ⟨none, rfl, nofun, Option.some.inj h⟩
  · cases h
  · simp only [comparisonOf?, Option.ite_none_left_eq_some, not_or, not_not] at h
    obtain ⟨⟨rfl, hline⟩, h⟩ := h
    split at h
    · next hfirst =>
        exact ⟨some (.equal, rest), by rw [hfirst]; rfl, by simpa using hline,
          Option.some.inj h⟩
    · split at h
      · next hfirst =>
          exact ⟨some (.unequal, rest), by rw [hfirst]; rfl, by simpa using hline,
          Option.some.inj h⟩
      · cases h

/-- What a comparison starts with is neither blank nor part of a path. -/
theorem head?_comparedText {parts : Option (Comparator × List Char)} :
    ∀ c ∈ (comparedText parts).head?, Text.isBlank c = false ∧ isDotted c = false := by
  have hequal : Text.isBlank '=' = false ∧ isDotted '=' = false := by decide +kernel
  have hunequal : Text.isBlank '!' = false ∧ isDotted '!' = false := by decide +kernel
  rcases parts with _ | ⟨_ | _, rest⟩
  · nofun
  · simpa [comparedText, Comparator.text] using hequal
  · simpa [comparedText, Comparator.text] using hunequal

/-! ## Spellings -/

/-- The text of a binding, part by part. The literal of a comparison is all that follows the
comparator; only its trimmed text must not contain a line end. -/
@[ext] structure Spelling where
  before : List Char
  path : PathSpelling
  after : List Char
  parts : Option (Comparator × List Char)
  isBlank_before : ∀ c ∈ before, Text.isBlank c = true
  isBlank_after : ∀ c ∈ after, Text.isBlank c = true
  one_line : ∀ part ∈ parts, '\n' ∉ Text.trim part.2

namespace Spelling

/-- What stands between the braces. -/
def inner (s : Spelling) : List Char :=
  s.before ++ (s.path.text ++ (s.after ++ comparedText s.parts))

def text (s : Spelling) : String :=
  String.ofList ('$' :: '{' :: (s.inner ++ ['}']))

/-- The binding that is read. -/
def binding (s : Spelling) : Binding :=
  ⟨s.text, s.path.path, compared s.parts⟩

variable (s : Spelling)

theorem span_inner : s.inner.span Text.isBlank =
    (s.before, s.path.text ++ (s.after ++ comparedText s.parts)) := by
  refine Text.span_eq_iff.mpr ⟨rfl, s.isBlank_before, ?_⟩
  intro c hc
  have hstart : c = s.path.start := by
    simpa [List.head?_append, s.path.head?_text] using hc.symm
  have hdotted : isDotted s.path.start = true := by
    rw [isDotted, isPathChar_of_isPathStart s.path.isPathStart_start, Bool.true_or]
  rw [hstart, Bool.eq_false_iff]
  intro hblank
  rw [isDotted_eq_false_of_isBlank hblank] at hdotted
  cases hdotted

theorem span_path : (s.path.text ++ (s.after ++ comparedText s.parts)).span isDotted =
    (s.path.text, s.after ++ comparedText s.parts) := by
  refine Text.span_eq_iff.mpr ⟨rfl, s.path.isDotted_text, ?_⟩
  intro c hc
  rw [List.head?_append, Option.mem_def, Option.or_eq_some_iff] at hc
  rcases hc with hc | ⟨-, hc⟩
  · exact isDotted_eq_false_of_isBlank (s.isBlank_after c (List.mem_of_mem_head? hc))
  · exact (head?_comparedText c hc).2

theorem span_after : (s.after ++ comparedText s.parts).span Text.isBlank =
    (s.after, comparedText s.parts) :=
  Text.span_eq_iff.mpr ⟨rfl, s.isBlank_after, fun c hc => (head?_comparedText c hc).1⟩

theorem partsOf?_inner : partsOf? s.inner = some (s.path.path, compared s.parts) := by
  have hpath : List.span (fun c => isPathChar c || c == '.') (Text.trimLeft s.inner) =
      (s.path.text, s.after ++ comparedText s.parts) := by
    rw [Text.trimLeft_of_span s.span_inner]
    exact s.span_path
  rw [partsOf?, hpath]
  dsimp only
  rw [s.path.pathOf?_text, Text.trimLeft_of_span s.span_after, comparisonOf?_text s.one_line]
  rfl

theorem inner_injective : Function.Injective inner := by
  intro s t h
  -- Each part ends where the characters of its class do.
  have hinner := s.span_inner
  rw [h, t.span_inner, Prod.mk.injEq] at hinner
  obtain ⟨hbefore, hrest⟩ := hinner
  have hpath := s.span_path
  rw [← hrest, t.span_path, Prod.mk.injEq] at hpath
  obtain ⟨hpath, hrest⟩ := hpath
  have hafter := s.span_after
  rw [← hrest, t.span_after, Prod.mk.injEq] at hafter
  obtain ⟨hafter, hparts⟩ := hafter
  exact Spelling.ext hbefore.symm (PathSpelling.text_injective hpath.symm) hafter.symm
    (comparedText_injective hparts.symm)

end Spelling

theorem exists_of_partsOf? {inner : List Char} {path : List String}
    {comparison : Option Comparison} (h : partsOf? inner = some (path, comparison)) :
    ∃ s : Spelling, s.inner = inner ∧ s.path.path = path ∧ compared s.parts = comparison := by
  -- The three runs that reading takes; what is left is the comparison.
  obtain ⟨before, trimmed, hbefore⟩ : ∃ xs ys, inner.span Text.isBlank = (xs, ys) := ⟨_, _, rfl⟩
  obtain ⟨pathText, rest, hpath⟩ : ∃ xs ys, trimmed.span isDotted = (xs, ys) := ⟨_, _, rfl⟩
  obtain ⟨after, tail, hafter⟩ : ∃ xs ys, rest.span Text.isBlank = (xs, ys) := ⟨_, _, rfl⟩
  have hspan : List.span (fun c => isPathChar c || c == '.') (Text.trimLeft inner) =
      (pathText, rest) := by
    rw [Text.trimLeft_of_span hbefore]
    exact hpath
  rw [partsOf?, hspan] at h
  simp only [Text.trimLeft_of_span hafter, Option.bind_eq_some_iff, Option.map_eq_some_iff,
    Prod.mk.injEq] at h
  obtain ⟨_, hsegments, _, hcompared, rfl, rfl⟩ := h
  obtain ⟨rfl, hblank, -⟩ := Text.span_eq_iff.mp hbefore
  obtain ⟨rfl, hdotted, -⟩ := Text.span_eq_iff.mp hpath
  obtain ⟨rfl, hblank', -⟩ := Text.span_eq_iff.mp hafter
  obtain ⟨p, rfl, hp⟩ := PathSpelling.exists_of_pathOf? hsegments hdotted
  obtain ⟨parts, rfl, hline, hparts⟩ := exists_of_comparisonOf? hcompared
  exact ⟨⟨before, p, after, parts, hblank, hblank', hline⟩, rfl, hp, hparts⟩

theorem inside?_eq_some_iff {text inner : List Char} :
    inside? text = some inner ↔ text = '$' :: '{' :: (inner ++ ['}']) := by
  rw [inside?.eq_def]
  split
  · next rest =>
      simp only [Option.ite_none_right_eq_some, List.getLast?_eq_some_iff, List.cons.injEq,
        true_and]
      constructor
      · rintro ⟨⟨ys, rfl⟩, h⟩
        simpa using h
      · rintro rfl
        simp
  · next h =>
      simp only [reduceCtorEq, false_iff]
      exact h _

theorem ofString?_text (s : Spelling) : ofString? s.text = some s.binding := by
  have hinside : inside? s.text.toList = some s.inner := by
    rw [inside?_eq_some_iff, Spelling.text, String.toList_ofList]
  rw [ofString?, hinside, Option.bind_some, s.partsOf?_inner]
  rfl

theorem exists_of_ofString? {raw : String} {b : Binding} (h : ofString? raw = some b) :
    ∃ s : Spelling, s.text = raw ∧ s.binding = b := by
  rw [ofString?, Option.map_eq_some_iff] at h
  obtain ⟨⟨path, comparison⟩, hparts, rfl⟩ := h
  obtain ⟨inner, hinside, hparts⟩ := Option.bind_eq_some_iff.mp hparts
  obtain ⟨s, rfl, rfl, rfl⟩ := exists_of_partsOf? hparts
  have htext : s.text = raw := by
    rw [Spelling.text, ← inside?_eq_some_iff.mp hinside, String.ofList_toList]
  exact ⟨s, htext, by rw [Spelling.binding, htext]⟩

namespace Spelling

theorem text_injective : Function.Injective text := by
  intro s t h
  have hlist := String.ofList_injective h
  simp only [List.cons.injEq, true_and] at hlist
  exact inner_injective (List.append_cancel_right hlist)

end Spelling

/-- A text is a binding exactly if it has a spelling, which is then the only one and says what is
read: the text itself, the segments of the path in order, of which there is at least one and none
is empty, and a comparison just if there is a comparator, with the literal that the trimmed rest of
the text denotes. -/
theorem ofString?_spelling :
    (∀ raw, (ofString? raw).isSome = true ↔ ∃ s : Spelling, s.text = raw) ∧
    Function.Injective Spelling.text ∧
    ∀ s : Spelling, ofString? s.text = some s.binding ∧ s.binding.raw = s.text ∧
      s.binding.path = s.path.segments.map String.ofList ∧
      s.binding.path ≠ [] ∧ "" ∉ s.binding.path ∧
      s.binding.comparison = s.parts.map fun (comparator, rest) =>
        ⟨comparator, literalOf (Text.trim rest)⟩ := by
  refine ⟨fun raw => ⟨fun h => ?_, ?_⟩, Spelling.text_injective, fun s => ?_⟩
  · obtain ⟨b, hb⟩ := Option.isSome_iff_exists.mp h
    obtain ⟨s, hs, -⟩ := exists_of_ofString? hb
    exact ⟨s, hs⟩
  · rintro ⟨s, rfl⟩
    rw [ofString?_text]
    rfl
  · refine ⟨ofString?_text s, rfl, rfl, List.cons_ne_nil _ _, ?_, rfl⟩
    intro hempty
    obtain ⟨segment, hsegment, hnil⟩ := List.mem_map.mp hempty
    exact (s.path.isPathChar_segments segment hsegment).1 (by simpa using hnil)

/-- The brace that closes a binding is the last character of its text. -/
example : (ofString? "${a.b == {1} != 2}").map (fun b => (b.path, b.comparison.isSome)) =
    some (["a", "b"], true) := by
  decide +kernel

end Binding

end WidgetDoc
