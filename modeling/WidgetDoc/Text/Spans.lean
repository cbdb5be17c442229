/-!
# Character classes as code point spans

A class is a list of spans of code points, both ends included.
-/

namespace WidgetDoc.Text

/-- The first and the last code point of a span. -/
abbrev Span := Nat × Nat

def inSpans (spans : List Span) (c : Char) : Bool :=
  spans.any fun (first, last) => first ≤ c.toNat && c.toNat ≤ last

theorem inSpans_iff {spans : List Span} {c : Char} :
    inSpans spans c = true ↔ ∃ s ∈ spans, s.1 ≤ c.toNat ∧ c.toNat ≤ s.2 := by
  simp [inSpans]

end WidgetDoc.Text
