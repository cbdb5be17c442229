/-!
# Words

The integers that fit in a word of 64 bits.
-/

namespace WidgetDoc

/-- The integers of 64 bits with a sign. -/
def FitsSigned (n : Int) : Prop :=
  -0x8000000000000000 ≤ n ∧ n < 0x8000000000000000

/-- The integers of 64 bits, signed and unsigned taken together. -/
def FitsWord (n : Int) : Prop :=
  -0x8000000000000000 ≤ n ∧ n < 0x10000000000000000

instance (n : Int) : Decidable (FitsSigned n) :=
  inferInstanceAs (Decidable (_ ∧ _))

instance (n : Int) : Decidable (FitsWord n) :=
  inferInstanceAs (Decidable (_ ∧ _))

theorem FitsSigned.fitsWord {n : Int} (h : FitsSigned n) : FitsWord n :=
  ⟨h.1, Int.lt_trans h.2 (by decide)⟩

end WidgetDoc
