import Mathlib.Algebra.Order.Field.Power
import Mathlib.Tactic.NormNum
import Mathlib.Tactic.Ring
import WidgetDoc.Decimal

/-!
# The range of doubles

A number has a nearest finite double exactly if its magnitude is below `2 ^ 1024 - 2 ^ 970`, the
middle between the largest double and `2 ^ 1024`. In units this is `(2 ^ 54 - 1) * 2 ^ 2044`. The
largest double has an odd mantissa, so the middle itself is out of range.
-/

namespace WidgetDoc

namespace Double

/-! ## Rounding to the nearest integer -/

theorem div_le_roundHalfEven (n d : Nat) : n / d ≤ roundHalfEven n d := by
  rw [roundHalfEven]
  split <;> omega

theorem roundHalfEven_le (n d : Nat) : roundHalfEven n d ≤ n / d + 1 := by
  rw [roundHalfEven]
  split <;> omega

/-- A number is rounded to at most an odd integer exactly if it is less than a half above it. -/
theorem roundHalfEven_le_iff {n d k : Nat} (hd : 0 < d) (hodd : k % 2 = 1) :
    roundHalfEven n d ≤ k ↔ 2 * n < (2 * k + 1) * d := by
  have hn := Nat.div_add_mod n d
  have hrest := Nat.mod_lt n hd
  have hlow := div_le_roundHalfEven n d
  have hhigh := roundHalfEven_le n d
  rw [Nat.add_mul, Nat.mul_assoc, Nat.mul_comm k d]
  rcases Nat.lt_trichotomy (n / d) k with hlt | heq | hgt
  · have hmul : d * (n / d + 1) ≤ d * k := Nat.mul_le_mul_left d hlt
    rw [Nat.mul_add] at hmul
    exact iff_of_true (by omega) (by omega)
  · -- An odd quotient is kept exactly if what is left is less than a half.
    have hround : roundHalfEven n d ≤ k ↔ 2 * (n % d) < d := by
      rw [roundHalfEven]
      split <;> omega
    rw [hround, ← heq]
    omega
  · have hmul : d * (k + 1) ≤ d * (n / d) := Nat.mul_le_mul_left d hgt
    rw [Nat.mul_add] at hmul
    exact iff_of_false (by omega) (by omega)

/-! ## Rounding to a double -/

theorem isSome_assemble?_iff {negative : Bool} {mantissa exponent : Nat}
    (hmantissa : mantissa ≤ 2 ^ 53) (hnormal : 2 ^ 52 ≤ mantissa ∨ exponent = 0) :
    (assemble? negative mantissa exponent).isSome = true ↔
      exponent ≤ 2044 ∨ exponent = 2045 ∧ mantissa ≤ 2 ^ 53 - 1 := by
  rw [assemble?]
  split <;> split <;> simp <;> omega

/-- The exponent of a number of units leaves 53 bits, or fewer if it is zero. -/
theorem exponent_bounds (q : Nat) : q < 2 ^ 53 * 2 ^ (q.log2 - 52) ∧
    (2 ^ 52 * 2 ^ (q.log2 - 52) ≤ q ∨ q.log2 - 52 = 0) := by
  constructor
  · rw [← Nat.pow_add]
    exact Nat.lt_log2_self.trans_le (Nat.pow_le_pow_right (by decide) (by omega))
  · rcases Nat.eq_zero_or_pos (q.log2 - 52) with hzero | hpos
    · exact .inr hzero
    · have hne : q ≠ 0 := by
        rintro rfl
        simp at hpos
      rw [← Nat.pow_add]
      exact .inl ((Nat.le_log2 hne).mp (by omega))

theorem two_pow_cases (m n : Nat) : (m ≤ n → 2 ^ m ≤ 2 ^ n) ∧
    (m = n + 1 → 2 ^ m = 2 * 2 ^ n) ∧ (n + 2 ≤ m → 4 * 2 ^ n ≤ 2 ^ m) := by
  refine ⟨Nat.pow_le_pow_right (by decide), ?_, fun h => ?_⟩
  · rintro rfl
    exact Nat.pow_succ'
  · calc 4 * 2 ^ n = 2 ^ (n + 2) := by rw [Nat.pow_add, Nat.mul_comm]
      _ ≤ 2 ^ m := Nat.pow_le_pow_right (by decide) h

/-- A fraction of units has a nearest double exactly if it is less than the middle between the
largest double and the next power of two. -/
theorem isSome_ofUnits?_iff {negative : Bool} {n d : Nat} (hd : 0 < d) :
    (ofUnits? negative n d).isSome = true ↔ n < (2 ^ 54 - 1) * 2 ^ 2044 * d := by
  obtain ⟨hbits, hnormal⟩ := exponent_bounds (n / d)
  rw [ofUnits?, Nat.pow_eq]
  obtain ⟨exponent, hexponent⟩ : ∃ e, (n / d).log2 - 52 = e := ⟨_, rfl⟩
  rw [hexponent] at hbits hnormal ⊢
  have hscale : 0 < 2 ^ exponent := Nat.two_pow_pos _
  have hquotient : n / (d * 2 ^ exponent) = n / d / 2 ^ exponent := (Nat.div_div_eq_div_mul ..).symm
  have hlt : n / (d * 2 ^ exponent) < 2 ^ 53 := by
    rw [hquotient]
    exact (Nat.div_lt_iff_lt_mul hscale).mpr hbits
  have hge : 2 ^ 52 ≤ n / (d * 2 ^ exponent) ∨ exponent = 0 := by
    rw [hquotient]
    exact hnormal.imp_left (Nat.le_div_iff_mul_le hscale).mpr
  have hlow := div_le_roundHalfEven n (d * 2 ^ exponent)
  have hhigh := roundHalfEven_le n (d * 2 ^ exponent)
  have hcarry : roundHalfEven n (d * 2 ^ exponent) ≤ 2 ^ 53 - 1 ↔
      2 * n < (2 ^ 54 - 1) * (d * 2 ^ exponent) :=
    roundHalfEven_le_iff (Nat.mul_pos hd hscale) (by decide)
  rw [isSome_assemble?_iff (by omega) (hge.imp_left hlow.trans'), hcarry]
  -- The exponents below 2045 are always in range, and those above never.
  have hpower := two_pow_cases exponent 2044
  generalize 2 ^ 2044 = top at *
  rcases Nat.lt_trichotomy exponent 2045 with hsmall | heq | hlarge
  · rw [← Nat.div_lt_iff_lt_mul hd]
    exact iff_of_true (.inl (by omega)) (by omega)
  · have hnot : ¬ exponent ≤ 2044 := by omega
    have hhalf : (2 ^ 54 - 1) * (d * 2 ^ exponent) = 2 * ((2 ^ 54 - 1) * top * d) := by
      rw [hpower.2.1 heq]
      ring
    rw [or_iff_right hnot, and_iff_right heq, hhalf, Nat.mul_lt_mul_left Nat.two_pos]
  · rw [← Nat.div_lt_iff_lt_mul hd]
    exact iff_of_false (by omega) (by omega)

/-- The least magnitude that has no nearest finite double. -/
def limit : ℚ :=
  2 ^ 1024 - 2 ^ 970

theorem limit_eq : limit = (2 ^ 54 - 1) * 2 ^ 970 := by
  have hsplit : (2 : ℚ) ^ 1024 = 2 ^ 54 * 2 ^ 970 := pow_add 2 54 970
  rw [limit, hsplit, sub_mul, one_mul]

/-- All integers of a word are below the limit. -/
theorem two_pow_lt_limit : 2 ^ 64 < limit := by
  have hpow : (2 : ℚ) ^ 64 ≤ 2 ^ 970 := pow_le_pow_right₀ (by norm_num) (by norm_num)
  calc (2 : ℚ) ^ 64 < (2 ^ 54 - 1) * 2 ^ 64 := by norm_num
    _ ≤ (2 ^ 54 - 1) * 2 ^ 970 := mul_le_mul_of_nonneg_left hpow (by norm_num)
    _ = limit := limit_eq.symm

theorem limit_le : limit ≤ 10 ^ 309 := by
  have hstep : (2 : ℚ) ^ 93 ≤ 10 ^ 28 := by norm_num
  calc limit ≤ 2 ^ 1024 := sub_le_self _ (by positivity)
    _ = (2 ^ 93) ^ 11 * 2 := by rw [← pow_mul, ← pow_succ]
    _ ≤ (10 ^ 28) ^ 11 * 10 := by gcongr; norm_num
    _ = 10 ^ 309 := by rw [← pow_mul, ← pow_succ]

theorem unitsPerOne_eq : unitsPerOne = 2 ^ 1074 := by
  delta unitsPerOne
  generalize 1074 = k
  exact Nat.pow_eq

theorem unitsPerOne_pos : 0 < unitsPerOne := by
  rw [unitsPerOne_eq]
  positivity

/-- A fraction has a nearest double exactly if it is below the limit. -/
theorem isSome_ofUnits?_ratio_iff {negative : Bool} {n d : Nat} (hd : 0 < d) :
    (ofUnits? negative (n * unitsPerOne) d).isSome = true ↔ (n : ℚ) / d < limit := by
  have hsplit : 2 ^ 2044 = 2 ^ 970 * 2 ^ 1074 := by rw [← Nat.pow_add]
  have hlimit : limit = ((2 ^ 54 - 1 : Nat) : ℚ) * (2 ^ 970 : Nat) := by
    rw [limit_eq, Nat.cast_pow]
    norm_num
  rw [isSome_ofUnits?_iff hd, hsplit, ← unitsPerOne_eq, hlimit, div_lt_iff₀ (by exact_mod_cast hd)]
  generalize 2 ^ 970 = m
  have hscale : (2 ^ 54 - 1) * (m * unitsPerOne) * d = (2 ^ 54 - 1) * m * d * unitsPerOne := by
    ring
  rw [hscale, Nat.mul_lt_mul_right unitsPerOne_pos]
  exact_mod_cast Iff.rfl

end Double

namespace Decimal

/-- The magnitude of the number that a numeral denotes. -/
def magnitude (d : Decimal) : ℚ :=
  d.coefficient * 10 ^ d.exponent

theorem lt_ten_pow_digitCount (n : Nat) : n < 10 ^ digitCount n :=
  (Nat.length_toDigits_le_iff (by decide) Nat.length_toDigits_pos).mp le_rfl

theorem ten_pow_le_of_digitCount {n k : Nat} (hn : n ≠ 0) (h : k < digitCount n) : 10 ^ k ≤ n := by
  rcases Nat.eq_zero_or_pos k with rfl | hk
  · omega
  · by_contra hlt
    have hle := (Nat.length_toDigits_le_iff (b := 10) (by decide) hk).mpr (not_le.mp hlt)
    rw [digitCount] at h
    omega

/-- The digits of a numeral bound its magnitude. -/
theorem magnitude_lt (d : Decimal) : d.magnitude < 10 ^ (digitCount d.coefficient + d.exponent) := by
  have hdigits : (d.coefficient : ℚ) < 10 ^ digitCount d.coefficient := by
    exact_mod_cast lt_ten_pow_digitCount d.coefficient
  rw [magnitude, zpow_add₀ (by norm_num), zpow_natCast]
  gcongr

theorem le_magnitude {d : Decimal} (h : d.coefficient ≠ 0) :
    10 ^ (digitCount d.coefficient + d.exponent - 1) ≤ d.magnitude := by
  have hpos : 0 < digitCount d.coefficient := Nat.length_toDigits_pos
  obtain ⟨k, hk⟩ : ∃ k, digitCount d.coefficient = k + 1 := ⟨_, (Nat.sub_add_cancel hpos).symm⟩
  have hdigits : (10 : ℚ) ^ k ≤ d.coefficient := by
    exact_mod_cast ten_pow_le_of_digitCount h (by omega)
  have hsplit : (digitCount d.coefficient + d.exponent - 1 : Int) = k + d.exponent := by omega
  rw [magnitude, hsplit, zpow_add₀ (by norm_num), zpow_natCast]
  gcongr

/-- A numeral has a nearest double exactly if its magnitude is below the limit. -/
theorem isSome_toDouble?_iff (d : Decimal) :
    d.toDouble?.isSome = true ↔ d.magnitude < Double.limit := by
  rw [toDouble?]
  split_ifs with hsmall hlarge
  · have hone : d.magnitude ≤ 1 := by
      rcases hsmall with hzero | htop
      · simp [magnitude, hzero]
      · exact d.magnitude_lt.le.trans (zpow_le_one_of_nonpos₀ (by norm_num) (by omega))
    have hlimit : 1 < Double.limit := lt_trans (by norm_num) Double.two_pow_lt_limit
    exact iff_of_true rfl (hone.trans_lt hlimit)
  · refine iff_of_false Bool.false_ne_true (not_lt.mpr ?_)
    have htop : (309 : Int) ≤ digitCount d.coefficient + d.exponent - 1 := by omega
    calc Double.limit ≤ 10 ^ 309 := Double.limit_le
      _ = (10 : ℚ) ^ (309 : Int) := (zpow_natCast _ _).symm
      _ ≤ 10 ^ (digitCount d.coefficient + d.exponent - 1) :=
        zpow_le_zpow_right₀ (by norm_num) htop
      _ ≤ d.magnitude := le_magnitude (not_or.mp hsmall).1
  · split
    next k hk =>
      have hvalue : d.magnitude = ((d.coefficient * 10 ^ k : Nat) : ℚ) / (1 : Nat) := by
        rw [magnitude, hk]
        simp
      rw [Nat.pow_eq, Double.isSome_ofUnits?_ratio_iff Nat.one_pos, hvalue]
    next k hk =>
      have hvalue : d.magnitude = (d.coefficient : ℚ) / (10 ^ (k + 1) : Nat) := by
        rw [magnitude, hk, zpow_negSucc, div_eq_mul_inv]
        simp
      rw [Nat.pow_eq, Double.isSome_ofUnits?_ratio_iff (Nat.pow_pos (by decide)), hvalue]

end Decimal

end WidgetDoc
