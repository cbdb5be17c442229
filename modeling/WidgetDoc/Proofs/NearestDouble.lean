import WidgetDoc.Proofs.DoubleRange
import WidgetDoc.Word

/-!
# The double nearest to an integer

The nearest double of an integer has the 53 leading bits of its magnitude, rounded. Rounding keeps
the order and leaves alone what has no more bits, so two integers never change places. They can
only fall together, and do not if one of them is below `2 ^ 53`.
-/

namespace WidgetDoc.Double

/-! ## Rounding quotients -/

theorem roundHalfEven_mono {m n : Nat} (h : m ≤ n) (d : Nat) :
    roundHalfEven m d ≤ roundHalfEven n d := by
  have hquotient : m / d ≤ n / d := Nat.div_le_div_right h
  rcases hquotient.lt_or_eq with hlt | heq
  · calc roundHalfEven m d ≤ m / d + 1 := roundHalfEven_le m d
      _ ≤ n / d := hlt
      _ ≤ roundHalfEven n d := div_le_roundHalfEven n d
  · have hrest : m % d ≤ n % d := by
      have hm := Nat.div_add_mod m d
      have hn := Nat.div_add_mod n d
      rw [heq] at hm
      omega
    rw [roundHalfEven, roundHalfEven, heq]
    split_ifs <;> omega

theorem roundHalfEven_mul_self (k : Nat) {d : Nat} (hd : 0 < d) : roundHalfEven (k * d) d = k := by
  rw [roundHalfEven, Nat.mul_div_cancel _ hd, Nat.mul_mod_left]
  apply if_neg
  omega

theorem roundHalfEven_mul_mul (n d : Nat) {c : Nat} (hc : 0 < c) :
    roundHalfEven (n * c) (d * c) = roundHalfEven n d := by
  have hlt : d * c < 2 * (n % d * c) ↔ d < 2 * (n % d) := by
    rw [← Nat.mul_assoc, Nat.mul_lt_mul_right hc]
  have heq : 2 * (n % d * c) = d * c ↔ 2 * (n % d) = d := by
    rw [← Nat.mul_assoc, Nat.mul_left_inj hc.ne']
  rw [roundHalfEven, roundHalfEven, Nat.mul_div_mul_right _ _ hc, Nat.mul_mod_mul_right]
  simp only [hlt, heq]

/-! ## Rounding to 53 bits -/

/-- A natural number with its 53 leading bits, rounded, and zeros behind them. -/
def shorten (n : Nat) : Nat :=
  roundHalfEven n (2 ^ (n.log2 - 52)) * 2 ^ (n.log2 - 52)

theorem shorten_of_log2_le {n : Nat} (h : n.log2 ≤ 52) : shorten n = n := by
  have hone := roundHalfEven_mul_self n Nat.one_pos
  rw [Nat.mul_one] at hone
  rw [shorten, Nat.sub_eq_zero_of_le h, Nat.pow_zero, Nat.mul_one, hone]

theorem shorten_mul_two (n : Nat) : shorten (n * 2) = shorten n * 2 := by
  rcases Nat.eq_zero_or_pos n with rfl | hpos
  · rfl
  have hlog : (n * 2).log2 = n.log2 + 1 := by rw [Nat.mul_comm, Nat.log2_two_mul hpos.ne']
  rcases Nat.lt_or_ge n.log2 52 with hsmall | hlarge
  · rw [shorten_of_log2_le (by omega), shorten_of_log2_le (by omega)]
  · have hexponent : (n * 2).log2 - 52 = n.log2 - 52 + 1 := by omega
    rw [shorten, hexponent, Nat.pow_succ, roundHalfEven_mul_mul _ _ Nat.two_pos, ← Nat.mul_assoc,
      shorten]

theorem shorten_mul_two_pow (n k : Nat) : shorten (n * 2 ^ k) = shorten n * 2 ^ k := by
  induction k with
  | zero => simp
  | succ k ih => rw [Nat.pow_succ, ← Nat.mul_assoc, shorten_mul_two, ih, Nat.mul_assoc]

theorem shorten_of_le {n : Nat} (h : n ≤ 2 ^ 53) : shorten n = n := by
  rcases h.lt_or_eq with hlt | rfl
  · apply shorten_of_log2_le
    rcases Nat.eq_zero_or_pos n with rfl | hpos
    · decide
    · exact Nat.le_of_lt_succ ((Nat.log2_lt hpos.ne').mpr hlt)
  · have hone : shorten 1 = 1 := shorten_of_log2_le (by decide)
    have hpower := shorten_mul_two_pow 1 53
    rwa [hone, Nat.one_mul] at hpower

/-- A number keeps the powers of two that bound it when it is shortened. -/
theorem shorten_bounds {n : Nat} (hpos : 0 < n) :
    2 ^ n.log2 ≤ shorten n ∧ shorten n ≤ 2 ^ (n.log2 + 1) := by
  have hlow : 2 ^ n.log2 ≤ n := Nat.log2_self_le hpos.ne'
  have hhigh : n ≤ 2 ^ (n.log2 + 1) := Nat.lt_log2_self.le
  have hscale : 0 < 2 ^ (n.log2 - 52) := Nat.two_pow_pos _
  -- Both powers are multiples of the weight of the last bit that is kept.
  have hpower {k : Nat} (hk : n.log2 ≤ k) :
      2 ^ k = 2 ^ (k - (n.log2 - 52)) * 2 ^ (n.log2 - 52) := by
    rw [← Nat.pow_add]
    congr 1
    omega
  rw [hpower le_rfl] at hlow ⊢
  rw [hpower (Nat.le_succ _)] at hhigh ⊢
  constructor
  · have hround := roundHalfEven_mono hlow (2 ^ (n.log2 - 52))
    rw [roundHalfEven_mul_self _ hscale] at hround
    exact Nat.mul_le_mul_right _ hround
  · have hround := roundHalfEven_mono hhigh (2 ^ (n.log2 - 52))
    rw [roundHalfEven_mul_self _ hscale] at hround
    exact Nat.mul_le_mul_right _ hround

theorem shorten_mono {m n : Nat} (h : m ≤ n) : shorten m ≤ shorten n := by
  rcases Nat.eq_zero_or_pos m with rfl | hpos
  · exact Nat.zero_le _
  have hlog : m.log2 ≤ n.log2 := by
    rw [Nat.le_log2 (by omega)]
    exact (Nat.log2_self_le hpos.ne').trans h
  rcases hlog.lt_or_eq with hlt | heq
  · calc shorten m ≤ 2 ^ (m.log2 + 1) := (shorten_bounds hpos).2
      _ ≤ 2 ^ n.log2 := Nat.pow_le_pow_right Nat.two_pos hlt
      _ ≤ shorten n := (shorten_bounds (hpos.trans_le h)).1
  · rw [shorten, shorten, heq]
    exact Nat.mul_le_mul_right _ (roundHalfEven_mono h _)

/-- A double has its bits already. -/
theorem shorten_magnitude (x : Double) : shorten x.magnitude = x.magnitude := by
  have hmantissa : x.mantissa ≤ 2 ^ 53 := x.mantissa_lt.le
  rw [magnitude, Nat.pow_eq, shorten_mul_two_pow, shorten_of_le hmantissa]

/-! ## Rounding integers -/

/-- The integer that the nearest double denotes. -/
def nearest (n : Int) : Int :=
  if n < 0 then -(shorten n.natAbs : Int) else shorten n.natAbs

theorem nearest_of_le {n : Int} (h : n.natAbs ≤ 2 ^ 53) : nearest n = n := by
  rw [nearest, shorten_of_le h]
  split <;> omega

theorem nearest_mono {a b : Int} (h : a ≤ b) : nearest a ≤ nearest b := by
  rw [nearest, nearest]
  split_ifs with ha hb hb
  · have hshorten : shorten b.natAbs ≤ shorten a.natAbs := shorten_mono (by omega)
    omega
  · omega
  · omega
  · have hshorten : shorten a.natAbs ≤ shorten b.natAbs := shorten_mono (by omega)
    omega

/-- An integer below `2 ^ 53` shares its nearest double with no other integer. -/
theorem eq_of_nearest_eq {a b : Int} (ha : a.natAbs < 2 ^ 53) (h : nearest a = nearest b) :
    a = b := by
  rcases lt_trichotomy a b with hlt | heq | hgt
  · have hnext := nearest_mono (Int.add_one_le_of_lt hlt)
    rw [nearest_of_le (n := a + 1) (by omega), ← h, nearest_of_le ha.le] at hnext
    omega
  · exact heq
  · have hprevious := nearest_mono (Int.le_sub_one_of_lt hgt)
    rw [nearest_of_le (n := a - 1) (by omega), ← h, nearest_of_le ha.le] at hprevious
    omega

theorem natAbs_units (x : Double) : x.units.natAbs = x.magnitude := by
  rw [units]
  split <;> simp

/-- An integer that some double denotes is the value of its nearest double. -/
theorem nearest_of_units {n : Int} {x : Double} (h : x.units = n * unitsPerOne) :
    nearest n = n := by
  have hmagnitude : x.magnitude = n.natAbs * unitsPerOne := by
    rw [← natAbs_units, h, Int.natAbs_mul, Int.natAbs_natCast]
  have hshorten : shorten n.natAbs * unitsPerOne = n.natAbs * unitsPerOne := by
    rw [← hmagnitude, ← x.shorten_magnitude, hmagnitude, unitsPerOne_eq, shorten_mul_two_pow]
  rw [nearest, Nat.eq_of_mul_eq_mul_right unitsPerOne_pos hshorten]
  split <;> omega

/-! ## The nearest double -/

theorem eq_of_assemble? {negative : Bool} {mantissa exponent : Nat} {x : Double}
    (h : assemble? negative mantissa exponent = some x) :
    x.negative = negative ∧ x.magnitude = mantissa * 2 ^ exponent := by
  rw [assemble?] at h
  split_ifs at h with hcarry hexponent hrange
  · obtain rfl := Option.some.inj h
    refine ⟨rfl, ?_⟩
    rw [magnitude, hcarry, Nat.pow_eq, Nat.pow_succ']
    ring
  · obtain rfl := Option.some.inj h
    exact ⟨rfl, by rw [magnitude, Nat.pow_eq]⟩

theorem magnitude_of_ofUnits? {negative : Bool} {n : Nat} {x : Double}
    (h : ofUnits? negative n 1 = some x) : x.negative = negative ∧ x.magnitude = shorten n := by
  rw [ofUnits?, Nat.div_one, Nat.one_mul, Nat.pow_eq] at h
  exact eq_of_assemble? h

/-- Every integer of a word has a nearest double, and it denotes an integer. -/
theorem exists_ofInt?_eq {n : Int} (h : FitsWord n) :
    ∃ x, ofInt? n = some x ∧ x.units = nearest n * unitsPerOne := by
  have hrange : (ofInt? n).isSome = true := by
    have hword : ((n.natAbs : Nat) : ℚ) < 2 ^ 64 := by
      obtain ⟨hlow, hhigh⟩ := h
      have hnat : n.natAbs < 2 ^ 64 := by omega
      exact_mod_cast hnat
    rw [ofInt?, isSome_ofUnits?_ratio_iff Nat.one_pos, Nat.cast_one, div_one]
    exact hword.trans two_pow_lt_limit
  obtain ⟨x, hx⟩ := Option.isSome_iff_exists.mp hrange
  refine ⟨x, hx, ?_⟩
  obtain ⟨hsign, hmagnitude⟩ := magnitude_of_ofUnits? hx
  rw [unitsPerOne_eq, shorten_mul_two_pow, ← unitsPerOne_eq] at hmagnitude
  rw [units, hsign, hmagnitude, nearest, Nat.cast_mul]
  by_cases hnegative : n < 0
  · rw [if_pos (decide_eq_true hnegative), if_pos hnegative, neg_mul]
  · rw [if_neg (decide_eq_true_iff.not.mpr hnegative), if_neg hnegative]

end WidgetDoc.Double
