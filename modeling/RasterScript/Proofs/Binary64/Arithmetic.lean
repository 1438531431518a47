import RasterScript.Proofs.Binary64.Rounding

/-!
# Arithmetic — operations on numbers of 53 digits

A float with sign, mantissa and exponent taken apart stands for a number (`Stands`).  The sum, the
difference, the product and the quotient of two of them stand for the number nearest to the exact
result, as long as that is not too large.
-/

namespace RasterScript

namespace Binary64

open Float.Model (Format UnpackedFloat totalExponent)
open Float.Model.UnpackedFloat

/-! ## 1. Exact numbers -/

theorem roundsTo_zero : RoundsTo 0 0 := by
  refine ⟨leastUnit, .inl rfl, ⟨0, by simp⟩, ?_⟩
  rw [sub_self, abs_zero]
  positivity

theorem Canonical.roundsTo {m : ℕ} {e : ℤ} (h : Canonical m e) :
    RoundsTo (m * 2 ^ e) (m * 2 ^ e) := by
  refine ⟨e, h.full.symm.imp_right fun hfull => ⟨h.least_le, ?_⟩, ⟨m, by simp⟩, ?_⟩
  · have hm : (2 : ℚ) ^ (52 : ℤ) ≤ m := by exact_mod_cast hfull
    rw [add_comm, zpow_add₀ two_ne_zero]
    exact (mul_le_mul_of_nonneg_right hm (by positivity)).trans (le_abs_self _)
  · rw [sub_self, abs_zero]
    positivity

/-- A number that a float stands for is its own nearest number. -/
theorem Stands.roundsTo {f : UnpackedFloat} {x : ℚ} (h : Stands f x) : RoundsTo x x := by
  cases f with
  | zero s =>
    obtain rfl : x = 0 := h
    exact roundsTo_zero
  | finite s m e hm =>
    obtain ⟨hc, rfl⟩ := h
    exact hc.roundsTo.signed s
  | infinity s => cases h
  | notANumber => cases h

theorem signed_neg (s : Sign) (x : ℚ) : signed (-s) x = -signed s x := by
  cases s
  · exact (neg_neg x).symm
  · rfl

theorem Stands.neg {f : UnpackedFloat} {x : ℚ} (h : Stands f x) : Stands f.neg (-x) := by
  cases f with
  | zero s =>
    obtain rfl : x = 0 := h
    exact neg_zero
  | finite s m e hm =>
    obtain ⟨hc, rfl⟩ := h
    exact ⟨hc, (signed_neg s _).symm⟩
  | infinity s => cases h
  | notANumber => cases h

/-! ## 2. Rounding of exact results -/

theorem value_shiftLeft (m k : ℕ) (e : ℤ) : ((m <<< k : ℕ) : ℚ) * 2 ^ (e - k) = m * 2 ^ e := by
  rw [Nat.shiftLeft_eq, zpow_sub₀ two_ne_zero, zpow_natCast]
  push_cast
  field_simp

theorem log2_shiftLeft {m : ℕ} (hm : m ≠ 0) (k : ℕ) : (m <<< k).log2 = m.log2 + k := by
  have hpos : m <<< k ≠ 0 := by
    rw [Nat.shiftLeft_eq]
    positivity
  rw [Nat.log2_eq_iff hpos, Nat.shiftLeft_eq, pow_add, Nat.add_right_comm, pow_add _ (m.log2 + 1)]
  exact ⟨Nat.mul_le_mul_right _ (Nat.log2_self_le hm),
    Nat.mul_lt_mul_of_pos_right Nat.lt_log2_self (by positivity)⟩

theorem stands_round (s : Sign) {m : ℕ} {e : ℤ} (hm : m ≠ 0)
    (hroom : (m : ℚ) * 2 ^ e < ceiling) :
    ∃ r, Stands (round Format.binary64 s m e) (signed s r) ∧ RoundsTo (m * 2 ^ e) r := by
  generalize hk : (e - unit m e).toNat = k
  have hround : round Format.binary64 s m e =
      roundWithAccuracy Format.binary64 s (m <<< k) (e - k) .exact := by
    rw [← hk]
    rfl
  have hunit : e - k ≤ unit (m <<< k) (e - k) := by
    rw [unit_eq] at hk ⊢
    rw [log2_shiftLeft hm]
    omega
  rw [← value_shiftLeft m k e] at hroom ⊢
  rw [hround]
  exact stands_roundWithAccuracy s (locates_exact _) hunit hroom

theorem stands_normalize {m e : ℤ} (zeroSign : Sign) (hroom : |(m : ℚ) * 2 ^ e| < ceiling) :
    ∃ r, Stands (UnpackedFloat.normalize Format.binary64 m e zeroSign) r ∧
      RoundsTo (m * 2 ^ e) r := by
  have hpow : (0 : ℚ) < 2 ^ e := by positivity
  have hsize : (m.natAbs : ℚ) * 2 ^ e < ceiling := by
    rwa [Nat.cast_natAbs, Int.cast_abs, ← abs_of_pos hpow, ← abs_mul]
  unfold UnpackedFloat.normalize
  -- the absolute value is rounded, whatever the sign is
  rcases lt_trichotomy m 0 with hm | rfl | hm
  · rw [Int.compare_eq_lt.2 hm]
    have habs : (-m).toNat = m.natAbs := by omega
    obtain ⟨r, hr, hrounds⟩ := stands_round .negative (m := m.natAbs) (by omega) hsize
    refine ⟨-r, by rwa [habs], ?_⟩
    have hvalue : (m : ℚ) = -m.natAbs := by
      rw [Nat.cast_natAbs, abs_of_neg hm, Int.cast_neg, neg_neg]
    rw [hvalue, neg_mul]
    exact hrounds.neg
  · refine ⟨0, rfl, ?_⟩
    rw [Int.cast_zero, zero_mul]
    exact roundsTo_zero
  · rw [Int.compare_eq_gt.2 hm]
    have habs : m.toNat = m.natAbs := by omega
    obtain ⟨r, hr, hrounds⟩ := stands_round .positive (m := m.natAbs) (by omega) hsize
    refine ⟨r, by rwa [habs], ?_⟩
    have hvalue : (m : ℚ) = m.natAbs := by
      rw [Nat.cast_natAbs, abs_of_pos hm]
    rwa [hvalue]

/-! ## 3. Operations -/

section Operations

variable {a b : UnpackedFloat} {x y : ℚ}

theorem signed_apply (s : Sign) (m : ℕ) : ((s.apply m : ℤ) : ℚ) = signed s m := by
  cases s
  · exact Int.cast_neg _
  · rfl

theorem signed_mul_right (s : Sign) (x y : ℚ) : signed s (x * y) = signed s x * y := by
  cases s
  · exact (neg_mul x y).symm
  · rfl

theorem value_decreaseExponent (m : ℕ) {e u : ℤ} (hu : u ≤ e) :
    ((decreaseExponent m e u).1 : ℚ) * 2 ^ u = m * 2 ^ e := by
  obtain ⟨k, hk⟩ : ∃ k : ℕ, e - u = k := ⟨(e - u).toNat, by omega⟩
  show ((m <<< (e - u).toNat : ℕ) : ℚ) * 2 ^ u = _
  rw [hk, Int.toNat_natCast, ← value_shiftLeft m k e]
  congr 2
  omega

theorem stands_add (ha : Stands a x) (hb : Stands b y) (hroom : |x + y| < ceiling) :
    ∃ r, Stands (add Format.binary64 a b) r ∧ RoundsTo (x + y) r := by
  cases a with
  | infinity s => cases ha
  | notANumber => cases ha
  | zero s =>
    obtain rfl : x = 0 := ha
    rw [zero_add]
    cases b with
    | infinity t => cases hb
    | notANumber => cases hb
    | zero t =>
      obtain rfl : y = 0 := hb
      refine ⟨0, ?_, roundsTo_zero⟩
      cases s <;> cases t <;> rfl
    | finite t n f hn => exact ⟨y, hb, hb.roundsTo⟩
  | finite s m e hm =>
    cases b with
    | infinity t => cases hb
    | notANumber => cases hb
    | zero t =>
      obtain rfl : y = 0 := hb
      rw [add_zero]
      exact ⟨x, ha, ha.roundsTo⟩
    | finite t n f hn =>
      obtain ⟨-, rfl⟩ := ha
      obtain ⟨-, rfl⟩ := hb
      -- both mantissas are made to count the smaller of the two units
      have hsum : ((s.apply (decreaseExponent m e (min e f)).1 +
          t.apply (decreaseExponent n f (min e f)).1 : ℤ) : ℚ) * 2 ^ min e f =
          signed s (m * 2 ^ e) + signed t (n * 2 ^ f) := by
        rw [Int.cast_add, signed_apply, signed_apply, add_mul, ← signed_mul_right,
          ← signed_mul_right, value_decreaseExponent m (min_le_left e f),
          value_decreaseExponent n (min_le_right e f)]
      rw [← hsum] at hroom ⊢
      exact stands_normalize .positive hroom

theorem unpacked_sub (a b : UnpackedFloat) :
    sub Format.binary64 a b = add Format.binary64 a b.neg := by
  cases a with
  | notANumber => rfl
  | infinity s => cases b <;> rfl
  | zero s => cases b <;> rfl
  | finite s m e hm =>
    cases b with
    | notANumber => rfl
    | infinity t => rfl
    | zero t => rfl
    | finite t n f hn =>
      cases t with
      | negative => exact congrArg (normalize _ · _ _) (sub_neg_eq_add _ _)
      | positive => rfl

theorem stands_sub (ha : Stands a x) (hb : Stands b y) (hroom : |x - y| < ceiling) :
    ∃ r, Stands (sub Format.binary64 a b) r ∧ RoundsTo (x - y) r := by
  rw [sub_eq_add_neg x y] at hroom ⊢
  rw [unpacked_sub]
  exact stands_add ha hb.neg hroom

theorem signed_mul (s t : Sign) (x y : ℚ) : signed (s * t) (x * y) = signed s x * signed t y := by
  cases s <;> cases t
  · exact (neg_mul_neg x y).symm
  · exact (neg_mul x y).symm
  · exact (mul_neg x y).symm
  · rfl

theorem abs_signed {x : ℚ} (hx : 0 ≤ x) (s : Sign) : |signed s x| = x := by
  cases s
  · exact (abs_neg x).trans (abs_of_nonneg hx)
  · exact abs_of_nonneg hx

/-- The product of two mantissas is long enough to be cut off. -/
theorem add_le_unit_mul {m n : ℕ} {e f : ℤ} (hm : 0 < m) (hn : 0 < n) (hme : Canonical m e)
    (hnf : Canonical n f) : e + f ≤ unit (m * n) (e + f) := by
  have hlong : ∀ k : ℕ, 2 ^ 52 ≤ k → k ≤ m * n → 52 ≤ (m * n).log2 := by
    intro k hk hkn
    exact (Nat.le_log2 (Nat.mul_pos hm hn).ne').2 (hk.trans hkn)
  rw [unit_eq]
  unfold leastUnit
  rcases hme.full with hfull | he
  · have := hlong m hfull (Nat.le_mul_of_pos_right m hn)
    omega
  · rcases hnf.full with hfull | hf
    · have := hlong n hfull (Nat.le_mul_of_pos_left n hm)
      omega
    · -- two least units make a product far below the least unit
      unfold leastUnit at he hf
      omega

theorem stands_mul (ha : Stands a x) (hb : Stands b y) (hroom : |x * y| < ceiling) :
    ∃ r, Stands (mul Format.binary64 a b) r ∧ RoundsTo (x * y) r := by
  cases a with
  | infinity s => cases ha
  | notANumber => cases ha
  | zero s =>
    obtain rfl : x = 0 := ha
    refine ⟨0, ?_, by rw [zero_mul]; exact roundsTo_zero⟩
    cases b with
    | infinity t => cases hb
    | notANumber => cases hb
    | zero t => rfl
    | finite t n f hn => rfl
  | finite s m e hm =>
    cases b with
    | infinity t => cases hb
    | notANumber => cases hb
    | zero t =>
      obtain rfl : y = 0 := hb
      exact ⟨0, rfl, by rw [mul_zero]; exact roundsTo_zero⟩
    | finite t n f hn =>
      obtain ⟨hme, rfl⟩ := ha
      obtain ⟨hnf, rfl⟩ := hb
      have hvalue : (m * 2 ^ e * (n * 2 ^ f) : ℚ) = (m * n : ℕ) * 2 ^ (e + f) := by
        rw [zpow_add₀ two_ne_zero]
        push_cast
        ring
      rw [← signed_mul, hvalue] at hroom ⊢
      rw [abs_signed (by positivity)] at hroom
      obtain ⟨r, hr, hrounds⟩ := stands_roundWithAccuracy (s * t) (locates_exact (m * n))
        (add_le_unit_mul hm hn hme hnf) hroom
      exact ⟨_, hr, hrounds.signed _⟩

/-- A fraction is its whole part and what the rest makes up. -/
theorem fraction_eq {n : ℕ} (hn : 0 < n) (m : ℕ) : (m / n : ℚ) = (m / n : ℕ) + (m % n : ℕ) / n := by
  have hpos : (0 : ℚ) < n := by exact_mod_cast hn
  have hsplit : (n : ℚ) * (m / n : ℕ) + (m % n : ℕ) = m := by exact_mod_cast Nat.div_add_mod m n
  rw [div_eq_iff hpos.ne', add_mul, div_mul_cancel₀ _ hpos.ne', ← hsplit]
  ring

theorem locates_fraction {n : ℕ} (hn : 0 < n) (m : ℕ) :
    Locates (ExtendedMantissa.ofMantissaAndAccuracy (m / n) (accuracyOfFraction (m % n) n))
      (m / n : ℚ) := by
  have hpos : (0 : ℚ) < n := by exact_mod_cast hn
  have hrest : ((m % n : ℕ) : ℚ) / n < 1 := by
    rw [div_lt_one hpos]
    exact_mod_cast Nat.mod_lt m hn
  unfold accuracyOfFraction
  split
  · rename_i hzero
    rw [fraction_eq hn, hzero, Nat.cast_zero, zero_div, add_zero]
    exact locates_exact _
  · rename_i hsome
    have hsome' : (0 : ℚ) < (m % n : ℕ) := by exact_mod_cast Nat.pos_of_ne_zero hsome
    have hrest' : (0 : ℚ) < (m % n : ℕ) / n := div_pos hsome' hpos
    rw [fraction_eq hn]
    -- the rest against half of the divisor gives the two bits
    rcases lt_trichotomy (2 * (m % n)) n with hlt | heq | hgt
    · rw [Nat.compare_eq_lt.2 hlt]
      have hhalf : ((m % n : ℕ) : ℚ) / n < 1 / 2 := by
        rw [div_lt_div_iff₀ hpos two_pos]
        exact_mod_cast (by omega : m % n * 2 < 1 * n)
      exact ⟨lt_add_of_pos_right _ hrest', (add_lt_add_iff_left _).2 hhalf⟩
    · rw [Nat.compare_eq_eq.2 heq]
      have hhalf : ((m % n : ℕ) : ℚ) / n = 1 / 2 := by
        rw [div_eq_div_iff hpos.ne' two_ne_zero]
        exact_mod_cast (by omega : m % n * 2 = 1 * n)
      rw [hhalf]
      rfl
    · rw [Nat.compare_eq_gt.2 hgt]
      have hhalf : 1 / 2 < ((m % n : ℕ) : ℚ) / n := by
        rw [div_lt_div_iff₀ two_pos hpos]
        exact_mod_cast (by omega : 1 * n < m % n * 2)
      exact ⟨(add_lt_add_iff_left _).2 hhalf, (add_lt_add_iff_left _).2 hrest⟩

/-- The quotient of two mantissas is long enough to be cut off if the dividend was made longer
before. -/
theorem le_unit_div {m n k : ℕ} {u : ℤ} (hm : 0 < m) (hn : 0 < n)
    (hu : u ≤ leastUnit ∨ n.log2 + 53 ≤ m.log2 + k) : u ≤ unit ((m <<< k) / n) u := by
  rw [unit_eq]
  rcases hu with hu | hk
  · exact hu.trans (le_max_right _ _)
  · have hlog : (m <<< k).log2 = m.log2 + k := log2_shiftLeft hm.ne' k
    have hlong : 2 ^ 52 ≤ (m <<< k) / n := by
      rw [Nat.le_div_iff_mul_le hn]
      calc 2 ^ 52 * n
        _ ≤ 2 ^ 52 * 2 ^ (n.log2 + 1) := Nat.mul_le_mul_left _ Nat.lt_log2_self.le
        _ = 2 ^ (n.log2 + 53) := by rw [← pow_add]; congr 1; omega
        _ ≤ 2 ^ (m <<< k).log2 := Nat.pow_le_pow_right two_pos (hlog ▸ hk)
        _ ≤ m <<< k := Nat.log2_self_le (by rw [Nat.shiftLeft_eq]; positivity)
    have hdigits := (Nat.le_log2 (n := (m <<< k) / n) (by omega)).2 hlong
    omega

theorem signed_div (s t : Sign) (x y : ℚ) : signed (s / t) (x / y) = signed s x / signed t y := by
  cases s <;> cases t
  · exact (neg_div_neg_eq x y).symm
  · exact (neg_div y x).symm
  · exact (div_neg x).symm
  · rfl

theorem stands_div (ha : Stands a x) (hb : Stands b y) (hy : y ≠ 0)
    (hroom : |x / y| < ceiling) :
    ∃ r, Stands (div Format.binary64 a b) r ∧ RoundsTo (x / y) r := by
  cases b with
  | infinity t => cases hb
  | notANumber => cases hb
  | zero t => exact absurd hb hy
  | finite t n f hn =>
    cases a with
    | infinity s => cases ha
    | notANumber => cases ha
    | zero s =>
      obtain rfl : x = 0 := ha
      exact ⟨0, rfl, by rw [zero_div]; exact roundsTo_zero⟩
    | finite s m e hm =>
      obtain ⟨-, rfl⟩ := ha
      obtain ⟨-, rfl⟩ := hb
      generalize hu : min (e - f)
        (Format.binary64.targetExponent (totalExponent m e - totalExponent n f)) = u
      generalize hk : (e - f - u).toNat = k
      -- the dividend is made so long that the quotient has digits enough
      have hdiv : div Format.binary64 (.finite s m e hm) (.finite t n f hn) =
          roundWithAccuracy Format.binary64 (s / t) ((m <<< k) / n) u
            (accuracyOfFraction ((m <<< k) % n) n) := by
        rw [← hk, ← hu]
        rfl
      have htarget : u = min (e - f) (max (m.log2 + 1 + e - (n.log2 + 1 + f) - 53) leastUnit) :=
        hu.symm
      have hvalue : (m * 2 ^ e / (n * 2 ^ f) : ℚ) = (m <<< k : ℕ) / n * 2 ^ u := by
        have hexp : u = e - k - f := by omega
        rw [hexp, zpow_sub₀ two_ne_zero, ← value_shiftLeft m k e]
        field_simp
      have hnonneg : (0 : ℚ) ≤ (m <<< k : ℕ) / n * 2 ^ u :=
        mul_nonneg (div_nonneg (Nat.cast_nonneg _) (Nat.cast_nonneg _)) (zpow_pos two_pos u).le
      rw [← signed_div, hvalue] at hroom ⊢
      rw [abs_signed hnonneg] at hroom
      rw [hdiv]
      obtain ⟨r, hr, hrounds⟩ := stands_roundWithAccuracy (s / t) (locates_fraction hn (m <<< k))
        (le_unit_div hm hn (by omega)) hroom
      exact ⟨_, hr, hrounds.signed _⟩

end Operations

end Binary64

end RasterScript
