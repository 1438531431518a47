import RasterScript.Proofs.Binary64.Arithmetic

/-!
# Floats — what binary64 numbers are good for

A finite float denotes a number (`Denotes`).  Each operation gives the number nearest to the exact
result, bytes are converted exactly, and a float becomes a byte by rounding down and cutting off at
both ends.

Of a computation of several steps nothing is lost if it gets by with four binary places
(`Denotes.add_sixteenths`, `Denotes.mul_sixteenths`); of any other, a bound is kept on what is lost
(`Near`).
-/

namespace RasterScript

namespace Binary64

open Float.Model (Format UnpackedFloat)
open Float.Model.UnpackedFloat

/-! ## 1. Finite floats -/

/-- The float is a finite number, namely `x`. -/
def Denotes (f : Float) (x : ℚ) : Prop :=
  Stands f.toModel.unpack x

theorem denotes_pack {u : UnpackedFloat} {x : ℚ} (h : Stands u x) :
    Denotes ⟨Float.Model.pack u⟩ x := by
  have hunpack : (Float.Model.pack u).unpack = u := h.unpack_pack
  unfold Denotes
  rwa [hunpack]

namespace Denotes

variable {f g : Float} {x y : ℚ}

theorem add (hf : Denotes f x) (hg : Denotes g y) (hroom : |x + y| < ceiling) :
    ∃ r, Denotes (f + g) r ∧ RoundsTo (x + y) r := by
  obtain ⟨r, hr, hrounds⟩ := stands_add hf hg hroom
  exact ⟨r, denotes_pack hr, hrounds⟩

theorem sub (hf : Denotes f x) (hg : Denotes g y) (hroom : |x - y| < ceiling) :
    ∃ r, Denotes (f - g) r ∧ RoundsTo (x - y) r := by
  obtain ⟨r, hr, hrounds⟩ := stands_sub hf hg hroom
  exact ⟨r, denotes_pack hr, hrounds⟩

theorem mul (hf : Denotes f x) (hg : Denotes g y) (hroom : |x * y| < ceiling) :
    ∃ r, Denotes (f * g) r ∧ RoundsTo (x * y) r := by
  obtain ⟨r, hr, hrounds⟩ := stands_mul hf hg hroom
  exact ⟨r, denotes_pack hr, hrounds⟩

theorem div (hf : Denotes f x) (hg : Denotes g y) (hy : y ≠ 0) (hroom : |x / y| < ceiling) :
    ∃ r, Denotes (f / g) r ∧ RoundsTo (x / y) r := by
  obtain ⟨r, hr, hrounds⟩ := stands_div hf hg hy hroom
  exact ⟨r, denotes_pack hr, hrounds⟩

/-- A float that is a number is a zero or has a sign, a mantissa and an exponent. -/
theorem zero_or_finite (hf : Denotes f x) :
    (∃ s, f.toModel.unpack = .zero s ∧ x = 0) ∨
      ∃ s m e hm, f.toModel.unpack = .finite s m e hm ∧ x = signed s (m * 2 ^ e) := by
  unfold Denotes at hf
  generalize f.toModel.unpack = u at hf ⊢
  cases u with
  | zero s => exact .inl ⟨s, rfl, hf⟩
  | finite s m e hm => exact .inr ⟨s, m, e, hm, rfl, hf.2⟩
  | infinity s => cases hf
  | notANumber => cases hf

/-- Only zero is found equal to zero. -/
theorem eq_zero_of_beq (hf : Denotes f x) (h : (f == 0) = true) : x = 0 := by
  have hcompare : (f.toModel.unpack.compare (.zero .positive) == some .eq) = true := h
  obtain ⟨s, -, hx⟩ | ⟨s, m, e, hm, hu, -⟩ := hf.zero_or_finite
  · exact hx
  · rw [hu] at hcompare
    cases s <;> cases hcompare

end Denotes

/-! ## 2. Constants -/

instance (m : ℕ) (e : ℤ) : Decidable (Canonical m e) :=
  decidable_of_iff (m < 2 ^ 53 ∧ leastUnit ≤ e ∧ e ≤ 971 ∧ (2 ^ 52 ≤ m ∨ e = leastUnit))
    ⟨fun ⟨hlt, hleast, hmost, hfull⟩ => ⟨hlt, hleast, hmost, hfull⟩,
      fun h => ⟨h.mantissa_lt, h.least_le, h.le_most, h.full⟩⟩

instance (f : UnpackedFloat) (x : ℚ) : Decidable (Stands f x) :=
  match f with
  | .zero _ => inferInstanceAs (Decidable (x = 0))
  | .finite s m e _ => inferInstanceAs (Decidable (Canonical m e ∧ x = signed s (m * 2 ^ e)))
  | .infinity _ => inferInstanceAs (Decidable False)
  | .notANumber => inferInstanceAs (Decidable False)

/-- What a given float is can be computed. -/
instance (f : Float) (x : ℚ) : Decidable (Denotes f x) :=
  inferInstanceAs (Decidable (Stands _ x))

theorem denotes_zero : Denotes 0 0 := by decide

theorem denotes_half : Denotes 0.5 (1 / 2) := by decide +kernel

theorem denotes_one : Denotes 1 1 := by decide +kernel

theorem denotes_255 : Denotes 255 255 := by decide +kernel

/-! ## 3. Bytes -/

theorem byte_le (b : UInt8) : (b.toNat : ℚ) ≤ 255 := by
  exact_mod_cast Nat.lt_succ_iff.1 b.toNat_lt

theorem abs_byte_le (b : UInt8) : |(b.toNat : ℚ)| ≤ 255 := by
  rw [abs_of_nonneg (Nat.cast_nonneg _)]
  exact byte_le b

theorem denotes_toFloat (b : UInt8) : Denotes b.toFloat b.toNat := by
  have hbyte := b.toNat_lt
  have hsize : |((b.toNat : ℤ) : ℚ) * 2 ^ (0 : ℤ)| < ceiling := by
    have hle : ((b.toNat : ℤ) : ℚ) ≤ 255 := by exact_mod_cast (by omega : b.toNat ≤ 255)
    rw [zpow_zero, mul_one, abs_of_nonneg (by positivity)]
    exact lt_ceiling (hle.trans (by norm_num))
  obtain ⟨r, hr, hrounds⟩ := stands_normalize .positive hsize
  have hexact := hrounds.eq_of_digits rfl (by omega) (by decide)
  rw [hexact, zpow_zero, mul_one, Int.cast_natCast] at hr
  exact denotes_pack hr

/-- A positive number loses what comes after the point. -/
theorem roundToInt_eq (s : Sign) (m : ℕ) (e : ℤ) :
    roundToInt s m e = s.apply ⌊(m : ℚ) * 2 ^ e⌋ := by
  generalize hk : (e - 0).toNat = k
  generalize hl : (0 - (e - k)).toNat = l
  have hcut : roundToInt s m e =
      s.apply (ExtendedMantissa.ofMantissaAndAccuracy (m <<< k) .exact >>> l).mantissa := by
    rw [← hl, ← hk]
    rfl
  have hexp : e - k = -(l : ℤ) := by omega
  have hvalue : (m : ℚ) * 2 ^ e = (m <<< k : ℕ) / 2 ^ l := by
    rw [← value_shiftLeft m k e, hexp, zpow_neg, zpow_natCast]
    rfl
  have hbounds := ((locates_exact (m <<< k)).shiftRight l).bounds
  rw [hcut, hvalue, Int.floor_eq_iff.2 (by exact_mod_cast hbounds)]

theorem toNat_ofNatClamp (n : ℕ) : (UInt8.ofNatClamp n).toNat = min n 255 := by
  by_cases hn : n < UInt8.size
  · rw [UInt8.toNat_ofNatClamp_of_lt hn]
    unfold UInt8.size at hn
    omega
  · rw [UInt8.toNat_ofNatClamp_of_le (by omega)]
    unfold UInt8.size at hn ⊢
    omega

/-- A float becomes the byte below it, cut off at both ends. -/
theorem Denotes.toNat_toUInt8 {f : Float} {x : ℚ} (h : Denotes f x) :
    (f.toUInt8.toNat : ℤ) = max 0 (min ⌊x⌋ 255) := by
  have hbyte : f.toUInt8.toNat = min (f.toModel.unpack.toInt 0 255).toNat 255 :=
    toNat_ofNatClamp _
  rw [hbyte]
  obtain ⟨s, hu, rfl⟩ | ⟨s, m, e, hm, hu, rfl⟩ := h.zero_or_finite
  · rw [hu, Int.floor_zero]
    rfl
  · have hpos : 0 < (m : ℚ) * 2 ^ e := by positivity
    rw [hu]
    show ((min (roundToInt s m e).toNat 255 : ℕ) : ℤ) = _
    rw [roundToInt_eq]
    -- a negative number is cut off towards zero, not rounded down, but both end at the byte 0
    cases s with
    | positive =>
      show ((min ⌊(m : ℚ) * 2 ^ e⌋.toNat 255 : ℕ) : ℤ) = max 0 (min ⌊(m : ℚ) * 2 ^ e⌋ 255)
      omega
    | negative =>
      have hfloor : 0 ≤ ⌊(m : ℚ) * 2 ^ e⌋ := Int.floor_nonneg.2 hpos.le
      have hneg : ⌊-((m : ℚ) * 2 ^ e)⌋ < 0 := Int.floor_lt.2 (by push_cast; linarith)
      show ((min (-⌊(m : ℚ) * 2 ^ e⌋).toNat 255 : ℕ) : ℤ) = max 0 (min ⌊-((m : ℚ) * 2 ^ e)⌋ 255)
      omega

/-! ## 4. Sixteenths -/

section Sixteenths

variable {f g : Float} {m n : ℤ} {r : ℚ}

/-- Four binary places are far from the last one as long as the number is not too large. -/
theorem RoundsTo.eq_sixteenths (h : RoundsTo (n / 16) r) (hn : n.natAbs < 2 ^ 53) : r = n / 16 := by
  have hdigits : (n : ℚ) / 16 = n * 2 ^ (-4 : ℤ) := by
    rw [div_eq_mul_inv]
    norm_num
  exact h.eq_of_digits hdigits hn (by decide)

theorem sixteenths_lt_ceiling (hn : n.natAbs < 2 ^ 53) : |(n : ℚ) / 16| < ceiling := by
  have hbounds : -2 ^ 53 < n ∧ n < 2 ^ 53 := by omega
  obtain ⟨hlow, hhigh⟩ : -2 ^ 53 < (n : ℚ) ∧ (n : ℚ) < 2 ^ 53 := by exact_mod_cast hbounds
  exact lt_ceiling (abs_le.2 ⟨by linarith, by linarith⟩)

theorem Denotes.add_sixteenths (hf : Denotes f (m / 16)) (hg : Denotes g (n / 16))
    (h : (m + n).natAbs < 2 ^ 53) : Denotes (f + g) ((m + n : ℤ) / 16) := by
  have hsum : (m : ℚ) / 16 + n / 16 = (m + n : ℤ) / 16 := by
    rw [Int.cast_add, add_div]
  obtain ⟨r, hr, hrounds⟩ := hf.add hg (hsum ▸ sixteenths_lt_ceiling h)
  rw [hsum] at hrounds
  rwa [hrounds.eq_sixteenths h] at hr

theorem Denotes.mul_sixteenths (hf : Denotes f (m / 16)) (hg : Denotes g n)
    (h : (m * n).natAbs < 2 ^ 53) : Denotes (f * g) ((m * n : ℤ) / 16) := by
  have hprod : (m : ℚ) / 16 * n = (m * n : ℤ) / 16 := by
    rw [Int.cast_mul, div_mul_eq_mul_div]
  obtain ⟨r, hr, hrounds⟩ := hf.mul hg (hprod ▸ sixteenths_lt_ceiling h)
  rw [hprod] at hrounds
  rwa [hrounds.eq_sixteenths h] at hr

end Sixteenths

/-! ## 5. Computations of several steps -/

/-- What one operation loses on numbers of three places before the point, at most. -/
def grain : ℚ := 2 ^ (-44 : ℤ)

/-- The float is a finite number that is at most `δ` away from `x`. -/
def Near (f : Float) (x δ : ℚ) : Prop :=
  ∃ r, Denotes f r ∧ |r - x| ≤ δ

theorem Denotes.near {f : Float} {x : ℚ} (h : Denotes f x) : Near f x 0 :=
  ⟨x, h, by rw [sub_self, abs_zero]⟩

section Error

variable {x z δ : ℚ}

theorem abs_le_of_error (hx : |z - x| ≤ δ) : |z| ≤ |x| + δ := by
  linarith [abs_sub_abs_le_abs_sub z x]

theorem lt_ceiling_of_error (hx : |z - x| ≤ δ) (hsize : |x| + δ ≤ 512) : |z| < ceiling :=
  lt_ceiling (((abs_le_of_error hx).trans hsize).trans (by norm_num))

theorem near_of_roundsTo {f : Float} {r : ℚ} (hr : Denotes f r) (hz : RoundsTo z r)
    (hx : |z - x| ≤ δ) (hsize : |x| + δ ≤ 512) : Near f x (δ + grain) := by
  -- what is rounded is at most 512, of which `grain` is the 2 ^ 53rd part
  have hlarge := (abs_le_of_error hx).trans hsize
  have hstep : |r - z| ≤ grain :=
    calc |r - z|
      _ ≤ 2 ^ (-53 : ℤ) * max 1 |z| := hz.abs_sub_le
      _ ≤ 2 ^ (-53 : ℤ) * 512 :=
        mul_le_mul_of_nonneg_left (max_le (by norm_num) hlarge) (by positivity)
      _ = grain := by norm_num [grain]
  refine ⟨r, hr, ?_⟩
  linarith [abs_sub_le r z x]

end Error

namespace Near

variable {f g : Float} {x y δ ε : ℚ}

theorem mono (h : Near f x δ) (hδ : δ ≤ ε) : Near f x ε := by
  obtain ⟨r, hr, herror⟩ := h
  exact ⟨r, hr, herror.trans hδ⟩

theorem add (hf : Near f x δ) (hg : Near g y ε) (hsize : |x + y| + (δ + ε) ≤ 512) :
    Near (f + g) (x + y) (δ + ε + grain) := by
  obtain ⟨r, hr, hx⟩ := hf
  obtain ⟨s, hs, hy⟩ := hg
  have herror : |r + s - (x + y)| ≤ δ + ε := by
    rw [add_sub_add_comm]
    exact (abs_add_le _ _).trans (add_le_add hx hy)
  obtain ⟨z, hz, hrounds⟩ := hr.add hs (lt_ceiling_of_error herror hsize)
  exact near_of_roundsTo hz hrounds herror hsize

theorem sub (hf : Near f x δ) (hg : Near g y ε) (hsize : |x - y| + (δ + ε) ≤ 512) :
    Near (f - g) (x - y) (δ + ε + grain) := by
  obtain ⟨r, hr, hx⟩ := hf
  obtain ⟨s, hs, hy⟩ := hg
  have herror : |r - s - (x - y)| ≤ δ + ε := by
    rw [sub_sub_sub_comm]
    exact (abs_sub _ _).trans (add_le_add hx hy)
  obtain ⟨z, hz, hrounds⟩ := hr.sub hs (lt_ceiling_of_error herror hsize)
  exact near_of_roundsTo hz hrounds herror hsize

theorem mul {a b : ℚ} (hf : Near f x δ) (hg : Near g y ε) (ha : |x| ≤ a) (hb : |y| ≤ b)
    (hsize : a * b + (δ * (b + ε) + a * ε) ≤ 512) :
    Near (f * g) (x * y) (δ * (b + ε) + a * ε + grain) := by
  obtain ⟨r, hr, hx⟩ := hf
  obtain ⟨s, hs, hy⟩ := hg
  have hs' : |s| ≤ b + ε := by linarith [abs_le_of_error hy]
  have herror : |r * s - x * y| ≤ δ * (b + ε) + a * ε := by
    -- the first error counts with the second factor as it was computed, the second with `x`
    have hsplit : r * s - x * y = (r - x) * s + x * (s - y) := by ring
    rw [hsplit]
    refine (abs_add_le _ _).trans ?_
    rw [abs_mul, abs_mul]
    have hnonneg := (abs_nonneg (r - x)).trans hx
    have hnonneg' := (abs_nonneg x).trans ha
    exact add_le_add (mul_le_mul hx hs' (abs_nonneg _) hnonneg)
      (mul_le_mul ha hy (abs_nonneg _) hnonneg')
  have hprod : |x * y| ≤ a * b := by
    rw [abs_mul]
    exact mul_le_mul ha hb (abs_nonneg _) ((abs_nonneg x).trans ha)
  have hsize' : |x * y| + (δ * (b + ε) + a * ε) ≤ 512 := by linarith
  obtain ⟨z, hz, hrounds⟩ := hr.mul hs (lt_ceiling_of_error herror hsize')
  exact near_of_roundsTo hz hrounds herror hsize'

theorem div {b q : ℚ} (hf : Near f x δ) (hg : Near g y ε) (hb : 0 < b) (hy : b + ε ≤ |y|)
    (hq : |x / y| ≤ q) (hsize : q + (δ + q * ε) / b ≤ 512) :
    Near (f / g) (x / y) ((δ + q * ε) / b + grain) := by
  obtain ⟨r, hr, hx⟩ := hf
  obtain ⟨s, hs, hy'⟩ := hg
  have hs' : b ≤ |s| := by
    rw [abs_sub_comm] at hy'
    linarith [abs_sub_abs_le_abs_sub y s]
  have hs₀ : s ≠ 0 := abs_pos.1 (hb.trans_le hs')
  have hy₀ : y ≠ 0 := abs_pos.1 (by linarith [(abs_nonneg (s - y)).trans hy'])
  have herror : |r / s - x / y| ≤ (δ + q * ε) / b := by
    -- the second error counts with the exact quotient, and both over the divisor as it was computed
    have hsplit : r / s - x / y = (r - x - x / y * (s - y)) / s := by
      field_simp
      ring
    have hover : |r - x - x / y * (s - y)| ≤ δ + q * ε := by
      refine (abs_sub _ _).trans (add_le_add hx ?_)
      rw [abs_mul]
      exact mul_le_mul hq hy' (abs_nonneg _) ((abs_nonneg _).trans hq)
    rw [hsplit, abs_div]
    exact div_le_div₀ ((abs_nonneg _).trans hover) hover hb hs'
  have hsize' : |x / y| + (δ + q * ε) / b ≤ 512 := by linarith
  obtain ⟨z, hz, hrounds⟩ := hr.div hs hs₀ (lt_ceiling_of_error herror hsize')
  exact near_of_roundsTo hz hrounds herror hsize'

end Near

end Binary64

end RasterScript
