import Mathlib.Algebra.Order.Field.Power
import Mathlib.Data.Rat.Floor
import Mathlib.Tactic.Linarith
import Mathlib.Tactic.NormNum
import Mathlib.Tactic.Positivity
import Mathlib.Tactic.Ring

/-!
# Rounding — from a number to the nearest one of 53 digits

Binary64 arithmetic computes exactly and then rounds: the mantissa is cut off at a unit, two bits
tell where the rest lies (`Locates`), and the result is packed into 64 bits.  What that does to a
number is `RoundsTo`, and nothing else about binary64 is used by the proofs on colours: a number of
at most 53 digits stays (`RoundsTo.eq_of_digits`), and any other changes by the 53rd digit at most
(`RoundsTo.abs_sub_le`).
-/

namespace RasterScript

namespace Binary64

open Float.Model (Format UnpackedFloat totalExponent)
open Float.Model.UnpackedFloat

/-! ## 1. Mantissas and the bits after them -/

/-- Where a number is that has lost the digits after its mantissa: the round bit says which half of
the unit it is in, and the sticky bit whether it is beyond the beginning of that half. -/
def Locates (em : ExtendedMantissa) (x : ℚ) : Prop :=
  match em.roundBit, em.stickyBit with
  | false, false => x = em.mantissa
  | false, true => em.mantissa < x ∧ x < em.mantissa + 1 / 2
  | true, false => x = em.mantissa + 1 / 2
  | true, true => em.mantissa + 1 / 2 < x ∧ x < em.mantissa + 1

theorem locates_exact (m : ℕ) :
    Locates (ExtendedMantissa.ofMantissaAndAccuracy m .exact) m := rfl

theorem mantissa_ofMantissaAndAccuracy (m : ℕ) (accuracy : Accuracy) :
    (ExtendedMantissa.ofMantissaAndAccuracy m accuracy).mantissa = m := by
  cases accuracy with
  | exact => rfl
  | inexact side => cases side <;> rfl

namespace Locates

variable {em : ExtendedMantissa} {x : ℚ}

theorem bounds (h : Locates em x) : em.mantissa ≤ x ∧ x < em.mantissa + 1 := by
  obtain ⟨m, round, sticky⟩ := em
  cases round <;> cases sticky <;> simp only [Locates] at h <;> constructor <;> linarith

/-- Rounding goes no farther than half a unit. -/
theorem abs_rounded_sub_le (h : Locates em x) : |(em.roundedMantissa : ℚ) - x| ≤ 1 / 2 := by
  obtain ⟨m, round, sticky⟩ := em
  have hparity : ((m % 2 : ℕ) : ℚ) = 0 ∨ ((m % 2 : ℕ) : ℚ) = 1 := by
    rcases Nat.mod_two_eq_zero_or_one m with hm | hm <;> simp [hm]
  rw [abs_le]
  cases round <;> cases sticky <;>
    simp only [Locates, ExtendedMantissa.roundedMantissa, ExtendedMantissa.accuracy,
      Accuracy.roundToNearestEven, Nat.cast_add, Nat.cast_one] at h ⊢
  · constructor <;> linarith
  · constructor <;> linarith
  · -- in the middle the even neighbour is taken, and both are as far
    rcases hparity with hm | hm <;> rw [hm] <;> constructor <;> linarith
  · constructor <;> linarith

theorem shiftRightOne (h : Locates em x) : Locates em.shiftRightOne (x / 2) := by
  obtain ⟨m, round, sticky⟩ := em
  have hhalf : (m : ℚ) = 2 * (m / 2 : ℕ) + (m % 2 : ℕ) := by
    exact_mod_cast (Nat.div_add_mod m 2).symm
  -- the last digit becomes the round bit, and the former round bit joins the sticky one
  rcases Nat.mod_two_eq_zero_or_one m with hm | hm <;> rw [hm] at hhalf <;>
    cases round <;> cases sticky <;>
    simp [Locates, ExtendedMantissa.shiftRightOne, hm] at h ⊢ <;>
    (try constructor) <;> linarith

theorem shiftRight (h : Locates em x) (n : ℕ) : Locates (em >>> n) (x / 2 ^ n) := by
  show Locates (n.repeat ExtendedMantissa.shiftRightOne em) _
  induction n with
  | zero => simpa [Nat.repeat] using h
  | succ n ih =>
    rw [pow_succ, ← div_div]
    exact ih.shiftRightOne

end Locates

/-! ## 2. Nearest numbers -/

/-- The exponent of the smallest positive number. -/
abbrev leastUnit : ℤ := -1074

/-- Half of the numbers' range: nothing below it is rounded to infinity. -/
def ceiling : ℚ := 2 ^ (1023 : ℤ)

theorem lt_ceiling {x : ℚ} (h : x ≤ 2 ^ 64) : x < ceiling := by
  refine h.trans_lt ?_
  rw [← zpow_natCast]
  exact zpow_lt_zpow_right₀ one_lt_two (by decide)

/-- `r` is a multiple of a unit and at most half of it away from `x`, and the unit is the least one
or `x` has 53 digits before its end. -/
def RoundsTo (x r : ℚ) : Prop :=
  ∃ u : ℤ, (u = leastUnit ∨ leastUnit ≤ u ∧ 2 ^ (u + 52) ≤ |x|) ∧
    (∃ n : ℤ, r = n * 2 ^ u) ∧ |r - x| ≤ 2 ^ u / 2

/-- Integers that are not a whole unit apart are equal. -/
theorem int_eq_of_abs_sub_le {m n : ℤ} (h : |(m : ℚ) - n| ≤ 1 / 2) : m = n := by
  have hlt : |((m - n : ℤ) : ℚ)| < 1 := by
    push_cast
    linarith
  have hzero : |m - n| < 1 := by exact_mod_cast hlt
  exact sub_eq_zero.1 (Int.abs_lt_one_iff.1 hzero)

namespace RoundsTo

variable {x r : ℚ}

theorem neg (h : RoundsTo x r) : RoundsTo (-x) (-r) := by
  obtain ⟨u, hu, ⟨n, hn⟩, herror⟩ := h
  refine ⟨u, ?_, ⟨-n, ?_⟩, ?_⟩
  · rwa [abs_neg]
  · rw [hn, Int.cast_neg, neg_mul]
  · rwa [neg_sub_neg, abs_sub_comm]

/-- A number of at most 53 digits is its own nearest number. -/
theorem eq_of_digits (h : RoundsTo x r) {n j : ℤ} (hx : x = n * 2 ^ j) (hn : n.natAbs < 2 ^ 53)
    (hj : leastUnit ≤ j) : r = x := by
  obtain ⟨u, hu, ⟨k, rfl⟩, herror⟩ := h
  have hdigits : |(n : ℚ)| < 2 ^ (53 : ℤ) := by
    rw [← Int.cast_abs, Int.abs_eq_natAbs]
    exact_mod_cast hn
  -- the last digit does not come after the unit
  have huj : u ≤ j := by
    rcases hu with rfl | ⟨-, hu⟩
    · exact hj
    · have hpow : (0 : ℚ) < 2 ^ j := by positivity
      have hlt : (2 : ℚ) ^ (u + 52) < 2 ^ (53 + j) := by
        rw [hx, abs_mul, abs_of_pos hpow] at hu
        rw [zpow_add₀ two_ne_zero 53]
        exact hu.trans_lt (mul_lt_mul_of_pos_right hdigits hpow)
      have hexp := (zpow_lt_zpow_iff_right₀ one_lt_two).1 hlt
      omega
  have hwhole : x = (n * 2 ^ (j - u).toNat : ℤ) * 2 ^ u := by
    have hsum : j = (j - u).toNat + u := by omega
    push_cast
    rw [hx, mul_assoc, ← zpow_natCast, ← zpow_add₀ two_ne_zero, ← hsum]
  -- so both numbers are multiples of the unit, and less than a unit apart
  have hunit : (0 : ℚ) < 2 ^ u := by positivity
  rw [hwhole, ← sub_mul, abs_mul, abs_of_pos hunit] at herror
  have hk : k = n * 2 ^ (j - u).toNat := by
    apply int_eq_of_abs_sub_le
    apply le_of_mul_le_mul_right _ hunit
    linarith
  rw [hwhole, hk]

/-- A number no greater than one changes by half a unit in the 53rd place after the point, and a
greater one in proportion. -/
theorem abs_sub_le (h : RoundsTo x r) : |r - x| ≤ 2 ^ (-53 : ℤ) * max 1 |x| := by
  obtain ⟨u, hu, -, herror⟩ := h
  rcases hu with rfl | ⟨-, hu⟩
  · have hleast : (2 : ℚ) ^ leastUnit ≤ 2 ^ (-53 : ℤ) :=
      zpow_le_zpow_right₀ one_le_two (by decide)
    calc |r - x|
      _ ≤ 2 ^ leastUnit / 2 := herror
      _ ≤ 2 ^ leastUnit := half_le_self (by positivity)
      _ ≤ 2 ^ (-53 : ℤ) * 1 := by rwa [mul_one]
      _ ≤ 2 ^ (-53 : ℤ) * max 1 |x| := mul_le_mul_of_nonneg_left (le_max_left _ _) (by positivity)
  · -- half a unit is the 53rd place after the first digit
    have hhalf : (2 : ℚ) ^ u / 2 = 2 ^ (-53 : ℤ) * 2 ^ (u + 52) := by
      rw [← zpow_add₀ two_ne_zero, div_eq_mul_inv, ← zpow_neg_one, ← zpow_add₀ two_ne_zero]
      congr 1
      omega
    rw [hhalf] at herror
    exact herror.trans (mul_le_mul_of_nonneg_left (hu.trans (le_max_right _ _)) (by positivity))

end RoundsTo

/-! ## 3. Packing -/

/-- A mantissa of at most 53 digits, with all of them unless the exponent is the least one. -/
structure Canonical (m : ℕ) (e : ℤ) : Prop where
  mantissa_lt : m < 2 ^ 53
  least_le : leastUnit ≤ e
  le_most : e ≤ 971
  full : 2 ^ 52 ≤ m ∨ e = leastUnit

@[simp] theorem unpackSign_packComponents (s : Sign) (e : BitVec 11) (m : BitVec 52) :
    unpackSign (packComponents Format.binary64 s e m) = s.toBitVec := by
  show (s.toBitVec ++ e ++ m).extractLsb' 63 1 = s.toBitVec
  rw [BitVec.extractLsb'_append_eq_of_le (by decide),
    BitVec.extractLsb'_append_eq_of_le (by decide)]
  cases s <;> rfl

@[simp] theorem ofBitVec_toBitVec (s : Sign) : Sign.ofBitVec s.toBitVec = s := by
  cases s <;> rfl

/-- The first digit of a full mantissa is not stored. -/
theorem toNat_implicit (m : BitVec 52) : (1#1 ++ m).toNat = 2 ^ 52 + m.toNat := by
  rw [BitVec.toNat_append, ← Nat.shiftLeft_add_eq_or_of_lt m.isLt]
  rfl

theorem ofNat_ne_of_lt {w a b : ℕ} (ha : a < 2 ^ w) (hb : b < 2 ^ w) (h : a ≠ b) :
    BitVec.ofNat w a ≠ BitVec.ofNat w b := fun heq => by
  have hnat := congrArg BitVec.toNat heq
  rw [BitVec.toNat_ofNat, BitVec.toNat_ofNat, Nat.mod_eq_of_lt ha, Nat.mod_eq_of_lt hb] at hnat
  exact h hnat

theorem finite_eq {s : Sign} {m n : ℕ} {e f : ℤ} {hm : 0 < m} {hn : 0 < n} (hmn : m = n)
    (hef : e = f) : UnpackedFloat.finite s m e hm = .finite s n f hn := by
  subst hmn hef
  rfl

theorem unpack_full (s : Sign) {b m : ℕ} (hb : 0 < b) (hb' : b < 2047) (hm : 2 ^ 52 ≤ m)
    (hm' : m < 2 ^ 53) :
    unpack Format.binary64 (packComponents Format.binary64 s (.ofNat _ b) (.ofNat _ m)) =
      .finite s m (b - 1075) (by omega) := by
  have hones : BitVec.ofNat 11 b ≠ -1#11 :=
    ofNat_ne_of_lt (b := 2047) (by omega) (by omega) (by omega)
  have hzero : BitVec.ofNat 11 b ≠ 0#11 := ofNat_ne_of_lt (by omega) (by omega) (by omega)
  have hexp : (BitVec.ofNat 11 b).toNat = b := Nat.mod_eq_of_lt (by omega)
  unfold unpack
  dsimp only
  rw [unpackExponent_packComponents, if_neg hones, if_neg hzero, unpackSign_packComponents,
    ofBitVec_toBitVec, hexp]
  refine finite_eq ?_ rfl
  rw [unpackMantissa_packComponents]
  refine (toNat_implicit _).trans ?_
  rw [BitVec.toNat_ofNat]
  omega

theorem unpack_least (s : Sign) {m : ℕ} (hm : 0 < m) (hm' : m < 2 ^ 52) :
    unpack Format.binary64 (packComponents Format.binary64 s 0#11 (.ofNat _ m)) =
      .finite s m leastUnit hm := by
  have hones : 0#11 ≠ -1#11 := by decide
  have hsome : BitVec.ofNat 52 m ≠ 0#52 := ofNat_ne_of_lt (by omega) (by omega) (by omega)
  unfold unpack
  dsimp only
  rw [unpackExponent_packComponents, if_neg hones, if_pos rfl, unpackSign_packComponents,
    ofBitVec_toBitVec, dif_neg (by rw [unpackMantissa_packComponents]; exact hsome)]
  refine finite_eq ?_ rfl
  rw [unpackMantissa_packComponents]
  exact Nat.mod_eq_of_lt hm'

/-- What is packed in canonical form comes back. -/
theorem unpack_pack {s : Sign} {m : ℕ} {e : ℤ} (hm : 0 < m) (h : Canonical m e) :
    unpack Format.binary64 (pack Format.binary64 (.finite s m e hm)) = .finite s m e hm := by
  obtain ⟨hlt, hleast, hmost, hfull⟩ := h
  unfold leastUnit at hleast
  obtain ⟨b, hb⟩ : ∃ b : ℕ, e + 1023 + 52 = b := ⟨(e + 1023 + 52).toNat, by omega⟩
  -- the exponent is not so large that infinity is packed
  have hroom : ¬ 2 ^ 11 ≤ b + 1 := by omega
  show unpack _ (if 2 ^ 11 ≤ (e + 1023 + 52).toNat + 1 then _ else
    if m.log2 + 1 = 53 then packComponents Format.binary64 s (.ofNat _ (e + 1023 + 52).toNat) _
    else _) = _
  rw [hb, Int.toNat_natCast, if_neg hroom]
  by_cases hnormal : 2 ^ 52 ≤ m
  · have hlog : m.log2 = 52 := (Nat.log2_eq_iff hm.ne').2 ⟨hnormal, hlt⟩
    have hpos : 0 < b := by omega
    have hexp : (b : ℤ) - 1075 = e := by omega
    rw [if_pos (by omega), unpack_full s hpos (by omega) hnormal hlt, hexp]
  · -- a mantissa without its first digit is marked by the exponent 0
    obtain rfl : e = leastUnit := hfull.resolve_left hnormal
    have hlog : m.log2 < 52 := (Nat.log2_lt hm.ne').2 (by omega)
    rw [if_neg (by omega)]
    exact unpack_least s hm (by omega)

/-! ## 4. Finite numbers -/

def signed (s : Sign) (x : ℚ) : ℚ :=
  match s with
  | .negative => -x
  | .positive => x

/-- The finite number that a float in canonical form is. -/
def Stands (f : UnpackedFloat) (x : ℚ) : Prop :=
  match f with
  | .zero _ => x = 0
  | .finite s m e _ => Canonical m e ∧ x = signed s (m * 2 ^ e)
  | _ => False

theorem Stands.unpack_pack {f : UnpackedFloat} {x : ℚ} (h : Stands f x) :
    unpack Format.binary64 (pack Format.binary64 f) = f := by
  cases f with
  | zero s => cases s <;> rfl
  | finite s m e hm => exact Binary64.unpack_pack hm h.1
  | infinity s => cases h
  | notANumber => cases h

theorem RoundsTo.signed {x r : ℚ} (h : RoundsTo x r) (s : Sign) :
    RoundsTo (signed s x) (signed s r) := by
  cases s with
  | negative => exact h.neg
  | positive => exact h

/-! ## 5. Cutting off and rounding -/

/-- Where a mantissa is cut off. -/
def unit (m : ℕ) (e : ℤ) : ℤ :=
  Format.binary64.targetExponent (totalExponent m e)

theorem unit_eq (m : ℕ) (e : ℤ) : unit m e = max (m.log2 + e - 52) leastUnit := by
  show max ((m.log2 : ℤ) + 1 + e - 53) (-1074) = max (m.log2 + e - 52) (-1074)
  omega

/-- A mantissa without its last `k` digits. -/
def shortened (s : Sign) (r : ℕ) (u : ℤ) (k : ℕ) : UnpackedFloat :=
  let em := ExtendedMantissa.ofMantissaAndAccuracy r .exact >>> k
  if h : em.mantissa = 0 then .zero s else .finite s em.mantissa (u + k) (Nat.pos_of_ne_zero h)

/-- The rounded mantissa, with one digit less if rounding has made it too long. -/
def settle (s : Sign) (r : ℕ) (u : ℤ) : UnpackedFloat :=
  shortened s r u (unit r u - u).toNat

theorem roundWithAccuracy_eq (s : Sign) (m : ℕ) (e : ℤ) (accuracy : Accuracy) :
    roundWithAccuracy Format.binary64 s m e accuracy =
      settle s (ExtendedMantissa.ofMantissaAndAccuracy m accuracy >>>
        (unit m e - e).toNat).roundedMantissa (e + (unit m e - e).toNat) := rfl

theorem shortened_zero (s : Sign) {r : ℕ} (u : ℤ) (hr : 0 < r) :
    shortened s r u 0 = .finite s r u hr :=
  (dif_neg hr.ne').trans (finite_eq rfl (Int.add_zero u))

theorem stands_settle (s : Sign) {r : ℕ} {u : ℤ} (hr : r ≤ 2 ^ 53) (hleast : leastUnit ≤ u)
    (hmost : u ≤ 970) (hfull : 2 ^ 52 ≤ r ∨ u = leastUnit) :
    Stands (settle s r u) (signed s (r * 2 ^ u)) := by
  unfold settle
  by_cases hlong : r = 2 ^ 53
  · -- the digit that is taken away is a zero
    subst hlong
    have hunit : (unit (2 ^ 53) u - u).toNat = 1 := by
      rw [unit_eq, Nat.log2_two_pow]
      omega
    have hhalf : shortened s (2 ^ 53) u 1 = .finite s (2 ^ 52) (u + 1) (by decide) := rfl
    rw [hunit, hhalf]
    refine ⟨⟨by norm_num, by omega, by omega, .inl (Nat.le_refl _)⟩, ?_⟩
    rw [zpow_add₀ two_ne_zero]
    push_cast
    ring_nf
  · have hlog : r.log2 ≤ 52 := by
      by_cases hzero : r = 0
      · rw [hzero]
        decide
      · exact Nat.lt_succ_iff.1 ((Nat.log2_lt hzero).2 (by omega))
    have hunit : (unit r u - u).toNat = 0 := by
      rw [unit_eq]
      omega
    rw [hunit]
    rcases Nat.eq_zero_or_pos r with rfl | hpos
    · show signed s ((0 : ℕ) * 2 ^ u) = 0
      cases s <;> simp [signed]
    · rw [shortened_zero s u hpos]
      exact ⟨⟨by omega, hleast, by omega, hfull⟩, rfl⟩

theorem two_zpow_le_of_log2 {m : ℕ} (hm : m ≠ 0) : (2 : ℚ) ^ m.log2 ≤ m := by
  exact_mod_cast Nat.log2_self_le hm

theorem lt_two_zpow_of_log2 (m : ℕ) : (m : ℚ) + 1 ≤ 2 ^ (m.log2 + 1) := by
  exact_mod_cast Nat.lt_log2_self

/-- What a mantissa leaves when it is cut off has at most 53 digits. -/
theorem cut_lt {m k : ℕ} {e : ℤ} {x : ℚ} (hk : unit m e = e + k) (hx : x < m + 1) :
    x / 2 ^ k < (2 ^ 53 : ℕ) := by
  have hmax := unit_eq m e
  have hlog : (2 : ℚ) ^ (m.log2 + 1) ≤ 2 ^ (53 + k) :=
    pow_le_pow_right₀ one_le_two (by omega)
  rw [div_lt_iff₀ (by positivity), Nat.cast_pow, Nat.cast_ofNat, ← pow_add]
  linarith [lt_two_zpow_of_log2 m]

/-- It has all of them above the least unit. -/
theorem le_cut {m k : ℕ} {e : ℤ} {x : ℚ} (hk : unit m e = e + k) (hx : m ≤ x)
    (hleast : e + k ≠ leastUnit) : (2 ^ 52 : ℕ) ≤ x / 2 ^ k := by
  have hmax := unit_eq m e
  have hlog : m.log2 = 52 + k := by omega
  have hm : m ≠ 0 := by
    intro hzero
    rw [hzero, Nat.log2_zero] at hlog
    omega
  have hlow := two_zpow_le_of_log2 hm
  rw [hlog] at hlow
  rw [le_div_iff₀ (by positivity), Nat.cast_pow, Nat.cast_ofNat, ← pow_add]
  exact hlow.trans hx

section Nearest

variable {r n : ℕ} {y : ℚ}

theorem rounded_le (h : |(r : ℚ) - y| ≤ 1 / 2) (hy : y < n) : r ≤ n := by
  have hlt : (r : ℚ) < (n + 1 : ℕ) := by
    push_cast
    linarith [(abs_le.1 h).2]
  exact Nat.lt_succ_iff.1 (by exact_mod_cast hlt)

theorem le_rounded (h : |(r : ℚ) - y| ≤ 1 / 2) (hy : n ≤ y) : n ≤ r := by
  have hlt : (n : ℚ) < (r + 1 : ℕ) := by
    push_cast
    linarith [(abs_le.1 h).1]
  exact Nat.lt_succ_iff.1 (by exact_mod_cast hlt)

end Nearest

/-- Rounding an exact result, of which a mantissa and the bits after it are known, gives the nearest
number, provided that the unit is not beyond these bits and the result is not too large. -/
theorem stands_roundWithAccuracy (s : Sign) {m : ℕ} {e : ℤ} {accuracy : Accuracy} {x : ℚ}
    (hx : Locates (ExtendedMantissa.ofMantissaAndAccuracy m accuracy) x) (hunit : e ≤ unit m e)
    (hroom : x * 2 ^ e < ceiling) :
    ∃ r, Stands (roundWithAccuracy Format.binary64 s m e accuracy) (signed s r) ∧
      RoundsTo (x * 2 ^ e) r := by
  obtain ⟨hmx, hxm⟩ := hx.bounds
  rw [mantissa_ofMantissaAndAccuracy] at hmx hxm
  obtain ⟨k, hk⟩ : ∃ k : ℕ, unit m e = e + k := ⟨(unit m e - e).toNat, by omega⟩
  have hleast : leastUnit ≤ e + k := by
    have := unit_eq m e
    omega
  have hpow : (0 : ℚ) < 2 ^ (e + k) := by positivity
  have hcut : x / 2 ^ k * 2 ^ (e + k) = x * 2 ^ e := by
    rw [zpow_add₀ two_ne_zero, zpow_natCast]
    field_simp
  have herror := (hx.shiftRight k).abs_rounded_sub_le
  generalize hround : (ExtendedMantissa.ofMantissaAndAccuracy m accuracy >>> k).roundedMantissa = r
    at herror
  -- the unit is the least one, or all 53 digits are there
  have hfull : e + k = leastUnit ∨ (2 ^ 52 : ℕ) ≤ x / 2 ^ k :=
    or_iff_not_imp_left.2 (le_cut hk hmx)
  have hlarge : e + k = leastUnit ∨ 2 ^ (e + k + 52) ≤ x * 2 ^ e := by
    refine hfull.imp_right fun hx => ?_
    rw [← hcut, add_comm _ 52, zpow_add₀ two_ne_zero 52]
    exact mul_le_mul_of_nonneg_right (by exact_mod_cast hx) hpow.le
  -- a result below the ceiling leaves room for one digit more
  have hmost : e + k ≤ 970 := by
    rcases hlarge with hleast | hlarge
    · unfold leastUnit at hleast
      omega
    · have hexp := (zpow_lt_zpow_iff_right₀ one_lt_two).1 (hlarge.trans_lt hroom)
      omega
  refine ⟨r * 2 ^ (e + k), ?_, e + k, ?_, ⟨r, by push_cast; rfl⟩, ?_⟩
  · have hk' : (unit m e - e).toNat = k := by omega
    rw [roundWithAccuracy_eq, hk', hround]
    exact stands_settle s (rounded_le herror (cut_lt hk hxm)) hleast hmost
      (hfull.symm.imp_left (le_rounded herror))
  · exact hlarge.imp_right fun hlarge => ⟨hleast, hlarge.trans (le_abs_self _)⟩
  · rw [← hcut, ← sub_mul, abs_mul, abs_of_pos hpow]
    linarith [mul_le_mul_of_nonneg_right herror hpow.le]

end Binary64

end RasterScript
