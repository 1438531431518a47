import RasterScript.Pixel.Composite
import RasterScript.Proofs.Pixel.Channels

/-!
# Composition — what binary64 does not spoil

Laying a pixel onto another gives at least the opacity of either.  Exactly, that follows from the
formula for the joint coverage; what binary64 loses in computing it is far less than half a step of
the opacity, so it still holds after rounding to a byte (`Pixel.opacity_le_composite`).

A colour channel is, exactly, a mean of the two channels with the coverages as weights.  Computing
it takes a division by the joint coverage, which is at least the 255th part of the whole, so what is
lost stays far below half a step here too.  On the empty ground the mean is the channel of the pixel
on top, and it comes back unchanged (`Pixel.composite_transparent`).
-/

namespace RasterScript

open Binary64

/-- An opacity as a part of the whole. -/
def portion (opacity : UInt8) : ℚ := opacity.toNat / 255

theorem portion_nonneg (o : UInt8) : 0 ≤ portion o := by
  unfold portion
  positivity

theorem portion_le_one (o : UInt8) : portion o ≤ 1 := by
  unfold portion
  linarith [byte_le o]

theorem portion_mul_full (o : UInt8) : portion o * 255 = o.toNat := by
  unfold portion
  ring

theorem abs_portion_le_one (o : UInt8) : |portion o| ≤ 1 := by
  rw [abs_of_nonneg (portion_nonneg o)]
  exact portion_le_one o

theorem coverage_near (o : UInt8) : Near (coverage o) (portion o) grain := by
  have hsize := abs_portion_le_one o
  obtain ⟨r, hr, hrounds⟩ := (denotes_toFloat o).div denotes_255 (by norm_num)
    (lt_ceiling (hsize.trans (by norm_num)))
  have hexact : |o.toNat / 255 - portion o| ≤ 0 := by
    unfold portion
    rw [sub_self, abs_zero]
  exact (near_of_roundsTo hr hrounds hexact (by linarith)).mono (by rw [zero_add])

theorem abs_one_sub_portion_le_one (o : UInt8) : |1 - portion o| ≤ 1 :=
  abs_le.2 ⟨by linarith [portion_le_one o], by linarith [portion_nonneg o]⟩

/-- What is seen through a pixel. -/
theorem seen_near (o : UInt8) : Near (1 - coverage o) (1 - portion o) (2 * grain) := by
  have hseen := abs_one_sub_portion_le_one o
  have hsub := denotes_one.near.sub (coverage_near o) (by norm_num [grain]; linarith)
  exact hsub.mono (by norm_num [grain])

/-- A colour of a pixel, weighted by how much the pixel covers. -/
theorem weighted_near (b o : UInt8) :
    Near (b.toFloat * coverage o) (b.toNat * portion o) (256 * grain) := by
  have hmul := (denotes_toFloat b).near.mul (coverage_near o) (abs_byte_le b)
    (abs_portion_le_one o) (by norm_num [grain])
  exact hmul.mono (by norm_num [grain])

namespace Pixel

variable (base top : Pixel)

/-- The coverage of one pixel over another, exactly. -/
def jointPortion : ℚ := portion top.opacity + portion base.opacity * (1 - portion top.opacity)

theorem portion_base_le : portion base.opacity ≤ jointPortion base top := by
  unfold jointPortion
  nlinarith [mul_nonneg (portion_nonneg top.opacity) (sub_nonneg.2 (portion_le_one base.opacity))]

theorem portion_top_le : portion top.opacity ≤ jointPortion base top := by
  unfold jointPortion
  nlinarith [mul_nonneg (portion_nonneg base.opacity) (sub_nonneg.2 (portion_le_one top.opacity))]

theorem jointPortion_le_one : jointPortion base top ≤ 1 := by
  unfold jointPortion
  nlinarith [mul_nonneg (sub_nonneg.2 (portion_le_one base.opacity))
    (sub_nonneg.2 (portion_le_one top.opacity))]

theorem abs_jointPortion_le_one : |jointPortion base top| ≤ 1 := by
  rw [abs_of_nonneg ((portion_nonneg _).trans (portion_top_le base top))]
  exact jointPortion_le_one base top

/-- Three operations compute the joint coverage from the two coverages. -/
theorem jointCoverage_near : Near (jointCoverage base top) (jointPortion base top) (8 * grain) := by
  have hjoint := abs_jointPortion_le_one base top
  have hmul := (coverage_near base.opacity).mul (seen_near top.opacity)
    (abs_portion_le_one base.opacity) (abs_one_sub_portion_le_one top.opacity) (by norm_num [grain])
  have hadd := (coverage_near top.opacity).add hmul (by
    rw [← jointPortion]
    norm_num [grain]
    linarith)
  exact hadd.mono (by norm_num [grain])

theorem opacity_near :
    Near (jointCoverage base top * 255) (jointPortion base top * 255) (1 / 4) := by
  have hmul := (jointCoverage_near base top).mul denotes_255.near (abs_jointPortion_le_one base top)
    (b := 255) (by norm_num) (by norm_num [grain])
  exact hmul.mono (by norm_num [grain])

/-- A pixel that is laid onto another and the one below it: neither has a greater opacity than the
result. -/
theorem opacity_le_composite :
    base.opacity ≤ (composite base top).opacity ∧ top.opacity ≤ (composite base top).opacity := by
  by_cases hzero : top.opacity = 0
  · rw [composite_of_opacity_eq_zero hzero, hzero]
    exact ⟨UInt8.le_refl _, UInt8.zero_le⟩
  by_cases hfull : top.opacity = 255
  · rw [composite_of_opacity_eq_full hfull, hfull]
    exact ⟨UInt8.le_iff_toNat_le.2 (Nat.lt_succ_iff.1 base.opacity.toNat_lt), UInt8.le_refl _⟩
  -- between the two ends the joint coverage is computed, and it reaches both portions
  have hopacity : (composite base top).opacity = roundChannel (jointCoverage base top * 255) := by
    unfold composite
    rw [if_neg hzero, if_neg hfull]
    rfl
  have hreach : ∀ o, portion o ≤ jointPortion base top →
      o ≤ roundChannel (jointCoverage base top * 255) := by
    intro o ho
    apply le_roundChannel (opacity_near base top)
    · rw [← portion_mul_full]
      linarith
    · linarith [jointPortion_le_one base top]
    · norm_num [grain]
  rw [hopacity]
  exact ⟨hreach _ (portion_base_le base top), hreach _ (portion_top_le base top)⟩

/-- A colour channel of one pixel over another times the coverage, exactly. -/
def jointShare (c : Channel) : ℚ :=
  (top.get c).toNat * portion top.opacity +
    (base.get c).toNat * portion base.opacity * (1 - portion top.opacity)

/-- A colour channel of one pixel over another, exactly. -/
def jointMean (c : Channel) : ℚ := jointShare base top c / jointPortion base top

theorem jointShare_le (c : Channel) : jointShare base top c ≤ 255 * jointPortion base top := by
  have htop := portion_nonneg top.opacity
  have hbase : 0 ≤ portion base.opacity * (1 - portion top.opacity) :=
    mul_nonneg (portion_nonneg _) (sub_nonneg.2 (portion_le_one _))
  unfold jointShare jointPortion
  rw [mul_assoc, mul_add]
  exact add_le_add (mul_le_mul_of_nonneg_right (byte_le _) htop)
    (mul_le_mul_of_nonneg_right (byte_le _) hbase)

theorem jointShare_nonneg (c : Channel) : 0 ≤ jointShare base top c := by
  have htop := portion_nonneg top.opacity
  have hbase := portion_nonneg base.opacity
  have hseen := sub_nonneg.2 (portion_le_one top.opacity)
  unfold jointShare
  positivity

theorem jointShare_near (c : Channel) :
    Near ((top.get c).toFloat * coverage top.opacity +
      (base.get c).toFloat * coverage base.opacity * (1 - coverage top.opacity))
      (jointShare base top c) (1100 * grain) := by
  have hbase : |((base.get c).toNat : ℚ) * portion base.opacity| ≤ 255 := by
    rw [abs_mul]
    nlinarith [abs_byte_le (base.get c), abs_portion_le_one base.opacity,
      abs_nonneg ((base.get c).toNat : ℚ)]
  have hmul := (weighted_near (base.get c) base.opacity).mul (seen_near top.opacity) hbase
    (abs_one_sub_portion_le_one top.opacity) (by norm_num [grain])
  have hadd := (weighted_near (top.get c) top.opacity).add hmul (by
    rw [← jointShare, abs_of_nonneg (jointShare_nonneg base top c)]
    have hle := jointShare_le base top c
    have hone := jointPortion_le_one base top
    norm_num [grain]
    linarith)
  exact hadd.mono (by norm_num [grain])

/-- A pixel that is not clear covers at least one 255th of what is behind it. -/
theorem one_le_jointPortion {top : Pixel} (h : top.opacity ≠ 0) :
    1 / 255 ≤ jointPortion base top := by
  have hpos : (1 : ℚ) ≤ top.opacity.toNat := by
    exact_mod_cast Nat.pos_of_ne_zero fun hzero => h (UInt8.toNat_inj.1 hzero)
  have htop := portion_top_le base top
  unfold portion at htop
  linarith

/-- The division that ends the computation of a channel loses less than half a step. -/
theorem jointMean_near {top : Pixel} (h : top.opacity ≠ 0) (c : Channel) :
    Near (((top.get c).toFloat * coverage top.opacity +
      (base.get c).toFloat * coverage base.opacity * (1 - coverage top.opacity)) /
        jointCoverage base top) (jointMean base top c) (1 / 4) := by
  have hportion := one_le_jointPortion base h
  have hpos : 0 < jointPortion base top := by linarith
  have hmean : |jointShare base top c / jointPortion base top| ≤ 255 := by
    rw [abs_of_nonneg (div_nonneg (jointShare_nonneg base top c) hpos.le), div_le_iff₀ hpos]
    exact jointShare_le base top c
  have hfar : 1 / 256 + 8 * grain ≤ |jointPortion base top| := by
    rw [abs_of_pos hpos]
    refine le_trans ?_ hportion
    norm_num [grain]
  have hdiv := (jointShare_near base top c).div (jointCoverage_near base top) (by norm_num) hfar
    hmean (by norm_num [grain])
  exact hdiv.mono (by norm_num [grain])

/-- Of a pixel on the empty ground nothing is lost, unless it is clear: then nothing is left. -/
theorem composite_transparent :
    composite .transparent top = if top.opacity = 0 then .transparent else top := by
  by_cases hzero : top.opacity = 0
  · rw [composite_of_opacity_eq_zero hzero, if_pos hzero]
  rw [if_neg hzero]
  by_cases hfull : top.opacity = 255
  · exact composite_of_opacity_eq_full hfull
  have hground : portion transparent.opacity = 0 := by norm_num [portion, transparent]
  have hjoint : jointPortion .transparent top = portion top.opacity := by
    rw [jointPortion, hground, zero_mul, add_zero]
  have hpos : portion top.opacity ≠ 0 := by
    have hle := one_le_jointPortion .transparent hzero
    rw [hjoint] at hle
    linarith
  have hmix : mix .transparent top = top.get := by
    funext c
    have hmean : jointMean .transparent top c = (top.get c).toNat := by
      rw [jointMean, jointShare, hjoint, hground, mul_zero, zero_mul, add_zero,
        mul_div_cancel_right₀ _ hpos]
    exact roundChannel_eq (hmean ▸ jointMean_near .transparent hzero c) (by norm_num [grain])
  have hopacity : roundChannel (jointCoverage .transparent top * 255) = top.opacity := by
    have hnear := opacity_near .transparent top
    rw [hjoint, portion_mul_full] at hnear
    exact roundChannel_eq hnear (by norm_num [grain])
  unfold composite
  rw [if_neg hzero, if_neg hfull, hmix, hopacity, ofChannels_get]

end Pixel

end RasterScript
