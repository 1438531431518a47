import RasterScript.Pixel.Channel
import RasterScript.Proofs.Binary64.Floats

/-!
# Channels — bytes from numbers

What rounding to a channel does to numbers that are known exactly, in sixteenths, and to numbers
that are known up to a small error.
-/

namespace RasterScript

open Binary64

/-- Sixteenths are rounded to the nearest byte, halves going up. -/
theorem toNat_roundChannel_sixteenths {v : Float} {n : ℤ} (hv : Denotes v (n / 16))
    (hn : n.natAbs < 2 ^ 52) :
    ((roundChannel v).toNat : ℤ) = max 0 (min ((n + 8) / 16) 255) := by
  have hhalf : Denotes 0.5 ((8 : ℤ) / 16) := by decide +kernel
  have hsum := hv.add_sixteenths hhalf (by omega)
  have hfloor : ⌊((n + 8 : ℤ) : ℚ) / (16 : ℕ)⌋ = (n + 8) / 16 := Rat.floor_intCast_div_natCast _ _
  rw [← hfloor]
  exact hsum.toNat_toUInt8

/-- A small error does not take a number below a byte that it reaches. -/
theorem le_roundChannel {v : Float} {x δ : ℚ} (hv : Near v x δ) {b : UInt8} (hb : (b.toNat : ℚ) ≤ x)
    (hx : x ≤ 511) (hδ : δ + grain ≤ 1 / 2) : b ≤ roundChannel v := by
  have hbyte := b.toNat_lt
  have hpos : (0 : ℚ) ≤ b.toNat := Nat.cast_nonneg _
  have hgrain : 0 < grain := by unfold grain; positivity
  have hsize : |x + 1 / 2| + (δ + 0) ≤ 512 := by
    rw [abs_of_nonneg (by linarith)]
    linarith
  obtain ⟨r, hr, herror⟩ := hv.add denotes_half.near hsize
  have hfloor : (b.toNat : ℤ) ≤ ⌊r⌋ := by
    rw [Int.le_floor, Int.cast_natCast]
    linarith [(abs_le.1 herror).1]
  have hround : ((roundChannel v).toNat : ℤ) = max 0 (min ⌊r⌋ 255) := hr.toNat_toUInt8
  rw [UInt8.le_iff_toNat_le]
  omega

/-- A byte comes back from a number that is less than a half away from it. -/
theorem roundChannel_eq {v : Float} {b : UInt8} {δ : ℚ} (hv : Near v b.toNat δ)
    (hδ : δ + grain < 1 / 2) : roundChannel v = b := by
  have hbyte := b.toNat_lt
  have hle := byte_le b
  have hpos : (0 : ℚ) ≤ b.toNat := Nat.cast_nonneg _
  have hgrain : 0 < grain := by unfold grain; positivity
  have hsize : |(b.toNat : ℚ) + 1 / 2| + (δ + 0) ≤ 512 := by
    rw [abs_of_nonneg (by linarith)]
    linarith
  obtain ⟨r, hr, herror⟩ := hv.add denotes_half.near hsize
  obtain ⟨hlow, hhigh⟩ := abs_le.1 herror
  have hfloor : ⌊r⌋ = b.toNat := by
    rw [Int.floor_eq_iff, Int.cast_natCast]
    constructor <;> linarith
  have hround : ((roundChannel v).toNat : ℤ) = max 0 (min ⌊r⌋ 255) := hr.toNat_toUInt8
  rw [hfloor] at hround
  apply UInt8.toNat_inj.1
  omega

end RasterScript
