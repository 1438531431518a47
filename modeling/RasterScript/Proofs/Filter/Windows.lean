import Mathlib.Data.List.Basic
import RasterScript.Proofs.Filter.Tables

/-!
# Windows — what a filtered pixel depends on

The window of a pixel is the square of the kernel's radius around it, with nothing but transparent
pixels outside the picture.  A filtered pixel is a function of its window in the picture as it was:
two pixels with the same window come out the same, in whatever pictures and at whatever places they
are (`Kernel.convolve_eq_of_sameWindow`).
-/

namespace RasterScript

namespace Kernel

variable {k : Kernel}

/-! ## 1. The offsets of a window -/

theorem toInt_neg_reach (k : Kernel) : (-k.reach).toInt = -(k.radius.toNat : Int) := by
  have hr := k.radius_lt
  rw [Int64.toInt_neg, toInt_reach]
  exact Int.bmod_eq_of_le (by omega) (by omega)

theorem toInt_neg_reach_add {i : Nat} (hi : i ≤ 2 * k.radius.toNat) :
    (-k.reach + Int64.ofNat i).toInt = i - k.radius.toNat := by
  have hr := k.radius_lt
  rw [Int64.toInt_add, toInt_neg_reach, Int64.toInt_ofNat_of_lt (by omega),
    Int.bmod_eq_of_le (by omega) (by omega)]
  omega

theorem offsets_eq (k : Kernel) :
    k.offsets = (List.range (2 * k.radius.toNat + 1)).map fun i => -k.reach + Int64.ofNat i := by
  have hcount : (k.reach.toInt - (-k.reach).toInt + 1).toNat = 2 * k.radius.toNat + 1 := by
    rw [toInt_neg_reach, toInt_reach]
    omega
  rw [← hcount]
  rfl

/-- A window reaches as far as the radius, and no farther. -/
theorem mem_offsets {d : Int64} : d ∈ k.offsets ↔ k.Within d.toInt := by
  unfold Within
  rw [offsets_eq, List.mem_map]
  constructor
  · rintro ⟨i, hi, rfl⟩
    have hlast := List.mem_range.1 hi
    rw [toInt_neg_reach_add (by omega)]
    omega
  · intro hd
    refine ⟨(d.toInt + k.radius.toNat).toNat, List.mem_range.2 (by omega), ?_⟩
    apply Int64.toInt_inj.1
    rw [toInt_neg_reach_add (by omega)]
    omega

theorem natAbs_le_of_mem_offsets {d : Int64} (hd : d ∈ k.offsets) :
    d.toInt.natAbs ≤ UInt32.size := by
  have hwithin := mem_offsets.1 hd
  have hr := k.radius_lt
  unfold Within at hwithin
  unfold UInt32.size
  omega

theorem ne_leastOffset_of_mem_offsets {d : Int64} (hd : d ∈ k.offsets) : d ≠ leastOffset := by
  have hsmall := natAbs_le_of_mem_offsets hd
  rintro rfl
  unfold UInt32.size at hsmall
  rw [Int64.toInt_minValue] at hsmall
  omega

/-- Every weight that a window asks for is in the table. -/
theorem exists_weight_of_mem_offsets {dx dy : Int64} (hx : dx ∈ k.offsets) (hy : dy ∈ k.offsets) :
    ∃ w, k.weight dx dy = .ok w ∧ k.value? dx.toInt dy.toInt = some w := by
  apply exists_weight
  simp [ne_leastOffset_of_mem_offsets hx, ne_leastOffset_of_mem_offsets hy]

/-- No step that a window asks for stops. -/
theorem step_of_mem_offsets {e : Extent} (p : Position e) {dx dy : Int64} (hx : dx ∈ k.offsets)
    (hy : dy ∈ k.offsets) : p.step dx dy = .ok (p.offset? dx.toInt dy.toInt) :=
  p.step_of_small (natAbs_le_of_mem_offsets hx) (natAbs_le_of_mem_offsets hy)

/-! ## 2. Sums over windows -/

/-- A sum looks at nothing outside the window. -/
theorem windowSum_congr {s t : Int64 → Int64 → UInt8}
    (h : ∀ dx ∈ k.offsets, ∀ dy ∈ k.offsets, s dx dy = t dx dy) :
    k.windowSum s = k.windowSum t := by
  unfold windowSum
  apply List.foldl_ext
  intro sum dy hy
  apply List.foldl_ext
  intro row dx hx
  unfold addShare
  rw [h dx hx dy hy]

/-- The pixels around `p` in `g` are those around `q` in `h`. -/
def SameWindow (k : Kernel) (g : Grid) (p : Position g.extent) (h : Grid)
    (q : Position h.extent) : Prop :=
  ∀ dx dy : Int, k.Within dx → k.Within dy →
    Node.color g (p.offset? dx dy) = Node.color h (q.offset? dx dy)

section SameWindow

variable {g h : Grid} {p : Position g.extent} {q : Position h.extent}

theorem offset?_zero {e : Extent} (p : Position e) : p.offset? 0 0 = some p := by
  rw [Position.offset?_eq_some]
  omega

theorem SameWindow.get_eq (hsame : k.SameWindow g p h q) : g.get p = h.get q := by
  have hcentre : k.Within 0 := Nat.zero_le _
  have hcolor := hsame 0 0 hcentre hcentre
  rw [offset?_zero, offset?_zero] at hcolor
  exact hcolor

theorem SameWindow.windowSum_eq (hsame : k.SameWindow g p h q) (c : Channel) :
    k.windowSum (sampleAt g p c) = k.windowSum (sampleAt h q c) := by
  apply windowSum_congr
  intro dx hx dy hy
  unfold sampleAt
  rw [hsame dx.toInt dy.toInt (mem_offsets.1 hx) (mem_offsets.1 hy)]

/-- Filtering gives pixels with the same window the same colour and opacity. -/
theorem SameWindow.get_convolve_eq (hsame : k.SameWindow g p h q) :
    (k.convolve g).get p = (k.convolve h).get q := by
  have hchannels : (fun c => roundChannel (k.windowSum (sampleAt g p c))) =
      fun c => roundChannel (k.windowSum (sampleAt h q c)) := by
    funext c
    rw [hsame.windowSum_eq c]
  rw [get_convolve, get_convolve, hchannels, hsame.get_eq]

end SameWindow

/-! ## 3. Filtering -/

/-- Filtering finds all the weights and all the pixels that it asks for, whatever the weights are,
and never stops.  It keeps the size of a picture and the opacity of every pixel, and each pixel
depends on its window in the picture as it was and on nothing else. -/
theorem convolve_eq_of_sameWindow (k : Kernel) :
    (∀ dx ∈ k.offsets, ∀ dy ∈ k.offsets,
      (∃ w, k.weight dx dy = .ok w ∧ k.value? dx.toInt dy.toInt = some w) ∧
      ∀ e (p : Position e), p.step dx dy = .ok (p.offset? dx.toInt dy.toInt)) ∧
    (∀ g, (k.convolve g).extent = g.extent ∧
      ∀ p : Position g.extent, ((k.convolve g).get p).opacity = (g.get p).opacity) ∧
    ∀ g h (p : Position g.extent) (q : Position h.extent), k.SameWindow g p h q →
      (k.convolve g).get p = (k.convolve h).get q := by
  refine ⟨fun dx hx dy hy => ⟨exists_weight_of_mem_offsets hx hy, fun e p => ?_⟩,
    fun g => ⟨rfl, fun p => ?_⟩, fun g h p q hsame => hsame.get_convolve_eq⟩
  · exact step_of_mem_offsets p hx hy
  · rw [get_convolve]
    rfl

/-- Weights that are no numbers or not finite among others. -/
def wildKernel : Kernel :=
  ⟨"wild", 1, #[0 / 0, 1 / 0, 0, -1 / 0, 1, 1 / 4, 0, 0 / 0, -1], tableSize_one⟩

/-- A row of pixels, with `n` white ones before the last. -/
def whiteRow (n : Fin 8) (last : Pixel) : Grid :=
  have harea : (n.val + 1) * 1 ≤ maxPixels := by
    unfold maxPixels
    omega
  Grid.build ⟨n.val + 1, 1, Nat.succ_pos n, Nat.one_pos, harea⟩ fun p =>
    if p.x = n then last else .white

def shortRow : Grid := whiteRow 2 .transparent

def longRow : Grid := whiteRow 4 (.solid 1 2 3)

/-- Two rows of different lengths and ends, filtered, have the same first pixel. -/
theorem convolve_eq_of_sameWindow_rows :
    wildKernel.SameWindow shortRow ⟨0, 0, by decide, by decide⟩ longRow
      ⟨0, 0, by decide, by decide⟩ ∧
    (wildKernel.convolve shortRow).get ⟨0, 0, by decide, by decide⟩ =
      (wildKernel.convolve longRow).get ⟨0, 0, by decide, by decide⟩ ∧
    ((wildKernel.convolve shortRow).get ⟨0, 0, by decide, by decide⟩).opacity = 255 := by
  have hsame : wildKernel.SameWindow shortRow ⟨0, 0, by decide, by decide⟩ longRow
      ⟨0, 0, by decide, by decide⟩ := by
    have hradius : wildKernel.radius.toNat = 1 := rfl
    intro dx dy hx hy
    unfold Within at hx hy
    have hdx : dx = -1 ∨ dx = 0 ∨ dx = 1 := by omega
    have hdy : dy = -1 ∨ dy = 0 ∨ dy = 1 := by omega
    rcases hdx with rfl | rfl | rfl <;> rcases hdy with rfl | rfl | rfl <;> rfl
  obtain ⟨-, hkept, hwindows⟩ := convolve_eq_of_sameWindow wildKernel
  exact ⟨hsame, hwindows shortRow longRow _ _ hsame, (hkept shortRow).2 _⟩

end Kernel

end RasterScript
