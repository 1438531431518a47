import Mathlib.Algebra.BigOperators.Ring.Finset
import RasterScript.Proofs.Filter.Windows
import RasterScript.Proofs.Grid.Cells
import RasterScript.Proofs.Pixel.Channels

/-!
# Stencils — filters in whole numbers

The weights of the two filters are sixteenths, and a filter adds up so few of them that binary64
loses nothing.  So a filtered channel is a sum of whole numbers, divided by sixteen and rounded
(`Kernel.Sixteenths.get_convolve`), and each filter is one formula over the cells around a pixel
(`Kernel.blur_and_sharpen`).
-/

namespace RasterScript

open Binary64

/-! ## 1. Levels -/

namespace Grid

variable {g : Grid} {p q : Position g.extent} {c : Channel} {x y dx dy : ℤ}

/-- A channel of the cell in column `x` and row `y`; zero off the picture. -/
def level (g : Grid) (c : Channel) (x y : ℤ) : ℤ :=
  if 0 ≤ x ∧ 0 ≤ y then (g.at? x.toNat y.toNat).elim 0 fun v => (v.get c).toNat else 0

/-- The level of the cell `dx` columns to the right of a place and `dy` rows below it. -/
abbrev levelFrom (g : Grid) (p : Position g.extent) (c : Channel) (dx dy : ℤ) : ℤ :=
  g.level c (p.x + dx) (p.y + dy)

theorem level_bounds (g : Grid) (c : Channel) (x y : ℤ) :
    0 ≤ g.level c x y ∧ g.level c x y ≤ 255 := by
  unfold level
  split
  · cases g.at? x.toNat y.toNat with
    | none => simp
    | some v =>
      have hbyte := (v.get c).toNat_lt
      show (0 : ℤ) ≤ (v.get c).toNat ∧ ((v.get c).toNat : ℤ) ≤ 255
      omega
  · simp

theorem levelFrom_eq_color (g : Grid) (p : Position g.extent) (c : Channel) (dx dy : ℤ) :
    g.levelFrom p c dx dy = ((Node.color g (p.offset? dx dy)).get c).toNat := by
  have hvoid : (Pixel.transparent.get c).toNat = 0 := by cases c <;> rfl
  unfold levelFrom level Position.offset?
  simp only [at?]
  split
  · cases Position.of? g.extent ((p.x : ℤ) + dx).toNat ((p.y : ℤ) + dy).toNat with
    | none => exact (congrArg Nat.cast hvoid).symm
    | some q => rfl
  · exact (congrArg Nat.cast hvoid).symm

end Grid

/-! ## 2. Sums of sixteenths -/

/-- The float is `n` sixteenths, and no more than that many terms of a filter can make up. -/
def Totals (f : Float) (n : ℤ) (terms : ℕ) : Prop :=
  Denotes f (n / 16) ∧ n.natAbs ≤ terms * 4080

namespace Totals

theorem zero : Totals 0 0 0 := by
  refine ⟨?_, by decide⟩
  rw [Int.cast_zero, zero_div]
  exact denotes_zero

/-- One more share of a window, a weight of at most sixteen sixteenths. -/
theorem addShare {k : Kernel} {sample : Int64 → Int64 → UInt8} {dx dy : Int64} {sum : Float}
    {n a : ℤ} {t : ℕ} (h : Totals sum n t) (ht : t + 1 ≤ 2 ^ 39)
    (hw : Denotes (k.windowWeight dx dy) (a / 16)) (ha : a.natAbs ≤ 16) :
    Totals (k.addShare sample dy sum dx) (n + a * (sample dx dy).toNat) (t + 1) := by
  obtain ⟨hsum, hn⟩ := h
  have hterm : (a * (sample dx dy).toNat).natAbs ≤ 4080 := by
    rw [Int.natAbs_mul]
    exact Nat.mul_le_mul ha (Nat.lt_succ_iff.1 (sample dx dy).toNat_lt)
  unfold Kernel.addShare
  refine ⟨?_, by omega⟩
  by_cases hzero : (k.windowWeight dx dy == 0) = true
  · -- a weight of zero is left out
    rw [if_pos hzero]
    have ha' : (a : ℚ) / 16 = 0 := hw.eq_zero_of_beq hzero
    obtain rfl : a = 0 := by simpa using ha'
    rwa [zero_mul, add_zero]
  · rw [if_neg hzero]
    have hsample : Denotes (sample dx dy).toFloat (((sample dx dy).toNat : ℤ) : ℚ) :=
      denotes_toFloat _
    exact hsum.add_sixteenths (hw.mul_sixteenths hsample (by omega)) (by omega)

/-- What holds of one step, a term or a row of `c` terms, holds of all of them. -/
theorem foldl {α : Type} {f : Float → α → Float} {a : α → ℤ} {c : ℕ} {ys : List α}
    (hstep : ∀ y ∈ ys, ∀ {sum n t}, Totals sum n t → t + c ≤ 2 ^ 39 →
      Totals (f sum y) (n + a y) (t + c))
    {sum : Float} {n : ℤ} {t : ℕ} (h : Totals sum n t) (ht : t + ys.length * c ≤ 2 ^ 39) :
    Totals (ys.foldl f sum) (n + (ys.map a).sum) (t + ys.length * c) := by
  induction ys generalizing sum n t with
  | nil => simpa using h
  | cons y ys ih =>
    rw [List.length_cons, Nat.add_one_mul] at ht ⊢
    rw [List.map_cons, List.sum_cons, ← add_assoc, Nat.add_comm (ys.length * c), ← Nat.add_assoc]
    exact ih (fun z hz => hstep z (List.mem_cons_of_mem _ hz))
      (hstep y List.mem_cons_self h (by omega)) (by omega)

end Totals

/-! ## 3. Windows -/

namespace Kernel

variable {k : Kernel} {share : ℤ → ℤ → ℤ}

/-- The numbers that are at most `r` away from zero. -/
def around (r : ℕ) : Finset ℤ := (Finset.range (2 * r + 1)).image fun i : ℕ => (i : ℤ) - r

theorem mem_around {r : ℕ} {d : ℤ} : d ∈ around r ↔ d.natAbs ≤ r := by
  unfold around
  rw [Finset.mem_image]
  constructor
  · rintro ⟨i, hi, rfl⟩
    rw [Finset.mem_range] at hi
    omega
  · intro hd
    exact ⟨(d + r).toNat, Finset.mem_range.2 (by omega), by omega⟩

/-- The distances from the centre that a window covers in a row or a column. -/
def span (k : Kernel) : Finset ℤ := around k.radius.toNat

theorem mem_span {d : ℤ} : d ∈ k.span ↔ k.Within d := mem_around

theorem length_offsets (k : Kernel) : k.offsets.length = 2 * k.radius.toNat + 1 := by
  rw [offsets_eq, List.length_map, List.length_range]

/-- What a window adds up in words is a sum over its span. -/
theorem sum_offsets (k : Kernel) (f : ℤ → ℤ) :
    (k.offsets.map fun d => f d.toInt).sum = ∑ d ∈ k.span, f d := by
  have hlist : (k.offsets.map fun d => f d.toInt) =
      (List.range (2 * k.radius.toNat + 1)).map fun i : ℕ => f (i - k.radius.toNat) := by
    rw [offsets_eq, List.map_map]
    apply List.map_congr_left
    intro i hi
    have hlast := List.mem_range.1 hi
    exact congrArg f (toInt_neg_reach_add (by omega))
  unfold span around
  rw [hlist, Finset.sum_image fun i _ j _ hij => by omega]
  rfl

/-- The sum over a window of what `f` gives for a column and a row. -/
def total (k : Kernel) (f : ℤ → ℤ → ℤ) : ℤ := ∑ dy ∈ k.span, ∑ dx ∈ k.span, f dx dy

/-- The weights of a kernel, which is not too large, are so many sixteenths, and none is greater
than one. -/
structure Sixteenths (k : Kernel) (share : ℤ → ℤ → ℤ) : Prop where
  radius_le : k.radius.toNat ≤ 10000
  denotes : ∀ dx ∈ k.offsets, ∀ dy ∈ k.offsets,
    Denotes (k.windowWeight dx dy) (share dx.toInt dy.toInt / 16)
  share_le : ∀ dx dy, (share dx dy).natAbs ≤ 16

/-- Whether the weights in a window are so many sixteenths. -/
def hasSixteenths (k : Kernel) (share : ℤ → ℤ → ℤ) : Bool :=
  k.offsets.all fun dx => k.offsets.all fun dy =>
    decide (Denotes (k.windowWeight dx dy) (share dx.toInt dy.toInt / 16))

theorem denotes_of_hasSixteenths (h : k.hasSixteenths share = true) :
    ∀ dx ∈ k.offsets, ∀ dy ∈ k.offsets,
      Denotes (k.windowWeight dx dy) (share dx.toInt dy.toInt / 16) := by
  intro dx hdx dy hdy
  exact of_decide_eq_true (List.all_eq_true.1 (List.all_eq_true.1 h dx hdx) dy hdy)

namespace Sixteenths

/-- Nothing is lost in a window. -/
theorem windowSum (h : k.Sixteenths share) {sample : Int64 → Int64 → UInt8} {level : ℤ → ℤ → ℤ}
    (hlevel : ∀ dx dy, ((sample dx dy).toNat : ℤ) = level dx.toInt dy.toInt) :
    ∃ t : ℕ, t ≤ 2 ^ 39 ∧
      Totals (k.windowSum sample) (k.total fun dx dy => share dx dy * level dx dy) t := by
  have hlength : k.offsets.length ≤ 20001 := by
    have := h.radius_le
    rw [length_offsets]
    omega
  -- 2 ^ 39 terms are too few to fill 53 digits, however large the levels are
  have hsquare : k.offsets.length * k.offsets.length ≤ 2 ^ 39 :=
    (Nat.mul_le_mul hlength hlength).trans (by decide)
  have hcell : ∀ dy ∈ k.offsets, ∀ dx ∈ k.offsets, ∀ {sum n t}, Totals sum n t → t + 1 ≤ 2 ^ 39 →
      Totals (k.addShare sample dy sum dx)
        (n + share dx.toInt dy.toInt * level dx.toInt dy.toInt) (t + 1) := by
    intro dy hdy dx hdx sum n t hsum ht
    rw [← hlevel]
    exact hsum.addShare ht (h.denotes dx hdx dy hdy) (h.share_le _ _)
  have hrow : ∀ dy ∈ k.offsets, ∀ {sum n t}, Totals sum n t → t + k.offsets.length ≤ 2 ^ 39 →
      Totals (k.offsets.foldl (k.addShare sample dy) sum)
        (n + ∑ dx ∈ k.span, share dx dy.toInt * level dx dy.toInt) (t + k.offsets.length) := by
    intro dy hdy sum n t hsum ht
    have hcells := hsum.foldl (hcell dy hdy) (by omega)
    rwa [sum_offsets k fun dx => share dx dy.toInt * level dx dy.toInt,
      Nat.mul_one] at hcells
  have hrows := Totals.zero.foldl hrow (by omega)
  rw [sum_offsets k fun dy => ∑ dx ∈ k.span, share dx dy * level dx dy, zero_add] at hrows
  exact ⟨_, by omega, hrows⟩

/-- A filtered channel is the sum of the levels around the pixel, each as often as its weight has
sixteenths, rounded to the nearest byte. -/
theorem get_convolve (h : k.Sixteenths share) (g : Grid) (p : Position g.extent) (c : Channel) :
    ((((k.convolve g).get p).get c).toNat : ℤ) =
      max 0 (min ((k.total (fun dx dy => share dx dy * g.levelFrom p c dx dy) + 8) / 16) 255) := by
  have hlevel : ∀ dx dy, ((sampleAt g p c dx dy).toNat : ℤ) = g.levelFrom p c dx.toInt dy.toInt :=
    fun dx dy => (g.levelFrom_eq_color p c _ _).symm
  obtain ⟨t, ht, hsum, hsize⟩ := h.windowSum hlevel
  rw [Kernel.get_convolve, Pixel.get_ofChannels]
  apply toNat_roundChannel_sixteenths hsum
  omega

end Sixteenths

/-! ## 4. Pictures of one colour -/

theorem total_mul_right (k : Kernel) (f : ℤ → ℤ → ℤ) (v : ℤ) :
    k.total (fun dx dy => f dx dy * v) = k.total f * v := by
  unfold total
  rw [Finset.sum_mul]
  exact Finset.sum_congr rfl fun dy _ => (Finset.sum_mul ..).symm

theorem total_congr {f g : ℤ → ℤ → ℤ} (h : ∀ dx dy, k.Within dx → k.Within dy → f dx dy = g dx dy) :
    k.total f = k.total g :=
  Finset.sum_congr rfl fun dy hdy => Finset.sum_congr rfl fun dx hdx =>
    h dx dy (mem_span.1 hdx) (mem_span.1 hdy)

/-- The whole window lies on the picture and has the colour of its centre. -/
def UniformAround (k : Kernel) (g : Grid) (p : Position g.extent) : Prop :=
  ∀ dx dy, k.Within dx → k.Within dy → ∃ q, p.offset? dx dy = some q ∧ g.get q = g.get p

/-- If the weights add up to one, a pixel in the middle of its own colour stays. -/
theorem Sixteenths.get_convolve_of_uniform (h : k.Sixteenths share) (hone : k.total share = 16)
    {g : Grid} {p : Position g.extent} (hu : k.UniformAround g p) :
    (k.convolve g).get p = g.get p := by
  -- a filter keeps the opacity, so the three channels decide
  have hchannel : ∀ c, ((k.convolve g).get p).get c = (g.get p).get c := by
    intro c
    have hlevel : ∀ dx dy, k.Within dx → k.Within dy →
        share dx dy * g.levelFrom p c dx dy = share dx dy * ((g.get p).get c).toNat := by
      intro dx dy hdx hdy
      obtain ⟨q, hq, hcolor⟩ := hu dx dy hdx hdy
      rw [Grid.levelFrom_eq_color, hq, ← hcolor]
      rfl
    have hbyte := ((g.get p).get c).toNat_lt
    apply UInt8.toNat_inj.1
    zify
    rw [h.get_convolve, total_congr hlevel, total_mul_right, hone]
    omega
  rw [Kernel.get_convolve] at hchannel ⊢
  simp only [Pixel.get_ofChannels] at hchannel
  rw [funext hchannel, Pixel.ofChannels_get]

/-! ## 5. Blurring -/

/-- The sixteenths of a blur: four in the centre, two beside, above and below it, one in a
corner. -/
def blurShare (dx dy : ℤ) : ℤ :=
  if dx = 0 ∧ dy = 0 then 4 else if dx = 0 ∨ dy = 0 then 2 else 1

theorem blurShare_cases (dx dy : ℤ) :
    blurShare dx dy = 4 ∨ blurShare dx dy = 2 ∨ blurShare dx dy = 1 := by
  unfold blurShare
  split
  · exact .inl rfl
  · split
    · exact .inr (.inl rfl)
    · exact .inr (.inr rfl)

theorem sixteenths_blur : blur.Sixteenths blurShare := by
  have hweights : blur.hasSixteenths blurShare = true := by decide +kernel
  refine ⟨by decide, denotes_of_hasSixteenths hweights, fun dx dy => ?_⟩
  have hcases := blurShare_cases dx dy
  omega

theorem total_blurShare (L : ℤ → ℤ → ℤ) : blur.total (fun dx dy => blurShare dx dy * L dx dy) =
    4 * L 0 0 + 2 * (L 0 (-1) + L (-1) 0 + L 1 0 + L 0 1) +
      (L (-1) (-1) + L 1 (-1) + L (-1) 1 + L 1 1) := by
  have hspan : blur.span = {-1, 0, 1} := by decide
  have hrow : ∀ f : ℤ → ℤ, ∑ d ∈ ({-1, 0, 1} : Finset ℤ), f d = f (-1) + (f 0 + f 1) := by
    intro f
    rw [Finset.sum_insert (by decide), Finset.sum_insert (by decide), Finset.sum_singleton]
  unfold total
  rw [hspan]
  simp only [hrow]
  show 1 * L (-1) (-1) + (2 * L 0 (-1) + 1 * L 1 (-1)) +
    (2 * L (-1) 0 + (4 * L 0 0 + 2 * L 1 0) +
      (1 * L (-1) 1 + (2 * L 0 1 + 1 * L 1 1))) = _
  ring

/-- A blurred channel needs no cutting off. -/
theorem total_blurShare_bounds {L : ℤ → ℤ → ℤ} (hL : ∀ dx dy, 0 ≤ L dx dy ∧ L dx dy ≤ 255) :
    0 ≤ blur.total (fun dx dy => blurShare dx dy * L dx dy) ∧
      blur.total (fun dx dy => blurShare dx dy * L dx dy) ≤ 16 * 255 := by
  have hshare : ∀ dx dy, 0 ≤ blurShare dx dy := by
    intro dx dy
    have hcases := blurShare_cases dx dy
    omega
  have hone : blur.total blurShare = 16 := by decide
  constructor
  · exact Finset.sum_nonneg fun dy _ => Finset.sum_nonneg fun dx _ =>
      mul_nonneg (hshare dx dy) (hL dx dy).1
  · rw [← hone, ← total_mul_right]
    exact Finset.sum_le_sum fun dy _ => Finset.sum_le_sum fun dx _ =>
      mul_le_mul_of_nonneg_left (hL dx dy).2 (hshare dx dy)

/-! ## 6. Sharpening -/

/-- How many steps apart two cells are if diagonal steps count as one. -/
def distance (dx dy : ℤ) : ℕ := max dx.natAbs dy.natAbs

/-- The offsets at a distance from the centre. -/
def shell (d : ℕ) : Finset (ℤ × ℤ) :=
  (around d ×ˢ around d).filter fun o => distance o.1 o.2 = d

theorem mem_shell {d : ℕ} {o : ℤ × ℤ} : o ∈ shell d ↔ distance o.1 o.2 = d := by
  unfold shell distance
  rw [Finset.mem_filter, Finset.mem_product, mem_around, mem_around]
  omega

/-- A window falls into shells around its centre. -/
theorem total_eq_sum_shell (k : Kernel) (s : ℕ → ℤ) (L : ℤ → ℤ → ℤ) :
    k.total (fun dx dy => s (distance dx dy) * L dx dy) =
      ∑ d ∈ Finset.range (k.radius.toNat + 1), s d * ∑ o ∈ shell d, L o.1 o.2 := by
  have hpairs : k.total (fun dx dy => s (distance dx dy) * L dx dy) =
      ∑ o ∈ k.span ×ˢ k.span, s (distance o.1 o.2) * L o.1 o.2 :=
    (Finset.sum_product_right k.span k.span fun o => s (distance o.1 o.2) * L o.1 o.2).symm
  have hspan : ∀ o : ℤ × ℤ, o ∈ k.span ×ˢ k.span ↔ distance o.1 o.2 ≤ k.radius.toNat := by
    intro o
    rw [Finset.mem_product, mem_span, mem_span]
    exact max_le_iff.symm
  -- no cell of the window is farther from the centre than the radius
  have hinside : ∀ o ∈ k.span ×ˢ k.span, distance o.1 o.2 ∈ Finset.range (k.radius.toNat + 1) :=
    fun o ho => Finset.mem_range_succ_iff.2 ((hspan o).1 ho)
  rw [hpairs, ← Finset.sum_fiberwise_of_maps_to hinside]
  apply Finset.sum_congr rfl
  intro d hd
  have hshell : (k.span ×ˢ k.span).filter (fun o => distance o.1 o.2 = d) = shell d := by
    ext o
    rw [Finset.mem_filter, hspan, mem_shell]
    have hle := Finset.mem_range_succ_iff.1 hd
    omega
  rw [hshell, Finset.mul_sum]
  apply Finset.sum_congr rfl
  intro o ho
  rw [mem_shell.1 ho]

/-- The sixteenths of a sharpening, by distance. -/
def sharpenShare : ℕ → ℤ
  | 0 => 16
  | 1 => 4
  | _ => -2

theorem natAbs_sharpenShare_le (d : ℕ) : (sharpenShare d).natAbs ≤ 16 := by
  unfold sharpenShare
  split <;> decide

theorem sixteenths_sharpen : sharpen.Sixteenths fun dx dy => sharpenShare (distance dx dy) := by
  have hweights : sharpen.hasSixteenths (fun dx dy => sharpenShare (distance dx dy)) = true := by
    decide +kernel
  exact ⟨by decide, denotes_of_hasSixteenths hweights,
    fun _ _ => natAbs_sharpenShare_le _⟩

theorem total_sharpenShare (L : ℤ → ℤ → ℤ) :
    sharpen.total (fun dx dy => sharpenShare (distance dx dy) * L dx dy) =
      16 * L 0 0 + 4 * ∑ o ∈ shell 1, L o.1 o.2 - 2 * ∑ o ∈ shell 2, L o.1 o.2 := by
  have hradius : sharpen.radius.toNat + 1 = 3 := by decide
  have hcentre : ∑ o ∈ shell 0, L o.1 o.2 = L 0 0 := Finset.sum_singleton _ (0, 0)
  rw [total_eq_sum_shell, hradius, Finset.sum_range_succ, Finset.sum_range_succ,
    Finset.sum_range_one, hcentre]
  show 16 * L 0 0 + 4 * _ + -2 * _ = _
  ring

/-! ## 7. The two filters -/

/-- Eight cells have distance one, and sixteen distance two. -/
example : (shell 1).card = 8 ∧ (shell 2).card = 16 := by decide

/-- Blurring and sharpening, in whole numbers: each channel is one formula over the levels around
the pixel in the picture as it was, rounded down, and for a sharpening cut off at both ends.  A
pixel in the middle of its own colour stays as it is. -/
theorem blur_and_sharpen (g : Grid) (p : Position g.extent) :
    (∀ c, ((((blur.convolve g).get p).get c).toNat : ℤ) =
      (4 * g.levelFrom p c 0 0 +
        2 * (g.levelFrom p c 0 (-1) + g.levelFrom p c (-1) 0 +
          g.levelFrom p c 1 0 + g.levelFrom p c 0 1) +
        (g.levelFrom p c (-1) (-1) + g.levelFrom p c 1 (-1) +
          g.levelFrom p c (-1) 1 + g.levelFrom p c 1 1) + 8) / 16) ∧
    (∀ c, ((((sharpen.convolve g).get p).get c).toNat : ℤ) =
      max 0 (min ((8 * g.levelFrom p c 0 0 + 2 * ∑ o ∈ shell 1, g.levelFrom p c o.1 o.2 -
        ∑ o ∈ shell 2, g.levelFrom p c o.1 o.2 + 4) / 8) 255)) ∧
    (blur.UniformAround g p → (blur.convolve g).get p = g.get p) ∧
    (sharpen.UniformAround g p → (sharpen.convolve g).get p = g.get p) := by
  refine ⟨fun c => ?_, fun c => ?_, ?_, ?_⟩
  · have hlevel : ∀ dx dy, 0 ≤ g.levelFrom p c dx dy ∧ g.levelFrom p c dx dy ≤ 255 :=
      fun dx dy => g.level_bounds c _ _
    have hbounds := total_blurShare_bounds hlevel
    rw [sixteenths_blur.get_convolve, ← total_blurShare]
    omega
  · rw [sixteenths_sharpen.get_convolve, total_sharpenShare]
    -- all shares are even, and half of each is left
    generalize ∑ o ∈ shell 1, g.levelFrom p c o.1 o.2 = a
    generalize ∑ o ∈ shell 2, g.levelFrom p c o.1 o.2 = b
    congr 2
    omega
  · exact sixteenths_blur.get_convolve_of_uniform (by decide)
  · exact sixteenths_sharpen.get_convolve_of_uniform (by decide)

/-- Five by five cells of one grey. -/
def greyBoard : Grid :=
  .fill ⟨5, 5, by decide, by decide, by decide⟩ (.solid 16 16 16)

/-- In the middle the grey stays, and in a corner, where most of the window is off the picture, it
does not. -/
theorem blur_and_sharpen_greyBoard :
    sharpen.UniformAround greyBoard ⟨2, 2, by decide, by decide⟩ ∧
    (sharpen.convolve greyBoard).get ⟨2, 2, by decide, by decide⟩ = .solid 16 16 16 ∧
    (((blur.convolve greyBoard).get ⟨0, 0, by decide, by decide⟩).get .red).toNat = 9 ∧
    (((sharpen.convolve greyBoard).get ⟨0, 0, by decide, by decide⟩).get .blue).toNat = 18 := by
  have hradius : sharpen.radius.toNat = 2 := rfl
  have huniform : sharpen.UniformAround greyBoard ⟨2, 2, by decide, by decide⟩ := by
    intro dx dy hdx hdy
    unfold Within at hdx hdy
    refine ⟨⟨(2 + dx).toNat, (2 + dy).toNat, ?_, ?_⟩, Position.offset?_eq_some.2 ?_, ?_⟩
    · show _ < 5
      omega
    · show _ < 5
      omega
    · show ((2 + dx).toNat : ℤ) = 2 + dx ∧ ((2 + dy).toNat : ℤ) = 2 + dy
      omega
    · exact (Grid.get_fill _ _ _).trans (Grid.get_fill _ _ _).symm
  obtain ⟨-, -, -, hkept⟩ := blur_and_sharpen greyBoard ⟨2, 2, by decide, by decide⟩
  obtain ⟨hblur, hsharpen, -⟩ := blur_and_sharpen greyBoard ⟨0, 0, by decide, by decide⟩
  refine ⟨huniform, (hkept huniform).trans (Grid.get_fill _ _ _), ?_, ?_⟩
  · exact Int.ofNat.inj ((hblur .red).trans (by decide))
  · exact Int.ofNat.inj ((hsharpen .blue).trans (by decide +kernel))

end Kernel

end RasterScript
