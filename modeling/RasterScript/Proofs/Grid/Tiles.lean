import Mathlib.Data.Nat.Sqrt
import RasterScript.Grid.Checkerboard
import RasterScript.Proofs.Grid.Cells
import RasterScript.Proofs.Outcome

/-!
# Tiles — what a checkerboard looks like

A checkerboard is accepted if its tiles make a square and its side is that of an extent
(`Grid.checkerboard_eq_ok`).  What comes out is a square that stays the same when rows and columns
are exchanged; each tile is of one colour, and its neighbours are of the other
(`Grid.checkerboard_pattern`).
-/

namespace RasterScript

/-! ## 1. Sides -/

theorem isSquare_iff {n : Nat} : isSquare n = true ↔ ∃ s, n = s * s := by
  unfold isSquare
  rw [beq_iff_eq, ← Nat.exists_mul_self]
  exact exists_congr fun s => eq_comm

namespace Extent

theorem pos_of_width_eq {e : Extent} {s size : Nat} (h : e.width = s * size) :
    0 < s ∧ 0 < size := by
  have hpos : 0 < s * size := h ▸ e.width_pos
  exact ⟨Nat.pos_of_mul_pos_right hpos, Nat.pos_of_mul_pos_left hpos⟩

theorem width_lt_wordSize (e : Extent) : e.width < wordSize := by
  have hside : e.width ≤ e.width * e.height := Nat.le_mul_of_pos_right _ e.height_pos
  have hlimit : maxPixels < wordSize := by decide
  have harea := e.area_le
  omega

/-- The sides exchanged. -/
def transpose (e : Extent) : Extent :=
  ⟨e.height, e.width, e.height_pos, e.width_pos, Nat.mul_comm e.height e.width ▸ e.area_le⟩

end Extent

namespace Grid

variable {size count i j x y : Nat} {first second v : Pixel} {g : Grid} {e : Extent}

theorem checkerboard_eq_ok : checkerboard size count first second = .ok g ↔
    ∃ s e, count = s * s ∧ e.width = s * size ∧ e.height = s * size ∧
      g = tiled e size first second := by
  have hbranches : checkerboard size count first second = .ok g ↔
      0 < size ∧ 0 < count ∧ (∃ s, count = s * s) ∧ count.sqrt * size < wordSize ∧
        ∃ e : Extent, (e.width = count.sqrt * size ∧ e.height = count.sqrt * size) ∧
          g = tiled e size first second := by
    simp only [checkerboard, check_bind_eq_ok, require_eq_ok, decide_eq_true_eq, isSquare_iff]
    simp only [bind_eq_ok, pure_eq_ok, Extent.ofSides_eq_ok]
  rw [hbranches]
  -- an extent has positive sides that fit a word, so it makes up for the other checks
  constructor
  · rintro ⟨-, -, ⟨s, rfl⟩, -, e, ⟨hw, hh⟩, hg⟩
    rw [Nat.sqrt_eq] at hw hh
    exact ⟨s, e, rfl, hw, hh, hg⟩
  · rintro ⟨s, e, rfl, hw, hh, rfl⟩
    obtain ⟨hs, hsize⟩ := Extent.pos_of_width_eq hw
    rw [Nat.sqrt_eq]
    exact ⟨hsize, Nat.mul_pos hs hs, ⟨s, rfl⟩, hw ▸ e.width_lt_wordSize, e, ⟨hw, hh⟩, rfl⟩

/-! ## 2. Rows and columns exchanged -/

/-- The picture mirrored at the diagonal through its upper left corner. -/
def transpose (g : Grid) : Grid :=
  build g.extent.transpose fun p => g.get ⟨p.y, p.x, p.y_lt, p.x_lt⟩

theorem at?_transpose : g.transpose.at? x y = g.at? y x := by
  by_cases hin : y < g.width ∧ x < g.height
  · obtain ⟨p, rfl, rfl⟩ := exists_position hin.1 hin.2
    have hcell : g.transpose.at? p.y p.x = some (g.transpose.get ⟨p.y, p.x, p.y_lt, p.x_lt⟩) :=
      at?_position (g := g.transpose) ⟨p.y, p.x, p.y_lt, p.x_lt⟩
    rw [hcell, at?_position]
    exact congrArg some (get_build _ _ _)
  · rw [at?_eq_none.2 hin]
    exact at?_eq_none.2 fun hin' => hin ⟨hin'.2, hin'.1⟩

/-! ## 3. Tiles -/

/-- The colour of the tiles that are `k` tiles away from the corner, across and down together. -/
def tileColor (first second : Pixel) (k : Nat) : Pixel :=
  if k % 2 = 0 then first else second

theorem tileColor_ne_succ (h : first ≠ second) (k : Nat) :
    tileColor first second k ≠ tileColor first second (k + 1) := by
  unfold tileColor
  rcases Nat.mod_two_eq_zero_or_one k with hk | hk
  · rw [if_pos hk, if_neg (by omega)]
    exact h
  · rw [if_neg (by omega), if_pos (by omega)]
    exact h.symm

/-- Which tile a column or a row is in. -/
theorem tile_div {d : Nat} (h : d < size) : (i * size + d) / size = i := by
  rw [Nat.mul_comm, Nat.mul_add_div (by omega), Nat.div_eq_of_lt h, Nat.add_zero]

theorem at?_tiled (hx : x < e.width) (hy : y < e.height) :
    (tiled e size first second).at? x y = some (tileColor first second (x / size + y / size)) := by
  have hcell := at?_position (g := tiled e size first second) ⟨x, y, hx, hy⟩
  exact hcell.trans (congrArg some (get_build _ _ _))

/-- The square of `size` columns and rows with `i` such squares to its left and `j` above it is of
the colour `v`. -/
def Block (g : Grid) (size i j : Nat) (v : Pixel) : Prop :=
  ∀ dx dy, dx < size → dy < size → g.pixel (i * size + dx) (j * size + dy) = .ok v

theorem block_tiled (hx : (i + 1) * size ≤ e.width) (hy : (j + 1) * size ≤ e.height) :
    (tiled e size first second).Block size i j (tileColor first second (i + j)) := by
  intro dx dy hdx hdy
  rw [Nat.add_one_mul] at hx hy
  rw [pixel_eq_ok, at?_tiled (by omega) (by omega), tile_div hdx, tile_div hdy]

/-- Every square of one colour at the place of a tile is that tile. -/
theorem color_of_block (hsize : 0 < size) (h : (tiled e size first second).Block size i j v) :
    v = tileColor first second (i + j) := by
  have hcorner := pixel_eq_ok.1 (h 0 0 hsize hsize)
  have hin : i * size + 0 < e.width ∧ j * size + 0 < e.height := by
    by_contra hout
    rw [at?_eq_none.2 hout] at hcorner
    cases hcorner
  rw [at?_tiled hin.1 hin.2, tile_div hsize, tile_div hsize] at hcorner
  exact (Option.some.inj hcorner).symm

theorem transpose_tiled (hsquare : e.width = e.height) :
    (tiled e size first second).transpose = tiled e size first second := by
  apply ext_at? hsquare.symm hsquare
  intro x y
  rw [at?_transpose]
  by_cases hin : x < e.width ∧ y < e.height
  · rw [at?_tiled hin.1 hin.2, at?_tiled (by omega) (by omega), Nat.add_comm]
  · have hout : ¬ (y < e.width ∧ x < e.height) := by omega
    exact (at?_eq_none.2 hout).trans (at?_eq_none.2 hin).symm

/-! ## 4. Checkerboards -/

/-- A checkerboard is a square of as many tiles down as across.  Which colour a pixel has is told by
the parity of the tiles before it, across and down together: tiles are of one colour, tiles side by
side or one below the other are of different colours if the two differ, and exchanging rows and
columns changes nothing. -/
theorem checkerboard_pattern (h : checkerboard size count first second = .ok g) :
    ∃ n, n * n = count ∧ g.width = n * size ∧ g.height = n * size ∧
      (∀ x y, x < n * size → y < n * size →
        g.pixel x y = .ok (if (x / size + y / size) % 2 = 0 then first else second)) ∧
      (∀ i j, i < n → j < n → ∃ v, g.Block size i j v) ∧
      (first ≠ second → ∀ i j v w, g.Block size i j v →
        g.Block size (i + 1) j w ∨ g.Block size i (j + 1) w → v ≠ w) ∧
      g.transpose = g := by
  obtain ⟨n, e, rfl, hw, hh, rfl⟩ := checkerboard_eq_ok.1 h
  obtain ⟨hn, hsize⟩ := Extent.pos_of_width_eq hw
  refine ⟨n, rfl, hw, hh, ?_, ?_, ?_, transpose_tiled (hw.trans hh.symm)⟩
  · intro x y hx hy
    exact pixel_eq_ok.2 (at?_tiled (hw ▸ hx) (hh ▸ hy))
  · intro i j hi hj
    exact ⟨_, block_tiled (hw ▸ Nat.mul_le_mul_right size hi) (hh ▸ Nat.mul_le_mul_right size hj)⟩
  · intro hne i j v w hv hw
    rw [color_of_block hsize hv]
    rcases hw with hw | hw
    · rw [color_of_block hsize hw, Nat.add_right_comm]
      exact tileColor_ne_succ hne _
    · rw [color_of_block hsize hw, ← Nat.add_assoc]
      exact tileColor_ne_succ hne _

/-- Three by three tiles of two by two pixels. -/
def nineTiles : Grid :=
  tiled ⟨6, 6, by decide, by decide, by decide⟩ 2 .white .transparent

theorem checkerboard_pattern_nineTiles :
    checkerboard 2 9 .white .transparent = .ok nineTiles ∧ nineTiles.width = 6 ∧
      nineTiles.pixel 5 5 = .ok .white ∧ nineTiles.pixel 3 4 = .ok .transparent ∧
      (∃ v w, nineTiles.Block 2 1 2 v ∧ nineTiles.Block 2 2 2 w) ∧
      nineTiles.transpose = nineTiles := by
  have hboard : checkerboard 2 9 .white .transparent = .ok nineTiles :=
    checkerboard_eq_ok.2 ⟨3, _, rfl, rfl, rfl, rfl⟩
  obtain ⟨n, hcount, hwidth, -, hpixels, hblocks, -, htranspose⟩ := checkerboard_pattern hboard
  obtain rfl : n = 3 := Nat.mul_self_inj.1 hcount
  obtain ⟨v, hv⟩ := hblocks 1 2 (by decide) (by decide)
  obtain ⟨w, hw⟩ := hblocks 2 2 (by decide) (by decide)
  exact ⟨hboard, hwidth, hpixels 5 5 (by decide) (by decide), hpixels 3 4 (by decide) (by decide),
    ⟨v, w, hv, hw⟩, htranspose⟩

end Grid

end RasterScript
