import Mathlib.Order.Monotone.Basic
import RasterScript.Proofs.Grid.Cells
import RasterScript.Proofs.Outcome

/-!
# Insertion — pictures that gain white rows and columns

A picture gains a row or a column if the line can stand where it is asked for and the larger picture
is not too large.  `Grid.Gains` says by cells what the larger picture is, for both kinds of lines,
and `Grid.insert_eq_ok` that insertion gives exactly that.

From the cells everything else follows: over any run of insertions the pixels of the picture spread
out between white lines without changing their order (`Grid.Spreads`), and a row and a column can be
inserted in either order (`Grid.insert_comm`).
-/

namespace RasterScript

/-! ## 1. One more line -/

/-- What stands in place `k` of a sequence that reads `old` once `new` has become place `index`. -/
def withLine {α : Type} (index : Nat) (new : α) (old : Nat → α) (k : Nat) : α :=
  if k < index then old k else if k = index then new else old (k - 1)

/-- A white pixel in each of the first `length` places. -/
def whiteLine (length k : Nat) : Option Pixel :=
  if k < length then some .white else none

/-- Where place `k` is once a line has become place `index`. -/
def past (index k : Nat) : Nat :=
  if k < index then k else k + 1

theorem strictMono_past (index : Nat) : StrictMono (past index) := by
  intro j k hjk
  unfold past
  split <;> split <;> omega

/-- Every place but the new one is that of an old line. -/
theorem exists_past {index n k : Nat} (hindex : index ≤ n) (hk : k < n + 1) (hne : k ≠ index) :
    ∃ j < n, past index j = k := by
  by_cases hlt : k < index
  · exact ⟨k, Nat.lt_of_lt_of_le hlt hindex, if_pos hlt⟩
  · refine ⟨k - 1, by omega, ?_⟩
    unfold past
    split <;> omega

section WithLine

variable {α : Type} {index : Nat} {new : α} {f : Nat → α}

@[simp] theorem withLine_index : withLine index new f index = new := by
  simp [withLine]

@[simp] theorem withLine_past (k : Nat) : withLine index new f (past index k) = f k := by
  unfold past
  split
  · rename_i hlt
    exact if_pos hlt
  · rename_i hge
    unfold withLine
    rw [if_neg (by omega), if_neg (by omega), Nat.add_sub_cancel]

theorem getElem?_insertIdx_eq_withLine {l : List α} (h : index ≤ l.length) (k : Nat) :
    (l.insertIdx index new)[k]? = withLine index (some new) (l[·]?) k := by
  rw [List.getElem?_insertIdx]
  unfold withLine
  split
  · rfl
  · split
    · rename_i hk
      rw [if_pos (hk ▸ h)]
    · rfl

end WithLine

/-- A line that a picture is asked to gain. -/
inductive Insertion
  | row (index : Nat)
  | column (index : Nat)

namespace Insertion

/-- Which line the new one is to become. -/
def index : Insertion → Nat
  | .row index => index
  | .column index => index

def isRow : Insertion → Bool
  | .row _ => true
  | .column _ => false

/-- How many lines of the kind there are before. -/
def lines (g : Grid) : Insertion → Nat
  | .row _ => g.height
  | .column _ => g.width

/-- The width with the new line. -/
def width (g : Grid) : Insertion → Nat
  | .row _ => g.width
  | .column _ => g.width + 1

/-- The height with the new line. -/
def height (g : Grid) : Insertion → Nat
  | .row _ => g.height + 1
  | .column _ => g.height

theorem width_pos (g : Grid) (i : Insertion) : 0 < i.width g := by
  cases i with
  | row _ => exact g.extent.width_pos
  | column _ => exact Nat.succ_pos _

theorem height_pos (g : Grid) (i : Insertion) : 0 < i.height g := by
  cases i with
  | row _ => exact Nat.succ_pos _
  | column _ => exact g.extent.height_pos

/-- What stands in column `x` and row `y` with the new line. -/
def cell (g : Grid) (x y : Nat) : Insertion → Option Pixel
  | .row index => withLine index (whiteLine g.width x) (g.at? x ·) y
  | .column index => withLine index (whiteLine g.height y) (g.at? · y) x

end Insertion

namespace Grid

/-- The picture with the line that is asked for, if it can have it. -/
def insert (g : Grid) : Insertion → Except Refusal Grid
  | .row index => g.insertRow index
  | .column index => g.insertColumn index

/-- The picture `g'` is `g` with the white line in its place. -/
structure Gains (g : Grid) (i : Insertion) (g' : Grid) : Prop where
  width_eq : g'.width = i.width g
  height_eq : g'.height = i.height g
  cells : ∀ x y, g'.at? x y = i.cell g x y

variable {g g' h : Grid} {i j : Insertion} {index : Nat}

theorem Gains.unique (hg : g.Gains i g') (hh : g.Gains i h) : g' = h :=
  ext_at? (hg.width_eq.trans hh.width_eq.symm) (hg.height_eq.trans hh.height_eq.symm)
    fun x y => (hg.cells x y).trans (hh.cells x y).symm

theorem Gains.area_le (hg : g.Gains i g') : i.width g * i.height g ≤ maxPixels := by
  rw [← hg.width_eq, ← hg.height_eq]
  exact g'.extent.area_le

/-! ## 2. Insertion -/

/-- A line spliced in at the end of a row pushes the rows from there on down by one. -/
theorem getElem?_splice_line {α : Type} {pixels new : Array α} {w x : Nat} (hsize : new.size = w)
    (hindex : index * w ≤ pixels.size) (hx : x < w) (y : Nat) :
    (splice pixels (index * w) new)[y * w + x]? =
      withLine index new[x]? (fun y => pixels[y * w + x]?) y := by
  rw [getElem?_splice hindex, hsize]
  unfold withLine
  -- the products `y * w` and `index * w` are compared by hand: they are not linear
  rcases Nat.lt_trichotomy y index with hy | rfl | hy
  · have hfront : (y + 1) * w ≤ index * w := Nat.mul_le_mul_right _ hy
    rw [Nat.succ_mul] at hfront
    rw [if_pos (by omega), if_pos hy]
  · rw [if_neg (by omega), if_pos (by omega), if_neg (Nat.lt_irrefl y), if_pos rfl,
      Nat.add_sub_cancel_left]
  · have hback : (index + 1) * w ≤ y * w := Nat.mul_le_mul_right _ hy
    rw [Nat.succ_mul] at hback
    have hrow : y * w + x - w = (y - 1) * w + x := by
      rw [Nat.sub_mul, Nat.one_mul]
      omega
    rw [if_neg (by omega), if_neg (by omega), if_neg (by omega), if_neg (by omega), hrow]

theorem gains_of_insertRow (hr : g.insertRow index = .ok g') :
    index ≤ g.height ∧ g.Gains (.row index) g' := by
  unfold insertRow at hr
  split at hr
  · rename_i hi
    refine ⟨hi, ?_⟩
    split at hr
    · cases hr
    · rename_i e he
      obtain ⟨hw, hh⟩ := Extent.ofSides_eq_ok.1 he
      cases hr
      refine ⟨hw, hh, fun x y => ?_⟩
      have hstart : index * g.width ≤ g.pixels.size := by
        rw [g.size_eq, Extent.area, Nat.mul_comm g.width]
        exact Nat.mul_le_mul_right _ hi
      by_cases hx : x < g.width
      · rw [at?_eq_pixels (hx.trans_eq hw.symm)]
        show (splice _ _ _)[y * e.width + x]? = _
        simp only [Insertion.cell, at?_eq_pixels hx]
        rw [hw, getElem?_splice_line Array.size_replicate hstart hx, Array.getElem?_replicate]
        rfl
      · -- no picture reaches so far to the right
        have hout : ∀ y, g.at? x y = none := fun y => at?_eq_none.2 fun hin => hx hin.1
        rw [at?_eq_none.2 fun hin => hx (hin.1.trans_eq hw)]
        simp only [Insertion.cell, hout, whiteLine, if_neg hx, withLine, ite_self]
  · cases hr

theorem gains_of_insertColumn (hc : g.insertColumn index = .ok g') :
    index ≤ g.width ∧ g.Gains (.column index) g' := by
  unfold insertColumn at hc
  split at hc
  · rename_i hi
    refine ⟨hi, ?_⟩
    split at hc
    · cases hc
    · rename_i e he
      obtain ⟨hw, hh⟩ := Extent.ofSides_eq_ok.1 he
      cases hc
      refine ⟨hw, hh, fun x y => ?_⟩
      -- each row gains a pixel of its own, and below the last row nothing does
      rw [at?_ofRows, List.getElem?_map]
      simp only [Insertion.cell, at?_eq_rows]
      by_cases hy : y < g.rows.length
      · have hrow : index ≤ g.rows[y].length := by
          rwa [length_of_mem_rows (List.getElem_mem hy)]
        rw [List.getElem?_eq_getElem hy]
        show (g.rows[y].insertIdx index .white)[x]? = withLine index _ (g.rows[y][·]?) x
        rw [getElem?_insertIdx_eq_withLine hrow, whiteLine, if_pos (by rwa [length_rows] at hy)]
      · rw [List.getElem?_eq_none_iff.2 (Nat.le_of_not_lt hy), whiteLine,
          if_neg (by rwa [length_rows] at hy)]
        unfold withLine
        split
        · rfl
        · split <;> rfl
  · cases hc

theorem gains_of_insert (hg : g.insert i = .ok g') : i.index ≤ i.lines g ∧ g.Gains i g' := by
  cases i with
  | row index => exact gains_of_insertRow hg
  | column index => exact gains_of_insertColumn hg

/-- Where a line has room, its sides alone decide what comes of it. -/
theorem map_extent_insert (hi : i.index ≤ i.lines g) :
    (g.insert i).map Grid.extent = Extent.ofSides (i.width g) (i.height g) := by
  cases i with
  | row index =>
    show (g.insertRow index).map Grid.extent = g.extent.addRow
    unfold insertRow
    rw [if_pos (show index ≤ g.height from hi)]
    split
    · rename_i hside
      exact hside.symm
    · rename_i hside
      exact hside.symm
  | column index =>
    show (g.insertColumn index).map Grid.extent = g.extent.addColumn
    unfold insertColumn
    rw [dif_pos (show index ≤ g.width from hi)]
    split
    · rename_i hside
      exact hside.symm
    · rename_i hside
      exact hside.symm

/-- A line goes in wherever the picture has room for it and stays small enough. -/
theorem exists_insert : (∃ g', g.insert i = .ok g') ↔
    i.index ≤ i.lines g ∧ i.width g * i.height g ≤ maxPixels := by
  constructor
  · rintro ⟨g', hg⟩
    obtain ⟨hi, hgains⟩ := gains_of_insert hg
    exact ⟨hi, hgains.area_le⟩
  · rintro ⟨hi, harea⟩
    -- a refusal would have to come from the sides, which are good ones
    have hextent := map_extent_insert hi
    cases hg : g.insert i with
    | ok g' => exact ⟨g', rfl⟩
    | error r =>
      have hside : Extent.ofSides (i.width g) (i.height g) =
          .ok ⟨i.width g, i.height g, i.width_pos g, i.height_pos g, harea⟩ :=
        Extent.ofSides_eq_ok.2 ⟨rfl, rfl⟩
      rw [hg, hside] at hextent
      cases hextent

theorem insert_eq_ok : g.insert i = .ok g' ↔ i.index ≤ i.lines g ∧ g.Gains i g' := by
  refine ⟨gains_of_insert, fun ⟨hi, hgains⟩ => ?_⟩
  obtain ⟨k, hk⟩ := exists_insert.2 ⟨hi, hgains.area_le⟩
  rw [hk, (gains_of_insert hk).2.unique hgains]

/-! ## 3. A row and a column -/

section Cross

variable {a b k : Grid}

/-- Results with the same values, and with the same refusals if they have any, are the same. -/
theorem eq_of_map_eq {α β : Type} {f : α → β} {x y : Except Refusal α}
    (hok : ∀ k, x = .ok k ↔ y = .ok k) (hmap : x.map f = y.map f) : x = y := by
  cases x with
  | ok k => exact ((hok k).1 rfl).symm
  | error r =>
    cases y with
    | ok k => cases hmap
    | error r' =>
      cases hmap
      rfl

/-- Where a white row and a white column cross, it does not matter which of them was first. -/
theorem withLine_cross {w h row column : Nat} (hrow : row ≤ h) (hcolumn : column ≤ w)
    (cells : Nat → Nat → Option Pixel) (x y : Nat) :
    withLine column (whiteLine (h + 1) y)
        (fun x => withLine row (whiteLine w x) (cells x ·) y) x =
      withLine row (whiteLine (w + 1) x)
        (fun y => withLine column (whiteLine h y) (cells · y) x) y := by
  unfold withLine whiteLine
  grind

/-- A line of one kind leaves as much room for lines of the other kind as there was. -/
theorem Gains.lines_eq (hij : i.isRow ≠ j.isRow) (ha : g.Gains i a) : j.lines a = j.lines g := by
  cases i with
  | row _ =>
    cases j with
    | row _ => exact absurd rfl hij
    | column _ => exact ha.width_eq
  | column _ =>
    cases j with
    | row _ => exact ha.height_eq
    | column _ => exact absurd rfl hij

/-- With a row and a column the picture has the same size, whichever came first. -/
theorem Gains.sides_eq (hij : i.isRow ≠ j.isRow) (ha : g.Gains i a) (hb : g.Gains j b) :
    j.width a = i.width b ∧ j.height a = i.height b := by
  have haw := ha.width_eq
  have hah := ha.height_eq
  have hbw := hb.width_eq
  have hbh := hb.height_eq
  cases i <;> cases j <;> simp_all [Insertion.isRow, Insertion.width, Insertion.height]

theorem Gains.swap (hij : i.isRow ≠ j.isRow) (hi : i.index ≤ i.lines g) (hj : j.index ≤ j.lines g)
    (ha : g.Gains i a) (hb : g.Gains j b) (hk : a.Gains j k) : b.Gains i k := by
  obtain ⟨hwidth, hheight⟩ := ha.sides_eq hij hb
  refine ⟨hk.width_eq.trans hwidth, hk.height_eq.trans hheight, fun x y => ?_⟩
  rw [hk.cells]
  have haw := ha.width_eq
  have hah := ha.height_eq
  have hbw := hb.width_eq
  have hbh := hb.height_eq
  cases i with
  | row _ =>
    cases j with
    | row _ => exact absurd rfl hij
    | column _ =>
      simp only [Insertion.cell, ha.cells, hb.cells, hah, hbw]
      exact withLine_cross hi hj _ x y
  | column _ =>
    cases j with
    | row _ =>
      simp only [Insertion.cell, ha.cells, hb.cells, haw, hbh]
      exact (withLine_cross hj hi _ x y).symm
    | column _ => exact absurd rfl hij

/-- The first of two lines leaves no more room than there was, so the second could come first. -/
theorem Gains.sides_le (ha : g.Gains i a) : j.width g * j.height g ≤ j.width a * j.height a := by
  have hw : g.width ≤ a.width := by
    rw [ha.width_eq]
    cases i <;> simp [Insertion.width]
  have hh : g.height ≤ a.height := by
    rw [ha.height_eq]
    cases i <;> simp [Insertion.height]
  cases j with
  | row _ => exact Nat.mul_le_mul hw (Nat.succ_le_succ hh)
  | column _ => exact Nat.mul_le_mul (Nat.succ_le_succ hw) hh

theorem insert_swap (hij : i.isRow ≠ j.isRow) (ha : g.insert i = .ok a) (hk : a.insert j = .ok k) :
    ∃ b, g.insert j = .ok b ∧ b.insert i = .ok k := by
  obtain ⟨hi, hga⟩ := insert_eq_ok.1 ha
  obtain ⟨hj, hak⟩ := insert_eq_ok.1 hk
  rw [hga.lines_eq hij] at hj
  obtain ⟨b, hb⟩ := exists_insert.2 ⟨hj, Nat.le_trans hga.sides_le hak.area_le⟩
  obtain ⟨-, hgb⟩ := insert_eq_ok.1 hb
  refine ⟨b, hb, insert_eq_ok.2 ⟨?_, hga.swap hij hi hj hgb hak⟩⟩
  rwa [hgb.lines_eq hij.symm]

/-- One order gives a picture if the other does, and the same one. -/
theorem insert_bind_insert_eq_ok (hij : i.isRow ≠ j.isRow) :
    (g.insert i >>= (·.insert j)) = .ok k ↔ (g.insert j >>= (·.insert i)) = .ok k := by
  rw [bind_eq_ok, bind_eq_ok]
  constructor
  · rintro ⟨a, ha, hk⟩
    exact insert_swap hij ha hk
  · rintro ⟨b, hb, hk⟩
    exact insert_swap hij.symm hb hk

/-- If each line can go in alone, both orders end alike, also where the second line is refused. -/
theorem insert_comm (hij : i.isRow ≠ j.isRow) (hi : ∃ a, g.insert i = .ok a)
    (hj : ∃ b, g.insert j = .ok b) :
    (g.insert i >>= (·.insert j)) = g.insert j >>= (·.insert i) := by
  have hok : ∀ k, (g.insert i >>= (·.insert j)) = .ok k ↔ (g.insert j >>= (·.insert i)) = .ok k :=
    fun _ => insert_bind_insert_eq_ok hij
  obtain ⟨a, ha⟩ := hi
  obtain ⟨b, hb⟩ := hj
  obtain ⟨hroom, hga⟩ := insert_eq_ok.1 ha
  obtain ⟨hroom', hgb⟩ := insert_eq_ok.1 hb
  obtain ⟨hwidth, hheight⟩ := hga.sides_eq hij hgb
  have hextents : (a.insert j).map Grid.extent = (b.insert i).map Grid.extent := by
    rw [map_extent_insert (hga.lines_eq hij ▸ hroom'),
      map_extent_insert (hgb.lines_eq hij.symm ▸ hroom), hwidth, hheight]
  -- results agree by their pixels, refusals by the sides that they name
  rw [ha, hb] at hok ⊢
  exact eq_of_map_eq hok hextents

end Cross

/-! ## 4. Runs of insertions -/

/-- The pixels of `g` stand on `g'` in the same order, column `x` in column `columns x` and row `y`
in row `rows y`, and all around them is white. -/
structure Spreads (g g' : Grid) (columns rows : Nat → Nat) : Prop where
  columns_mono : StrictMono columns
  rows_mono : StrictMono rows
  kept : ∀ x y, x < g.width → y < g.height → g'.at? (columns x) (rows y) = g.at? x y
  white : ∀ x y, x < g'.width → y < g'.height →
    (∀ x₀ < g.width, columns x₀ ≠ x) ∨ (∀ y₀ < g.height, rows y₀ ≠ y) → g'.at? x y = some .white

theorem Spreads.refl (g : Grid) : g.Spreads g id id where
  columns_mono := strictMono_id
  rows_mono := strictMono_id
  kept := fun _ _ _ _ => rfl
  white := by
    rintro x y hx hy (hcolumn | hrow)
    · exact absurd rfl (hcolumn x hx)
    · exact absurd rfl (hrow y hy)

theorem Spreads.trans {columns rows columns' rows' : Nat → Nat} (hg : g.Spreads g' columns rows)
    (hh : g'.Spreads h columns' rows') : g.Spreads h (columns' ∘ columns) (rows' ∘ rows) where
  columns_mono := hh.columns_mono.comp hg.columns_mono
  rows_mono := hh.rows_mono.comp hg.rows_mono
  kept := by
    intro x y hx hy
    have hcell := hg.kept x y hx hy
    have hin : columns x < g'.width ∧ rows y < g'.height := by
      by_contra hout
      rw [at?_eq_none.2 hout] at hcell
      exact at?_eq_none.1 hcell.symm ⟨hx, hy⟩
    exact (hh.kept _ _ hin.1 hin.2).trans hcell
  white := by
    intro x y hx hy hnew
    -- a cell that does not come from `g` is new in the second step or came to `g'` as a white one
    by_cases hcolumn : ∀ x₁ < g'.width, columns' x₁ ≠ x
    · exact hh.white x y hx hy (.inl hcolumn)
    · by_cases hrow : ∀ y₁ < g'.height, rows' y₁ ≠ y
      · exact hh.white x y hx hy (.inr hrow)
      · push Not at hcolumn hrow
        obtain ⟨x₁, hx₁, rfl⟩ := hcolumn
        obtain ⟨y₁, hy₁, rfl⟩ := hrow
        rw [hh.kept x₁ y₁ hx₁ hy₁]
        refine hg.white x₁ y₁ hx₁ hy₁ (hnew.imp ?_ ?_)
        · exact fun hcolumn x₀ hx₀ hx₁ => hcolumn x₀ hx₀ (congrArg columns' hx₁)
        · exact fun hrow y₀ hy₀ hy₁ => hrow y₀ hy₀ (congrArg rows' hy₁)

theorem Gains.spreads (hi : i.index ≤ i.lines g) (hgains : g.Gains i g') :
    ∃ columns rows, g.Spreads g' columns rows := by
  cases i with
  | row index =>
    have hwidth : g'.width = g.width := hgains.width_eq
    have hheight : g'.height = g.height + 1 := hgains.height_eq
    refine ⟨id, past index, strictMono_id, strictMono_past index, fun x y _ _ => ?_, ?_⟩
    · rw [hgains.cells]
      exact withLine_past (f := (g.at? x ·)) y
    · rintro x y hx hy (hcolumn | hrow)
      · exact absurd rfl (hcolumn x (hwidth ▸ hx))
      · have hy : y = index := by
          by_contra hne
          obtain ⟨y₀, hy₀, rfl⟩ := exists_past hi (Nat.lt_of_lt_of_eq hy hheight) hne
          exact hrow y₀ hy₀ rfl
        rw [hgains.cells, hy]
        exact (withLine_index (f := (g.at? x ·))).trans (if_pos (hwidth ▸ hx))
  | column index =>
    have hwidth : g'.width = g.width + 1 := hgains.width_eq
    have hheight : g'.height = g.height := hgains.height_eq
    refine ⟨past index, id, strictMono_past index, strictMono_id, fun x y _ _ => ?_, ?_⟩
    · rw [hgains.cells]
      exact withLine_past (f := (g.at? · y)) x
    · rintro x y hx hy (hcolumn | hrow)
      · have hx : x = index := by
          by_contra hne
          obtain ⟨x₀, hx₀, rfl⟩ := exists_past hi (Nat.lt_of_lt_of_eq hx hwidth) hne
          exact hcolumn x₀ hx₀ rfl
        rw [hgains.cells, hx]
        exact (withLine_index (f := (g.at? · y))).trans (if_pos (hheight ▸ hy))
      · exact absurd rfl (hrow y (hheight ▸ hy))

/-- The picture after a line was asked for, the old one if the line is refused. -/
def after (g : Grid) (i : Insertion) : Grid :=
  match g.insert i with
  | .ok g' => g'
  | .error _ => g

def afterAll (g : Grid) (insertions : List Insertion) : Grid :=
  insertions.foldl after g

theorem spreads_after (g : Grid) (i : Insertion) :
    ∃ columns rows, g.Spreads (g.after i) columns rows := by
  unfold after
  split
  · rename_i g' hg'
    obtain ⟨hi, hgains⟩ := insert_eq_ok.1 hg'
    exact hgains.spreads hi
  · exact ⟨_, _, .refl g⟩

theorem spreads_afterAll (g : Grid) (insertions : List Insertion) :
    ∃ columns rows, g.Spreads (g.afterAll insertions) columns rows := by
  induction insertions generalizing g with
  | nil => exact ⟨_, _, .refl g⟩
  | cons i rest ih =>
    obtain ⟨_, _, hfirst⟩ := spreads_after g i
    obtain ⟨_, _, hrest⟩ := ih (g.after i)
    exact ⟨_, _, hfirst.trans hrest⟩

/-- A row or column is accepted exactly where it has room and the picture stays small enough, and
then stands between the old ones, white; a refused one changes nothing.  So any run of insertions
spreads the pixels out in their order, and a row and a column change places. -/
theorem insertions_spread_picture (g : Grid) :
    (∀ index, ((∃ g', g.insertRow index = .ok g') ↔
        index ≤ g.height ∧ g.width * (g.height + 1) ≤ maxPixels) ∧
      ∀ g', g.insertRow index = .ok g' → g.Gains (.row index) g') ∧
    (∀ index, ((∃ g', g.insertColumn index = .ok g') ↔
        index ≤ g.width ∧ (g.width + 1) * g.height ≤ maxPixels) ∧
      ∀ g', g.insertColumn index = .ok g' → g.Gains (.column index) g') ∧
    (∀ i r, g.insert i = .error r → g.after i = g) ∧
    (∀ insertions,
      (g.afterAll insertions).pixels.size =
        (g.afterAll insertions).width * (g.afterAll insertions).height ∧
      ∃ columns rows, g.Spreads (g.afterAll insertions) columns rows) ∧
    ∀ row column,
      (∀ k, (g.insertRow row >>= (·.insertColumn column)) = .ok k ↔
        (g.insertColumn column >>= (·.insertRow row)) = .ok k) ∧
      ((∃ a, g.insertRow row = .ok a) → (∃ b, g.insertColumn column = .ok b) →
        (g.insertRow row >>= (·.insertColumn column)) =
          g.insertColumn column >>= (·.insertRow row)) := by
  refine ⟨fun index => ⟨exists_insert (i := .row index), fun g' hr => (gains_of_insertRow hr).2⟩,
    fun index => ⟨exists_insert (i := .column index), fun g' hc => (gains_of_insertColumn hc).2⟩,
    ?_, fun insertions => ⟨(g.afterAll insertions).size_eq, spreads_afterAll g insertions⟩, ?_⟩
  · intro i r hr
    unfold after
    rw [hr]
  · intro row column
    have hkinds : (Insertion.row row).isRow ≠ (Insertion.column column).isRow := Bool.noConfusion
    exact ⟨fun k => insert_bind_insert_eq_ok hkinds, insert_comm hkinds⟩

/-- Two pixels, one below the other. -/
def pair : Grid :=
  ⟨⟨1, 2, Nat.zero_lt_one, Nat.zero_lt_two, by decide⟩, #[.solid 1 2 3, .solid 4 5 6], by decide⟩

/-- The pair gains a row between its pixels and a column to the left, in either order, but no column
that would leave a gap. -/
theorem insertions_spread_picture_pair :
    (∃ a, pair.insertRow 1 = .ok a ∧ a.at? 0 2 = some (.solid 4 5 6) ∧ a.at? 0 1 = some .white) ∧
    (∃ b, pair.insertColumn 0 = .ok b ∧ b.at? 1 1 = some (.solid 4 5 6) ∧ b.at? 0 1 = some .white) ∧
    (∃ r, pair.insert (.column 2) = .error r) ∧ pair.after (.column 2) = pair ∧
    (pair.insertRow 1 >>= (·.insertColumn 0)) = pair.insertColumn 0 >>= (·.insertRow 1) := by
  obtain ⟨hrows, hcolumns, hrefused, -, hcross⟩ := insertions_spread_picture pair
  obtain ⟨a, ha⟩ := (hrows 1).1.2 (by decide)
  obtain ⟨b, hb⟩ := (hcolumns 0).1.2 (by decide)
  have hgap : pair.insert (.column 2) = .error (.outsideLines .column 2 1) := rfl
  refine ⟨⟨a, ha, ?_, ?_⟩, ⟨b, hb, ?_, ?_⟩, ⟨_, hgap⟩, hrefused _ _ hgap,
    (hcross 1 0).2 ⟨a, ha⟩ ⟨b, hb⟩⟩
  · exact ((hrows 1).2 a ha).cells 0 2
  · exact ((hrows 1).2 a ha).cells 0 1
  · exact ((hcolumns 0).2 b hb).cells 1 1
  · exact ((hcolumns 0).2 b hb).cells 0 1

end Grid

end RasterScript
