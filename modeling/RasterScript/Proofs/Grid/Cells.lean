import RasterScript.Grid.Rows

/-!
# Cells — what stands where on a picture

`Grid.at?` reads a picture by column and row, as numbers of any size, and finds nothing outside it.
Two pictures of one size with the same cells are the same picture, so what an operation does to a
picture can be said as one equation for its cells.
-/

namespace RasterScript

namespace Grid

variable {g h : Grid} {x y : Nat}

/-- The pixel in column `x` and row `y`; nothing outside the picture. -/
def at? (g : Grid) (x y : Nat) : Option Pixel :=
  (Position.of? g.extent x y).map g.get

@[simp] theorem at?_position (p : Position g.extent) : g.at? p.x p.y = some (g.get p) := by
  simp [at?]

theorem at?_eq_none : g.at? x y = none ↔ ¬ (x < g.width ∧ y < g.height) := by
  rw [at?, Option.map_eq_none_iff, Position.of?_eq_none]

theorem exists_position (hx : x < g.width) (hy : y < g.height) :
    ∃ p : Position g.extent, p.x = x ∧ p.y = y :=
  ⟨⟨x, y, hx, hy⟩, rfl, rfl⟩

/-- The pixels that a request by coordinates is answered with are the cells. -/
theorem pixel_eq (g : Grid) (x y : Nat) : g.pixel x y =
    (g.at? x y).elim (.error (.outsidePicture x y g.width g.height)) .ok := by
  unfold pixel Position.ofCoordinates at?
  cases Position.of? g.extent x y with
  | none => rfl
  | some p => rfl

theorem pixel_eq_ok {v : Pixel} : g.pixel x y = .ok v ↔ g.at? x y = some v := by
  rw [pixel_eq]
  cases g.at? x y with
  | none => simp
  | some w => simp

theorem ext_at? (hw : g.width = h.width) (hh : g.height = h.height)
    (hcells : ∀ x y, g.at? x y = h.at? x y) : g = h := by
  obtain ⟨e, s, hs⟩ := g
  obtain ⟨e', t, ht⟩ := h
  obtain rfl : e = e' := Extent.ext hw hh
  refine ext_get fun p => ?_
  have hcell := hcells p.x p.y
  rw [at?_position (g := ⟨e, s, hs⟩), at?_position (g := ⟨e, t, ht⟩)] at hcell
  exact Option.some.inj hcell

@[simp] theorem get_set_self (p : Position g.extent) (v : Pixel) : (g.set p v).get p = v := by
  rw [get_set, if_pos rfl]

theorem at?_set (p : Position g.extent) (v : Pixel) :
    (g.set p v).at? x y = if x = p.x ∧ y = p.y then some v else g.at? x y := by
  by_cases hin : x < g.width ∧ y < g.height
  · obtain ⟨q, rfl, rfl⟩ := exists_position hin.1 hin.2
    have hcell : (g.set p v).at? q.x q.y = some ((g.set p v).get q) :=
      at?_position (g := g.set p v) q
    rw [hcell, at?_position, get_set]
    by_cases hq : q = p
    · rw [if_pos hq, if_pos ⟨congrArg Position.x hq, congrArg Position.y hq⟩]
    · rw [if_neg hq, if_neg fun hxy : q.x = p.x ∧ q.y = p.y => hq (Position.ext hxy.1 hxy.2)]
  · -- outside the picture both sides are nothing
    have hplace : ¬ (x = p.x ∧ y = p.y) := by
      rintro ⟨rfl, rfl⟩
      exact hin ⟨p.x_lt, p.y_lt⟩
    rw [if_neg hplace, at?_eq_none.2 hin]
    exact (at?_eq_none (g := g.set p v)).2 hin

theorem at?_map (f : Pixel → Pixel) : (g.map f).at? x y = (g.at? x y).map f := by
  have hget : (g.map f).get = f ∘ g.get := funext (get_map f g)
  unfold at?
  rw [hget, Option.map_map]
  rfl

/-! ## Cells, pixels and rows -/

/-- The cells are the pixels row by row; past the last row there are neither. -/
theorem at?_eq_pixels (hx : x < g.width) : g.at? x y = g.pixels[y * g.width + x]? := by
  by_cases hy : y < g.height
  · obtain ⟨p, rfl, rfl⟩ := exists_position hx hy
    rw [at?_position]
    exact (Array.getElem?_eq_getElem (g.size_eq ▸ p.index_lt)).symm
  · have hpast : g.height * g.width ≤ y * g.width := Nat.mul_le_mul_right _ (Nat.le_of_not_lt hy)
    have hsize : g.pixels.size = g.height * g.width := g.size_eq.trans (Nat.mul_comm ..)
    rw [at?_eq_none.2 fun hin => hy hin.2, Array.getElem?_eq_none (by omega)]

/-- Beyond the rows, and beyond the end of a row, there is nothing. -/
theorem getElem?_rows_eq_none {α : Type} {w : Nat} {rows : List (List α)}
    (hw : ∀ r ∈ rows, r.length = w) (hout : ¬ (x < w ∧ y < rows.length)) :
    rows[y]?.bind (·[x]?) = none := by
  by_cases hy : y < rows.length
  · rw [List.getElem?_eq_getElem hy]
    show rows[y][x]? = none
    rw [List.getElem?_eq_none_iff, hw _ (List.getElem_mem hy)]
    omega
  · rw [List.getElem?_eq_none_iff.2 (Nat.le_of_not_lt hy)]
    rfl

theorem at?_eq_rows : g.at? x y = g.rows[y]?.bind (·[x]?) := by
  by_cases hin : x < g.width ∧ y < g.height
  · obtain ⟨p, rfl, rfl⟩ := exists_position hin.1 hin.2
    have hrow : g.rows[p.y]? = some (g.row p.y) := by
      rw [rows, List.getElem?_map, List.getElem?_range hin.2]
      rfl
    rw [at?_position, hrow]
    exact (getElem?_row p).symm
  · rw [at?_eq_none.2 hin, getElem?_rows_eq_none (fun r hr => length_of_mem_rows hr)]
    rwa [length_rows]

theorem at?_ofRows {e : Extent} {rows : List (List Pixel)} {hh : rows.length = e.height}
    {hw : ∀ r ∈ rows, r.length = e.width} :
    (ofRows e rows hh hw).at? x y = rows[y]?.bind (·[x]?) := by
  by_cases hin : x < e.width ∧ y < e.height
  · have hcell : rows[y]?.bind (·[x]?) =
        some ((ofRows e rows hh hw).get ⟨x, y, hin.1, hin.2⟩) := get_ofRows ⟨x, y, hin.1, hin.2⟩
    rw [hcell]
    exact at?_position (g := ofRows e rows hh hw) ⟨x, y, hin.1, hin.2⟩
  · rw [at?_eq_none.2 (show ¬ (x < (ofRows e rows hh hw).width ∧ _) from hin),
      getElem?_rows_eq_none hw (hh ▸ hin)]

end Grid

end RasterScript
