import RasterScript.Grid.Basic

/-!
# Rows — pictures as lists of rows, and inserting rows and columns

`Grid.rows` cuts a picture into its rows and `Grid.ofRows` puts rows of one width together again.
A new row is spliced into the pixels at the end of the rows before it (`splice`); a new column is an
insertion into every row, after which the rows are put together at their new width.
-/

namespace RasterScript

/-- In rows of width `w` laid end to end, the cell `x` of row `y` has index `y * w + x`. -/
theorem getElem?_flatten_of_length {α : Type} {w : Nat} (rows : List (List α))
    (hw : ∀ r ∈ rows, r.length = w) {x y : Nat} (hx : x < w) :
    rows.flatten[y * w + x]? = rows[y]?.bind (·[x]?) := by
  induction rows generalizing y with
  | nil => simp
  | cons r rows ih =>
    have hr : r.length = w := hw r List.mem_cons_self
    rw [List.flatten_cons]
    cases y with
    | zero => simp [List.getElem?_append_left, hr, hx]
    | succ y =>
      rw [List.getElem?_append_right (by rw [hr, Nat.add_mul]; omega)]
      have : (y + 1) * w + x - r.length = y * w + x := by rw [hr, Nat.add_mul]; omega
      rw [this, ih (fun s hs => hw s (List.mem_cons_of_mem _ hs))]
      simp

/-- Rows of width `w` laid end to end are as long as `w` times their number. -/
theorem length_flatten_of_length {α : Type} {w : Nat} (rows : List (List α))
    (hw : ∀ r ∈ rows, r.length = w) : rows.flatten.length = w * rows.length := by
  induction rows with
  | nil => simp
  | cons r rows ih =>
    rw [List.flatten_cons, List.length_append, hw r List.mem_cons_self,
      ih fun s hs => hw s (List.mem_cons_of_mem _ hs), List.length_cons, Nat.mul_add]
    omega

/-- The entries of `a` with those of `new` in front of entry `start`. -/
def splice {α : Type} (a : Array α) (start : Nat) (new : Array α) : Array α :=
  a.extract 0 start ++ new ++ a.extract start

@[simp] theorem size_splice {α : Type} (a : Array α) (start : Nat) (new : Array α) :
    (splice a start new).size = a.size + new.size := by
  simp only [splice, Array.size_append, Array.size_extract]
  omega

theorem getElem?_splice {α : Type} {a new : Array α} {start : Nat} (h : start ≤ a.size) (k : Nat) :
    (splice a start new)[k]? =
      if k < start then a[k]?
      else if k < start + new.size then new[k - start]?
      else a[k - new.size]? := by
  have hfront : (a.extract 0 start).size = start := by
    rw [Array.size_extract, Nat.min_eq_left h, Nat.sub_zero]
  rw [splice, Array.append_assoc, Array.getElem?_append, hfront]
  split
  · rw [Array.getElem?_extract, if_pos (by omega), Nat.zero_add]
  · rw [Array.getElem?_append]
    split
    · rw [if_pos (by omega)]
    · rw [if_neg (by omega), Array.getElem?_extract, Nat.min_self]
      have hback : start + (k - start - new.size) = k - new.size := by omega
      rw [hback]
      split
      · rfl
      · exact (Array.getElem?_eq_none (by omega)).symm

namespace Grid

def row (g : Grid) (y : Nat) : List Pixel :=
  (g.pixels.extract (y * g.width) (y * g.width + g.width)).toList

/-- The rows from top to bottom. -/
def rows (g : Grid) : List (List Pixel) :=
  (List.range g.height).map g.row

theorem length_row {g : Grid} {y : Nat} (hy : y < g.height) : (g.row y).length = g.width := by
  have h : (y + 1) * g.width ≤ g.height * g.width := Nat.mul_le_mul_right _ hy
  rw [Nat.add_mul, Nat.one_mul] at h
  have hs := g.size_eq
  rw [Extent.area, Nat.mul_comm] at hs
  simp only [row, Array.length_toList, Array.size_extract, width] at *
  rw [hs, Nat.min_eq_left h, Nat.add_sub_cancel_left]

theorem length_of_mem_rows {g : Grid} {r : List Pixel} (h : r ∈ g.rows) : r.length = g.width := by
  obtain ⟨y, hy, rfl⟩ := List.mem_map.1 h
  exact length_row (List.mem_range.1 hy)

@[simp] theorem length_rows (g : Grid) : g.rows.length = g.height := by simp [rows]

/-- The cell `x` of row `y` is the pixel at `(x, y)`. -/
theorem getElem?_row {g : Grid} (p : Position g.extent) : (g.row p.y)[p.x]? = some (g.get p) := by
  have hx := p.x_lt
  have hi := p.index_lt
  rw [← g.size_eq] at hi
  have h : (g.row p.y).length = g.width := length_row p.y_lt
  rw [List.getElem?_eq_getElem (by rw [h]; exact hx)]
  simp [row, get, Position.index]

/-- The picture with these rows; there is one for each line of `e`, as wide as `e`. -/
def ofRows (e : Extent) (rows : List (List Pixel)) (hh : rows.length = e.height)
    (hw : ∀ r ∈ rows, r.length = e.width) : Grid where
  extent := e
  pixels := rows.flatten.toArray
  size_eq := by
    rw [List.size_toArray, length_flatten_of_length rows hw, hh, Extent.area]

theorem get_ofRows {e : Extent} {rows : List (List Pixel)} {hh : rows.length = e.height}
    {hw : ∀ r ∈ rows, r.length = e.width} (p : Position e) :
    rows[p.y]?.bind (·[p.x]?) = some ((ofRows e rows hh hw).get p) := by
  have hi := p.index_lt
  rw [← getElem?_flatten_of_length rows hw p.x_lt]
  have hlen : rows.flatten.length = e.area := by
    rw [length_flatten_of_length rows hw, hh, Extent.area]
  rw [List.getElem?_eq_getElem (by rw [hlen]; exact hi)]
  simp [get, ofRows, Position.index]

/-! ## Insertion -/

/-- A white row so that it becomes row `index`; the rows from there on move down by one. -/
def insertRow (g : Grid) (index : Nat) : Except Refusal Grid :=
  if index ≤ g.height then
    match h : g.extent.addRow with
    | .error c => .error c
    | .ok e => .ok
        { extent := e
          pixels := splice g.pixels (index * g.width) (Array.replicate g.width .white)
          size_eq := by
            obtain ⟨hw, hh⟩ := Extent.ofSides_eq_ok.1 h
            rw [size_splice, g.size_eq, Array.size_replicate, Extent.area, Extent.area, hw, hh,
              Nat.mul_succ] }
  else .error (.outsideLines .row index g.height)

/-- A white column so that it becomes column `index`; the columns from there on move right by
one. -/
def insertColumn (g : Grid) (index : Nat) : Except Refusal Grid :=
  if hi : index ≤ g.width then
    match h : g.extent.addColumn with
    | .error c => .error c
    | .ok e => .ok <| ofRows e (g.rows.map (·.insertIdx index .white))
        (by
          obtain ⟨hw, hh⟩ := Extent.ofSides_eq_ok.1 h
          rw [hh, List.length_map, length_rows])
        (by
          obtain ⟨hw, hh⟩ := Extent.ofSides_eq_ok.1 h
          intro r hr
          obtain ⟨s, hs, rfl⟩ := List.mem_map.1 hr
          rw [hw, List.length_insertIdx, length_of_mem_rows hs, if_pos hi])
  else .error (.outsideLines .column index g.width)

end Grid

end RasterScript
