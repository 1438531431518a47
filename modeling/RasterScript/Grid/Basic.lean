import RasterScript.Pixel.Basic

/-!
# Grid — pictures as rectangles of pixels

An `Extent` is a width and a height that a picture may have: both positive, and not too many
pixels.  A `Grid` holds the pixels of an extent row by row in one array.

Places are addressed by `Position`, which carries the proof that it lies inside, so `Grid.get` and
`Grid.set` are total.  `Position.index` and `Position.ofIndex` are inverse to each other: that
bijection is all that links the flat array to the plane, and `get_build`, `get_set` are the two
equations the rest of the library uses.
-/

namespace RasterScript

/-! ## 1. Extents -/

/-- The most pixels that a picture may have. -/
def maxPixels : Nat := 256000000

/-- The width and height of a picture. -/
structure Extent where
  width : Nat
  height : Nat
  width_pos : 0 < width
  height_pos : 0 < height
  area_le : width * height ≤ maxPixels
  deriving DecidableEq, Repr

namespace Extent

def area (e : Extent) : Nat := e.width * e.height

/-- The extent with these sides, refused if a picture cannot have them. -/
def ofSides (width height : Nat) : Except Refusal Extent :=
  if h : 0 < width ∧ 0 < height then
    if h' : width * height ≤ maxPixels then .ok ⟨width, height, h.1, h.2, h'⟩
    else .error (.tooManyPixels width height maxPixels)
  else .error (.emptyPicture width height)

def single : Extent := ⟨1, 1, by decide, by decide, by decide⟩

/-- One more row, if the result is not too large. -/
def addRow (e : Extent) : Except Refusal Extent := ofSides e.width (e.height + 1)

/-- One more column, if the result is not too large. -/
def addColumn (e : Extent) : Except Refusal Extent := ofSides (e.width + 1) e.height

theorem width_le (e : Extent) : e.width ≤ maxPixels :=
  Nat.le_trans (Nat.le_mul_of_pos_right _ e.height_pos) e.area_le

theorem height_le (e : Extent) : e.height ≤ maxPixels :=
  Nat.le_trans (Nat.le_mul_of_pos_left _ e.width_pos) e.area_le

/-- An extent is its two sides. -/
theorem ext {e e' : Extent} (hw : e.width = e'.width) (hh : e.height = e'.height) : e = e' := by
  cases e; cases e'; simp_all

theorem ofSides_eq_ok {w h : Nat} {e : Extent} :
    ofSides w h = .ok e ↔ e.width = w ∧ e.height = h := by
  unfold ofSides
  split
  · split
    · constructor
      · rintro ⟨⟩; exact ⟨rfl, rfl⟩
      · rintro ⟨rfl, rfl⟩; rfl
    · rename_i h'
      constructor
      · rintro ⟨⟩
      · rintro ⟨rfl, rfl⟩; exact absurd e.area_le h'
  · rename_i h'
    constructor
    · rintro ⟨⟩
    · rintro ⟨rfl, rfl⟩; exact absurd ⟨e.width_pos, e.height_pos⟩ h'

end Extent

/-! ## 2. Positions -/

/-- A place inside an extent; `y` grows downwards. -/
structure Position (e : Extent) where
  x : Nat
  y : Nat
  x_lt : x < e.width
  y_lt : y < e.height
  deriving DecidableEq, Repr

namespace Position

variable {e : Extent}

/-- The place in column `x` and row `y`, if there is one. -/
def of? (e : Extent) (x y : Nat) : Option (Position e) :=
  if h : x < e.width ∧ y < e.height then some ⟨x, y, h.1, h.2⟩ else none

/-- The place in column `x` and row `y`, refused if it lies outside. -/
def ofCoordinates (e : Extent) (x y : Nat) : Except Refusal (Position e) :=
  match of? e x y with
  | some p => .ok p
  | none => .error (.outsidePicture x y e.width e.height)

/-- How many places come before `p`, row by row. -/
def index (p : Position e) : Nat := p.y * e.width + p.x

theorem index_lt (p : Position e) : p.index < e.area := by
  have h₁ : (p.y + 1) * e.width ≤ e.height * e.width := Nat.mul_le_mul_right _ p.y_lt
  have h₂ := p.x_lt
  rw [Nat.add_mul, Nat.one_mul] at h₁
  rw [index, Extent.area, Nat.mul_comm e.width]
  omega

/-- The place with `i` places before it. -/
def ofIndex (e : Extent) (i : Nat) (h : i < e.area) : Position e where
  x := i % e.width
  y := i / e.width
  x_lt := Nat.mod_lt _ e.width_pos
  y_lt := Nat.div_lt_of_lt_mul h

@[simp] theorem index_ofIndex (i : Nat) (h : i < e.area) : (ofIndex e i h).index = i := by
  simp only [index, ofIndex]
  rw [Nat.mul_comm]
  exact Nat.div_add_mod i e.width

theorem ext {p q : Position e} (hx : p.x = q.x) (hy : p.y = q.y) : p = q := by
  cases p; cases q; simp_all

@[simp] theorem ofIndex_index (p : Position e) : ofIndex e p.index p.index_lt = p := by
  apply ext
  · simp [ofIndex, index, Nat.mod_eq_of_lt p.x_lt]
  · simp only [ofIndex, index]
    rw [Nat.add_comm, Nat.add_mul_div_right _ _ e.width_pos, Nat.div_eq_of_lt p.x_lt, Nat.zero_add]

theorem index_injective {p q : Position e} (h : p.index = q.index) : p = q := by
  have hp := ofIndex_index p
  have hq := ofIndex_index q
  simp only [h] at hp
  exact hp.symm.trans hq

@[simp] theorem of?_coordinates (p : Position e) : of? e p.x p.y = some p := by
  simp [of?, p.x_lt, p.y_lt]

theorem of?_eq_some {x y : Nat} {p : Position e} : of? e x y = some p ↔ p.x = x ∧ p.y = y := by
  constructor
  · unfold of?
    split
    · rintro ⟨⟩; exact ⟨rfl, rfl⟩
    · rintro ⟨⟩
  · rintro ⟨rfl, rfl⟩; exact of?_coordinates p

theorem of?_eq_none {x y : Nat} : of? e x y = none ↔ ¬ (x < e.width ∧ y < e.height) := by
  unfold of?
  split <;> simp_all

theorem ofCoordinates_eq_ok {x y : Nat} {p : Position e} :
    ofCoordinates e x y = .ok p ↔ p.x = x ∧ p.y = y := by
  rw [← of?_eq_some]
  unfold ofCoordinates
  split <;> simp_all

theorem ofCoordinates_coordinates (p : Position e) : ofCoordinates e p.x p.y = .ok p :=
  ofCoordinates_eq_ok.2 ⟨rfl, rfl⟩

theorem ofCoordinates_of_outside {x y : Nat} (h : ¬ (x < e.width ∧ y < e.height)) :
    ofCoordinates e x y = .error (.outsidePicture x y e.width e.height) := by
  rw [ofCoordinates, of?_eq_none.2 h]

end Position

/-! ## 3. Grids -/

/-- A picture: an extent and its pixels, row by row. -/
structure Grid where
  extent : Extent
  pixels : Array Pixel
  size_eq : pixels.size = extent.area
  deriving DecidableEq, Repr

namespace Grid

abbrev width (g : Grid) : Nat := g.extent.width

abbrev height (g : Grid) : Nat := g.extent.height

def get (g : Grid) (p : Position g.extent) : Pixel :=
  have h : p.index < g.pixels.size := g.size_eq ▸ p.index_lt
  g.pixels[p.index]

def set (g : Grid) (p : Position g.extent) (v : Pixel) : Grid where
  extent := g.extent
  pixels := g.pixels.set p.index v (g.size_eq ▸ p.index_lt)
  size_eq := by rw [Array.size_set, g.size_eq]

/-- The picture whose pixel at each place is given by `f`. -/
def build (e : Extent) (f : Position e → Pixel) : Grid where
  extent := e
  pixels := Array.ofFn fun i : Fin e.area => f (.ofIndex e i i.isLt)
  size_eq := Array.size_ofFn

def map (f : Pixel → Pixel) (g : Grid) : Grid where
  extent := g.extent
  pixels := g.pixels.map f
  size_eq := by rw [Array.size_map, g.size_eq]

@[simp] theorem extent_set (g : Grid) (p : Position g.extent) (v : Pixel) :
    (g.set p v).extent = g.extent := rfl

@[simp] theorem extent_build (e : Extent) (f : Position e → Pixel) : (build e f).extent = e := rfl

@[simp] theorem extent_map (f : Pixel → Pixel) (g : Grid) : (g.map f).extent = g.extent := rfl

theorem get_set (g : Grid) (p q : Position g.extent) (v : Pixel) :
    (g.set p v).get q = if q = p then v else g.get q := by
  simp only [get, set, Array.getElem_set]
  by_cases h : q = p
  · simp [h]
  · rw [if_neg h, if_neg fun hi => h (Position.index_injective hi.symm)]

@[simp] theorem get_build (e : Extent) (f : Position e → Pixel) (p : Position e) :
    (build e f).get p = f p := by
  simp only [get, build, Array.getElem_ofFn]
  exact congrArg f (Position.ofIndex_index p)

@[simp] theorem get_map (f : Pixel → Pixel) (g : Grid) (p : Position g.extent) :
    (g.map f).get p = f (g.get p) := by
  simp [get, map]

/-- Pictures of one extent that agree at every place are equal. -/
theorem ext_get {e : Extent} {s t : Array Pixel} {hs : s.size = e.area} {ht : t.size = e.area}
    (h : ∀ p : Position e, (Grid.mk e s hs).get p = (Grid.mk e t ht).get p) :
    Grid.mk e s hs = Grid.mk e t ht := by
  congr 1
  apply Array.ext (hs.trans ht.symm)
  intro i h₁ h₂
  have := h (.ofIndex e i (hs ▸ h₁))
  simpa [get] using this

/-! ## 4. Constructors and access by coordinates -/

def fill (e : Extent) (color : Pixel) : Grid where
  extent := e
  pixels := Array.replicate e.area color
  size_eq := Array.size_replicate

def single : Grid := fill .single .white

def filled (width height : Nat) (color : Pixel) : Except Refusal Grid := do
  return fill (← Extent.ofSides width height) color

def transparent (width height : Nat) : Except Refusal Grid :=
  filled width height .transparent

/-- A picture from its pixels, row by row; their number must fit. -/
def ofPixels (width height : Nat) (pixels : Array Pixel) : Except Refusal Grid := do
  let e ← Extent.ofSides width height
  if h : pixels.size = e.area then .ok ⟨e, pixels, h⟩
  else .error (.pixelCount pixels.size width height)

def pixel (g : Grid) (x y : Nat) : Except Refusal Pixel :=
  (Position.ofCoordinates g.extent x y).map g.get

/-- The picture with another pixel in column `x` and row `y`. -/
def setPixel (g : Grid) (x y : Nat) (v : Pixel) : Except Refusal Grid :=
  (Position.ofCoordinates g.extent x y).map fun p => g.set p v

@[simp] theorem get_fill (e : Extent) (color : Pixel) (p : Position e) :
    (fill e color).get p = color := by
  simp [get, fill]

theorem extent_setPixel {g g' : Grid} {x y : Nat} {v : Pixel} (h : g.setPixel x y v = .ok g') :
    g'.extent = g.extent := by
  unfold setPixel at h
  cases hp : Position.ofCoordinates g.extent x y with
  | error c => simp [hp, Except.map] at h
  | ok p =>
    simp only [hp, Except.map, Except.ok.injEq] at h
    exact h ▸ rfl

end Grid

end RasterScript
