import RasterScript.Grid.Basic
import RasterScript.Overflow

/-!
# Walk — stepping over a picture, reading it in order, and painting on it

A `Node` is a place of a picture or the void around it.  A step off the picture leads into the
void, and no step leads out of it again.  The void reads as a transparent pixel and ignores what is
painted on it.

* `Position.offset?`: the place at a distance, in whole numbers;
* `Position.step`: the same in machine words, which stops where a coordinate is no word
  (`Position.step_eq`);
* `Step` and `Node.walk`: reading walks along links to the four neighbours and jumps; links are so
  short that they never stop (`Node.step_link`);
* `Scan`: all places one after the other, row by row;
* `Brush`: a place to paint at, moved along links.
-/

namespace RasterScript

/-! ## 1. Directions -/

/-- The four neighbours of a place. -/
inductive Direction
  | above
  | below
  | left
  | right
  deriving DecidableEq, Repr

namespace Direction

def all : List Direction := [.above, .below, .left, .right]

/-- The direction back. -/
def opposite : Direction → Direction
  | .above => .below
  | .below => .above
  | .left => .right
  | .right => .left

/-- One step as a change of column and row. -/
def offset : Direction → Int64 × Int64
  | .above => (0, -1)
  | .below => (0, 1)
  | .left => (-1, 0)
  | .right => (1, 0)

def name : Direction → String
  | .above => "Above"
  | .below => "Below"
  | .left => "Left"
  | .right => "Right"

@[simp] theorem opposite_opposite (d : Direction) : d.opposite.opposite = d := by
  cases d <;> rfl

theorem toInt_offset_opposite (d : Direction) :
    d.opposite.offset.1.toInt = -d.offset.1.toInt ∧
      d.opposite.offset.2.toInt = -d.offset.2.toInt := by
  cases d <;> decide

end Direction

/-! ## 2. Moving about -/

namespace Position

variable {e : Extent}

/-- The place `dx` columns to the right and `dy` rows down, if it lies on the picture. -/
def offset? (p : Position e) (dx dy : Int) : Option (Position e) :=
  let x := (p.x : Int) + dx
  let y := (p.y : Int) + dy
  if 0 ≤ x ∧ 0 ≤ y then of? e x.toNat y.toNat else none

theorem offset?_eq_some {p q : Position e} {dx dy : Int} :
    p.offset? dx dy = some q ↔ (q.x : Int) = p.x + dx ∧ (q.y : Int) = p.y + dy := by
  simp only [offset?]
  split
  · rename_i h
    rw [of?_eq_some]
    omega
  · rename_i h
    simp only [reduceCtorEq, false_iff]
    omega

theorem x_le (p : Position e) : p.x ≤ maxPixels :=
  Nat.le_trans (Nat.le_of_lt p.x_lt) e.width_le

theorem y_le (p : Position e) : p.y ≤ maxPixels :=
  Nat.le_trans (Nat.le_of_lt p.y_lt) e.height_le

/-- The place at two coordinates in words, if it lies on the picture. -/
def ofWords? (e : Extent) (x y : Int64) : Option (Position e) :=
  if 0 ≤ x ∧ 0 ≤ y then of? e x.toNatClampNeg y.toNatClampNeg else none

/-- The place `dx` columns to the right and `dy` rows down, as a machine looks for it. -/
def step (p : Position e) (dx dy : Int64) : Except Overflow (Option (Position e)) := do
  let x ← Checked.sum (.ofNat p.x) dx
  let y ← Checked.sum (.ofNat p.y) dy
  return ofWords? e x y

theorem ofWords?_of_toInt {p : Position e} {x y : Int64} {dx dy : Int}
    (hx : x.toInt = p.x + dx) (hy : y.toInt = p.y + dy) : ofWords? e x y = p.offset? dx dy := by
  have hsign : 0 ≤ x ∧ 0 ≤ y ↔ 0 ≤ (p.x : Int) + dx ∧ 0 ≤ (p.y : Int) + dy := by
    rw [Int64.le_iff_toInt_le, Int64.le_iff_toInt_le, Int64.toInt_zero, hx, hy]
  have hcolumn : x.toNatClampNeg = ((p.x : Int) + dx).toNat := congrArg Int.toNat hx
  have hrow : y.toNatClampNeg = ((p.y : Int) + dy).toNat := congrArg Int.toNat hy
  unfold ofWords? offset?
  simp only [hsign, hcolumn, hrow]

theorem toInt_ofNat_coordinate {c : Nat} (hc : c ≤ maxPixels) : (Int64.ofNat c).toInt = c := by
  unfold maxPixels at hc
  exact Int64.toInt_ofNat_of_lt (by omega)

/-- Words lead where whole numbers lead, unless a coordinate is no word; then they lead nowhere. -/
theorem step_eq (p : Position e) (dx dy : Int64) :
    p.step dx dy =
      if IsWord (p.x + dx.toInt) ∧ IsWord (p.y + dy.toInt) then .ok (p.offset? dx.toInt dy.toInt)
      else .error .sum := by
  have hcolumn := Checked.sum_cases (.ofNat p.x) dx
  have hrow := Checked.sum_cases (.ofNat p.y) dy
  rw [toInt_ofNat_coordinate p.x_le] at hcolumn
  rw [toInt_ofNat_coordinate p.y_le] at hrow
  unfold step
  rcases hcolumn with ⟨hx, x, hsum, hxInt⟩ | ⟨hx, hsum⟩
  · rcases hrow with ⟨hy, y, hsum', hyInt⟩ | ⟨hy, hsum'⟩
    · rw [hsum, hsum', if_pos ⟨hx, hy⟩, ← ofWords?_of_toInt hxInt hyInt]
      rfl
    · rw [hsum, hsum', if_neg fun h => hy h.2]
      rfl
  · rw [hsum, if_neg fun h => hx h.1]
    rfl

/-- A step of a length in half words does not stop. -/
theorem step_of_small (p : Position e) {dx dy : Int64} (hx : dx.toInt.natAbs ≤ UInt32.size)
    (hy : dy.toInt.natAbs ≤ UInt32.size) : p.step dx dy = .ok (p.offset? dx.toInt dy.toInt) := by
  have hcolumn := p.x_le
  have hrow := p.y_le
  unfold maxPixels at hcolumn hrow
  unfold UInt32.size at hx hy
  rw [step_eq, if_pos]
  unfold IsWord
  rw [Int64.toInt_minValue, Int64.toInt_maxValue]
  omega

end Position

/-! ## 3. Nodes -/

/-- A place of a picture, or the void around it. -/
abbrev Node (e : Extent) := Option (Position e)

inductive Step
  | link (direction : Direction)
  | jump (dx dy : Int64)
  deriving DecidableEq, Repr

def Step.offset : Step → Int64 × Int64
  | .link d => d.offset
  | .jump dx dy => (dx, dy)

namespace Node

variable {e : Extent}

/-- The node reached by one step; from the void there is no way back. -/
def step (n : Node e) (s : Step) : Except Overflow (Node e) :=
  match n with
  | some p => p.step s.offset.1 s.offset.2
  | none => .ok none

/-- The node reached by one link. -/
def neighbor (n : Node e) (d : Direction) : Node e :=
  n.bind fun p => p.offset? d.offset.1.toInt d.offset.2.toInt

def walk (n : Node e) (steps : List Step) : Except Overflow (Node e) :=
  steps.foldlM step n

/-- The nodes met on a walk, the first one included. -/
def trail (n : Node e) : List Step → Except Overflow (List (Node e))
  | [] => .ok [n]
  | s :: rest => do
    let next ← n.step s
    return n :: (← trail next rest)

def color (g : Grid) : Node g.extent → Pixel
  | some p => g.get p
  | none => .transparent

/-- Whether two nodes are the same one: the void is one node, whatever the picture, and places are
told apart by their picture (`samePicture`) and their coordinates. -/
def same {e e' : Extent} (samePicture : Bool) : Node e → Node e' → Bool
  | none, none => true
  | some p, some q => samePicture && p.x == q.x && p.y == q.y
  | _, _ => false

/-- A step along a link does not stop. -/
theorem step_link (n : Node e) (d : Direction) : n.step (.link d) = .ok (n.neighbor d) := by
  cases n with
  | none => rfl
  | some p => exact p.step_of_small (by cases d <;> decide) (by cases d <;> decide)

theorem walk_cons (n : Node e) (s : Step) (rest : List Step) :
    n.walk (s :: rest) = n.step s >>= fun m => m.walk rest :=
  List.foldlM_cons

@[simp] theorem walk_none (steps : List Step) : walk (none : Node e) steps = .ok none := by
  induction steps with
  | nil => rfl
  | cons s rest ih => exact (walk_cons none s rest).trans ih

/-- Places whose links do not lead back: to the left from the right neighbour, or up from the one
below. -/
def brokenLinks (e : Extent) : Nat :=
  let back (n : Node e) (d : Direction) : Bool :=
    (n.neighbor d).isNone || decide ((n.neighbor d).neighbor d.opposite = n)
  ((List.range e.area).filterMap fun i => Position.of? e (i % e.width) (i / e.width)).countP
    fun p => !(back (some p) .right && back (some p) .below)

end Node

/-! ## 4. Scans -/

/-- A reading of all places row by row, of which the first `seen` are done. -/
structure Scan (e : Extent) where
  seen : Nat
  deriving DecidableEq, Repr

namespace Scan

variable {e : Extent}

/-- A scan that has not begun. -/
def start (e : Extent) : Scan e := ⟨0⟩

def remaining (s : Scan e) : Nat := e.area - s.seen

/-- The next place and the scan after it; nothing once all places are done. -/
def next? (s : Scan e) : Option (Position e × Scan e) :=
  if h : s.seen < e.area then some (.ofIndex e s.seen h, ⟨s.seen + 1⟩) else none

/-- The next `n` places, or all that are left, and the scan after them. -/
def take (s : Scan e) : Nat → List (Position e) × Scan e
  | 0 => ([], s)
  | n + 1 =>
    match s.next? with
    | none => ([], s)
    | some (p, s') =>
      let (ps, s'') := s'.take n
      (p :: ps, s'')

end Scan

/-! ## 5. Brushes -/

/-- A picture and the node of it where paint goes. -/
structure Brush where
  grid : Grid
  node : Node grid.extent

namespace Brush

/-- A brush set down in column `x` and row `y`. -/
def putDown (g : Grid) (x y : Nat) : Except Refusal Brush :=
  (Position.ofCoordinates g.extent x y).map fun p => ⟨g, some p⟩

def move (b : Brush) (d : Direction) : Brush :=
  ⟨b.grid, b.node.neighbor d⟩

/-- The brush after an edit of the pixel under it; in the void nothing happens. -/
def paint (b : Brush) (edit : PixelEdit) : Brush :=
  match b with
  | ⟨g, some p⟩ => ⟨g.set p (edit.apply (g.get p)), some p⟩
  | ⟨g, none⟩ => ⟨g, none⟩

def travel (b : Brush) (path : List Direction) : Brush := path.foldl move b

def color (b : Brush) : Pixel := Node.color b.grid b.node

theorem grid_of_putDown {g : Grid} {x y : Nat} {b : Brush} (h : putDown g x y = .ok b) :
    b.grid = g := by
  unfold putDown at h
  cases hp : Position.ofCoordinates g.extent x y with
  | error c => simp [hp, Except.map] at h
  | ok p =>
    simp only [hp, Except.map, Except.ok.injEq] at h
    exact h ▸ rfl

@[simp] theorem grid_travel (b : Brush) (path : List Direction) :
    (b.travel path).grid = b.grid := by
  induction path generalizing b with
  | nil => rfl
  | cons d path ih => exact ih (b.move d)

@[simp] theorem extent_paint (b : Brush) (edit : PixelEdit) :
    (b.paint edit).grid.extent = b.grid.extent := by
  obtain ⟨g, n⟩ := b
  cases n <;> rfl

end Brush

end RasterScript
