import RasterScript.Grid.Walk
import RasterScript.Pixel.Channel

/-!
# Kernel — convolution filters

A kernel is a square table of weights around a centre.  Convolution replaces each colour channel by
the weighted sum over the window around the pixel, reading the picture as it was before; what lies
outside the picture reads as zero, and the opacity is kept.

Radii and offsets are machine words.  The size of a table and the distances of an offset are
reckoned in words and can overflow, which stops the program: `Kernel.ofWeights` and `Kernel.weight`
say so in their types.  The place of an entry in the table is reckoned in whole numbers, since a
table whose last place is no word does not fit into memory.
-/

namespace RasterScript

/-- The number of entries of a table of this radius. -/
def tableSize (radius : UInt64) : Except Overflow UInt64 := do
  let double ← Checked.product 2 radius
  -- the last word is odd, so there is one after an even one
  let side := double + 1
  Checked.product side side

theorem tableSize_one : (tableSize 1).map UInt64.toNat = .ok 9 := rfl

theorem tableSize_two : (tableSize 2).map UInt64.toNat = .ok 25 := rfl

/-- A square table of weights, row by row. -/
structure Kernel where
  name : String
  radius : UInt64
  weights : Array Float
  size_eq : (tableSize radius).map UInt64.toNat = .ok weights.size

namespace Kernel

/-! ## 1. Tables -/

/-- A kernel from its table, refused if the number of weights does not fit the radius. -/
def ofWeights (name : String) (radius : UInt64) (weights : Array Float) :
    Except Overflow (Except Refusal Kernel) :=
  match h : tableSize radius with
  | .error o => .error o
  | .ok size =>
    if h' : weights.size = size.toNat then
      .ok (.ok ⟨name, radius, weights, by rw [h, h']; rfl⟩)
    else .ok (.error (.kernelSize radius.toNat size.toNat weights.size))

/-- A quarter in the centre, an eighth for the four neighbours, a sixteenth for the corners. -/
def blur : Kernel where
  name := "blur"
  radius := 1
  weights :=
    let c : Float := 1 / 4
    let o : Float := 1 / 8
    let d : Float := 1 / 16
    #[d, o, d,
      o, c, o,
      d, o, d]
  size_eq := tableSize_one

/-- One in the centre, a quarter around it, and minus an eighth on the rim. -/
def sharpen : Kernel where
  name := "sharpen"
  radius := 2
  weights :=
    let i : Float := 1 / 4
    let n : Float := -1 / 8
    #[n, n, n, n, n,
      n, i, i, i, n,
      n, i, 1, i, n,
      n, i, i, i, n,
      n, n, n, n, n]
  size_eq := tableSize_two

/-! ## 2. Weights by offset -/

/-- The radius as a signed word. -/
def reach (k : Kernel) : Int64 := k.radius.toInt64

/-- The entry in row `dy + radius` and column `dx + radius`. -/
def entry (k : Kernel) (dx dy : Int) : Float :=
  k.weights.getD ((dy + k.radius.toNat) * (2 * k.radius.toNat + 1) + (dx + k.radius.toNat)).toNat 0

/-- The weight of the cell `dx` to the right of the centre and `dy` below it: zero beyond the
radius, the table's entry within. -/
def weight (k : Kernel) (dx dy : Int64) : Except Overflow Float := do
  if k.reach < (← Checked.magnitude dx) then return 0
  -- only the columns within the radius are asked how far the row is
  if k.reach < (← Checked.magnitude dy) then return 0
  return k.entry dx.toInt dy.toInt

/-! ## 3. Convolution -/

/-- The offsets from one end of the window to the other. -/
def offsets (k : Kernel) : List Int64 :=
  let low := -k.reach
  (List.range (k.reach.toInt - low.toInt + 1).toNat).map fun i => low + Int64.ofNat i

/-- The weight of a cell of the window, where no distance overflows. -/
def windowWeight (k : Kernel) (dx dy : Int64) : Float := (k.weight dx dy).toOption.getD 0

/-- Adds the share of one cell of the window to a sum; `sample` reads the picture. -/
def addShare (k : Kernel) (sample : Int64 → Int64 → UInt8) (dy : Int64) (sum : Float)
    (dx : Int64) : Float :=
  let w := k.windowWeight dx dy
  if w == 0 then sum else sum + w * (sample dx dy).toFloat

/-- The weighted sum over the window, row by row. -/
def windowSum (k : Kernel) (sample : Int64 → Int64 → UInt8) : Float :=
  k.offsets.foldl (fun sum dy => k.offsets.foldl (k.addShare sample dy) sum) 0

/-- The colour that a window sees at an offset from a place, and no offset of a window is so large
that the step there would stop. -/
def sampleAt (g : Grid) (p : Position g.extent) (c : Channel) (dx dy : Int64) : UInt8 :=
  (Node.color g (p.offset? dx.toInt dy.toInt)).get c

def convolve (k : Kernel) (g : Grid) : Grid :=
  Grid.build g.extent fun p =>
    Pixel.ofChannels (fun c => roundChannel (k.windowSum (sampleAt g p c))) (g.get p).opacity

@[simp] theorem extent_convolve (k : Kernel) (g : Grid) : (k.convolve g).extent = g.extent := rfl

@[simp] theorem get_convolve (k : Kernel) (g : Grid) (p : Position g.extent) :
    (k.convolve g).get p =
      Pixel.ofChannels (fun c => roundChannel (k.windowSum (sampleAt g p c)))
        (g.get p).opacity :=
  Grid.get_build _ _ p

end Kernel

end RasterScript
