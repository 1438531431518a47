import RasterScript.Raster.Basic
import RasterScript.Raster.Jpeg.Segments
import RasterScript.Raster.Jpeg.Waves

/-!
# Colors — pixels from planes

Planes that are coarser than the picture are brought to its size, and the samples of a place make a
colour.  A plane of half the columns or rows is spread by mixing each sample with its nearer
neighbour, three parts to one; still coarser ones repeat their samples.
-/

namespace RasterScript

namespace Jpeg

/-! ## 1. Samples -/

/-- The samples of a plane, row by row; a row may be longer than the picture needs.  There are
`width` by `height` that count, and each stands for `across` by `down` pixels. -/
structure Sheet where
  stride : Nat
  width : Nat
  height : Nat
  across : Nat
  down : Nat
  values : Array Nat

namespace Sheet

/-- The sample in column `x` and row `y`. -/
def get (s : Sheet) (x y : Nat) : Nat := s.values.getD (y * s.stride + x) 0

/-- The 64 samples of a block, row by row. -/
def ofBlock (steps : Array Nat) (b : Block) : Array UInt8 :=
  synthesis ((List.range 64).foldl (fun amounts i =>
    amounts.setIfInBounds (zigzag.getD i 0) ((b.getD i 0).toInt * steps.getD i 1))
    (Array.replicate 64 0))

/-- The samples of a plane.  Planes of samples are as fine as the picture. -/
def ofPlane (f : Frame) (c : Component) : Plane → Sheet
  | .samples values => ⟨f.width, f.width, f.height, 1, 1, values⟩
  | .waves steps blocks =>
    let stride := 8 * f.blocksAcross c
    let drawn := blocks.map (ofBlock steps)
    { stride := stride
      width := quotientUp (f.width * c.across) f.maxAcross
      height := quotientUp (f.height * c.down) f.maxDown
      across := if f.width = 1 then 1 else f.maxAcross / c.across
      down := if f.height = 1 then 1 else f.maxDown / c.down
      values := Array.ofFn fun i : Fin (64 * blocks.size) =>
        let x := i.val % stride
        let y := i.val / stride
        let block := drawn.getD (y / 8 * f.blocksAcross c + x / 8) #[]
        (block.getD (8 * (y % 8) + x % 8) 0).toNat }

/-- In a row or column of `count` samples that each stand for `scale` places: the samples that are
nearest and second nearest to a place. -/
def neighbors (scale count place : Nat) : Nat × Nat :=
  let near := place / scale
  if scale ≠ 2 then (near, near)
  else if place % 2 = 0 then (near, near - 1)
  else (near, min (near + 1) (count - 1))

/-- The sample for the pixel in column `x` and row `y`. -/
def spread (s : Sheet) (x y : Nat) : Nat :=
  if s.across ≤ 2 ∧ s.down ≤ 2 then
    let columns := neighbors s.across s.width x
    let rows := neighbors s.down s.height y
    let mixed (column : Nat) : Nat := 3 * s.get column rows.1 + s.get column rows.2
    (3 * mixed columns.1 + mixed columns.2 + 8) / 16
  else s.get (x / s.across) (y / s.down)

end Sheet

/-! ## 2. Colours -/

/-- What the samples of a pixel are: one grey value of eight or of sixteen bits; red, green and
blue; luma and two colour differences; how much light three inks and black let through, the inks
also as luma and differences; or how much there is of three inks and black. -/
inductive ColorModel
  | grey
  | deepGrey
  | channels
  | differences
  | light
  | lightDifferences
  | ink
  deriving DecidableEq

namespace ColorModel

/-- The colour of luma and two differences around 128, computed with twenty binary places. -/
def ofDifferences (luma blue red : Nat) : Pixel :=
  let y : Int := 1048576 * luma + 524288
  let b : Int := blue - 128
  let r : Int := red - 128
  let channel (v : Int) : UInt8 := nearestByte (v / 1048576)
  .solid (channel (y + 1470104 * r)) (channel (y - 360857 * b - 748830 * r))
    (channel (y + 1858077 * b))

/-- The same colour computed with six binary places. -/
def ofDifferencesRoughly (luma blue red : Nat) : Pixel :=
  let y : Int := 64 * luma + 32
  let b : Int := 64 * blue - 8192
  let r : Int := 64 * red - 8192
  let channel (v : Int) : UInt8 := nearestByte (v / 64)
  .solid (channel (y + (fraction 13173 r + r)))
    (channel (y - (fraction 11277 b + fraction 23401 r)))
    (channel (y + (fraction 25297 b + b)))

/-- The part `black` of 255 of a channel. -/
def shaded (black v : Nat) : UInt8 := UInt8.ofNat (black * v / 255)

/-- The colour that samples make; `roughly` says how differences are computed. -/
def color (model : ColorModel) (roughly : Bool) (samples : List Nat) : Pixel :=
  match model, samples with
  | .grey, [v] => .solid (.ofNat v) (.ofNat v) (.ofNat v)
  | .deepGrey, [v] => let v := UInt8.ofNat ((v + 128) / 257); .solid v v v
  | .channels, [r, g, b] => .solid (.ofNat r) (.ofNat g) (.ofNat b)
  | .differences, [y, b, r] =>
    if roughly then ofDifferencesRoughly y b r else ofDifferences y b r
  | .light, [c, m, y, k] => .solid (shaded k c) (shaded k m) (shaded k y)
  | .lightDifferences, [y, b, r, k] =>
    let p := ofDifferences y b r
    .solid (shaded k (255 - p.red.toNat)) (shaded k (255 - p.green.toNat))
      (shaded k (255 - p.blue.toNat))
  | .ink, [c, m, y, k] =>
    .solid (shaded (255 - k) (255 - c)) (shaded (255 - k) (255 - m)) (shaded (255 - k) (255 - y))
  | _, _ => .transparent

/-- What the samples of three planes of waves are.  Some names of planes say it; the remarks say it
for others. -/
def ofThree? (known : Known) (names : List UInt8) : Option ColorModel :=
  if names = [1, 2, 3] then some .differences
  else if names = [1, 34, 35] ∨ names = [114, 103, 98] then none
  else if names = [82, 71, 66] then some .channels
  else if known.density then some .differences
  else
    match known.transform with
    | some 0 => some .channels
    | some 2 => none
    | _ => some .differences

/-- What the samples of a picture are, if there is a meaning to them. -/
def ofKnown? (known : Known) (f : Frame) : Option ColorModel :=
  match f.components.length with
  | 1 => if f.precision = 8 then some .grey else some .deepGrey
  | 3 =>
    if f.process = .lossless then some .channels
    else ofThree? known (f.components.map (·.id))
  | _ =>
    if f.process = .lossless then some .ink
    else
      match known.transform with
      | some 1 => none
      | some 2 => some .lightDifferences
      | _ => some .light

end ColorModel

end Jpeg

end RasterScript
