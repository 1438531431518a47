import RasterScript.Grid.Walk
import RasterScript.Raster.Jpeg.Code
import RasterScript.Raster.Jpeg.Waves

/-!
# Encode — pictures as JPEG files

Files of one sequential scan: luma and two colour differences at full resolution, steps by quality,
and the usual codes.
-/

namespace RasterScript

namespace Jpeg

/-! ## 1. Blocks -/

/-- The steps of luma at quality 50, row by row. -/
def lumaSteps : Array Nat := #[
  16, 11, 10, 16, 24, 40, 51, 61, 12, 12, 14, 19, 26, 58, 60, 55,
  14, 13, 16, 24, 40, 57, 69, 56, 14, 17, 22, 29, 51, 87, 80, 62,
  18, 22, 37, 56, 68, 109, 103, 77, 24, 35, 55, 64, 81, 104, 113, 92,
  49, 64, 78, 87, 103, 121, 120, 101, 72, 92, 95, 98, 112, 100, 103, 99]

/-- The steps of colour differences at quality 50, row by row. -/
def differenceSteps : Array Nat := #[
  17, 18, 24, 47, 99, 99, 99, 99, 18, 21, 26, 66, 99, 99, 99, 99,
  24, 26, 56, 99, 99, 99, 99, 99, 47, 66, 99, 99, 99, 99, 99, 99,
  99, 99, 99, 99, 99, 99, 99, 99, 99, 99, 99, 99, 99, 99, 99, 99,
  99, 99, 99, 99, 99, 99, 99, 99, 99, 99, 99, 99, 99, 99, 99, 99]

/-- Steps at quality 50 brought to a quality from 1 to 100. -/
def stepsAt (quality : Nat) (steps : Array Nat) : Array Nat :=
  let scale := if quality < 50 then 5000 / quality else 200 - 2 * quality
  steps.map fun s => min 255 (max 1 ((s * scale + 50) / 100))

/-- The three samples of a pixel: luma, and how much bluer and redder it is, around 128. -/
def samples (p : Pixel) : List UInt8 :=
  let r := p.red.toFloat32
  let g := p.green.toFloat32
  let b := p.blue.toFloat32
  [(76.245 / 255 * r + 149.685 / 255 * g + 29.07 / 255 * b).toUInt8,
    (-43.0185 / 255 * r - 84.4815 / 255 * g + 127.5 / 255 * b + 128).toUInt8,
    (127.5 / 255 * r - 106.7685 / 255 * g - 20.7315 / 255 * b + 128).toUInt8]

/-- The integer nearest to `v / unit`; halves go away from 0. -/
def nearestQuotient (v : Int) (unit : Nat) : Int :=
  let n := (2 * v.natAbs + unit) / (2 * unit)
  if v < 0 then -n else n

/-- The 64 samples of a block in steps. -/
def quantized (steps : Array Nat) (samples : Array UInt8) : Block :=
  let amounts := analysis (samples.map fun v => (v.toNat : Int) - 128)
  zigzag.map fun k =>
    Int16.ofInt (nearestQuotient ((amounts.getD k 0).tdiv 8) (steps.getD k 1))

/-! ## 2. Bits -/

def bitLength (v : Int) : Nat := if v = 0 then 0 else v.natAbs.log2 + 1

/-- A value in its own number of bits; negative values are one less than their complement. -/
def valueBits (v : Int) : List Bool :=
  let n := bitLength v
  bits n (if v < 0 then (v + (1 <<< n : Nat) - 1).toNat else v.toNat)

/-- The patterns of a plane: those of sizes, and those of runs and sizes. -/
structure Patterns where
  sizes : Array (List Bool)
  runs : Array (List Bool)

/-- The first coefficient of a block as the difference to the one before. -/
def Patterns.firstBits (patterns : Patterns) (difference : Int) : List Bool :=
  patterns.sizes.getD (bitLength difference) [] ++ valueBits difference

/-- The other coefficients; `run` zeros have been passed over. -/
def Patterns.otherBits (patterns : Patterns) (run : Nat) : List Int16 → List Bool
  | [] => if run = 0 then [] else patterns.runs.getD 0x00 []
  | v :: rest =>
    if v = 0 then patterns.otherBits (run + 1) rest
    else
      let symbol := 16 * (run % 16) + bitLength v.toInt
      (List.replicate (run / 16) (patterns.runs.getD 0xF0 [])).flatten ++
        patterns.runs.getD symbol [] ++ valueBits v.toInt ++ patterns.otherBits 0 rest

/-- A byte of picture data; after 255 comes a zero, so that no marker appears. -/
def stuffed (b : Nat) : Bytes := if b = 255 then [255, 0] else [UInt8.ofNat b]

/-- Bits gathered into bytes: those written, and the ones that do not fill a byte yet. -/
structure BitBuffer where
  written : Array UInt8
  pending : Nat
  count : Nat

/-- One more bit. -/
def BitBuffer.add (buffer : BitBuffer) (bit : Bool) : BitBuffer :=
  let pending := 2 * buffer.pending + bit.toNat
  if buffer.count = 7 then ⟨buffer.written.appendList (stuffed pending), 0, 0⟩
  else ⟨buffer.written, pending, buffer.count + 1⟩

/-- All bytes, the last one filled up with ones. -/
def BitBuffer.finish (buffer : BitBuffer) : Bytes :=
  if buffer.count = 0 then buffer.written.toList
  else ((List.replicate (8 - buffer.count) true).foldl add buffer).written.toList

/-! ## 3. Files -/

def segment (marker : UInt8) (data : Bytes) : Bytes :=
  0xFF :: marker :: bigEndian 2 (data.length + 2) ++ data

/-- What every file begins with: the start marker and the density segment. -/
def opening : Bytes :=
  [0xFF, 0xD8] ++
    segment 0xE0 [0x4A, 0x46, 0x49, 0x46, 0, 1, 2, 0, 0, 1, 0, 1, 0, 0]

def stepsSegment (number : UInt8) (steps : Array Nat) : Bytes :=
  segment 0xDB (number :: zigzag.toList.map fun k => UInt8.ofNat (steps.getD k 1))

def codeSegment (number : UInt8) (c : Code) : Bytes :=
  segment 0xC4 (number :: c.counts.map UInt8.ofNat ++ c.values)

/-- The segments between the opening and the picture data: frame, steps, codes and scan. -/
def tables (quality width height : Nat) : Bytes :=
  segment 0xC0 (8 :: bigEndian 2 height ++ bigEndian 2 width ++
    [3, 1, 0x11, 0, 2, 0x11, 1, 3, 0x11, 1]) ++
  stepsSegment 0 (stepsAt quality lumaSteps) ++
  stepsSegment 1 (stepsAt quality differenceSteps) ++
  codeSegment 0x00 lumaSizes ++ codeSegment 0x10 lumaRuns ++
  codeSegment 0x01 differenceSizes ++ codeSegment 0x11 differenceRuns ++
  segment 0xDA [3, 1, 0, 2, 0x11, 3, 0x11, 0, 63, 0]

/-- What a plane is written with: its steps and its patterns. -/
structure PlaneStyle where
  steps : Array Nat
  patterns : Patterns

/-- The styles of luma and of the two colour differences. -/
def planeStyles (quality : Nat) : List PlaneStyle :=
  let luma : PlaneStyle := ⟨stepsAt quality lumaSteps, lumaSizes.patterns, lumaRuns.patterns⟩
  let difference : PlaneStyle :=
    ⟨stepsAt quality differenceSteps, differenceSizes.patterns, differenceRuns.patterns⟩
  [luma, difference, difference]

/-- Adds the blocks of all planes whose upper left corner is at `(x, y)`; `last` are the first
coefficients of the blocks before.  Behind the edges the picture goes on as it ends. -/
def addBlocks (g : Grid) (styles : List PlaneStyle) (x y : Nat) (buffer : BitBuffer)
    (last : List Int) : BitBuffer × List Int :=
  let colors : Array (List UInt8) := Array.ofFn fun i : Fin 64 =>
    samples (Node.color g (Position.of? g.extent
      (min (x + i.val % 8) (g.width - 1)) (min (y + i.val / 8) (g.height - 1))))
  let blocks := styles.zipIdx.map fun (style, plane) =>
    let plane : Array UInt8 := colors.map fun (c : List UInt8) => c.getD plane 0
    (style.patterns, (quantized style.steps plane).toList)
  let buffer := (blocks.zip last).foldl (fun buffer ((patterns, values), before) =>
    (patterns.firstBits ((values.headD 0).toInt - before) ++
      patterns.otherBits 0 values.tail).foldl BitBuffer.add buffer) buffer
  (buffer, blocks.map fun (_, values) => (values.headD 0).toInt)

def pictureData (g : Grid) (quality : Nat) : Bytes :=
  let styles := planeStyles quality
  let columns := quotientUp g.width 8
  let rows := quotientUp g.height 8
  let (buffer, _) := (List.range (rows * columns)).foldl (fun (buffer, last) i =>
    addBlocks g styles (8 * (i % columns)) (8 * (i / columns)) buffer last)
    (⟨#[], 0, 0⟩, [0, 0, 0])
  buffer.finish

def encode (quality : Nat) (g : Grid) : Bytes :=
  opening ++ tables quality g.width g.height ++ pictureData g quality ++ [0xFF, 0xD9]

end Jpeg

end RasterScript
