import RasterScript.Raster.Basic
import RasterScript.Raster.Deflate

/-!
# Png — lossless picture files with opacity

Pictures are written as PNG with eight bits for each of red, green, blue and opacity, rows as they
are, and the data in stored blocks.  All four channels of every pixel come back as they were.  What
is read may also be compressed, and its rows may be told by what their neighbours predict.  Other
depths and colours than these, and interlaced pictures, are not read.

A file is a signature and chunks: length, type, data, and the CRC-32 of type and data.  The data of
the `IDAT` chunk is a zlib stream.  A reader also takes a stream that is cut into several such
chunks, and passes over optional chunks in front of it.
-/

namespace RasterScript

namespace Png

/-! ## 1. Chunks -/

/-- The first eight bytes of every PNG file. -/
def signature : Bytes := [0x89, 0x50, 0x4E, 0x47, 0x0D, 0x0A, 0x1A, 0x0A]

def headerType : Bytes := [0x49, 0x48, 0x44, 0x52]

def dataType : Bytes := [0x49, 0x44, 0x41, 0x54]

def endType : Bytes := [0x49, 0x45, 0x4E, 0x44]

def chunk (type data : Bytes) : Bytes :=
  bigEndian 4 data.length ++ type ++ data ++ bigEndian 4 (crc32 (type ++ data)).toNat

/-- The data of a chunk of this type, and what follows the chunk. -/
def readChunk? (type bs : Bytes) : Option (Bytes × Bytes) := do
  let (length, bs) ← splitBytes? 4 bs
  let (type', bs) ← splitBytes? 4 bs
  let (data, bs) ← splitBytes? (ofBigEndian length) bs
  let (crc, bs) ← splitBytes? 4 bs
  if type' = type ∧ ofBigEndian crc = (crc32 (type ++ data)).toNat then some (data, bs) else none

/-! ## 2. Rows -/

def pixelBytes (p : Pixel) : Bytes := [p.red, p.green, p.blue, p.opacity]

/-- `height` rows of `width` pixels, each after a byte that says that it is told as it is. -/
def rows : Nat → Nat → List Pixel → Bytes
  | 0, _, _ => []
  | height + 1, width, pixels =>
    0 :: (pixels.take width).flatMap pixelBytes ++ rows height width (pixels.drop width)

/-- What a row leaves out of its channels: what the neighbours predict. -/
inductive Prediction
  | nothing
  | left
  | above
  | mean
  | nearest

def Prediction.ofNumber? : Nat → Option Prediction
  | 0 => some .nothing
  | 1 => some .left
  | 2 => some .above
  | 3 => some .mean
  | 4 => some .nearest
  | _ => none

/-- What the neighbours to the left, above, and above the left one predict for a channel. -/
def Prediction.predict (left above corner : UInt8) : Prediction → UInt8
  | .nothing => 0
  | .left => left
  | .above => above
  | .mean => .ofNat ((left.toNat + above.toNat) / 2)
  | .nearest =>
    -- the one that the plane through the three comes nearest to
    let plane : Int := left.toNat + above.toNat - corner.toNat
    let away (v : UInt8) : Nat := (plane - v.toNat).natAbs
    if away left ≤ away above ∧ away left ≤ away corner then left
    else if away above ≤ away corner then above
    else corner

/-- The pixel of which the row tells `told`, between pixels that are there already. -/
def Prediction.restore (p : Prediction) (left above corner told : Pixel) : Pixel where
  red := told.red + p.predict left.red above.red corner.red
  green := told.green + p.predict left.green above.green corner.green
  blue := told.blue + p.predict left.blue above.blue corner.blue
  opacity := told.opacity + p.predict left.opacity above.opacity corner.opacity

/-- The pixel that was added `back` pixels ago; where there is none, everything is zero. -/
def earlier (pixels : Array Pixel) (back : Nat) : Pixel :=
  if back ≤ pixels.size then pixels.getD (pixels.size - back) .transparent else .transparent

/-- The pixels of a row of `width` added to those above; `done` of the row are there. -/
def addRow (p : Prediction) (width : Nat) : Nat → Bytes → Array Pixel → Array Pixel
  | done, r :: g :: b :: o :: rest, pixels =>
    -- nothing stands to the left of the first pixel
    let left := if done = 0 then .transparent else earlier pixels 1
    let corner := if done = 0 then .transparent else earlier pixels (width + 1)
    let v := p.restore left (earlier pixels width) corner ⟨r, g, b, o⟩
    addRow p width (done + 1) rest (pixels.push v)
  | _, _, pixels => pixels

/-- The pixels of `height` rows. -/
def readRows? : Nat → Nat → Bytes → Array Pixel → Option (Array Pixel)
  | 0, _, _, pixels => some pixels
  | height + 1, width, bs, pixels => do
    let (kind, bs) ← splitBytes? 1 bs
    let (row, bs) ← splitBytes? (4 * width) bs
    readRows? height width bs
      (addRow (← Prediction.ofNumber? (ofLittleEndian kind)) width 0 row pixels)

/-! ## 3. Files -/

/-- Eight bits per channel, colour with opacity, nothing else special. -/
def depthAndColor : Bytes := [8, 6, 0, 0, 0]

def encode (g : Grid) : Bytes :=
  signature ++ chunk headerType (bigEndian 4 g.width ++ bigEndian 4 g.height ++ depthAndColor) ++
    chunk dataType (Deflate.zlib (rows g.height g.width g.pixels.toList)) ++ chunk endType []

def hasSignature (bs : Bytes) : Bool := bs.take 8 == signature

/-- Whether readers may pass over chunks of a type: its first letter is a small one. -/
def isOptional (type : Bytes) : Bool := 0x60 < type.headD 0

/-- The picture data, which is in the data chunks, one behind the other; `begun` tells whether one
has come.  At most `fuel` chunks are looked at. -/
def readData? : Nat → Bool → Bytes → Option Bytes
  | 0, _, _ => none
  | fuel + 1, begun, bs => do
    let (length, rest) ← splitBytes? 4 bs
    let (type, rest) ← splitBytes? 4 rest
    if type = dataType then
      let (data, rest) ← readChunk? dataType bs
      let more ← readData? fuel true rest
      return data ++ more
    else if begun then return []
    else if isOptional type then
      let (_, rest) ← splitBytes? (ofBigEndian length + 4) rest
      readData? fuel false rest
    else none

def decode? (bs : Bytes) : Option Raster := do
  let (head, bs) ← splitBytes? 8 bs
  if head ≠ signature then none
  let (header, bs) ← readChunk? headerType bs
  let data ← readData? bs.length false bs
  let (width, header) ← splitBytes? 4 header
  let (height, header) ← splitBytes? 4 header
  let width := ofBigEndian width
  let height := ofBigEndian height
  if width = 0 ∨ height = 0 ∨ header ≠ depthAndColor then none
  let pixels ← readRows? height width (← Deflate.readZlib? data) #[]
  return ⟨width, height, pixels⟩

end Png

end RasterScript
