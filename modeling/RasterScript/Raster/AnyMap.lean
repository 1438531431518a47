import RasterScript.Binary.Number
import RasterScript.Raster.Basic
import RasterScript.Text.Numeral

/-!
# AnyMap — reading bitmaps, greymaps and pixmaps

The family `P1` to `P6`: black and white, grey or coloured, each with samples as decimal numbers
or as bytes.  All pixels read are fully visible.

* After the magic come the width, the height and, except for black and white, the highest sample,
  as decimal numbers between blanks; one blank follows the last.  A `#` in this header hides
  everything up to the end of the line, the line end included.
* Samples are scaled so that the highest one becomes full intensity, halves going up.  With a
  highest sample above 255 they have two bytes, highest first, and are brought back to one byte in
  the end.
* What follows the last sample is ignored.
-/

namespace RasterScript

namespace AnyMap

/-! ## 1. Kinds -/

inductive Shade
  | blackWhite
  | grey
  | color
  deriving DecidableEq, Repr

/-- A member of the family. -/
structure Kind where
  shade : Shade
  decimal : Bool
  deriving DecidableEq, Repr

/-- The kind that a file with these first bytes has. -/
def kind? : Bytes → Option (Kind × Bytes)
  | 0x50 :: d :: rest =>
    match d with
    | 0x31 => some (⟨.blackWhite, true⟩, rest)
    | 0x32 => some (⟨.grey, true⟩, rest)
    | 0x33 => some (⟨.color, true⟩, rest)
    | 0x34 => some (⟨.blackWhite, false⟩, rest)
    | 0x35 => some (⟨.grey, false⟩, rest)
    | 0x36 => some (⟨.color, false⟩, rest)
    | _ => none
  | _ => none

/-! ## 2. Headers -/

/-- The blanks between numbers: TAB, LF, VT, FF, CR and the space. -/
def isSeparator (b : UInt8) : Bool :=
  (0x09 ≤ b && b ≤ 0x0D) || b == 0x20

def isLineEnd (b : UInt8) : Bool := b == 0x0A || b == 0x0D

/-- The next word of a header and what follows the blank after it; `hidden` inside a comment.
Bytes outside ASCII are an error. -/
def headerWord? (hidden : Bool) (word : List Char) : Bytes → Option (List Char × Bytes)
  | [] => if word = [] then none else some (word.reverse, [])
  | b :: rest =>
    if hidden then headerWord? (!isLineEnd b) word rest
    else if b == 0x23 then headerWord? true word rest
    else if isSeparator b then
      if word = [] then headerWord? false word rest else some (word.reverse, rest)
    else if b < 0x80 then headerWord? false (Char.ofNat b.toNat :: word) rest
    else none

/-- The number of values of a header field. -/
def headerLimit : Nat := 0x100000000

def headerNumber? (bs : Bytes) : Option (Nat × Bytes) := do
  let (word, rest) ← headerWord? false [] bs
  return (← unsigned? headerLimit (String.ofList word), rest)

/-! ## 3. Samples -/

/-- `n` samples written as words: each skips blanks, takes what stands before the next blank, and
must be a number below `bound`. -/
def decimalSamples? (bound : Nat) : Nat → Bytes → Array Nat → Option (Array Nat)
  | 0, _, samples => some samples
  | n + 1, bs, samples =>
    let bs := bs.dropWhile isSeparator
    let word := bs.takeWhile fun b => !isSeparator b
    if word.all (· < 0x80) then
      match unsigned? bound (String.ofList (word.map fun b => Char.ofNat b.toNat)) with
      | some v =>
        decimalSamples? bound n (bs.dropWhile fun b => !isSeparator b) (samples.push v)
      | none => none
    else none

/-- `n` samples written as single digits, 1 for black; blanks between them do not matter. -/
def bitSamples? : Nat → Bytes → Array Nat → Option (Array Nat)
  | 0, _, samples => some samples
  | n + 1, bs, samples =>
    match bs.dropWhile isSeparator with
    | 0x30 :: rest => bitSamples? n rest (samples.push 255)
    | 0x31 :: rest => bitSamples? n rest (samples.push 0)
    | _ => none

def byteSamples? (n : Nat) (bs : Bytes) : Option (Array Nat) := do
  let (front, _) ← splitBytes? n bs
  return (front.map UInt8.toNat).toArray

/-- The samples of two bytes that `bs` consists of. -/
def pairs : Bytes → Array Nat → Array Nat
  | high :: low :: rest, samples => pairs rest (samples.push (high.toNat * 256 + low.toNat))
  | _, samples => samples

def wordSamples? (n : Nat) (bs : Bytes) : Option (Array Nat) := do
  let (front, _) ← splitBytes? (2 * n) bs
  return pairs front #[]

/-- `height` rows of `width` samples of one bit, the highest bit first and 1 for black; every row
begins with a new byte. -/
def packedSamples? (width height : Nat) (bs : Bytes) : Option (Array Nat) := do
  let stride := (width + 7) / 8
  let (front, _) ← splitBytes? (stride * height) bs
  let packed := front.toArray
  return Array.ofFn fun i : Fin (width * height) =>
    let x := i.val % width
    let byte := packed.getD (i.val / width * stride + x / 8) 0
    if byte.toNat.testBit (7 - x % 8) then 0 else 255

/-! ## 4. Scaling -/

/-- `v` of `highest` as part of 255, as a byte. -/
def scaleToByte (highest v : Nat) : Nat :=
  if highest = 255 then v
  else
    let factor := (255 : Float32) / Float32.ofNat highest
    ((Float32.ofNat v * factor).toFloat + 0.5).toUInt8.toNat

/-- `v` of `highest` as part of 65535, brought back to a byte. -/
def scaleWordToByte (highest v : Nat) : Nat :=
  let full :=
    if highest = 65535 then v
    else
      let factor := (65535 : Float32) / Float32.ofNat highest
      ((Float32.ofNat v * factor).toFloat + 0.5).toUInt16.toNat
  (full + 128) / 257

/-! ## 5. Pictures -/

def colorPixels (samples : Array Nat) : Array Pixel :=
  Array.ofFn fun i : Fin (samples.size / 3) =>
    let sample (k : Nat) := UInt8.ofNat (samples.getD (3 * i.val + k) 0)
    Pixel.solid (sample 0) (sample 1) (sample 2)

def greyPixels (samples : Array Nat) : Array Pixel :=
  samples.map fun v => Pixel.solid (UInt8.ofNat v) (UInt8.ofNat v) (UInt8.ofNat v)

/-- The samples of a black and white picture. -/
def blackWhiteSamples? (decimal : Bool) (width height : Nat) (bs : Bytes) : Option (Array Nat) :=
  if decimal then bitSamples? (width * height) bs #[] else packedSamples? width height bs

/-- The scaled samples of a grey or coloured picture, `count` of them. -/
def shadedSamples? (decimal : Bool) (highest count : Nat) (bs : Bytes) : Option (Array Nat) :=
  if highest ≤ 255 then do
    let samples ← if decimal then decimalSamples? 256 count bs #[] else byteSamples? count bs
    return samples.map (scaleToByte highest)
  else do
    let samples ← if decimal then decimalSamples? 65536 count bs #[] else wordSamples? count bs
    return samples.map (scaleWordToByte highest)

def decode? (bs : Bytes) : Option Raster := do
  let (kind, bs) ← kind? bs
  let (width, bs) ← headerNumber? bs
  let (height, bs) ← headerNumber? bs
  match kind.shade with
  | .blackWhite =>
    let samples ← blackWhiteSamples? kind.decimal width height bs
    return ⟨width, height, greyPixels samples⟩
  | .grey =>
    let (highest, bs) ← headerNumber? bs
    if highest = 0 ∨ 65535 < highest then none
    let samples ← shadedSamples? kind.decimal highest (width * height) bs
    return ⟨width, height, greyPixels samples⟩
  | .color =>
    let (highest, bs) ← headerNumber? bs
    if highest = 0 ∨ 65535 < highest then none
    let samples ← shadedSamples? kind.decimal highest (width * height * 3) bs
    return ⟨width, height, colorPixels samples⟩

end AnyMap

end RasterScript
