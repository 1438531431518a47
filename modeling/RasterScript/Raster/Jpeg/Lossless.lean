import RasterScript.Raster.Jpeg.Scan

/-!
# Lossless — samples told one by one

In a lossless picture a sample is told as the difference to a prediction from its neighbours: the
one to the left, the one above, and the one above that.  Samples and differences are words of
sixteen bits, which wrap around; the lowest bits of samples may be left out.
-/

namespace RasterScript

namespace Jpeg

namespace Lossless

/-! ## 1. Differences -/

/-- The difference to a prediction. -/
def readDifference (c : Code) : BitReader Int := do
  let (size, _) ← readSymbol c
  if 16 < size then failure
  if size = 16 then return 32768
  readValue size

/-- Reads one difference of a part, the one with this place in the scan. -/
def difference? (s : ScanState (Array (Array Int))) (part : ScanPart × Nat) :
    Option (ScanState (Array (Array Int))) := do
  let c ← part.1.codes.1
  let (v, source) ← (readDifference c).run s.source
  return { s with source := source, told := s.told.modify part.2 (·.push v) }

/-! ## 2. Predictions -/

/-- How neighbours predict a sample that has all of them. -/
inductive Predictor
  | nothing
  | left
  | above
  | corner
  | plane
  | leftAndSlope
  | aboveAndSlope
  | mean

def Predictor.ofNumber? : Nat → Option Predictor
  | 0 => some .nothing
  | 1 => some .left
  | 2 => some .above
  | 3 => some .corner
  | 4 => some .plane
  | 5 => some .leftAndSlope
  | 6 => some .aboveAndSlope
  | 7 => some .mean
  | _ => none

/-- What the neighbours to the left, above, and above the left one predict. -/
def Predictor.predict (left above corner : Int) : Predictor → Int
  | .nothing => 0
  | .left => left
  | .above => above
  | .corner => corner
  | .plane => left + above - corner
  | .leftAndSlope => left + (above - corner) / 2
  | .aboveAndSlope => above + (left - corner) / 2
  | .mean => (left + above) / 2

/-- The samples of a plane, row by row, from their differences.  The first sample is predicted to be
in the middle, the others of the first row and column to be like the one before. -/
def samples (f : Frame) (predictor : Predictor) (omitted : Nat) (differences : Array Int) :
    Array Nat :=
  differences.foldl (fun done difference =>
    let i := done.size
    let sample (back : Nat) : Int := done.getD (i - back) 0
    let prediction : Int :=
      if i = 0 then
        if 1 + omitted < f.precision then (1 <<< (f.precision - omitted - 1) : Nat) else 0
      else if i < f.width then sample 1
      else if i % f.width = 0 then sample f.width
      else predictor.predict (sample 1) (sample f.width) (sample (f.width + 1))
    done.push ((((prediction + difference) % 65536).toNat <<< omitted) % 65536)) #[]

/-! ## 3. Scans -/

/-- The planes that a scan tells, in its order, what follows its data at the front of `rest`, and
how many restart markers may come there.  The number of the predictor stands for the first
coefficient of the band, and the number of bits that are left out for its low bits. -/
def readScan? (f : Frame) (scan : Scan) (rest : Bytes) :
    Option (List (Array Nat) × Bytes × Nat) := do
  let predictor ← Predictor.ofNumber? scan.band.first
  let parts := scan.parts.zipIdx
  let s ← ScanState.begin? rest scan.interval 0 (Array.replicate parts.length #[])
  let s ← s.units? scan.interval (fun _ s => parts.foldlM difference? s) (f.width * f.height) 0
  let (differences, rest, restarts) ← s.finish?
  return (differences.toList.map (samples f predictor scan.band.low), rest, restarts)

end Lossless

end Jpeg

end RasterScript
