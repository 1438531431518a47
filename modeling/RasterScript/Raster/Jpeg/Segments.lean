import RasterScript.Raster.Jpeg.Lossless

/-!
# Segments — what JPEG files say

A file is a row of segments: tables of steps, codes, a frame, scans, and remarks.  What a segment
means depends on the ones before it, so they are taken in one after the other, up to the end marker.
Files that refer to what they have not told, or that need another process, say nothing.
-/

namespace RasterScript

namespace Jpeg

/-! ## 1. Planes -/

/-- What is known of a plane in the end: blocks of waves and their steps, or samples row by row. -/
inductive Plane
  | waves (steps : Array Nat) (blocks : Array Block)
  | samples (values : Array Nat)

/-- Everything that the segments up to some place say: tables and codes by number, the units before
a restart, three remarks (a density, that the file is a picture of a film, how colours are
transformed), the frame, the blocks so far, which coefficients of which planes have been told in
full, and the planes that need no more. -/
structure Known where
  steps : List (Nat × Array Nat)
  sizeCodes : List (Nat × Code)
  runCodes : List (Nat × Code)
  interval : Nat
  density : Bool
  film : Bool
  transform : Option UInt8
  frame : Option Frame
  blocks : Array (Array Block)
  told : List (Nat × Nat)
  planes : List (Nat × Plane)

namespace Known

/-- Before the first segment. -/
def nothing : Known := ⟨[], [], [], 0, false, false, none, none, #[], [], []⟩

/-! ## 2. Tables -/

/-- The tables of steps in a segment, at most `fuel` of them. -/
def addSteps? : Nat → Bytes → Known → Option Known
  | 0, _, _ => none
  | _ + 1, [], known => some known
  | fuel + 1, head :: rest, known => do
    let size := 1 + head.toNat / 16
    let number := head.toNat % 16
    if 2 < size ∨ 3 < number then none
    let (table, rest) ← splitBytes? (64 * size) rest
    let entries := Array.ofFn fun i : Fin 64 => ofBigEndian ((table.drop (size * i.val)).take size)
    if entries.contains 0 then none
    addSteps? fuel rest { known with steps := (number, entries) :: known.steps }

/-- How many codes of a kind there can be: two in a baseline picture and four in others. -/
def codeLimit (known : Known) : Nat :=
  match known.frame with
  | some f => if f.process = .baseline then 2 else 4
  | none => 4

/-- The codes in a segment, at most `fuel` of them. -/
def addCodes? : Nat → Bytes → Known → Option Known
  | 0, _, _ => none
  | _ + 1, [], known => some known
  | fuel + 1, head :: rest, known => do
    let (counts, rest) ← splitBytes? 16 rest
    let counts := counts.map (·.toNat)
    let (values, rest) ← splitBytes? (total counts) rest
    let code : Code := ⟨counts, values⟩
    let number := head.toNat % 16
    -- symbols are bytes, so there are at most 256 of them
    if values = [] ∨ 256 < values.length ∨ !PrefixCode.patternsFit 1 counts then none
    if known.codeLimit ≤ number then none
    match head.toNat / 16 with
    | 0 => addCodes? fuel rest { known with sizeCodes := (number, code) :: known.sizeCodes }
    | 1 => addCodes? fuel rest { known with runCodes := (number, code) :: known.runCodes }
    | _ => none

/-- The code of sizes with a number; pictures of films can leave out the usual ones. -/
def sizeCode (known : Known) (number : Nat) : Option Code :=
  match known.sizeCodes.lookup number with
  | some c => some c
  | none => if known.film then [lumaSizes, differenceSizes][number]? else none

/-- The code of runs and sizes with a number; pictures of films can leave out the usual ones. -/
def runCode (known : Known) (number : Nat) : Option Code :=
  match known.runCodes.lookup number with
  | some c => some c
  | none => if known.film then [lumaRuns, differenceRuns][number]? else none

/-! ## 3. Frames -/

/-- The components of a frame, three bytes each. -/
def components? : Bytes → Option (List Component)
  | [] => some []
  | id :: sampling :: steps :: rest => do
    let c : Component := ⟨id, sampling.toNat / 16, sampling.toNat % 16, steps.toNat⟩
    if c.across = 0 ∨ 4 < c.across ∨ c.down = 0 ∨ 4 < c.down ∨ 3 < c.steps then none
    let cs ← components? rest
    if cs.any (·.id = id) then none
    return c :: cs
  | _ => none

/-- Whether a plane can be brought to the size of the picture: each of its samples has to stand for
a whole number of columns and rows.  A picture of one column, or of one row, is as wide or high as
its planes. -/
def fits (f : Frame) (c : Component) : Bool :=
  let columns := f.width = 1 ∨ c.across = f.maxAcross ∨ 2 * c.across = f.maxAcross
  let rows := f.height = 1 ∨ c.down = f.maxDown ∨ 2 * c.down = f.maxDown
  (columns ∧ rows) ∨ (f.maxAcross % c.across = 0 ∧ f.maxDown % c.down = 0)

/-- Whether samples can have this many bits: eight if they are told as waves.  Lossless ones can be
longer if there is one plane. -/
def precisionFits (f : Frame) : Bool :=
  f.precision = 8 ∨
    (f.process = .lossless ∧ f.components.length = 1 ∧ 8 < f.precision ∧ f.precision ≤ 16)

/-- How many bytes the samples of all pixels take; black adds none, since inks become channels. -/
def sampleBytes (f : Frame) : Nat :=
  let bytes := if f.components.length ≠ 1 then 3 else if f.precision = 8 then 1 else 2
  f.width * f.height * bytes

def maxSampleBytes : Nat := 536870912

/-- A frame segment. -/
def frame? (process : Process) (data : Bytes) : Option Frame := do
  let (precision, data) ← splitBytes? 1 data
  let (height, data) ← splitBytes? 2 data
  let (width, data) ← splitBytes? 2 data
  let (count, data) ← splitBytes? 1 data
  let f : Frame := ⟨process, ofBigEndian precision, ofBigEndian width, ofBigEndian height,
    ← components? data⟩
  if f.width = 0 ∨ f.height = 0 ∨ ofBigEndian count ≠ f.components.length then none
  if f.components.length ∉ [1, 3, 4] ∨ !f.components.all (fits f) ∨ !precisionFits f then none
  if (process = .lossless ∧ f.components.any (·.steps ≠ 0)) ∨ maxSampleBytes < sampleBytes f then
    none
  return f

/-! ## 4. Scans -/

/-- The parts of a scan, two bytes each, in the order of the frame. -/
def scanParts? (known : Known) (f : Frame) : Bytes → Option (List ScanPart)
  | [] => some []
  | id :: codes :: rest => do
    let plane ← f.components.findIdx? (·.id = id)
    let c ← f.components[plane]?
    let parts ← scanParts? known f rest
    let size := codes.toNat / 16
    let run := codes.toNat % 16
    if known.codeLimit ≤ size ∨ known.codeLimit ≤ run ∨ parts.any (·.plane ≤ plane) then none
    return ⟨plane, c, known.sizeCode size, known.runCode run⟩ :: parts
  | _ => none

/-- The band of a scan with this many parts, from its three last bytes.  At least one bit of the
samples is not left out. -/
def band? (f : Frame) (parts : Nat) : Bytes → Option Band
  | [first, last, bits] =>
    let first := first.toNat
    let last := last.toNat
    let high := bits.toNat / 16
    let low := bits.toNat % 16
    let band : Band := ⟨first, last, low, high ≠ 0⟩
    if f.precision ≤ low then none
    else match f.process with
    | .progressive =>
      let inOrder := first ≤ last ∧ last ≤ 63 ∧ (first = 0 → last = 0)
      if inOrder ∧ (high ≠ 0 → high = low + 1) ∧ (first = 0 ∨ parts = 1) then some band else none
    | .lossless => if last = 0 ∧ high = 0 then some band else none
    | .baseline | .sequential =>
      if first = 0 ∧ (last = 0 ∨ last = 63) ∧ bits = 0 then some { band with last := 63 } else none
  | _ => none

/-- What there is to know after a scan of waves. -/
def addWaves? (known : Known) (f : Frame) (scan : Scan) (rest : Bytes) :
    Option (Known × Bytes × Nat) := do
  let band := scan.band
  if 0 < band.last ∧ scan.parts.any (·.codes.2.isNone) then none
  let steps ← scan.parts.mapM fun p => known.steps.lookup p.component.steps
  let blocks := if known.blocks.isEmpty then f.emptyPlanes else known.blocks
  let (blocks, rest) ← readScan? f scan blocks rest
  -- a coefficient is told when its last bit is
  let news := if band.low = 0 then
      scan.parts.flatMap fun p =>
        (List.range (band.last + 1 - band.first)).map fun i => (p.plane, band.first + i)
    else []
  let told := news ++ known.told
  let isWhole (p : ScanPart) : Bool := (List.range 64).all fun i => told.contains (p.plane, i)
  -- steps count as they are when the plane is whole
  let whole := ((scan.parts.zip steps).filter fun (p, _) =>
      isWhole p && (known.planes.lookup p.plane).isNone).map fun (p, steps) =>
    (p.plane, Plane.waves steps (blocks.getD p.plane #[]))
  return ({ known with blocks := blocks, told := told, planes := whole ++ known.planes }, rest)

/-- What there is to know after a lossless scan; its planes are numbered by their place in it. -/
def addSamples? (known : Known) (f : Frame) (scan : Scan) (rest : Bytes) :
    Option (Known × Bytes × Nat) := do
  let (planes, rest) ← Lossless.readScan? f scan rest
  let planes := planes.zipIdx.map fun (values, i) => (i, Plane.samples values)
  return ({ known with planes := planes ++ known.planes }, rest)

/-- A scan: its segment `data`, and the picture data at the front of `rest`; also what follows, and
how many restart markers may come there. -/
def addScan? (known : Known) (data rest : Bytes) : Option (Known × Bytes × Nat) := do
  let f ← known.frame
  let (count, data) ← splitBytes? 1 data
  let (parts, band) ← splitBytes? (2 * ofBigEndian count) data
  let parts ← known.scanParts? f parts
  let band ← band? f parts.length band
  if parts.isEmpty ∨ (1 < parts.length ∧ 10 < total (parts.map (·.size))) then none
  let scan : Scan := ⟨parts, band, known.interval⟩
  if f.process = .lossless then known.addSamples? f scan rest
  else if band.first = 0 ∧ parts.any (·.codes.1.isNone) then none
  else known.addWaves? f scan rest

/-! ## 5. Files -/

def process? (marker : UInt8) : Option Process :=
  [(0xC0, .baseline), (0xC1, .sequential), (0xC2, .progressive), (0xC3, .lossless)].lookup marker

/-- A segment with a remark; most of them are passed over. -/
def addRemark? (known : Known) (marker : UInt8) (data : Bytes) : Option Known :=
  if marker = 0xE0 then
    some { known with
      density := known.density || data.take 5 == [0x4A, 0x46, 0x49, 0x46, 0]
      film := known.film || data.take 5 == [0x41, 0x56, 0x49, 0x31, 0] }
  else if marker = 0xEE ∧ data.take 6 = [0x41, 0x64, 0x6F, 0x62, 0x65, 0] then
    match data[11]? with
    | some t => if 2 < t then none else some { known with transform := some t }
    | none => some known
  else if (0xE0 ≤ marker ∧ marker ≤ 0xEF) ∨ marker = 0xFE then some known
  else none

/-- A segment other than a scan. -/
def addSegment? (known : Known) (marker : UInt8) (data : Bytes) : Option Known :=
  if marker = 0xDB then addSteps? (data.length + 1) data known
  else if marker = 0xC4 then addCodes? (data.length + 1) data known
  else if marker = 0xDD then
    if data.length = 2 then some { known with interval := ofBigEndian data } else none
  else
    match process? marker with
    | some process =>
      -- there is one frame in a file
      if known.frame.isSome then none
      else (frame? process data).map fun f => { known with frame := some f }
    | none => known.addRemark? marker data

/-- What a file says, from the segments at the front of some bytes up to the end marker, at most
`fuel` of them; up to `restarts` restart markers left over from a scan may come first. -/
def ofSegments? : Nat → Nat → Bytes → Known → Option Known
  | 0, _, _, _ => none
  | fuel + 1, restarts, bs, known => do
    let (marker, bs) ← nextMarker? false bs
    if marker = 0xD9 then some known
    else if 0xD0 ≤ marker ∧ marker ≤ 0xD7 then
      -- markers of restarts belong to a scan
      if restarts = 0 then none else ofSegments? fuel (restarts - 1) bs known
    else
      let (length, bs) ← splitBytes? 2 bs
      -- the length counts its own two bytes
      if ofBigEndian length < 2 then none
      let (data, bs) ← splitBytes? (ofBigEndian length - 2) bs
      if marker = 0xDA then
        let (known, bs, restarts) ← known.addScan? data bs
        ofSegments? fuel restarts bs known
      else ofSegments? fuel 0 bs (← known.addSegment? marker data)

/-- What a file says. -/
def ofBytes? (bs : Bytes) : Option Known := do
  let (start, rest) ← splitBytes? 2 bs
  if start ≠ [0xFF, 0xD8] then none
  ofSegments? bs.length 0 rest .nothing

/-- A plane, if there is enough to show it.  A progressive picture is shown as far as it has been
told. -/
def plane? (known : Known) (f : Frame) (number : Nat) (c : Component) : Option Plane :=
  match known.planes.lookup number with
  | some plane => some plane
  | none =>
    if f.process = .progressive then do
      let steps ← known.steps.lookup c.steps
      let blocks ← known.blocks[number]?
      return .waves steps blocks
    else none

end Known

end Jpeg

end RasterScript
