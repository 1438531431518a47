import RasterScript.Raster.Jpeg.Band

/-!
# Scan — picture data, unit by unit

A frame says how large the picture is and what planes it has; some planes can be coarser than
others.  A scan tells about one plane or, unit by unit, about several: a unit of several planes is
the part of the picture that holds whole blocks of all of them.  Restart markers can cut the data of
a scan into pieces that can be read alone.
-/

namespace RasterScript

namespace Jpeg

/-! ## 1. Frames -/

/-- One plane of a picture: how many blocks of it stand beside and above each other in a unit, and
the number of its table of steps. -/
structure Component where
  id : UInt8
  across : Nat
  down : Nat
  steps : Nat

/-- How pictures are told: as waves, block by block, or sample by sample without any loss.  The
baseline process is the sequential one with fewer codes. -/
inductive Process
  | baseline
  | sequential
  | progressive
  | lossless
  deriving DecidableEq

/-- The sides of a picture, the bits of its samples, and its planes. -/
structure Frame where
  process : Process
  precision : Nat
  width : Nat
  height : Nat
  components : List Component

namespace Frame

/-- The most blocks of a plane that stand beside each other in a unit. -/
def maxAcross (f : Frame) : Nat := (f.components.map (·.across)).foldl max 1

/-- The most blocks of a plane that stand above each other in a unit. -/
def maxDown (f : Frame) : Nat := (f.components.map (·.down)).foldl max 1

/-- The number of units beside each other. -/
def unitsAcross (f : Frame) : Nat := quotientUp f.width (8 * f.maxAcross)

def unitsDown (f : Frame) : Nat := quotientUp f.height (8 * f.maxDown)

/-- The number of blocks of a plane beside each other. -/
def blocksAcross (f : Frame) (c : Component) : Nat := f.unitsAcross * c.across

def blocksDown (f : Frame) (c : Component) : Nat := f.unitsDown * c.down

/-- The planes before the first scan. -/
def emptyPlanes (f : Frame) : Array (Array Block) :=
  (f.components.map fun c =>
    Array.replicate (f.blocksAcross c * f.blocksDown c) flatBlock).toArray

end Frame

/-! ## 2. Scans -/

/-- A plane in a scan: its number, and the codes of first coefficients and of the others. -/
structure ScanPart where
  plane : Nat
  component : Component
  codes : Option Code × Option Code

def ScanPart.size (p : ScanPart) : Nat := p.component.across * p.component.down

/-- What a scan tells about, and how many units there are before each restart, or 0. -/
structure Scan where
  parts : List ScanPart
  band : Band
  interval : Nat

namespace Scan

/-- The numbers of units beside and above each other.  In a scan of one plane every block is a unit;
blocks are there as long as the picture has eight columns or rows for each. -/
def unitSides (f : Frame) (s : Scan) : Nat × Nat :=
  match s.parts with
  | [p] =>
    (min (f.blocksAcross p.component) (quotientUp f.width 8),
      min (f.blocksDown p.component) (quotientUp f.height 8))
  | _ => (f.unitsAcross, f.unitsDown)

/-- The numbers of the blocks of a part in unit `n` of a scan. -/
def unitBlocks (f : Frame) (s : Scan) (n : Nat) (p : ScanPart) : List Nat :=
  let c := p.component
  let x := n % (s.unitSides f).1
  let y := n / (s.unitSides f).1
  -- alone, a plane is told block by block
  if s.parts.length = 1 then [y * f.blocksAcross c + x]
  else
    (List.range c.down).flatMap fun j =>
      (List.range c.across).map fun i =>
        (y * c.down + j) * f.blocksAcross c + x * c.across + i

end Scan

/-! ## 3. Markers -/

/-- The next marker and what follows it; bytes in front of it are passed over. -/
def nextMarker? : Bool → Bytes → Option (UInt8 × Bytes)
  | _, [] => none
  | started, b :: bs =>
    if b = 0xFF then nextMarker? true bs
    -- 255 and then 0 is a byte of the picture
    else if started ∧ b ≠ 0 then some (b, bs)
    else nextMarker? false bs

/-- Whether bytes that start with 255 start with a marker. -/
def startsWithMarker (bs : Bytes) : Bool := (bs.dropWhile (· == 0xFF)).headD 0 != 0

/-- The picture data up to two bytes that do not stand for a byte of it, added to `data`, and what
begins with these two. -/
def takeData? : Bytes → Array UInt8 → Option (Array UInt8 × Bytes)
  | [], _ => none
  | [_], _ => none
  | a :: b :: rest, data =>
    if a ≠ 0xFF then takeData? (b :: rest) (data.push a)
    -- 255 in the data is written with a 0 behind it
    else if b = 0 then takeData? rest (data.push a)
    else some (data, a :: b :: rest)

/-! ## 4. Reading scans -/

/-- A scan that is being read: the data up to the next marker, what begins there, how many units
there are before the next restart, the number of that restart, what the first coefficients of the
planes are differences to, and what has been told. -/
structure ScanState (α : Type) where
  source : BitSource
  rest : Bytes
  left : Nat
  restarts : Nat
  before : Array Int16
  told : α

namespace ScanState

variable {α : Type}

/-- The state with fresh data from the front of `rest`. -/
def begin? (rest : Bytes) (interval restarts : Nat) (told : α) : Option (ScanState α) := do
  let (data, rest) ← takeData? rest #[]
  let source : BitSource := ⟨data.toList.flatMap fun b => bits 8 b.toNat, 0⟩
  return ⟨source, rest, interval, restarts, Array.replicate 4 0, told⟩

/-- Whether what follows the data is in sight: readers look 56 bits ahead. -/
def seesEnd (s : ScanState α) : Bool := (s.source.bits.drop 56).isEmpty

/-- Goes on behind a restart marker, which has to be in sight and the right one of eight. -/
def restart? (s : ScanState α) (interval : Nat) : Option (ScanState α) := do
  let (marker, rest) ← nextMarker? false s.rest
  if !s.seesEnd ∨ !startsWithMarker s.rest ∨ marker.toNat ≠ 0xD0 + s.restarts % 8 then none
  begin? rest interval (s.restarts + 1) s.told

/-- Reads `n` units from unit `k` on, with restarts between them. -/
def units? (interval : Nat) (unit? : Nat → ScanState α → Option (ScanState α)) :
    Nat → Nat → ScanState α → Option (ScanState α)
  | 0, _, s => some s
  | n + 1, k, s => do
    -- a restart comes before the unit, never after the last one
    let s ← if interval ≠ 0 ∧ s.left = 0 then s.restart? interval else some s
    let s ← unit? k s
    units? interval unit? n (k + 1) { s with left := s.left - 1 }

/-- What has been told, what follows the data, and how many restart markers may come there: any
number if the end of the data is in sight, and one if bits are left over. -/
def finish? (s : ScanState α) : Option (α × Bytes × Nat) :=
  if !s.seesEnd then some (s.told, s.rest, 1)
  else if startsWithMarker s.rest then some (s.told, s.rest, s.rest.length)
  else none

/-- Reads block `n` of a part. -/
def block? (band : Band) (p : ScanPart) (s : ScanState (Array (Array Block))) (n : Nat) :
    Option (ScanState (Array (Array Block))) := do
  let block := (s.told.getD p.plane #[]).getD n flatBlock
  let before := s.before.getD p.plane 0
  let ((before, block), source) ← (readBlock p.codes band before block).run s.source
  return { s with
    source := source
    before := s.before.setIfInBounds p.plane before
    told := s.told.modify p.plane (·.setIfInBounds n block) }

end ScanState

/-- The planes after a scan whose data is at the front of `rest`, what follows the data, and how
many restart markers may come there. -/
def readScan? (f : Frame) (scan : Scan) (planes : Array (Array Block)) (rest : Bytes) :
    Option (Array (Array Block) × Bytes × Nat) := do
  let s ← ScanState.begin? rest scan.interval 0 planes
  let unit? (k : Nat) (s : ScanState (Array (Array Block))) :=
    scan.parts.foldlM (fun s p => (scan.unitBlocks f k p).foldlM (ScanState.block? scan.band p) s) s
  let (across, down) := scan.unitSides f
  let s ← s.units? scan.interval unit? (across * down) 0
  s.finish?

end Jpeg

end RasterScript
