import RasterScript.Raster.Jpeg.BitReader

/-!
# Band — what a scan tells about a block

A scan tells about a band of the coefficients of its blocks.  In a sequential picture that is all
there is to tell.  A progressive picture tells the first coefficient and the others apart, and may
leave out the lowest bits of a band, which later scans refine, a bit at a time.
-/

namespace RasterScript

namespace Jpeg

/-- Which coefficients a scan tells about: those from `first` to `last`, without their `low` lowest
bits; or, if it refines, one more bit of them, number `low`. -/
structure Band where
  first : Nat
  last : Nat
  low : Nat
  refines : Bool
  deriving DecidableEq

namespace Band

/-- The lowest bit that a scan of the band tells. -/
def unit (b : Band) : Int16 := Int16.ofInt (1 <<< b.low : Nat)

end Band

/-! ## 1. First coefficients -/

/-- How much the first coefficient differs from the one before. -/
def readDifference (c : Code) : BitReader Int16 := do
  let (size, _) ← readSymbol c
  -- no difference of eight bit samples is longer
  if 11 < size then failure
  return Int16.ofInt (← readValue size)

/-- The first coefficient of a block, and what the next one is a difference to. -/
def readFirst (code : Option Code) (band : Band) (before : Int16) (block : Block) :
    BitReader (Int16 × Block) := do
  if 0 < band.first then return (before, block)
  else if band.refines then
    let block := if ← readBit then block.modify 0 (· ||| band.unit) else block
    return (before, block)
  else
    match code with
    | none => failure
    | some c =>
      let v := before + (← readDifference c)
      return (v, block.setIfInBounds 0 (v * band.unit))

/-! ## 2. The other coefficients -/

/-- The end of the band in this block and, told by `run`, in some blocks to come. -/
def endBand (run : Nat) : BitReader Unit := do
  let more ← readNumber 0 run
  modify fun s => { s with idle := (1 <<< run) - 1 + more }

/-- The longest pattern, with the value behind it, that is taken in at one glance. -/
def glance : Nat := 8

/-- The coefficients of the band from number `index` on, in at most `fuel` steps.  A value that lies
behind the band ends it, and is passed over if it has been taken in at a glance. -/
def readBand (c : Code) (band : Band) : Nat → Nat → Block → BitReader Block
  | 0, _, block => return block
  | fuel + 1, index, block => do
    if band.last < index then return block
    let (symbol, length) ← readSymbol c
    let run := symbol / 16
    let size := symbol % 16
    if size = 0 then
      -- sixteen zeros and no value
      if run = 15 then readBand c band fuel (index + 16) block
      else
        endBand run
        return block
    else if band.last < index + run then
      if length + size ≤ glance then
        let _ ← readValue size
      return block
    else
      let v := Int16.ofInt (← readValue size)
      readBand c band fuel (index + run + 1) (block.setIfInBounds (index + run) (v * band.unit))

/-- A coefficient with one more bit, if it is still a word then. -/
def refined? (unit v : Int16) : Option Int16 :=
  if v &&& unit ≠ 0 then some v
  else if 0 < v then some (v + unit)
  else if v.toInt < unit.toInt - 32768 then none
  else some (v - unit)

/-- One more bit of the coefficients from number `index` on that are not zero, up to the zero that
comes after `zeros` others or to the last coefficient; the number of that one.  At most `fuel`
coefficients are looked at. -/
def refineKnown (band : Band) : Nat → Nat → Nat → Block → BitReader (Nat × Block)
  | 0, _, _, block => return (band.last, block)
  | fuel + 1, index, zeros, block => do
    let v := block.getD index 0
    if band.last < index then return (band.last, block)
    else if v = 0 then
      -- here goes the fresh value
      if zeros = 0 then return (index, block)
      else refineKnown band fuel (index + 1) (zeros - 1) block
    else
      let more ← readBit
      let v ← if more then refined? band.unit v else some v
      refineKnown band fuel (index + 1) zeros (block.setIfInBounds index v)

/-- One more bit of the coefficients of the band from number `index` on, in at most `fuel` steps. -/
def refineBand (c : Code) (band : Band) : Nat → Nat → Block → BitReader Block
  | 0, _, block => return block
  | fuel + 1, index, block => do
    if band.last < index then return block
    let (symbol, _) ← readSymbol c
    let run := symbol / 16
    match symbol % 16 with
    | 0 =>
      if run = 15 then
        let (index, block) ← refineKnown band 64 index 15 block
        refineBand c band fuel (index + 1) block
      else
        endBand run
        return (← refineKnown band 64 index 64 block).2
    | 1 =>
      let fresh := if ← readBit then band.unit else -band.unit
      let (index, block) ← refineKnown band 64 index run block
      refineBand c band fuel (index + 1) (block.setIfInBounds index fresh)
    | _ => failure

/-- The other coefficients of a block. -/
def readOthers (code : Option Code) (band : Band) (block : Block) : BitReader Block := do
  -- the first coefficient has its own code
  let index := max 1 band.first
  if band.last < index then return block
  let idle := (← get).idle
  if 0 < idle then
    -- this block is one of those that an end of band has passed over
    modify fun s => { s with idle := idle - 1 }
    if band.refines then return (← refineKnown band 64 index 64 block).2
    else return block
  else
    match code with
    | none => failure
    | some c =>
      if band.refines then refineBand c band 64 index block
      else readBand c band 64 index block

/-! ## 3. Blocks -/

/-- What a scan tells about a block, given the codes of its first coefficient and of the others. -/
def readBlock (codes : Option Code × Option Code) (band : Band) (before : Int16) (block : Block) :
    BitReader (Int16 × Block) := do
  let (v, block) ← readFirst codes.1 band before block
  return (v, ← readOthers codes.2 band block)

end Jpeg

end RasterScript
