import RasterScript.Raster.Jpeg.Code

/-!
# BitReader — reading the bits of picture data

Picture data is a row of bits, cut by a code into symbols and numbers.  What has been read decides
where the next symbol begins.  Behind the last bit come zeros.
-/

namespace RasterScript

namespace Jpeg

/-- Picture data that is being read: the bits to come, and how many blocks to come have no further
coefficients in the band that is being read. -/
structure BitSource where
  bits : List Bool
  idle : Nat

abbrev BitReader := StateT BitSource Option

def readBit : BitReader Bool := fun s =>
  match s.bits with
  | [] => some (false, s)
  | b :: rest => some (b, { s with bits := rest })

/-- A number of `n` bits, added to `before` as higher bits. -/
def readNumber (before : Nat) : Nat → BitReader Nat
  | 0 => return before
  | n + 1 => do readNumber (2 * before + (← readBit).toNat) n

/-- A value whose size takes `n` bits; negative values are one less than their complement. -/
def readValue (n : Nat) : BitReader Int := do
  let v ← readNumber 0 n
  return if 2 * v < 1 <<< n then v - (1 <<< n : Nat) + 1 else v

/-- The symbol of the next pattern and its length. -/
def readSymbol (c : Code) : BitReader (Nat × Nat) := do
  let (v, length) ← c.read readBit
  return (v.toNat, length)

end Jpeg

end RasterScript
