import RasterScript.Binary.Number

/-!
# Jpeg — what lossy picture files are made of

A JPEG file holds planes of samples, cut into blocks of eight by eight.  A block is kept as the
waves that it is the sum of: its 64 coefficients, each divided by a step of its own and rounded, in
zigzag order from the flattest wave to the steepest.  Coefficients are words of sixteen bits.

Opacities are not kept.  Sides have two bytes in the file, so longer ones have no file form.
-/

namespace RasterScript

namespace Jpeg

/-! ## 1. Files -/

def maxSide : Nat := 65535

/-- The first bytes of every JPEG file. -/
def signature : Bytes := [0xFF, 0xD8, 0xFF]

def hasSignature (bs : Bytes) : Bool := bs.take 3 == signature

/-- `a / b`, rounded up. -/
def quotientUp (a b : Nat) : Nat := (a + b - 1) / b

def total (counts : List Nat) : Nat := counts.foldl (· + ·) 0

/-! ## 2. Blocks -/

/-- The 64 coefficients of a block in zigzag order. -/
abbrev Block := Array Int16

/-- A block that is even and neither light nor dark. -/
def flatBlock : Block := Array.replicate 64 0

/-- Coefficients in the order they are kept in, as row times eight plus column. -/
def zigzag : Array Nat := #[
  0, 1, 8, 16, 9, 2, 3, 10, 17, 24, 32, 25, 18, 11, 4, 5,
  12, 19, 26, 33, 40, 48, 41, 34, 27, 20, 13, 6, 7, 14, 21, 28,
  35, 42, 49, 56, 57, 50, 43, 36, 29, 22, 15, 23, 30, 37, 44, 51,
  58, 59, 52, 45, 38, 31, 39, 46, 53, 60, 61, 54, 47, 55, 62, 63]

/-! ## 3. Bits -/

/-- The bits of `v`, `n` of them, highest first. -/
def bits (n v : Nat) : List Bool := (List.range n).map fun i => v.testBit (n - 1 - i)

/-- The byte nearest to `v`. -/
def nearestByte (v : Int) : UInt8 := UInt8.ofNat (min 255 v.toNat)

end Jpeg

end RasterScript
