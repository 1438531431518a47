import RasterScript.Raster.Jpeg.Basic

/-!
# Waves — from samples to waves and back

The 64 samples of a block are the sum of 64 waves.  Both ways are gone in integers, eight numbers at
a time: along the rows and then along the columns to find the waves, along the columns and then
along the rows to add them up.  Analysis multiplies by cosines with thirteen binary places; its
amounts come out eight times as large.  Synthesis works in words of sixteen bits that stop at their
limits, with cosines of fifteen binary places and samples of six.
-/

namespace RasterScript

namespace Jpeg

/-! ## 1. Eight numbers -/

/-- Eight numbers in a row. -/
structure Eight where
  x0 : Int
  x1 : Int
  x2 : Int
  x3 : Int
  x4 : Int
  x5 : Int
  x6 : Int
  x7 : Int

namespace Eight

def ofFn (f : Nat → Int) : Eight := ⟨f 0, f 1, f 2, f 3, f 4, f 5, f 6, f 7⟩

def toArray (e : Eight) : Array Int := #[e.x0, e.x1, e.x2, e.x3, e.x4, e.x5, e.x6, e.x7]

end Eight

/-- Every row of eight by eight numbers put through `f`. -/
def eachRow (f : Eight → Eight) (table : Array Int) : Array Int :=
  (Array.range 8).flatMap fun y => (f (.ofFn fun x => table.getD (8 * y + x) 0)).toArray

/-- Eight by eight numbers with rows and columns exchanged. -/
def transposed (table : Array Int) : Array Int :=
  Array.ofFn fun i : Fin 64 => table.getD (8 * (i.val % 8) + i.val / 8) 0

/-! ## 2. Analysis -/

/-- The multiple of `unit` nearest to `v`, counted in units; halves go up. -/
def rounded (unit v : Int) : Int := (v + unit / 2) / unit

namespace Eight

/-- How much of each of eight waves is in eight numbers: waves 0 and 4 as they are, the others times
`2 ^ 13`. -/
def analysis (e : Eight) : Eight :=
  let s0 := e.x0 + e.x7
  let s1 := e.x1 + e.x6
  let s2 := e.x2 + e.x5
  let s3 := e.x3 + e.x4
  let d0 := e.x0 - e.x7
  let d1 := e.x1 - e.x6
  let d2 := e.x2 - e.x5
  let d3 := e.x3 - e.x4
  let outer := s0 - s3
  let inner := s1 - s2
  let slope := (outer + inner) * 4433
  let all := (d0 + d2 + d1 + d3) * 9633
  let even := all - (d0 + d2) * 3196
  let odd := all - (d1 + d3) * 16069
  let far := (d0 + d3) * 7373
  let near := (d1 + d2) * 20995
  { x0 := s0 + s3 + (s1 + s2)
    x1 := d0 * 12299 - far + even
    x2 := slope + outer * 6270
    x3 := d1 * 25172 - near + odd
    x4 := s0 + s3 - (s1 + s2)
    x5 := d2 * 16819 - near + even
    x6 := slope - inner * 15137
    x7 := d3 * 2446 - far + odd }

/-- Waves 0 and 4 put through `plain`, the others through `sloped`. -/
def scaled (plain sloped : Int → Int) (e : Eight) : Eight :=
  ⟨plain e.x0, sloped e.x1, sloped e.x2, sloped e.x3, plain e.x4, sloped e.x5, sloped e.x6,
    sloped e.x7⟩

end Eight

/-- How much of each wave is in 64 samples around 0, times eight. -/
def analysis (samples : Array Int) : Array Int :=
  let byRow := eachRow (fun e => e.analysis.scaled (4 * ·) (rounded 2048)) samples
  transposed (eachRow (fun e => e.analysis.scaled (rounded 4) (rounded 32768)) (transposed byRow))

/-! ## 3. Synthesis -/

/-- The word nearest to `v`. -/
def word (v : Int) : Int := max (-32768) (min 32767 v)

/-- A word times `c` parts of `2 ^ 15`. -/
def fraction (c v : Int) : Int := rounded 32768 (v * c)

namespace Eight

/-- The eight numbers in which there is so much of each of eight waves. -/
def synthesis (e : Eight) : Eight :=
  let both := fraction 17734 (word (e.x2 + e.x6))
  let inner := word (word (both - e.x6) - fraction 27779 e.x6)
  let outer := word (both + fraction 25080 e.x2)
  let sum := word (e.x0 + e.x4)
  let difference := word (e.x0 - e.x4)
  let s0 := word (sum + outer)
  let s1 := word (difference + inner)
  let s2 := word (difference - inner)
  let s3 := word (sum - outer)
  let odd := word (e.x7 + e.x3)
  let even := word (e.x5 + e.x1)
  let total := word (odd + even)
  let all := word (total + fraction 5763 total)
  let far := word (e.x7 + e.x1)
  let near := word (e.x5 + e.x3)
  let far := word (all - fraction 29490 far)
  let near := word (word (word (all - near) - near) - fraction 18446 near)
  let odd := word (fraction (-31509) odd - odd)
  let even := fraction (-12785) even
  let d0 := word (word (far + even) + word (e.x1 + fraction 16427 e.x1))
  let d1 := word (word (near + odd) +
    word (word (e.x3 + word (e.x3 + e.x3)) + fraction 2383 e.x3))
  let d2 := word (word (near + even) + word (word (e.x5 + e.x5) + fraction 1741 e.x5))
  let d3 := word (word (far + odd) + fraction 9786 e.x7)
  { x0 := word (s0 + d0)
    x1 := word (s1 + d1)
    x2 := word (s2 + d2)
    x3 := word (s3 + d3)
    x4 := word (s3 - d3)
    x5 := word (s2 - d2)
    x6 := word (s1 - d1)
    x7 := word (s0 - d0) }

end Eight

/-- The 64 samples, row by row, in which there is so much of each wave. -/
def synthesis (amounts : Array Int) : Array UInt8 :=
  let places := amounts.map fun v => (8 * v).bmod 65536
  let byColumn := transposed (eachRow Eight.synthesis (transposed places))
  (eachRow Eight.synthesis byColumn).map fun v => nearestByte (word (v + (128 * 64 + 32)) / 64)

end Jpeg

end RasterScript
