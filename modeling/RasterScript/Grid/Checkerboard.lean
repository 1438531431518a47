import RasterScript.Grid.Basic
import RasterScript.Text.Numeral

/-!
# Checkerboard — square pictures of square tiles in two colours

A checkerboard has as many tiles down as across, so its tile count is a square number.  Sides are
machine words: a side that does not fit one is refused before the picture's size is looked at.
-/

namespace RasterScript

/-- Whether `n` is a square number. -/
def isSquare (n : Nat) : Bool := n.sqrt * n.sqrt == n

namespace Grid

/-- The checkerboard on `e` with tiles of `size` pixels a side, `first` in the upper left corner. -/
def tiled (e : Extent) (size : Nat) (first second : Pixel) : Grid :=
  build e fun p => if (p.x / size + p.y / size) % 2 = 0 then first else second

/-- The checkerboard of `count` tiles of `size` pixels a side. -/
def checkerboard (size count : Nat) (first second : Pixel) : Except Refusal Grid := do
  require (0 < size) .noTileSize
  require (0 < count) .noTiles
  require (isSquare count) (.tilesNotSquare count)
  let side := count.sqrt * size
  require (side < wordSize) .hugeCheckerboard
  return tiled (← Extent.ofSides side side) size first second

end Grid

end RasterScript
