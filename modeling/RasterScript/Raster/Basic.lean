import RasterScript.Grid.Basic

/-!
# Raster — what a picture file holds

A file can hold a picture without pixels, so what is read from one is not yet a `Grid`.
-/

namespace RasterScript

/-- A width, a height, and pixels row by row. -/
structure Raster where
  width : Nat
  height : Nat
  pixels : Array Pixel
  deriving DecidableEq, Repr

/-- The picture, refused if its sides are none that a picture can have. -/
def Raster.toGrid (r : Raster) : Except Refusal Grid :=
  Grid.ofPixels r.width r.height r.pixels

/-- A picture as a file holds it. -/
def Grid.toRaster (g : Grid) : Raster := ⟨g.width, g.height, g.pixels⟩

/-- A picture survives being turned into a raster and back. -/
@[simp] theorem Grid.toGrid_toRaster (g : Grid) : g.toRaster.toGrid = .ok g := by
  have h : Extent.ofSides g.width g.height = .ok g.extent := Extent.ofSides_eq_ok.2 ⟨rfl, rfl⟩
  simp only [Raster.toGrid, toRaster, ofPixels, h, bind, Except.bind]
  exact dif_pos g.size_eq

end RasterScript
