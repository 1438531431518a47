import RasterScript.Raster.Jpeg.Colors

/-!
# Decode — pictures from JPEG files

A file holds a picture if its segments make sense one after the other, there is enough of every
plane to show it, and the samples have a meaning.
-/

namespace RasterScript

namespace Jpeg

/-- A picture as a file keeps it: the frame, its planes, and what their samples are. -/
structure Picture where
  frame : Frame
  planes : List Plane
  model : ColorModel

namespace Picture

/-- The picture in a file. -/
def ofBytes? (bs : Bytes) : Option Picture := do
  let known ← Known.ofBytes? bs
  let f ← known.frame
  let planes ← f.components.zipIdx.mapM fun (c, number) => known.plane? f number c
  return ⟨f, planes, ← ColorModel.ofKnown? known f⟩

/-- The pixels.  Eight pixels of a row at a time are computed roughly as long as eight more follow
them, and the rest exactly. -/
def toRaster (p : Picture) : Raster :=
  let f := p.frame
  let rough := 8 * (f.width / 8 - 1)
  let sheets := (f.components.zip p.planes).map fun (c, plane) => Sheet.ofPlane f c plane
  { width := f.width
    height := f.height
    pixels := Array.ofFn fun i : Fin (f.width * f.height) =>
      let x := i.val % f.width
      let y := i.val / f.width
      p.model.color (x < rough) (sheets.map (·.spread x y)) }

end Picture

/-- The width and height of the picture in a file. -/
def sides? (bs : Bytes) : Option (Nat × Nat) :=
  (Picture.ofBytes? bs).map fun p => (p.frame.width, p.frame.height)

def decode? (bs : Bytes) : Option Raster := (Picture.ofBytes? bs).map (·.toRaster)

end Jpeg

end RasterScript
