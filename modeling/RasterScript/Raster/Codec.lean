import RasterScript.Binary.Number
import RasterScript.Failure
import RasterScript.Raster.Basic

/-!
# Codec — picture formats as a library provides them

How a picture becomes the bytes of a file is the business of a library.  What the rest relies on is
little: what is written as PNG is read as it was, what is written as PPM is read with its colours
and fully visible, and PPM does not write opacities.  A `PictureCodec` is any library that does so;
its other answers may be what they are.
-/

namespace RasterScript

/-- The picture with the same colours, fully visible. -/
def Grid.solid (g : Grid) : Grid := g.map fun p => .solid p.red p.green p.blue

@[simp] theorem Grid.solid_solid (g : Grid) : g.solid.solid = g.solid := by
  simp [solid, map, Pixel.solid]

theorem Grid.pixel_solid (g : Grid) (x y : Nat) :
    g.solid.pixel x y = (g.pixel x y).map fun v => ⟨v.red, v.green, v.blue, 255⟩ := by
  show (Position.ofCoordinates g.extent x y).map (g.map _).get = _
  unfold pixel
  cases Position.ofCoordinates g.extent x y with
  | error c => rfl
  | ok q => exact congrArg Except.ok (g.get_map _ q)

/-- A library that writes pictures as PNG, PPM and JPEG, and reads pictures. -/
class PictureCodec where
  png : Grid → Bytes
  ppm : Grid → Bytes
  /-- With a quality between 1 and 100, what is written, and why it is no whole picture if it is
  none. -/
  jpeg : Nat → Grid → Bytes × Option CodecFault
  decode : Bytes → Except CodecFault Raster
  decode_png : ∀ g, decode (png g) = .ok g.toRaster
  decode_ppm : ∀ g, decode (ppm g) = .ok g.solid.toRaster
  ppm_solid : ∀ g, ppm g.solid = ppm g

end RasterScript
