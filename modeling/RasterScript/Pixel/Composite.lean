import RasterScript.Pixel.Channel

/-!
# Composite — one pixel laid onto another

The "over" operator on straight (not premultiplied) colours, with the opacity as alpha.  A pixel on
top that is fully transparent or fully opaque decides the result by itself; in between the
colours are mixed by coverage in binary64.
-/

namespace RasterScript

/-- An opacity as a coverage between 0 and 1. -/
def coverage (opacity : UInt8) : Float :=
  opacity.toFloat / 255

namespace Pixel

/-- The coverage of `top` over `base`. -/
def jointCoverage (base top : Pixel) : Float :=
  coverage top.opacity + coverage base.opacity * (1 - coverage top.opacity)

/-- A colour channel of `top` over `base`: the mean of the two, weighted by how much of each is
seen. -/
def mix (base top : Pixel) (c : Channel) : UInt8 :=
  roundChannel (((top.get c).toFloat * coverage top.opacity
    + (base.get c).toFloat * coverage base.opacity * (1 - coverage top.opacity))
      / jointCoverage base top)

/-- `top` composited onto `base`. -/
def composite (base top : Pixel) : Pixel :=
  if top.opacity = 0 then base
  else if top.opacity = 255 then top
  else ofChannels (mix base top) (roundChannel (jointCoverage base top * 255))

/-- A fully transparent pixel on top leaves the base as it is. -/
theorem composite_of_opacity_eq_zero {base top : Pixel} (h : top.opacity = 0) :
    composite base top = base := by
  simp [composite, h]

/-- A fully opaque pixel on top hides the base. -/
theorem composite_of_opacity_eq_full {base top : Pixel} (h : top.opacity = 255) :
    composite base top = top := by
  simp [composite, h]

end Pixel

end RasterScript
