import RasterScript.Grid.Basic
import RasterScript.Pixel.Channel

/-!
# ColorMatrix — recolouring pixel by pixel

A colour matrix gives each channel of the result as a weighted sum of the three channels of the
same pixel.  The opacity is kept.
-/

namespace RasterScript

/-- The weights that one channel of the result gives to red, green and blue. -/
structure ChannelWeights where
  red : Float
  green : Float
  blue : Float

/-- The weighted sum of the channels of `p`, rounded. -/
def ChannelWeights.of (w : ChannelWeights) (p : Pixel) : UInt8 :=
  roundChannel (w.red * p.red.toFloat + w.green * p.green.toFloat + w.blue * p.blue.toFloat)

/-- The weights of the three channels of the result. -/
structure ColorMatrix where
  name : String
  red : ChannelWeights
  green : ChannelWeights
  blue : ChannelWeights

namespace ColorMatrix

/-- The luma of BT.709 in every channel. -/
def greyscale : ColorMatrix :=
  let luma : ChannelWeights := ⟨0.2126, 0.7152, 0.0722⟩
  ⟨"greyscale", luma, luma, luma⟩

/-- The brown of old photographs. -/
def sepia : ColorMatrix where
  name := "sepia"
  red := ⟨0.393, 0.769, 0.189⟩
  green := ⟨0.349, 0.686, 0.168⟩
  blue := ⟨0.272, 0.534, 0.131⟩

def recolor (m : ColorMatrix) (p : Pixel) : Pixel :=
  ⟨m.red.of p, m.green.of p, m.blue.of p, p.opacity⟩

end ColorMatrix

end RasterScript
