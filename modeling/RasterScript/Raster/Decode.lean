import RasterScript.Failure
import RasterScript.Raster.AnyMap
import RasterScript.Raster.Jpeg.Decode
import RasterScript.Raster.Png

/-!
# Decode — pictures of any format

A picture is recognised by the first bytes of its file.
-/

namespace RasterScript

/-- The picture that the bytes of a file are. -/
def decodePicture (bs : Bytes) : Except CodecFault Raster :=
  let orMalformed (r : Option Raster) : Except CodecFault Raster :=
    match r with
    | some r => .ok r
    | none => .error .malformed
  if Png.hasSignature bs then orMalformed (Png.decode? bs)
  else if Jpeg.hasSignature bs then orMalformed (Jpeg.decode? bs)
  else if (AnyMap.kind? bs).isSome then orMalformed (AnyMap.decode? bs)
  else .error .unknownFormat

end RasterScript
