import RasterScript.Proofs.Archive.ManifestCuts
import RasterScript.Proofs.Raster.PixmapRoundTrip
import RasterScript.Proofs.Raster.PngRoundTrip
import RasterScript.Raster.Jpeg.Encode

/-!
# StandardFormats — the formats that the program runs with

Pictures and manifests as they are written and read here.  Both stand back behind any other format
that a statement is about.
-/

namespace RasterScript

/-- A picture as JPEG; one with a side that the format has no room for ends after its opening. -/
def Jpeg.write (quality : Nat) (g : Grid) : Bytes × Option CodecFault :=
  if g.width ≤ Jpeg.maxSide ∧ g.height ≤ Jpeg.maxSide then (Jpeg.encode quality g, none)
  else (Jpeg.opening, some .sideTooLong)

instance (priority := low) standardPictures : PictureCodec where
  png := Png.encode
  ppm := PlainPixmap.encode
  jpeg := Jpeg.write
  decode := decodePicture
  decode_png := decodePicture_encode
  decode_ppm := decodePicture_encode_ppm
  ppm_solid := PlainPixmap.encode_solid

instance (priority := low) standardManifests : ManifestFormat where
  encode := Manifest.encode
  decode := Manifest.decode
  decode_encode := Manifest.decode_encode
  decode_cut := by
    intro m cut lost hfits hbytes hlost m' h
    rw [Manifest.decode_cut hfits hbytes hlost] at h
    cases h
  hasMagic_encode := Manifest.hasMagic_encode

end RasterScript
