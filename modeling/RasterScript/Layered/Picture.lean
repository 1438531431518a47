import RasterScript.Layered.Edit
import RasterScript.Layered.Flatten
import RasterScript.Raster.File

/-!
# Picture — layers from picture files, and stacks as picture files
-/

namespace RasterScript

variable [PictureCodec]

namespace LayeredImage

/-- The picture in a file as a layer in front.  No file is read for a name that cannot be used. -/
def addPicture (img : LayeredImage) (name : String) (p : Path) : FileAction LayeredImage := do
  let _ ← FileAction.accept (img.freshName name)
  let g ← readGrid p
  FileAction.accept (img.addGrid name g)

/-- Writes what the stack looks like to a file. -/
def writeFlattened (img : LayeredImage) (format : ImageFormat) (p : Path) (quality : Nat) :
    FileAction Unit :=
  writePicture img.flatten format p quality

end LayeredImage

end RasterScript
