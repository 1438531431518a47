import RasterScript.Files.Disk
import RasterScript.Raster.Codec
import RasterScript.Raster.Format

/-!
# File — pictures in the file store

A picture is read by what its file holds, whatever the file is called, and written in the format
that is asked for.  Nothing is written before the directory it goes to has been found.
-/

namespace RasterScript

variable [PictureCodec]

/-! ## 1. Reading -/

/-- The picture in a file, which may have no pixels. -/
def readRaster (p : Path) : FileAction Raster := do
  let fs ← get
  FileAction.accept (require (fs.isFile p) (.missing .imageFile p.text))
  let content ← FileAction.ask (·.read p)
  match PictureCodec.decode content with
  | .ok r => return r
  | .error fault => throw (.codec fault)

def readGrid (p : Path) : FileAction Grid := do
  let r ← readRaster p
  FileAction.accept r.toGrid

/-! ## 2. Writing -/

def defaultJpegQuality : Nat := 90

/-- Refuses a path whose directory is not there. -/
def checkParent (p : Path) : FileAction Unit := do
  let fs ← get
  FileAction.accept (require (p.text ≠ "") .emptyOutputPath)
  match p.parent? with
  | none => return
  | some dir =>
    FileAction.accept
      (require (dir.text = "" || fs.isDirectory dir) (.missing .directory dir.text))

/-- The failure when a picture file ends early. -/
def pictureComplaint (s : Shortage) : Failure := s.failure fun fault => .codec (.disk fault)

/-- Writes a picture to a file on a disk that may fail.  The quality, brought between 1 and 100,
matters to JPEG only; a picture that JPEG cannot hold leaves a file that is none. -/
def writePictureOn (disk : Disk) (g : Grid) (format : ImageFormat) (p : Path) (quality : Nat) :
    FileAction Unit := do
  checkParent p
  match format with
  | .ppm => disk.write p (PictureCodec.ppm g) pictureComplaint
  | .png => disk.write p (PictureCodec.png g) pictureComplaint
  | .jpeg =>
    let (content, fault) := PictureCodec.jpeg (max 1 (min 100 quality)) g
    -- what JPEG cannot hold is told first, whatever has become of the file
    disk.write p content fun s => fault.elim (pictureComplaint s) .codec
    match fault with
    | none => return
    | some fault => throw (.codec fault)

def writePicture (g : Grid) (format : ImageFormat) (p : Path) (quality : Nat) : FileAction Unit :=
  writePictureOn .sound g format p quality

end RasterScript
