import RasterScript.Archive.Manifest
import RasterScript.Layered.Basic
import RasterScript.Raster.File

/-!
# Save — a stack of layers into a directory

A saved stack is a directory with one PNG file per layer and a manifest.  Only files that an
earlier manifest lists belong to the stack; anything else in the directory is left alone, and a
layer file that would replace something else is refused before anything is written.

The steps are in this order: the checks, the layer files, the manifest, and last the removal of
files of an earlier save that are not needed any more.  Files are replaced where they are and
nothing is undone, so what a save leaves that fails depends on the step and on the disk.
-/

namespace RasterScript

variable [PictureCodec] [ManifestFormat]

def maxLayers : Nat := 256

def readManifest (p : Path) : FileAction Manifest := do
  let content ← FileAction.ask (·.read p)
  -- before decoding: in a file of another kind a length could be anything
  FileAction.accept (require (Manifest.hasMagic content) (.notAManifest p.text))
  match ManifestFormat.decode content with
  | .ok m => return m
  | .error fault => throw (.persistence fault)

namespace LayeredImage

/-- The layer files of a stack, front to back. -/
def fileNames (img : LayeredImage) : List String :=
  img.layers.mapIdx fun i l => layerFileName i l.name

def manifest (img : LayeredImage) : Manifest where
  magic := Manifest.expectedMagic
  width := .ofNat img.width
  height := .ofNat img.height
  layers := img.layers.mapIdx fun i l => ⟨l.name, l.visible, layerFileName i l.name⟩

end LayeredImage

/-- Finds or makes the directory `dir`. -/
def enterDirectory (disk : Disk) (dir : Path) : FileAction Unit := do
  let fs ← get
  if fs.pathExists dir then
    FileAction.accept (require (fs.isDirectory dir) (.notADirectory dir.text))
  else
    checkParent dir
    disk.allow .makeDirectory dir
    FileAction.change (·.makeDirectory dir)

/-- The files directly inside `dir` that an earlier manifest lists. -/
def ownFiles (disk : Disk) (dir : Path) : FileAction (List String) := do
  let fs ← get
  if fs.pathExists (dir.join Manifest.fileName) then
    disk.allow .openForReading (dir.join Manifest.fileName)
    let m ← readManifest (dir.join Manifest.fileName)
    -- a listed name that leads out of the directory is nobody's file
    return (m.layers.map (·.file)).filter isPlainFileName
  else return []

/-- Refuses to write `file` over something that is not among the files `own`. -/
def checkNotForeign (dir : Path) (own : List String) (file : String) : FileAction Unit := do
  let fs ← get
  FileAction.accept <|
    require (own.contains file || !fs.pathExists (dir.join file))
      (.foreignFile (dir.join file).text)

/-- Removes a file of an earlier save; it may be gone already. -/
def removeStale (disk : Disk) (dir : Path) (file : String) : FileAction Unit := do
  disk.allow .remove (dir.join file)
  match (← get).removeFile (dir.join file) with
  | .ok fs => set fs
  -- somebody may have removed it since
  | .error .notFound => return
  | .error fault => throw (.file fault)

/-- The failure when a manifest ends early. -/
def manifestComplaint (s : Shortage) : Failure := s.failure fun fault => .persistence (.disk fault)

/-- Saves a stack into the directory `dir`, made if it is not there, on a disk that may fail.  What
was written or removed before a failure stays so. -/
def LayeredImage.saveOn (disk : Disk) (img : LayeredImage) (dir : Path) : FileAction Unit := do
  FileAction.accept <|
    require (img.layers.length ≤ maxLayers) (.tooManyLayersToSave img.layers.length maxLayers)
  enterDirectory disk dir
  let own ← ownFiles disk dir
  -- all names are checked before the first file is written
  img.fileNames.forM (checkNotForeign dir own)
  (img.layers.zip img.fileNames).forM fun (l, file) =>
    writePictureOn disk l.grid .png (dir.join file) defaultJpegQuality
  disk.write (dir.join Manifest.fileName) (ManifestFormat.encode img.manifest) manifestComplaint
  -- the new manifest does not name these layer files any more
  (own.eraseDups.filter (· ∉ img.fileNames)).forM (removeStale disk dir)

def LayeredImage.save (img : LayeredImage) (dir : Path) : FileAction Unit := img.saveOn .sound dir

end RasterScript
