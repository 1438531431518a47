import RasterScript.Archive.Save
import RasterScript.Layered.Edit

/-!
# Load — a stack of layers from a directory

Manifests are not trusted: the size has to be within bounds, every layer has to have a name that
layers can have, and every layer file has to lie directly inside the directory and hold a picture of
the size that the manifest gives.
-/

namespace RasterScript

variable [PictureCodec] [ManifestFormat]

/-- The longest side of an image where nothing else is set. -/
def defaultMaxDimension : Nat := 32768

/-- The layer that a manifest of this size lists as `r`. -/
def loadLayer (dir : Path) (width height : Nat) (r : LayerRecord) : FileAction Layer := do
  FileAction.accept (checkLayerName r.name)
  FileAction.accept (require (isPlainFileName r.file) (.notAPlainFileName r.file))
  -- a plain name cannot lead out of the directory
  let g ← readGrid (dir.join r.file)
  FileAction.accept <|
    require (g.width = width ∧ g.height = height) (.layerSize r.name g.width g.height width height)
  FileAction.accept (Layer.named r.name g r.visible)

/-- The stack saved in the directory `dir`, with sides of at most `maxDimension`. -/
def LayeredImage.load (dir : Path) (maxDimension : Nat) : FileAction LayeredImage := do
  let fs ← get
  let inside (n : Nat) : Bool := 1 ≤ n ∧ n ≤ maxDimension
  FileAction.accept (require (fs.isDirectory dir) (.missing .directory dir.text))
  FileAction.accept <|
    require (fs.isFile (dir.join Manifest.fileName)) (.noManifest dir.text Manifest.fileName)
  let m ← readManifest (dir.join Manifest.fileName)
  -- the sizes are judged before any picture is decoded
  let width := m.width.toNat
  let height := m.height.toNat
  FileAction.accept <|
    require (inside width && inside height) (.archiveSize width height maxDimension)
  FileAction.accept <|
    require (m.layers.length ≤ maxLayers) (.tooManyLayersListed m.layers.length maxLayers)
  let layers ← m.layers.mapM (loadLayer dir width height)
  FileAction.accept (LayeredImage.ofLayers width height layers)

end RasterScript
