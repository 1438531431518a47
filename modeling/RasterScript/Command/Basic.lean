import RasterScript.Archive.Load
import RasterScript.Filter.Mutator
import RasterScript.Grid.Checkerboard

/-!
# Command — what a script line asks for

Fifteen keywords.  A `Command` can hold any names, numbers and paths; `Command.check` refuses those
that no workspace could carry out, and `Command.checked` is the command with that check passed.
-/

namespace RasterScript

/-! ## 1. Keywords -/

/-- The first word of a script line. -/
inductive Keyword
  | createImage
  | createLayeredImage
  | updateColor
  | applyMutator
  | save
  | saveLayered
  | saveAsImage
  | load
  | setCurrentLayer
  | addLayer
  | copyLayer
  | addImageAsLayer
  | moveLayer
  | removeLayer
  | updateVisibility
  deriving DecidableEq, Repr

namespace Keyword

def all : List Keyword :=
  [.createImage, .createLayeredImage, .updateColor, .applyMutator, .save, .saveLayered,
    .saveAsImage, .load, .setCurrentLayer, .addLayer, .copyLayer, .addImageAsLayer, .moveLayer,
    .removeLayer, .updateVisibility]

def text : Keyword → String
  | .createImage => "create-image"
  | .createLayeredImage => "create-layered-image"
  | .updateColor => "update-color"
  | .applyMutator => "apply-mutator"
  | .save => "save"
  | .saveLayered => "save-layered"
  | .saveAsImage => "save-as-image"
  | .load => "load"
  | .setCurrentLayer => "set-current-layer"
  | .addLayer => "add-layer"
  | .copyLayer => "copy-layer"
  | .addImageAsLayer => "add-image-as-layer"
  | .moveLayer => "move-layer"
  | .removeLayer => "remove-layer"
  | .updateVisibility => "update-visibility"

def ofText? (word : String) : Option Keyword := all.find? fun k => k.text == word

end Keyword

/-! ## 2. Commands -/

/-- What a command changes or writes to a file: an image, or a layer of a layered image. -/
inductive Target
  | image (name : String)
  | layer (image layer : String)
  deriving DecidableEq, Repr

/-- Where a new image comes from. -/
inductive ImageSource
  | checkerboard (tileSize tileCount : Nat) (first second : Pixel)
  | empty
  | transparent (width height : Nat)
  | copy (source : String)
  | file (path : Path)
  deriving DecidableEq, Repr

/-- Where a new layered image comes from. -/
inductive LayeredSource
  | blank (width height : Nat)
  | directory (path : Path)
  deriving DecidableEq, Repr

/-- What a script line asks for. -/
inductive Command
  | createImage (name : String) (source : ImageSource)
  | createLayeredImage (name : String) (source : LayeredSource)
  | updateColor (target : Target) (x y : Nat) (color : Pixel)
  | applyMutator (target : Target) (mutator : MutatorKind)
  | save (target : Target) (format : ImageFormat) (path : Path)
  | saveLayered (image : String) (directory : Path)
  | saveAsImage (image : String) (format : ImageFormat) (path : Path)
  | load (image : String)
  | setCurrentLayer (image layer : String)
  | addLayer (image layer : String)
  | copyLayer (image layer source : String)
  | addImageAsLayer (image layer : String) (path : Path)
  | moveLayer (image layer : String) (index : Nat)
  | removeLayer (image layer : String)
  | updateVisibility (image layer : String) (visible : Bool)
  deriving DecidableEq, Repr

namespace Command

def keyword : Command → Keyword
  | .createImage .. => .createImage
  | .createLayeredImage .. => .createLayeredImage
  | .updateColor .. => .updateColor
  | .applyMutator .. => .applyMutator
  | .save .. => .save
  | .saveLayered .. => .saveLayered
  | .saveAsImage .. => .saveAsImage
  | .load .. => .load
  | .setCurrentLayer .. => .setCurrentLayer
  | .addLayer .. => .addLayer
  | .copyLayer .. => .copyLayer
  | .addImageAsLayer .. => .addImageAsLayer
  | .moveLayer .. => .moveLayer
  | .removeLayer .. => .removeLayer
  | .updateVisibility .. => .updateVisibility

end Command

/-! ## 3. Checks -/

def Path.check (p : Path) : Except Refusal Unit :=
  require (p.text ≠ "") .emptyPath

/-- Refuses names that the target cannot have. -/
def Target.check : Target → Except Refusal Unit
  | .image name => checkImageName name
  | .layer stack name => do
    checkImageName stack
    checkLayerName name

/-- Refuses sources that no image can come from. -/
def ImageSource.check : ImageSource → Except Refusal Unit
  | .checkerboard size count _ _ => do
    require (0 < size) .noTileSize
    require (0 < count && isSquare count) (.tilesNotPositiveSquare count)
  | .empty => .ok ()
  | .transparent w h => require (0 < w && 0 < h) (.emptyPicture w h)
  | .copy name => checkImageName name
  | .file path => path.check

def LayeredSource.check : LayeredSource → Except Refusal Unit
  | .blank w h => require (0 < w && 0 < h) (.emptyLayeredImage w h)
  | .directory path => path.check

namespace Command

/-- Refuses commands whose names, paths or sizes make no sense in any workspace. -/
def check : Command → Except Refusal Unit
  | .createImage name source => do
    checkImageName name
    source.check
  | .createLayeredImage name source => do
    checkImageName name
    source.check
  | .updateColor target _ _ _ => target.check
  | .applyMutator target _ => target.check
  | .save target _ path => do
    target.check
    path.check
  | .saveLayered image path => do
    checkImageName image
    path.check
  | .saveAsImage image _ path => do
    checkImageName image
    path.check
  | .load image => checkImageName image
  | .setCurrentLayer image layer => do
    checkImageName image
    checkLayerName layer
  | .addLayer image layer => do
    checkImageName image
    checkLayerName layer
  | .copyLayer image layer source => do
    checkImageName image
    checkLayerName layer
    checkLayerName source
  | .addImageAsLayer image layer path => do
    checkImageName image
    checkLayerName layer
    path.check
  | .moveLayer image layer _ => do
    checkImageName image
    checkLayerName layer
  | .removeLayer image layer => do
    checkImageName image
    checkLayerName layer
  | .updateVisibility image layer _ => do
    checkImageName image
    checkLayerName layer

/-- The command itself if it passes `check`. -/
def checked (c : Command) : Except Refusal Command := do
  c.check
  return c

/-- A fully visible colour from script values. -/
def solidColor (red green blue : Int) : Except Refusal Pixel := do
  return .solid (← channel "red" red) (← channel "green" green) (← channel "blue" blue)

/-- A colour and its opacity from script values. -/
def fullColor (red green blue opacity : Int) : Except Refusal Pixel := do
  return ⟨← channel "red" red, ← channel "green" green, ← channel "blue" blue,
    ← channel "opacity" opacity⟩

theorem checked_eq_ok {c d : Command} : c.checked = .ok d ↔ d = c ∧ c.check = .ok () := by
  unfold checked
  cases h : c.check with
  | error r => simp [bind, Except.bind]
  | ok u => cases u; simp [bind, Except.bind, pure, Except.pure, eq_comm]

end Command

end RasterScript
