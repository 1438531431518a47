import RasterScript.Command.Cursor
import RasterScript.Layered.Picture
import RasterScript.Workspace

/-!
# Execute — carrying commands out

Every command first finds out whether it can be carried out and changes the workspace last, in one
step.  Afterwards `load` and `set-current-layer` move the cursor.
-/

namespace RasterScript

variable [PictureCodec] [ManifestFormat]

/-! ## 1. Targets -/

/-- The picture that a target means. -/
def Workspace.target (ws : Workspace) : Target → Except Refusal Grid
  | .image name => ws.image name
  | .layer stack name => do
    let img ← ws.layeredImage stack
    let l ← img.layer name
    return l.grid

def Workspace.setPixel (ws : Workspace) (x y : Nat) (v : Pixel) :
    Target → Except Refusal Workspace
  | .image name => do
    let g ← ws.image name
    return ws.setImage name (← g.setPixel x y v)
  | .layer stack name => do
    let img ← ws.layeredImage stack
    return ws.setLayered stack (← img.setPixel name x y v)

def Workspace.mutate (ws : Workspace) (m : Mutator) : Target → Except Refusal Workspace
  | .image name => do
    let g ← ws.image name
    return ws.setImage name (m.apply g)
  | .layer stack name => do
    let img ← ws.layeredImage stack
    return ws.setLayered stack (← img.mutate name m)

def Workspace.edit (ws : Workspace) (name : String)
    (f : LayeredImage → Except Refusal LayeredImage) : Except Refusal Workspace := do
  let img ← ws.layeredImage name
  return ws.setLayered name (← f img)

/-! ## 2. Sources -/

def ImageSource.build (ws : Workspace) : ImageSource → FileAction Grid
  | .checkerboard size count first second => do
    -- a product that no word holds counts as the largest word
    let side := min (count.sqrt * size) (wordSize - 1)
    FileAction.accept (ws.checkSides side side)
    FileAction.accept (Grid.checkerboard size count first second)
  | .empty => return .single
  | .transparent w h => do
    FileAction.accept (ws.checkSides w h)
    FileAction.accept (Grid.transparent w h)
  | .copy name => FileAction.accept (ws.image name)
  | .file path => readGrid path

def LayeredSource.build (ws : Workspace) : LayeredSource → FileAction LayeredImage
  | .blank w h => do
    FileAction.accept (ws.checkSides w h)
    FileAction.accept (LayeredImage.new w h)
  | .directory path => LayeredImage.load path ws.options.maxDimension

/-! ## 3. Commands -/

namespace Command

/-- Carries out a command that has passed its check. -/
def perform (c : Command) : Action Unit := do
  let ws ← Action.workspace
  match c with
  -- a name that is taken is refused before anything is built or read
  | .createImage name source =>
    Action.accept (ws.checkFreshImage name)
    let g ← Action.onFiles (source.build ws)
    Action.setWorkspace (← Action.accept (ws.addImage name g))
  | .createLayeredImage name source =>
    Action.accept (ws.checkFreshLayered name)
    let img ← Action.onFiles (source.build ws)
    Action.setWorkspace (← Action.accept (ws.addLayered name img))
  | .updateColor target x y color =>
    Action.setWorkspace (← Action.accept (ws.setPixel x y color target))
  | .applyMutator target kind =>
    Action.setWorkspace (← Action.accept (ws.mutate kind.mutator target))
  -- the next three change files and no image
  | .save target format path =>
    let g ← Action.accept (ws.target target)
    Action.onFiles (writePicture g format path ws.options.jpegQuality)
  | .saveLayered name directory =>
    let img ← Action.accept (ws.layeredImage name)
    Action.onFiles (img.save directory)
  | .saveAsImage name format path =>
    let img ← Action.accept (ws.layeredImage name)
    Action.onFiles (img.writeFlattened format path ws.options.jpegQuality)
  -- these two only look; the cursor is moved afterwards
  | .load name =>
    let _ ← Action.accept (ws.layeredImage name)
  | .setCurrentLayer name layer =>
    let img ← Action.accept (ws.layeredImage name)
    let _ ← Action.accept (img.layer layer)
  | .addLayer name layer =>
    Action.setWorkspace (← Action.accept (ws.edit name (·.addLayer layer)))
  | .copyLayer name layer source =>
    Action.setWorkspace (← Action.accept (ws.edit name (·.copyLayer layer source)))
  | .addImageAsLayer name layer path =>
    let img ← Action.accept (ws.layeredImage name)
    Action.setWorkspace (ws.setLayered name (← Action.onFiles (img.addPicture layer path)))
  | .moveLayer name layer index =>
    Action.setWorkspace (← Action.accept (ws.edit name (·.moveLayer layer index)))
  | .removeLayer name layer =>
    Action.setWorkspace (← Action.accept (ws.edit name (·.removeLayer layer)))
  | .updateVisibility name layer visible =>
    Action.setWorkspace (← Action.accept (ws.edit name (·.setVisibility layer visible)))

/-- Checks a command and carries it out. -/
def execute (c : Command) : Action Unit := do
  Action.accept c.check
  c.perform

/-- The cursor after a command that was carried out. -/
def moveCursor (c : Command) (cursor : Cursor) (ws : Workspace) : Except Refusal Cursor :=
  match c with
  | .load name => do
    let img ← ws.layeredImage name
    return ⟨some name, img.layers.head?.map (·.name)⟩
  | .setCurrentLayer name layer => do
    let img ← ws.layeredImage name
    let _ ← img.layer layer
    return ⟨some name, some layer⟩
  | _ => .ok cursor

end Command

end RasterScript
