import RasterScript.Archive.Load
import RasterScript.Table

/-!
# Workspace — the named images that scripts work on

Images and layered images have names of their own, so one of each may share a name.  Two options
hold for the whole workspace: the quality of JPEG files and the longest side of an image.

A `World` is a workspace and a file store; an `Action` is a computation on it that can fail, and
what it changed before a failure stays changed.
-/

namespace RasterScript

/-- What holds for all commands of a workspace. -/
structure Options where
  jpegQuality : Nat
  maxDimension : Nat
  deriving DecidableEq, Repr

def Options.standard : Options := ⟨defaultJpegQuality, defaultMaxDimension⟩

/-- Images and layered images by name. -/
structure Workspace where
  images : Table String Grid
  layered : Table String LayeredImage
  options : Options

namespace Workspace

def new (options : Options) : Workspace := ⟨∅, ∅, options⟩

/-- The image of that name, refused if there is none. -/
def image (ws : Workspace) (name : String) : Except Refusal Grid :=
  match ws.images.find? name with
  | some g => .ok g
  | none => .error (.missing .image name)

def layeredImage (ws : Workspace) (name : String) : Except Refusal LayeredImage :=
  match ws.layered.find? name with
  | some img => .ok img
  | none => .error (.missing .layeredImage name)

def setImage (ws : Workspace) (name : String) (g : Grid) : Workspace :=
  { ws with images := ws.images.insert name g }

def setLayered (ws : Workspace) (name : String) (img : LayeredImage) : Workspace :=
  { ws with layered := ws.layered.insert name img }

/-- Refuses a name that an image has. -/
def checkFreshImage (ws : Workspace) (name : String) : Except Refusal Unit :=
  require (!ws.images.contains name) (.taken .image name)

def checkFreshLayered (ws : Workspace) (name : String) : Except Refusal Unit :=
  require (!ws.layered.contains name) (.taken .layeredImage name)

/-- Refuses sides that are longer than the workspace allows. -/
def checkSides (ws : Workspace) (width height : Nat) : Except Refusal Unit :=
  require (width ≤ ws.options.maxDimension && height ≤ ws.options.maxDimension)
    (.tooLongSide width height ws.options.maxDimension)

def addImage (ws : Workspace) (name : String) (g : Grid) : Except Refusal Workspace := do
  ws.checkFreshImage name
  ws.checkSides g.width g.height
  return ws.setImage name g

def addLayered (ws : Workspace) (name : String) (img : LayeredImage) :
    Except Refusal Workspace := do
  ws.checkFreshLayered name
  ws.checkSides img.width img.height
  return ws.setLayered name img

end Workspace

/-! ## Worlds and actions -/

/-- A workspace and the files around it. -/
structure World where
  workspace : Workspace
  files : FileStore

/-- A computation that reads and changes a world and can fail. -/
abbrev Action := ExceptT Failure (StateM World)

namespace Action

/-- Goes on only if a request makes sense. -/
def accept {α : Type} (r : Except Refusal α) : Action α :=
  match r with
  | .ok a => pure a
  | .error c => throw (.refused c)

def workspace : Action Workspace := do return (← get).workspace

def setWorkspace (ws : Workspace) : Action Unit := modify fun w => { w with workspace := ws }

/-- Does something with the files. -/
def onFiles {α : Type} (a : FileAction α) : Action α := fun w =>
  let (result, files) := a.run.run w.files
  (result, { w with files := files })

end Action

end RasterScript
