import RasterScript.Command.Basic

/-!
# Cursor — the image and layer that are meant when none are named
-/

namespace RasterScript

/-- The current image and the current layer, if they are set. -/
structure Cursor where
  image : Option String
  layer : Option String
  deriving DecidableEq, Repr

namespace Cursor

def unset : Cursor := ⟨none, none⟩

/-- The current image, refused if none is set. -/
def requireImage (c : Cursor) : Except Refusal String :=
  match c.image with
  | some image => .ok image
  | none => .error .noCurrentImage

/-- The current layer, refused if none is set. -/
def requireLayer (c : Cursor) : Except Refusal String :=
  match c.layer with
  | some layer => .ok layer
  | none => .error .noCurrentLayer

end Cursor

end RasterScript
