import RasterScript.Layered.Basic
import RasterScript.Pixel.Composite

/-!
# Flatten — one picture out of a stack

Back to front, every visible layer is composited onto what is behind it, beginning with nothing.
-/

namespace RasterScript

/-- The ways in which layers can be blended. -/
inductive BlendMode
  | normal
  deriving DecidableEq, Repr

def BlendMode.name : BlendMode → String
  | .normal => "normal"

namespace LayeredImage

def visibleLayers (img : LayeredImage) : List Layer :=
  img.layers.filter (·.visible)

/-- What is seen in column `x` and row `y` through layers in this order. -/
def blendAt (layers : List Layer) (x y : Nat) : Pixel :=
  layers.foldr (fun l behind => Pixel.composite behind (l.colorAt x y)) .transparent

/-- The stack seen as one picture. -/
def flatten (img : LayeredImage) : Grid :=
  Grid.build img.extent fun p => blendAt img.visibleLayers p.x p.y

@[simp] theorem extent_flatten (img : LayeredImage) : img.flatten.extent = img.extent := rfl

@[simp] theorem get_flatten (img : LayeredImage) (p : Position img.extent) :
    img.flatten.get p = blendAt img.visibleLayers p.x p.y :=
  Grid.get_build _ _ p

end LayeredImage

end RasterScript
