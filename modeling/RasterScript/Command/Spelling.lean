import RasterScript.Command.Basic

/-!
# Spelling — commands written out

`Command.tokens` is the spelling of a command that leaves nothing out and uses the first word for
everything that has several: what `Command.parse` reads back whatever the cursor is.
-/

namespace RasterScript

def sizeToken (n : Nat) : String := toString n

def Pixel.colorTokens (p : Pixel) : List String :=
  [p.red, p.green, p.blue].map fun v => sizeToken v.toNat

def Target.tokens : Target → List String
  | .image name => [name]
  | .layer stack name => [stack, name]

def visibilityToken (visible : Bool) : String := if visible then "visible" else "invisible"

namespace Command

/-- The words after the keyword. -/
def arguments : Command → List String
  | .createImage name (.checkerboard size count first second) =>
    ["checkerboard", name, sizeToken size, sizeToken count] ++ first.colorTokens ++
      second.colorTokens
  | .createImage name .empty => ["empty", name]
  | .createImage name (.transparent w h) => ["transparent", name, sizeToken w, sizeToken h]
  | .createImage name (.copy source) => ["copy", name, source]
  | .createImage name (.file path) => ["from-file", name, path.text]
  | .createLayeredImage name (.blank w h) => ["blank", name, sizeToken w, sizeToken h]
  | .createLayeredImage name (.directory path) => ["import", name, path.text]
  | .updateColor target x y color =>
    target.tokens ++ [sizeToken x, sizeToken y] ++ color.colorTokens ++
      [sizeToken color.opacity.toNat]
  | .applyMutator target mutator => mutator.text :: target.tokens
  | .save target format path => target.tokens ++ [format.text, path.text]
  | .saveLayered image path => [image, path.text]
  | .saveAsImage image format path => [image, format.text, path.text]
  | .load image => [image]
  | .setCurrentLayer image layer => [image, layer]
  | .addLayer image layer => [image, layer]
  | .copyLayer image layer source => [image, layer, source]
  | .addImageAsLayer image layer path => [image, layer, path.text]
  | .moveLayer image layer index => [image, layer, sizeToken index]
  | .removeLayer image layer => [image, layer]
  | .updateVisibility image layer visible => [image, layer, visibilityToken visible]

/-- The command written out in full. -/
def tokens (c : Command) : List String := c.keyword.text :: c.arguments

end Command

end RasterScript
