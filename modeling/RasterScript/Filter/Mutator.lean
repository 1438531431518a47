import RasterScript.Filter.ColorMatrix
import RasterScript.Filter.Kernel

/-!
# Mutator — changes to every pixel of a picture

A mutator is a convolution or a recolouring.  Scripts choose among the four that have names.
-/

namespace RasterScript

/-- A change to every pixel of a picture that keeps its size. -/
inductive Mutator
  | filter (kernel : Kernel)
  | recolor (matrix : ColorMatrix)

namespace Mutator

def name : Mutator → String
  | .filter k => k.name
  | .recolor m => m.name

def apply : Mutator → Grid → Grid
  | .filter k, g => k.convolve g
  | .recolor m, g => g.map m.recolor

@[simp] theorem extent_apply (m : Mutator) (g : Grid) : (m.apply g).extent = g.extent := by
  cases m <;> rfl

end Mutator

/-- The mutators that a script can name. -/
inductive MutatorKind
  | blur
  | sharpen
  | greyscale
  | sepia
  deriving DecidableEq, Repr

namespace MutatorKind

def all : List MutatorKind := [.blur, .sharpen, .greyscale, .sepia]

def text : MutatorKind → String
  | .blur => "blur"
  | .sharpen => "sharpen"
  | .greyscale => "greyscale"
  | .sepia => "sepia"

/-- The mutator that a word names.  Letter case does not matter: the words are ASCII and hold no
letter that is the lower case of anything outside ASCII. -/
def ofText (word : String) : Except Refusal MutatorKind :=
  match word.toLower with
  | "blur" => .ok .blur
  | "sharpen" => .ok .sharpen
  | "greyscale" => .ok .greyscale
  | "grayscale" => .ok .greyscale
  | "sepia" => .ok .sepia
  | _ => .error (.unknownMutator word)

def mutator : MutatorKind → Mutator
  | .blur => .filter .blur
  | .sharpen => .filter .sharpen
  | .greyscale => .recolor .greyscale
  | .sepia => .recolor .sepia

end MutatorKind

end RasterScript
