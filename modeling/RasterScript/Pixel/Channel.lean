import RasterScript.Pixel.Basic

/-!
# Channel — floating-point results as channels

Filters, colour matrices and compositing compute in binary64 and come back to bytes here, in one
place: half up, then cut off at both ends.
-/

namespace RasterScript

/-- The channel nearest to `v`, halves going up; whatever lies outside goes to the nearer end, and
a result that is not a number gives 0.  Conversion to a byte truncates and saturates, so adding a
half first is all that rounding takes. -/
def roundChannel (v : Float) : UInt8 :=
  (v + 0.5).toUInt8

/-- The three colour channels. -/
inductive Channel
  | red
  | green
  | blue
  deriving DecidableEq, Repr

def Pixel.get (p : Pixel) : Channel → UInt8
  | .red => p.red
  | .green => p.green
  | .blue => p.blue

/-- A pixel from its colour channels and its opacity. -/
def Pixel.ofChannels (f : Channel → UInt8) (opacity : UInt8) : Pixel :=
  ⟨f .red, f .green, f .blue, opacity⟩

@[simp] theorem Pixel.get_ofChannels (f : Channel → UInt8) (opacity : UInt8) (c : Channel) :
    (Pixel.ofChannels f opacity).get c = f c := by
  cases c <;> rfl

@[simp] theorem Pixel.opacity_ofChannels (f : Channel → UInt8) (opacity : UInt8) :
    (Pixel.ofChannels f opacity).opacity = opacity := rfl

@[simp] theorem Pixel.ofChannels_get (p : Pixel) : Pixel.ofChannels p.get p.opacity = p := rfl

end RasterScript
