import RasterScript.Failure

/-!
# Pixel — one cell of a picture

A pixel is a colour and an opacity, each a byte.  Integers that come from outside are either
saturated (`saturate`, for edits) or refused when they are no byte (`channel`, for script values).
-/

namespace RasterScript

/-- Red, green, blue and opacity. -/
structure Pixel where
  red : UInt8
  green : UInt8
  blue : UInt8
  opacity : UInt8
  deriving DecidableEq, Repr, Inhabited

namespace Pixel

/-- Fully visible white: what inserted rows and columns are made of. -/
def white : Pixel := ⟨255, 255, 255, 255⟩

/-- No colour and no opacity: what is read outside a picture. -/
def transparent : Pixel := ⟨0, 0, 0, 0⟩

/-- A fully visible colour. -/
def solid (red green blue : UInt8) : Pixel := ⟨red, green, blue, 255⟩

end Pixel

/-! ## 1. Integers as channels -/

/-- The byte nearest to `v`. -/
def saturate (v : Int) : UInt8 :=
  UInt8.ofNat (min v.toNat 255)

/-- The byte `v`, refused if it is none; `what` names it in the message. -/
def channel (what : String) (v : Int) : Except Refusal UInt8 :=
  if 0 ≤ v ∧ v ≤ 255 then .ok (UInt8.ofNat v.toNat) else .error (.outsideChannel what v)

theorem toNat_saturate (v : Int) : (saturate v).toNat = min v.toNat 255 := by
  simp only [saturate, UInt8.toNat_ofNat']
  omega

/-! ## 2. Edits -/

/-- A change to one pixel, with values that are saturated. -/
inductive PixelEdit
  | setOpacity (opacity : Int)
  | updateColors (red green blue opacity : Int)
  | editColors (red green blue : Int)
  deriving DecidableEq, Repr

/-- The pixel after the change; channels that the change does not name are kept. -/
def PixelEdit.apply : PixelEdit → Pixel → Pixel
  | .setOpacity o, p => { p with opacity := saturate o }
  | .updateColors r g b o, _ => ⟨saturate r, saturate g, saturate b, saturate o⟩
  | .editColors r g b, p => { p with red := saturate r, green := saturate g, blue := saturate b }

/-- Doing the same edit twice is doing it once. -/
theorem PixelEdit.apply_apply (e : PixelEdit) (p : Pixel) : e.apply (e.apply p) = e.apply p := by
  cases e <;> rfl

end RasterScript
