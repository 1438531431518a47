import RasterScript.Binary.Number
import RasterScript.Grid.Basic

/-!
# PlainPixmap — pictures written as decimal numbers

The plain pixmap format `P3`: a header with the two sides and the highest sample, then red, green
and blue of every pixel as decimal numbers.  Opacities are not written.

The numbers and the blank after each of them are laid out as separate pieces on lines of at most
70 bytes, so a line may begin with a blank, and there is no line break at the end.
-/

namespace RasterScript

namespace PlainPixmap

/-- A natural number in decimal digits. -/
def decimal (n : Nat) : Bytes := (Nat.toDigits 10 n).map fun c => c.toNat.toUInt8

def blankByte : UInt8 := 0x20

def newlineByte : UInt8 := 0x0A

def lineLimit : Nat := 70

/-- Text laid out so far, and how many bytes its last line has. -/
structure Layout where
  text : Array UInt8
  lineLength : Nat

/-- Adds a piece, on a new line if it does not fit on the last one. -/
def Layout.add (l : Layout) (piece : Bytes) : Layout :=
  if l.lineLength ≠ 0 ∧ lineLimit < l.lineLength + piece.length then
    ⟨(l.text.push newlineByte).appendList piece, piece.length⟩
  else ⟨l.text.appendList piece, l.lineLength + piece.length⟩

/-- The samples that are written, in order. -/
def samples (g : Grid) : List UInt8 :=
  g.pixels.toList.flatMap fun p => [p.red, p.green, p.blue]

def header (width height : Nat) : Bytes :=
  [0x50, 0x33, newlineByte] ++ decimal width ++ [blankByte] ++ decimal height ++ [blankByte] ++
    decimal 255 ++ [newlineByte]

/-- The pieces that the samples are written in. -/
def samplePieces (g : Grid) : List Bytes :=
  (samples g).flatMap fun v => [decimal v.toNat, [blankByte]]

def encode (g : Grid) : Bytes :=
  let body := (samplePieces g).foldl Layout.add ⟨#[], 0⟩
  header g.width g.height ++ body.text.toList

end PlainPixmap

end RasterScript
