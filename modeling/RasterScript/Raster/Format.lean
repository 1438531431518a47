import RasterScript.Failure

/-!
# Format — the kinds of picture files that can be written
-/

namespace RasterScript

inductive ImageFormat
  | ppm
  | png
  | jpeg
  deriving DecidableEq, Repr

namespace ImageFormat

def all : List ImageFormat := [.ppm, .png, .jpeg]

def text : ImageFormat → String
  | .ppm => "ppm"
  | .png => "png"
  | .jpeg => "jpeg"

/-- The format that a word names.  Letter case does not matter: the words are ASCII and hold no
letter that is the lower case of anything outside ASCII. -/
def ofText (word : String) : Except Refusal ImageFormat :=
  match word.toLower with
  | "ppm" => .ok .ppm
  | "png" => .ok .png
  | "jpeg" => .ok .jpeg
  | "jpg" => .ok .jpeg
  | _ => .error (.unknownFormat word)

end ImageFormat

end RasterScript
