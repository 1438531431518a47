import RasterScript.Proofs.Session.ScriptRuns

/-!
# OpenScripts — a script that is read piece by piece while it runs

Where the pieces of a file are cut does not matter: what is left of a line goes before the next
piece.  So a run of an open file is the run of some script that is there as a whole.  As long as no
command changes the open file, that script is the content of the file.
-/

namespace RasterScript

/-! ## 1. Lines in pieces -/

variable [PictureCodec] [ManifestFormat]

namespace Run

variable {quiet : Bool} {n : Nat} {r : Run}

end Run

/-! ## 3. The lines that are read -/

namespace Run

end Run

namespace Run

end Run

/-! ## 4. Scripts in files -/

namespace Session

end Session

end RasterScript
