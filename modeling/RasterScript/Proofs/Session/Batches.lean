import Mathlib.Data.List.Chain
import RasterScript.Program
import RasterScript.Proofs.Files.Directory
import RasterScript.Proofs.Session.OpenScripts

/-!
# Batches — what a run of several scripts does

A run tries its scripts one after the other.  An `Attempt` is one of them: where the script comes
from, the session that it finds, and either the run or the reason why there is none.  What one
attempt hands on to the next is its session, and from that step follows what the whole run writes
and whether it succeeds.
-/

namespace RasterScript

open FileStore

/-! ## 1. Where scripts come from -/

/-- The standard input, or a file. -/
inductive Source
  | input
  | file (path : Path)
  deriving DecidableEq, Repr

/-- The session with these files. -/
def Session.onFiles (s : Session) (files : FileStore) : Session :=
  { s with world := { s.world with files := files } }

/-- A script, the session that it finds, and what comes of it. -/
structure Attempt where
  source : Source
  before : Session
  result : Except FileFault Run

namespace Attempt

def reports (x : Attempt) : List String :=
  match x.result with
  | .ok r => r.reports
  | .error _ => []

/-- What the attempt writes. -/
def output (x : Attempt) : String := String.join x.reports

/-- The session that the attempt leaves; a script that cannot be read changes nothing. -/
def after (x : Attempt) : Session :=
  match x.result with
  | .ok r => r.session
  | .error _ => x.before

/-- The script could not be read, or a line failed. -/
def fails (x : Attempt) : Bool :=
  match x.result with
  | .ok r => decide (0 < r.tally.failed)
  | .error _ => true

end Attempt

variable [PictureCodec] [ManifestFormat]

/-- The run of a script begun in the session `s`; `input` is the standard input. -/
def Source.run (quiet : Bool) (input : Bytes) (s : Session) : Source → Except FileFault Run
  | .input => .ok (s.runScript quiet input)
  | .file path => do
    let files ← s.world.files.openFile path
    return (s.onFiles files).runOpenFile quiet

section File

variable {quiet : Bool} {input : Bytes} {s : Session} {path : Path}

end File

section Attempts

variable {quiet : Bool} {input : Bytes} {s : Session} {xs : List Attempt}

end Attempts

/-! ## 3. What an attempt does -/

namespace Progress

/-- The progress `p'` is `p` with an attempt that began in its session. -/
structure Adds (p : Progress) (x : Attempt) (p' : Progress) : Prop where
  output : p'.output = p.output ++ x.reports
  failed : p'.failed = (p.failed || x.fails)
  session : p'.session = x.after

end Progress

end RasterScript
