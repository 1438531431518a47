import RasterScript.Session
import RasterScript.Text.Split
import RasterScript.Text.Utf8

/-!
# Shell — running the lines of a script

A script is bytes; its lines end at line breaks and are numbered from 1.  Blank lines and comments
are passed over, a quit word ends the run, and every other line is carried out and reported:

    Line 3: create-image done
    Invalid line 4: image 'a' already exists

A quiet run leaves out the reports of success.  A line that is not UTF-8 is reported as invalid.

A script in a file is read piece by piece while it runs, so it can change what it does next.
-/

namespace RasterScript

variable [PictureCodec] [ManifestFormat]

/-! ## 1. Lines -/

/-- The words that end a run; letter case does not matter. -/
def quitWords : List String := ["quit", "exit", "q"]

/-- The lines of some bytes, without their line breaks; what follows the last line break is a line
if it is not empty. -/
def physicalLines (input : Bytes) : List Bytes :=
  let ps := pieces 0x0A input
  if ps.getLast? = some [] then ps.dropLast else ps

/-- What a line is. -/
inductive ScriptLine
  | undecodable
  | idle
  | quit
  | command (text : String)
  deriving DecidableEq, Repr

/-- What the line with these bytes is.  The quit words are ASCII and hold no letter that is the
lower case of anything outside ASCII. -/
def ScriptLine.ofBytes (bs : Bytes) : ScriptLine :=
  match decodeUtf8? bs with
  | none => .undecodable
  | some line =>
    -- blanks around a line mean nothing
    let text := trimmed line
    if text = "" ∨ text.toList.head? = some '#' then .idle
    else if text.toLower ∈ quitWords then .quit
    else .command text

/-! ## 2. Reports -/

def successReport (n : Nat) (k : Keyword) : String := s!"Line {n}: {k.text} done\n"

def failureReport (n : Nat) (reason : String) : String := s!"Invalid line {n}: {reason}\n"

/-- Why a line that is not UTF-8 is invalid. -/
def undecodableReason : String := "line is not valid UTF-8"

/-- What is written when a session is over. -/
def closingLine : String := "Image Processor Quit\n"

structure Tally where
  succeeded : Nat
  failed : Nat
  quit : Bool
  deriving DecidableEq, Repr

/-- What a run did: the reports in order, the count, and the session after it. -/
structure Run where
  reports : List String
  tally : Tally
  session : Session

namespace Run

def start (s : Session) : Run := ⟨[], ⟨0, 0, false⟩, s⟩

def output (r : Run) : String := String.join r.reports

/-- The run with line `n` carried out. -/
def command (r : Run) (quiet : Bool) (n : Nat) (text : String) : Run :=
  match r.session.runLine text with
  | (.ok c, s) =>
    { reports := if quiet then r.reports else r.reports ++ [successReport n c.keyword]
      tally := { r.tally with succeeded := r.tally.succeeded + 1 }
      session := s }
  | (.error f, s) =>
    { reports := r.reports ++ [failureReport n f.message]
      tally := { r.tally with failed := r.tally.failed + 1 }
      session := s }

/-- The run with line `n`, which is not UTF-8, reported. -/
def undecodable (r : Run) (n : Nat) : Run :=
  { r with
    reports := r.reports ++ [failureReport n undecodableReason]
    tally := { r.tally with failed := r.tally.failed + 1 } }

/-- The run continued with the lines from line `n` on. -/
def lines (quiet : Bool) : Nat → List Bytes → Run → Run
  | _, [], r => r
  | n, line :: rest, r =>
    match ScriptLine.ofBytes line with
    | .undecodable => lines quiet (n + 1) rest (r.undecodable n)
    | .idle => lines quiet (n + 1) rest r
    -- the rest of the script is not looked at
    | .quit => { r with tally := { r.tally with quit := true } }
    | .command text => lines quiet (n + 1) rest (r.command quiet n text)

end Run

def Session.runScript (s : Session) (quiet : Bool) (input : Bytes) : Run :=
  Run.lines quiet 1 (physicalLines input) (.start s)

/-! ## 3. Scripts that are read while they run -/

/-- The most bytes of a file that are read at once. -/
def pieceSize : Nat := 8192

/-- The lines of some bytes that are complete, and the line that is only begun. -/
def completeLines (bs : Bytes) : List Bytes × Bytes :=
  let ps := pieces 0x0A bs
  (ps.dropLast, ps.getLast?.getD [])

/-- The run continued with the open file from `offset` on; `begun` is what was read of line `n`.
A piece is read when no complete line is left, and where nothing more comes the begun line is
complete.  There are at most `fuel` pieces. -/
def Run.openFile (quiet : Bool) : Nat → Nat → Nat → Bytes → Run → Run
  | 0, _, _, _, r => r
  | fuel + 1, offset, n, begun, r =>
    let piece := r.session.world.files.readOpen offset pieceSize
    if piece = [] ∧ begun = [] then r
    else
      -- at the end of the file the begun line is complete
      let (whole, begun) := if piece = [] then ([begun], []) else completeLines (begun ++ piece)
      let r := Run.lines quiet n whole r
      if r.tally.quit then r
      else Run.openFile quiet fuel (offset + piece.length) (n + whole.length) begun r

/-- Runs the script in the open file.  A line that writes to this file changes the lines that are
not read yet.  Offsets into files are below half of `wordSize` and every other piece is not empty,
so the pieces never run out. -/
def Session.runOpenFile (s : Session) (quiet : Bool) : Run :=
  Run.openFile quiet wordSize 0 1 [] (.start s)

end RasterScript
