import RasterScript.Command.Execute
import RasterScript.Command.Grammar

/-!
# Session — lines one after the other

A session is a world and a cursor.  A line is read with the cursor as it stands, carried out, and
may then move the cursor, all before the next line is looked at.
-/

namespace RasterScript

variable [PictureCodec] [ManifestFormat]

/-- A world and a cursor. -/
structure Session where
  world : World
  cursor : Cursor

namespace Session

/-- A session without images on some files. -/
def new (options : Options) (files : FileStore) : Session :=
  ⟨⟨.new options, files⟩, .unset⟩

def run (s : Session) (c : Command) : Except Failure Unit × Session :=
  match c.execute.run.run s.world with
  -- what was done to the files before the failure stays done
  | (.error f, w) => (.error f, { s with world := w })
  | (.ok (), w) =>
    match c.moveCursor s.cursor w.workspace with
    | .error r => (.error r, { s with world := w })
    | .ok cursor => (.ok (), ⟨w, cursor⟩)

/-- Reads a line and carries it out; the result is the command that it was. -/
def runLine (s : Session) (line : String) : Except Failure Command × Session :=
  match Command.parseLine s.cursor line with
  | .error r => (.error r, s)
  | .ok c =>
    match s.run c with
    | (.error f, s') => (.error f, s')
    | (.ok (), s') => (.ok c, s')

end Session

end RasterScript
