import RasterScript.Arguments
import RasterScript.Files.Glob
import RasterScript.SessionLog
import RasterScript.Shell

/-!
# Program — one run from arguments to exit code

All scripts of a run share one session, so what an earlier script made is there for a later one.
Without script arguments the standard input is the script.  A run succeeds if every script could be
read, at least one was found, and no line failed.

The session log is not part of the files of a run.  The file store that a run is given is that of
the moment when the log has been opened, and so emptied; the records are handed back with the
outcome, and those that single lines and files give rise to are left out.  A script that reads the
log while it runs finds nothing new in it.
-/

namespace RasterScript

variable [PictureCodec] [ManifestFormat] [PatternSearch]

/-! ## 1. Which scripts -/

/-- What a pattern contributes: itself if it leads to something, otherwise what it matches. -/
def FileStore.contribution (fs : FileStore) (pattern : String) : List Path :=
  if fs.pathExists ⟨pattern⟩ then [⟨pattern⟩] else PatternSearch.expand fs pattern

/-- Adds a path to a list that does not have it yet. -/
def addPath (found : List Path) (p : Path) : List Path :=
  if found.any p.same then found else found ++ [p]

/-- The paths that patterns stand for, each at its first occurrence. -/
def FileStore.resolve (fs : FileStore) (patterns : List String) : List Path :=
  (patterns.flatMap fs.contribution).foldl addPath []

/-! ## 2. Running scripts -/

/-- What a run has done so far. -/
structure Progress where
  output : List String
  records : List (LogLevel × String)
  failed : Bool
  session : Session

namespace Progress

def start (s : Session) : Progress := ⟨[], [], false, s⟩

/-- The progress with a run of a script added, and the tally of that run. -/
def add (p : Progress) (r : Run) : Tally × Progress :=
  (r.tally,
    { p with
      output := p.output ++ r.reports
      failed := p.failed || decide (0 < r.tally.failed)
      session := r.session })

/-- The progress with the script in a file run, or the reason why it cannot be read. -/
def file (p : Progress) (quiet : Bool) (path : Path) : Except FileFault (Tally × Progress) := do
  let fs ← p.session.world.files.openFile path
  let s := { p.session with world := { p.session.world with files := fs } }
  return p.add (s.runOpenFile quiet)

/-- The progress with a record for the session log. -/
def note (p : Progress) (level : LogLevel) (message : String) : Progress :=
  { p with records := p.records ++ [(level, message)] }

/-- The progress after something went wrong outside all scripts. -/
def fail (p : Progress) (message : String) : Progress :=
  { p.note .error message with failed := true }

/-- The progress with the scripts in some files run, up to one that quits.  A file that cannot be
read is a failure, and the next one follows. -/
def files (quiet : Bool) : List Path → Progress → Progress
  | [], p => p
  | path :: rest, p =>
    match p.file quiet path with
    -- the other scripts run all the same
    | .error fault =>
      files quiet rest (p.fail s!"could not read script '{path.text}': {fault.message}")
    | .ok (tally, p) =>
      let p := (p.note .info s!"running script {path.text}").note .info
        s!"{path.text}: {tally.succeeded} ok, {tally.failed} failed"
      if tally.quit then p else files quiet rest p

end Progress

/-! ## 3. Runs -/

/-- How a run ended. -/
structure Outcome where
  output : String
  records : List (LogLevel × String)
  failed : Bool
  files : FileStore

/-- 0 after a run that succeeded, 1 after one that did not. -/
def Outcome.exitCode (o : Outcome) : Nat := if o.failed then 1 else 0

def runProgram (a : Arguments) (fs : FileStore) (configHome : Path) (input : Bytes) : Outcome :=
  let settings := a.settings fs configHome
  let quiet := !settings.echoSuccess
  let start := Progress.start (Session.new settings.options fs)
  let finish :=
    if a.script = [] then (start.add (start.session.runScript quiet input)).2
    else
      match fs.resolve a.script with
      | [] => start.fail "no script files matched the given pattern(s)"
      | scripts => Progress.files quiet scripts start
  { output := String.join finish.output ++ closingLine
    records := finish.records
    failed := finish.failed
    files := finish.session.world.files.closeFile }

end RasterScript
