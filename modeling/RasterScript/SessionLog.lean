import RasterScript.Files.Store
import RasterScript.Text.Utf8

/-!
# SessionLog — a file with one line per record

A session log holds what happened since it was opened: opening it empties the file.  Records above
its level are dropped.  A log whose file cannot be opened has no file, and logging to it does
nothing; a file that later cannot be written to is no fault either.
-/

namespace RasterScript

/-- How much a record matters, from the most to the least. -/
inductive LogLevel
  | error
  | warn
  | info
  | debug
  | trace
  deriving DecidableEq, Repr

def LogLevel.text : LogLevel → String
  | .error => "ERROR"
  | .warn => "WARN"
  | .info => "INFO"
  | .debug => "DEBUG"
  | .trace => "TRACE"

/-- How far down a level is, counted from 1. -/
def LogLevel.rank : LogLevel → Nat
  | .error => 1
  | .warn => 2
  | .info => 3
  | .debug => 4
  | .trace => 5

/-- What a log takes: nothing, or every record down to a level. -/
abbrev LogThreshold := Option LogLevel

def LogLevel.passes (level : LogLevel) (threshold : LogThreshold) : Bool :=
  match threshold with
  | none => false
  | some lowest => level.rank ≤ lowest.rank

/-- A session log; `path` is its file if it could be opened. -/
structure SessionLog where
  path : Option Path
  threshold : LogThreshold
  deriving DecidableEq, Repr

namespace SessionLog

/-- The file emptied or made anew, after making the directories on the way to it as far as that
succeeds; the flag tells whether there is a file now. -/
def openFile (fs : FileStore) (p : Path) : Bool × FileStore :=
  let fs := match p.parent? with
    | none => fs
    | some dir => (fs.makeDirectories dir).2
  match fs.write p [] with
  | .ok fs => (true, fs)
  | .error _ => (false, fs)

def start (fs : FileStore) (path : Option Path) (threshold : LogThreshold) :
    SessionLog × FileStore :=
  match path with
  | none => (⟨none, threshold⟩, fs)
  | some p =>
    match openFile fs p with
    | (true, fs) => (⟨some p, threshold⟩, fs)
    | (false, fs) => (⟨none, threshold⟩, fs)

def twoDigits (n : Nat) : String := if n < 10 then s!"0{n}" else toString n

/-- The time of day, from the seconds since some midnight. -/
def clock (seconds : Nat) : String :=
  twoDigits (seconds % 86400 / 3600) ++ ":" ++ twoDigits (seconds % 3600 / 60) ++ ":" ++
    twoDigits (seconds % 60)

def line (seconds : Nat) (level : LogLevel) (message : String) : String :=
  s!"[{clock seconds}] [{level.text}] {message}\n"

def append (log : SessionLog) (fs : FileStore) (text : String) : FileStore :=
  match log.path with
  | none => fs
  | some p =>
    match fs.read p with
    | .error _ => fs
    | .ok content =>
      match fs.write p (content ++ encodeUtf8 text) with
      | .ok fs => fs
      | .error _ => fs

def record (log : SessionLog) (fs : FileStore) (seconds : Nat) (level : LogLevel)
    (message : String) : FileStore :=
  if level.passes log.threshold then log.append fs (line seconds level message) else fs

end SessionLog

end RasterScript
