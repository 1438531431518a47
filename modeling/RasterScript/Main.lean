import RasterScript.Program
import RasterScript.StandardFormats

/-!
# Main — the command line program

The program runs on a picture of the file system: what its arguments and the words of its scripts
lead to is read beforehand, and what changed is written back afterwards.  Nothing is decided here.
-/

open RasterScript

namespace RasterScript.Main

/-! ## 1. Reading the file system -/

/-- What stands at a path. -/
def look (p : Path) : IO (Option Entry) := do
  try
    let _ ← (← IO.FS.realPath p.text).readDir
    return some .directory
  catch _ =>
    try return some (.file (← IO.FS.readBinFile p.text).toList)
    catch _ => return none

/-- The store with what stands at one path, whose directory it knows. -/
def observeOne (fs : FileStore) (p : Path) : IO FileStore := do
  match fs.locate p, ← look p with
  | .ok loc, some e => return if loc = [] then fs else fs.put loc e
  | _, _ => return fs

/-- The store with what a path leads to and the directories on the way. -/
def observe (fs : FileStore) (p : Path) : IO FileStore :=
  p.selfAndParents.reverse.foldlM observeOne fs

/-- The store with what is in the directory `p`, down to a depth. -/
def observeInside (fs : FileStore) (p : Path) : Nat → IO FileStore
  | 0 => return fs
  | depth + 1 => do
    if fs.isDirectory p then
      let children ← try (← IO.FS.realPath p.text).readDir catch _ => pure #[]
      children.foldlM (fun fs child => do
        let inside := p.join child.fileName
        observeInside (← observeOne fs inside) inside depth) fs
    else return fs

/-- Whether a segment of a pattern can stand for several names. -/
def isWild (segment : String) : Bool := segment.toList.any fun c => c = '*' ∨ c = '?' ∨ c = '['

/-- The store with everything that a script pattern can lead to: all that lies below the directory
that its first segments name, as far down as the other segments reach. -/
def observePattern (fs : FileStore) (pattern : String) : IO FileStore := do
  let p : Path := ⟨pattern⟩
  let named := p.segments.takeWhile fun s => !isWild s
  let wild := p.segments.drop named.length
  let base := named.foldl Path.join ⟨if p.isAbsolute then "/" else "."⟩
  let depth := if wild.contains "**" then FileStore.pathLengthLimit else wild.length
  observeInside (← observe (← observe fs p) base) base depth

/-- The store with everything that a word of a script can lead to: what is there, and what is in it
if it is a directory. -/
def observeWord (fs : FileStore) (word : String) : IO FileStore := do
  observeInside (← observe fs ⟨word⟩) ⟨word⟩ 1

/-- The store with everything that the words of a script can lead to. -/
def observeScript (fs : FileStore) (script : Bytes) : IO FileStore :=
  ((physicalLines script).filterMap decodeUtf8?).foldlM
    (fun fs line => (wordsOf line).foldlM observeWord fs) fs

/-- The store that knows the working directory and nothing in it. -/
def emptyStore : IO FileStore := do
  let here : Path := ⟨(← IO.currentDir).toString⟩
  let loc := here.segments
  let fs : FileStore := ⟨∅, loc, none⟩
  return (List.range loc.length).foldl (fun fs n => fs.put (loc.take (n + 1)) .directory) fs

/-! ## 2. Writing changes back -/

/-- A location as the operating system names it. -/
def locationText (loc : Location) : String := "/" ++ "/".intercalate loc

/-- Makes the file system differ as `after` differs from `before`. -/
def writeBack (before after : FileStore) : IO Unit := do
  for (loc, e) in after.entries.entries do
    if before.entries.find? loc ≠ some e then
      match e with
      | .directory => IO.FS.createDir (locationText loc)
      | .file content => IO.FS.writeBinFile (locationText loc) ⟨content.toArray⟩
  for (loc, _) in before.entries.entries do
    unless after.entries.contains loc do IO.FS.removeFile (locationText loc)

/-! ## 3. The session log -/

def logPath : IO Path := do
  let data ← match ← IO.getEnv "XDG_DATA_HOME", ← IO.getEnv "HOME" with
    | some data, _ => pure (Path.mk data)
    | none, some home => pure (((Path.mk home).join ".local").join "share")
    | none, none => pure ⟨"."⟩
  return (data.join "PixelGraph").join "pixelgraph.log"

/-- The seconds since 1970, read off a file just written. -/
def secondsOf (p : Path) : IO Nat := do
  return (← (← IO.FS.realPath p.text).metadata).modified.sec.toNat

/-- A log that has been opened, and when the clock of the machine began, in seconds since 1970. -/
structure RunningLog where
  log : SessionLog
  begin : Nat

def secondsRunning : IO Nat := do return (← IO.monoMsNow) / 1000

/-- Opens the log, which empties it, and writes its first lines. -/
def openLog (level : LogLevel) : IO RunningLog := do
  let p ← logPath
  let fs ← observe (← emptyStore) p
  let (log, opened) := SessionLog.start fs (some p) (some level)
  if log.path.isNone then return ⟨log, 0⟩
  writeBack fs opened
  let now ← secondsOf p
  let opening := s!"=== PixelGraph session started (unix {now}) ===\nLog file: {p.text}\n\n"
  writeBack opened (log.append opened opening)
  return ⟨log, now - (← secondsRunning)⟩

/-- Writes the records of a run.  What went wrong outside all scripts is told on standard error
only. -/
def RunningLog.write (r : RunningLog) (records : List (LogLevel × String)) : IO Unit := do
  match r.log.path with
  | none => return
  | some p =>
    let fs ← observe (← emptyStore) p
    let now := r.begin + (← secondsRunning)
    let written := (records.filter (·.1 ≠ .error)).foldl (fun fs (level, message) =>
      r.log.record fs now level message) fs
    writeBack fs written

/-! ## 4. Running -/

/-- What `--help` shows. -/
def helpText : String :=
  "Script-driven pixel graph and layered image processor\n\n" ++
  "Usage: PixelGraph [OPTIONS]\n\n" ++
  "Options:\n" ++
  "  -s, --script <PATTERN>...   Script file(s) to run in order. Glob patterns accepted\n" ++
  "      --jpeg-quality <1-100>  JPEG quality. Overrides the settings file\n" ++
  "  -q, --quiet                 Do not print a line for each command that succeeds\n" ++
  "  -v, --verbose               Show log records on standard error\n" ++
  "      --no-log                Do not write the session log file\n" ++
  "      --config <FILE>         Settings file to use instead of the standard one\n" ++
  "  -h, --help                  Print help\n" ++
  "  -V, --version               Print version\n"

/-- Where the settings of all programs are. -/
def configHome : IO Path := do
  match ← IO.getEnv "XDG_CONFIG_HOME" with
  | some home => return ⟨home⟩
  | none => return (Path.mk ((← IO.getEnv "HOME").getD "~")).join ".config"

/-- Everything up to the end of the standard input. -/
def readInput : IO Bytes := do return (← (← IO.getStdin).readBinToEnd).toList

/-- Runs the program with some arguments. -/
def run (a : Arguments) : IO UInt32 := do
  let home ← configHome
  let fs ← observe (← emptyStore) (a.config.getD (Settings.defaultPath home))
  -- the log is emptied before any script is looked for
  let log ← if (a.settings fs home).sessionLog then
      try some <$> openLog (if a.verbose then .debug else .info)
      catch e =>
        IO.eprintln s!"[logger] {e}"
        pure none
    else pure none
  let fs ← a.script.foldlM observePattern fs
  let input ← if a.script = [] then readInput else pure []
  let contents := (fs.resolve a.script).filterMap fun p => (fs.read p).toOption
  let fs ← (input :: contents).foldlM observeScript fs
  let o := runProgram a fs home input
  writeBack fs o.files
  IO.print o.output
  for (level, message) in o.records do
    if a.verbose ∨ level = .error then IO.eprintln s!"{level.text.toLower}: {message}"
  try log.forM (·.write o.records)
  catch e => IO.eprintln s!"[logger] {e}"
  return .ofNat o.exitCode

end RasterScript.Main

/-- Runs scripts named on the command line, or the standard input. -/
def main (words : List String) : IO UInt32 := do
  match Arguments.ofWords words with
  | .ok a => RasterScript.Main.run a
  | .error .help =>
    IO.print RasterScript.Main.helpText
    return 0
  | .error .version =>
    IO.println "PixelGraph 0.3.2"
    return 0
  | .error stop =>
    IO.eprintln s!"error: {stop.message}"
    return 2
