import RasterScript.Text.Numeral
import RasterScript.Text.Split
import RasterScript.Text.Utf8
import RasterScript.Workspace

/-!
# Settings — what a settings file chooses

A settings file has one assignment `key=value` a line; blanks around the key and the value mean
nothing.  Lines that are no assignment, unknown keys and numbers out of range are passed over, and
a later assignment to a key wins over an earlier one: reading a file is applying its assignments in
order to the standard settings.

`Settings.text` writes all four settings out.
-/

namespace RasterScript

/-- The choices that hold for one run of the program. -/
structure Settings where
  jpegQuality : Nat
  maxDimension : Nat
  sessionLog : Bool
  echoSuccess : Bool
  deriving DecidableEq, Repr

/-- One line of a settings file that means something. -/
inductive Assignment
  | jpegQuality (quality : Nat)
  | maxDimension (side : Nat)
  | sessionLog (on : Bool)
  | echoSuccess (on : Bool)
  deriving DecidableEq, Repr

/-! ## 1. Assignments -/

/-- The text before the first `=` and the text after it, if there is one. -/
def splitAssignment? (line : List Char) : Option (List Char × List Char) :=
  match line.dropWhile (· ≠ '=') with
  | [] => none
  | _ :: value => some (line.takeWhile (· ≠ '='), value)

namespace Assignment

/-- A quality from 1 to 100. -/
def quality? (value : String) : Option Nat :=
  (unsigned? 256 value).filter fun q => 1 ≤ q && q ≤ 100

/-- A side of at least 1. -/
def side? (value : String) : Option Nat :=
  (size? value).filter fun d => 0 < d

/-- The assignment of a value to a key.  A switch is on for `true` and off for anything else. -/
def ofKey? (key value : String) : Option Assignment :=
  match key with
  | "jpeg_quality" => (quality? value).map jpegQuality
  | "max_dimension" => (side? value).map maxDimension
  | "session_log" => some (sessionLog (value = "true"))
  | "echo_success" => some (echoSuccess (value = "true"))
  | _ => none

/-- What a line of a settings file assigns. -/
def ofLine? (line : List Char) : Option Assignment := do
  let (key, value) ← splitAssignment? line
  ofKey? (String.ofList (trim key)) (String.ofList (trim value))

end Assignment

namespace Settings

/-! ## 2. Reading -/

def standard : Settings where
  jpegQuality := defaultJpegQuality
  maxDimension := defaultMaxDimension
  sessionLog := true
  echoSuccess := true

def assign (s : Settings) : Assignment → Settings
  | .jpegQuality q => { s with jpegQuality := q }
  | .maxDimension d => { s with maxDimension := d }
  | .sessionLog on => { s with sessionLog := on }
  | .echoSuccess on => { s with echoSuccess := on }

/-- The assignments of a settings text, in order. -/
def assignments (text : String) : List Assignment :=
  (pieces '\n' text.toList).filterMap Assignment.ofLine?

def parse (text : String) : Settings :=
  (assignments text).foldl assign standard

/-- The settings in a file, or the standard ones if it cannot be read as text. -/
def loadFrom (fs : FileStore) (p : Path) : Settings :=
  match fs.read p with
  | .error _ => standard
  | .ok content =>
    match decodeUtf8? content with
    | none => standard
    | some text => parse text

/-! ## 3. Writing -/

/-- A switch as a settings file writes it. -/
def switchText (on : Bool) : String := if on then "true" else "false"

def text (s : Settings) : String :=
  s!"jpeg_quality={s.jpegQuality}\n" ++ s!"max_dimension={s.maxDimension}\n" ++
    s!"session_log={switchText s.sessionLog}\n" ++ s!"echo_success={switchText s.echoSuccess}\n"

/-- Writes the settings file of `s`, after making the directories on the way to it. -/
def saveTo (s : Settings) (p : Path) : FileAction Unit := do
  match p.parent? with
  | none => pure ()
  | some dir =>
    if dir.text ≠ "" then
      let (result, fs) := (← get).makeDirectories dir
      set fs
      match result with
      | .ok () => pure ()
      | .error fault => throw (.file fault)
  FileAction.change (·.write p (encodeUtf8 s.text))

/-! ## 4. Use -/

def fileName : String := "pixelgraph_settings.cfg"

/-- Where the settings file is when no other is named; `configHome` holds the settings of all
programs. -/
def defaultPath (configHome : Path) : Path := (configHome.join "pixelgraph").join fileName

def options (s : Settings) : Options := ⟨s.jpegQuality, s.maxDimension⟩

end Settings

end RasterScript
