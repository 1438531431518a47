import RasterScript.Settings

/-!
# Arguments — the words of a command line

Options are long (`--script`) or short (`-s`); short flags can be run together, and the value of an
option stands after `=`, directly behind a short option, or in the next word.  `--script` takes all
words up to the next option and can be repeated; every other option is given at most once.

The words are read from left to right.  An option whose value stands in words of its own is
*pending* until the next option or the end; only then its value is looked at.  So a word that is no
option at all is noticed before a bad value in front of it, and a bad value before anything that
comes after the option behind it.
-/

namespace RasterScript

/-! ## 1. Options -/

inductive ValueOption
  | script
  | jpegQuality
  | config
  deriving DecidableEq, Repr

inductive Flag
  | quiet
  | verbose
  | noLog
  | help
  | version
  deriving DecidableEq, Repr

inductive Parameter
  | value (option : ValueOption)
  | flag (flag : Flag)
  deriving DecidableEq, Repr

def Parameter.ofLong? : String → Option Parameter
  | "script" => some (.value .script)
  | "jpeg-quality" => some (.value .jpegQuality)
  | "config" => some (.value .config)
  | "quiet" => some (.flag .quiet)
  | "verbose" => some (.flag .verbose)
  | "no-log" => some (.flag .noLog)
  | "help" => some (.flag .help)
  | "version" => some (.flag .version)
  | _ => none

def Parameter.ofShort? : Char → Option Parameter
  | 's' => some (.value .script)
  | 'q' => some (.flag .quiet)
  | 'v' => some (.flag .verbose)
  | 'h' => some (.flag .help)
  | 'V' => some (.flag .version)
  | _ => none

/-- What a command line chooses. -/
structure Arguments where
  script : List String
  jpegQuality : Option Nat
  quiet : Bool
  verbose : Bool
  noLog : Bool
  config : Option Path
  deriving DecidableEq, Repr

/-- Why the words of a command line choose nothing to run. -/
inductive UsageStop
  | help
  | version
  | unknownArgument
  | missingValue
  | badNumber
  | repeated
  | unexpectedValue
  deriving DecidableEq, Repr

def UsageStop.message : UsageStop → String
  | .help => "help is asked for"
  | .version => "the version is asked for"
  | .unknownArgument => "unexpected argument"
  | .missingValue => "an option lacks its value"
  | .badNumber => "the JPEG quality is not a number from 1 to 100"
  | .repeated => "an option is given twice"
  | .unexpectedValue => "an option that takes no value is given one"

namespace Arguments

def blank : Arguments := ⟨[], none, false, false, false, none⟩

/-- The quality that a word gives. -/
def quality? (word : String) : Option Nat :=
  ((integer? word).filter fun q => 1 ≤ q && q ≤ 100).map Int.toNat

def give (a : Arguments) (o : ValueOption) (values : List String) : Except UsageStop Arguments :=
  match o, values with
  | _, [] => .error .missingValue
  -- this option may be given again and again
  | .script, values => .ok { a with script := a.script ++ values }
  | .jpegQuality, word :: _ =>
    if a.jpegQuality.isSome then .error .repeated
    else match quality? word with
      | some q => .ok { a with jpegQuality := some q }
      | none => .error .badNumber
  | .config, word :: _ =>
    if a.config.isSome then .error .repeated
    else if word = "" then .error .missingValue
    else .ok { a with config := some ⟨word⟩ }

def raise (a : Arguments) : Flag → Except UsageStop Arguments
  | .quiet => if a.quiet then .error .repeated else .ok { a with quiet := true }
  | .verbose => if a.verbose then .error .repeated else .ok { a with verbose := true }
  | .noLog => if a.noLog then .error .repeated else .ok { a with noLog := true }
  | .help => .error .help
  | .version => .error .version

end Arguments

/-! ## 2. Reading -/

/-- The arguments read so far, and the option that may still get values. -/
structure ArgumentReading where
  arguments : Arguments
  pending : Option (ValueOption × List String)

namespace ArgumentReading

/-- Gives the pending option its values. -/
def settle (r : ArgumentReading) : Except UsageStop Arguments :=
  match r.pending with
  | none => .ok r.arguments
  | some (o, values) => r.arguments.give o values

def flag (r : ArgumentReading) (f : Flag) : Except UsageStop ArgumentReading := do
  return ⟨← (← r.settle).raise f, none⟩

def attached (r : ArgumentReading) (o : ValueOption) (value : String) :
    Except UsageStop ArgumentReading := do
  return ⟨← (← r.settle).give o [value], none⟩

/-- Takes an option whose value is in the words to come. -/
def expectValue (r : ArgumentReading) (o : ValueOption) : Except UsageStop ArgumentReading := do
  return ⟨← r.settle, some (o, [])⟩

/-- Takes a long option, with its name and with its value if one is attached. -/
def long (r : ArgumentReading) (name : String) (value : Option String) :
    Except UsageStop ArgumentReading :=
  match Parameter.ofLong? name, value with
  | none, _ => .error .unknownArgument
  | some (.flag _), some _ => .error .unexpectedValue
  | some (.flag f), none => r.flag f
  | some (.value o), some v => r.attached o v
  | some (.value o), none => r.expectValue o

def short (r : ArgumentReading) : List Char → Except UsageStop ArgumentReading
  | [] => .ok r
  | c :: rest =>
    match Parameter.ofShort? c with
    | none => .error .unknownArgument
    -- a flag, and more options in the same word
    | some (.flag f) => do (← r.flag f).short rest
    | some (.value o) =>
      match rest with
      | [] => r.expectValue o
      | '=' :: value => r.attached o (String.ofList value)
      | value => r.attached o (String.ofList value)

def plain (r : ArgumentReading) (word : String) : Except UsageStop ArgumentReading :=
  match r.pending with
  | some (o, values) =>
    if o = .script ∨ values = [] then .ok { r with pending := some (o, values ++ [word]) }
    else .error .unknownArgument
  | none => .error .unknownArgument

def word (r : ArgumentReading) (w : String) : Except UsageStop ArgumentReading :=
  match w.toList with
  | '-' :: '-' :: body =>
    match splitAssignment? body with
    | some (name, value) => r.long (String.ofList name) (some (String.ofList value))
    | none => r.long (String.ofList body) none
  -- a single dash alone is a plain word
  | '-' :: c :: rest => r.short (c :: rest)
  | _ => r.plain w

/-- Takes the remaining words.  After `--` no word is an option, and no other words are expected. -/
def words (r : ArgumentReading) : List String → Except UsageStop Arguments
  | [] => r.settle
  | w :: rest =>
    -- nothing can follow, since no word may stand alone
    if w = "--" then
      if rest = [] then r.settle else .error .unknownArgument
    else do (← r.word w).words rest

end ArgumentReading

def Arguments.ofWords (words : List String) : Except UsageStop Arguments :=
  ArgumentReading.words ⟨.blank, none⟩ words

/-! ## 3. Use -/

namespace Arguments

/-- The settings `s` with what the command line overrides. -/
def override (a : Arguments) (s : Settings) : Settings where
  jpegQuality := a.jpegQuality.getD s.jpegQuality
  maxDimension := s.maxDimension
  sessionLog := s.sessionLog && !a.noLog
  echoSuccess := s.echoSuccess && !a.quiet

/-- The settings that hold for a run: those of the file that is named, or of the standard one, with
what the command line overrides. -/
def settings (a : Arguments) (fs : FileStore) (configHome : Path) : Settings :=
  a.override (Settings.loadFrom fs (a.config.getD (Settings.defaultPath configHome)))

end Arguments

end RasterScript
