import RasterScript.Files.Store

/-!
# Glob — paths by pattern

A pattern is a path whose segments may stand for many names: `?` is any character, `*` any run of
characters, `[abc]`, `[a-z]` and `[!a-z]` one character of a class or not of it, and `**` as a whole
segment any way down through directories.  Names with a leading dot are names like all others.

`Pattern.ofText?` refuses malformed patterns; `FileStore.expand` lists what a pattern matches, the
paths below one directory in the order of their bytes.  Programs rely on none of this: for them a
`PatternSearch` is any way to list paths for a pattern.
-/

namespace RasterScript

namespace Glob

/-! ## 1. Patterns -/

structure CharSpan where
  first : Char
  last : Char
  deriving DecidableEq, Repr

inductive Token
  | exactly (c : Char)
  | anyChar
  | anyRun
  | oneOf (spans : List CharSpan)
  | noneOf (spans : List CharSpan)
  deriving DecidableEq, Repr

inductive Segment
  | descend
  | name (tokens : List Token)
  deriving DecidableEq, Repr

/-- The content of a class: `a-b` is a span, everything else stands for itself. -/
def spans : List Char → List CharSpan
  | a :: '-' :: b :: rest => ⟨a, b⟩ :: spans rest
  | c :: rest => ⟨c, c⟩ :: spans rest
  | [] => []

/-- The content of a class up to the closing bracket, and what follows the bracket.  A class is not
empty, so a bracket in first place belongs to the content. -/
def splitClass? : List Char → Option (List Char × List Char)
  | [] => none
  | c :: rest =>
    match rest.dropWhile (· ≠ ']') with
    | [] => none
    | _ :: after => some (c :: rest.takeWhile (· ≠ ']'), after)

theorem length_of_splitClass? {s content rest : List Char}
    (h : splitClass? s = some (content, rest)) : rest.length < s.length := by
  cases s with
  | nil => simp [splitClass?] at h
  | cons c s =>
    simp only [splitClass?] at h
    split at h
    · cases h
    · rename_i d after hd
      have hl : (s.dropWhile (· ≠ ']')).length ≤ s.length :=
        (List.dropWhile_sublist _).length_le
      simp only [Option.some.injEq, Prod.mk.injEq] at h
      rw [hd, List.length_cons] at hl
      rw [← h.2, List.length_cons]
      omega

/-- The parts of a segment that is not `**`; two stars in a row and a class without end are
malformed. -/
def tokens? (s : List Char) : Option (List Token) :=
  match s with
  | [] => some []
  | '?' :: cs => (tokens? cs).map (.anyChar :: ·)
  | '*' :: '*' :: _ => none
  | '*' :: cs => (tokens? cs).map (.anyRun :: ·)
  | '[' :: '!' :: cs =>
    match h : splitClass? cs with
    | none => none
    | some (content, rest) =>
      have := length_of_splitClass? h
      (tokens? rest).map (.noneOf (spans content) :: ·)
  | '[' :: cs =>
    match h : splitClass? cs with
    | none => none
    | some (content, rest) =>
      have := length_of_splitClass? h
      (tokens? rest).map (.oneOf (spans content) :: ·)
  | c :: cs => (tokens? cs).map (.exactly c :: ·)
termination_by s.length

def segment? (s : List Char) : Option Segment :=
  if s = ['*', '*'] then some .descend else (tokens? s).map .name

/-- A path pattern. -/
structure Pattern where
  absolute : Bool
  segments : List Segment
  directoriesOnly : Bool
  deriving DecidableEq, Repr

/-- The pattern that a text is, unless it is malformed. -/
def Pattern.ofText? (text : String) : Option Pattern := do
  let p : Path := ⟨text⟩
  let ps := pieces '/' (if p.isAbsolute then text.toList.drop 1 else text.toList)
  -- a separator at the end does not begin another segment
  let ps := if ps.getLast? = some [] ∧ 1 < ps.length then ps.dropLast else ps
  return ⟨p.isAbsolute, ← ps.mapM segment?, p.endsInSlash⟩

/-! ## 2. Matching names -/

def inSpans (spans : List CharSpan) (c : Char) : Bool :=
  spans.any fun s => s.first ≤ c && c ≤ s.last

/-- Whether a part of a segment can be the character `c`. -/
def Token.accepts : Token → Char → Bool
  | .exactly d, c => c == d
  | .anyChar, _ => true
  | .anyRun, _ => true
  | .oneOf spans, c => inSpans spans c
  | .noneOf spans, c => !inSpans spans c

/-- A text and what is left of it after each of its characters. -/
def suffixes : List Char → List (List Char)
  | [] => [[]]
  | c :: cs => (c :: cs) :: suffixes cs

/-- What can be left of a name after one more part, the longest rest first. -/
def Token.advance (t : Token) (rests : List (List Char)) : List (List Char) :=
  match t, rests with
  | .anyRun, [] => []
  -- every other rest is a suffix of the longest one
  | .anyRun, longest :: _ => suffixes longest
  | t, rests =>
    rests.filterMap fun
      | [] => none
      | c :: cs => if t.accepts c then some cs else none

/-- Whether a name is of the form that the parts give: nothing can be left of it after them. -/
def nameMatches (ts : List Token) (name : List Char) : Bool :=
  (ts.foldl (fun rests t => t.advance rests) [name]).contains []

/-- The only name that the parts match, if they are plain characters. -/
def literal? : List Token → Option (List Char)
  | [] => some []
  | .exactly c :: ts => (literal? ts).map (c :: ·)
  | _ :: _ => none

/-- The entries `..` and `.` of a directory, as far as the parts match them; only parts that begin
with a dot do. -/
def specialNames (ts : List Token) : List String :=
  if ts.head? = some (.exactly '.') then
    ["..", "."].filter fun name => nameMatches ts name.toList
  else []

end Glob

/-! ## 3. Matching paths -/

/-- The path of `name` in the directory `p`; the directory `.` is left out. -/
def Path.enter (p : Path) (name : String) : Path :=
  if p.same ⟨"."⟩ then ⟨name⟩ else p.join name

namespace FileStore

/-- Everything below the directory `p`, each entry before what is below it. -/
def below (fs : FileStore) (p : Path) : List (Location × Path) :=
  match fs.lookup p with
  | .ok (loc, some .directory) =>
    fs.entries.keys.filterMap fun key =>
      if loc.isPrefixOf key && loc ≠ key then
        let names := key.drop loc.length
        some (names, names.foldl Path.enter p)
      else none
  | _ => []

/-- The entries below the directory `p`, `deep` or directly in it, whose names are matched. -/
def entriesMatching (fs : FileStore) (p : Path) (deep : Bool) (ts : List Glob.Token) :
    List Path :=
  (fs.below p).filterMap fun (names, path) =>
    if (deep || names.length = 1) && Glob.nameMatches ts (names.getLastD "").toList then some path
    else none

/-- The paths that lead from `p` along the segments of a pattern. -/
def expandFrom (fs : FileStore) (directoriesOnly : Bool) : List Glob.Segment → Path → List Path
  | [], p => if directoriesOnly && !fs.isDirectory p then [] else [p]
  | [.descend], p => ((fs.below p).map (·.2)).filter fs.isDirectory
  -- twice any way down is any way down
  | .descend :: .descend :: rest, p => fs.expandFrom directoriesOnly (.descend :: rest) p
  | .descend :: .name ts :: rest, p =>
    (fs.entriesMatching p true ts).flatMap (fs.expandFrom directoriesOnly rest)
  | .name ts :: rest, p =>
    match Glob.literal? ts with
    -- a plain name is looked up, not searched for
    | some name =>
      let next := p.enter (String.ofList name)
      let found := if name = ['.'] ∨ name = ['.', '.'] then fs.isDirectory p else fs.pathExists next
      if found then fs.expandFrom directoriesOnly rest next else []
    | none =>
      let special := if fs.isDirectory p then (Glob.specialNames ts).map p.join else []
      (special ++ fs.entriesMatching p false ts).flatMap (fs.expandFrom directoriesOnly rest)

/-- The paths that a pattern matches, in order; a malformed pattern matches nothing. -/
def expand (fs : FileStore) (text : String) : List Path :=
  match Glob.Pattern.ofText? text with
  | none => []
  | some pattern =>
    fs.expandFrom pattern.directoriesOnly pattern.segments
      ⟨if pattern.absolute then "/" else "."⟩

end FileStore

/-! ## 4. Any other way to match -/

/-- A library that lists the paths that a pattern stands for. -/
class PatternSearch where
  expand : FileStore → String → List Path

/-- It stands back behind any other search that a statement is about. -/
instance (priority := low) globSearch : PatternSearch := ⟨FileStore.expand⟩

end RasterScript
