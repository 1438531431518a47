import RasterScript.Text.Split

/-!
# Path — file names as scripts write them

A path is kept as the text it was given, because messages show that text; `components` is what it
means.  Repeated separators and `.` in the middle mean nothing, so paths are compared by their
components (`Path.same`).
-/

namespace RasterScript

/-- A path as it was written. -/
structure Path where
  text : String
  deriving DecidableEq, Repr, Inhabited

/-- One step of a path. -/
inductive Component
  | root
  | here
  | up
  | name (name : String)
  deriving DecidableEq, Repr

namespace Path

def isAbsolute (p : Path) : Bool := p.text.toList.head? == some '/'

def endsInSlash (p : Path) : Bool := p.text.toList.getLast? == some '/'

/-- What stands between the separators, without the empty stretches. -/
def segments (p : Path) : List String :=
  ((pieces '/' p.text.toList).filter (· ≠ [])).map String.ofList

/-- The meaning of a segment; `.` means nothing except at the start of a relative path. -/
def component? (atStart : Bool) (segment : String) : Option Component :=
  if segment = "." then (if atStart then some .here else none)
  else if segment = ".." then some .up
  else some (.name segment)

def components (p : Path) : List Component :=
  if p.isAbsolute then .root :: p.segments.filterMap (component? false)
  else match p.segments with
    | [] => []
    | s :: rest => (component? true s).toList ++ rest.filterMap (component? false)

/-- Whether two paths are written-out forms of one. -/
def same (p q : Path) : Bool := p.components == q.components

/-- Drops, from pieces in reverse order, those that are no component of the path. -/
def dropIdle (absolute : Bool) : List (List Char) → List (List Char)
  | [] => []
  | [p] => if p = [] ∨ (p = ['.'] ∧ absolute) then [] else [p]
  | p :: q :: rest => if p = [] ∨ p = ['.'] then dropIdle absolute (q :: rest) else p :: q :: rest

/-- The pieces of the path behind the root, last one first, without idle ones at the end. -/
def reversedPieces (p : Path) : List (List Char) :=
  let body := if p.isAbsolute then p.text.toList.drop 1 else p.text.toList
  dropIdle p.isAbsolute (pieces '/' body).reverse

/-- The path without its last component: nothing for the root and the empty path. -/
def parent? (p : Path) : Option Path :=
  match p.reversedPieces with
  | [] => none
  | _ :: rest =>
    let body := joined '/' (dropIdle p.isAbsolute rest).reverse
    some ⟨String.ofList (if p.isAbsolute then '/' :: body else body)⟩

/-- The path, its parent, the parent of that, and so on, `n` of them at most. -/
def upTo : Nat → Path → List Path
  | 0, _ => []
  | n + 1, p => p :: match p.parent? with
    | none => []
    | some q => upTo n q

/-- The path, its parent, the parent of that, and so on.  A parent is shorter than its path, so
there are no more of them than characters. -/
def selfAndParents (p : Path) : List Path := upTo (p.text.length + 1) p

/-- The last component if it is a name. -/
def fileName? (p : Path) : Option String :=
  match p.reversedPieces with
  | [] => none
  -- dots are steps, not names
  | last :: _ => if last = ['.'] ∨ last = ['.', '.'] then none else some (String.ofList last)

/-- The path of `name` seen from the directory `p`. -/
def join (p : Path) (name : String) : Path :=
  -- a name from the root replaces the directory
  if name.toList.head? == some '/' then ⟨name⟩
  else if p.text = "" ∨ p.endsInSlash then ⟨p.text ++ name⟩
  else ⟨p.text ++ "/" ++ name⟩

end Path

/-- Whether a text is the name of a file directly inside some directory. -/
def isPlainFileName (s : String) : Bool :=
  (Path.mk s).fileName? == some s

end RasterScript
