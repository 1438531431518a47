import RasterScript.Binary.Number
import RasterScript.Failure
import RasterScript.Files.Path
import RasterScript.Table

/-!
# FileStore — directories and files as a value

A file store is a finite map from locations (the names on the way down from the root) to
directories and files, together with the directory that relative paths begin at.  The root is
always there.

Paths are followed step by step, and every step but the last has to lead through a directory that
is there.  Questions are functions on the store; a change gives the new store or the reason why
there is none.  One file can be open: it is read piece by piece, each piece as the file is by then.

## What is left out

* Links.  An entry is a directory or a file of its own, so a location is the only way to what stands
  there, and a path that leads to nothing leads to nothing when it is written.  Whatever is proved
  about where an action writes is proved for file systems without symbolic and hard links.
* Devices and pipes.  A file holds what was written to it last.
* Permissions, the room on a disk, and faults of the hardware.  A store does what names and
  directories allow; the module `Files.Disk` puts faults of the disk in front of it where it matters
  what is left behind.
* Other programs.  Between two actions nothing changes.
-/

namespace RasterScript

/-- The names on the way from the root to an entry. -/
abbrev Location := List String

inductive Entry
  | directory
  | file (content : Bytes)
  deriving DecidableEq, Repr

/-- A file that is being read piece by piece.  Removing it takes away its name only: what it held
can be read on. -/
inductive OpenFile
  | named (loc : Location)
  | removed (content : Bytes)
  deriving DecidableEq, Repr

/-- An open file after the file at `loc`, which held `content`, was removed. -/
def OpenFile.afterRemoval (loc : Location) (content : Bytes) : OpenFile → OpenFile
  | .named here => if here = loc then .removed content else .named here
  | .removed held => .removed held

/-- Directories and files, and the file that is open if there is one. -/
structure FileStore where
  entries : Table Location Entry
  workingDirectory : Location
  opened : Option OpenFile

namespace FileStore

/-! ## 1. Following paths -/

/-- The longest name of an entry, in bytes. -/
def maxNameLength : Nat := 255

/-- Paths are shorter than this, in bytes. -/
def pathLengthLimit : Nat := 4096

/-- What stands at a location; the root is a directory. -/
def entry? (fs : FileStore) (loc : Location) : Option Entry :=
  if loc = [] then some .directory else fs.entries.find? loc

/-- The location reached from `loc` by a list of segments.  The last one may lead to nothing. -/
def follow (fs : FileStore) : Location → List String → Except FileFault Location
  | loc, [] => .ok loc
  | loc, segment :: rest =>
    match fs.entry? loc with
    | none => .error .notFound
    | some (.file _) => .error .notADirectory
    | some .directory =>
      if segment = "." then follow fs loc rest
      -- above the root there is the root again
      else if segment = ".." then follow fs loc.dropLast rest
      else if maxNameLength < segment.utf8ByteSize then .error .nameTooLong
      else follow fs (loc ++ [segment]) rest

/-- The location that a path means. -/
def locate (fs : FileStore) (p : Path) : Except FileFault Location :=
  if p.text = "" then .error .notFound
  else if p.text.toList.contains '\x00' then .error .invalidName
  else if pathLengthLimit ≤ p.text.utf8ByteSize then .error .nameTooLong
  else fs.follow (if p.isAbsolute then [] else fs.workingDirectory) p.segments

/-- What a path leads to: its location and what stands there, if anything does.  A path that ends
in a separator does not lead to a file. -/
def lookup (fs : FileStore) (p : Path) : Except FileFault (Location × Option Entry) := do
  let loc ← fs.locate p
  match fs.entry? loc with
  | some (.file content) =>
    -- a separator at the end asks for a directory
    if p.endsInSlash then .error .notADirectory else .ok (loc, some (.file content))
  | found => .ok (loc, found)

/-! ## 2. Questions -/

def find? (fs : FileStore) (p : Path) : Option Entry :=
  match fs.lookup p with
  | .ok (_, found) => found
  | .error _ => none

def pathExists (fs : FileStore) (p : Path) : Bool := (fs.find? p).isSome

def isDirectory (fs : FileStore) (p : Path) : Bool := fs.find? p == some .directory

def isFile (fs : FileStore) (p : Path) : Bool :=
  match fs.find? p with
  | some (.file _) => true
  | _ => false

def read (fs : FileStore) (p : Path) : Except FileFault Bytes := do
  match ← fs.lookup p with
  | (_, none) => .error .notFound
  | (_, some .directory) => .error .isADirectory
  | (_, some (.file content)) => .ok content

/-! ## 3. Changes -/

def put (fs : FileStore) (loc : Location) (e : Entry) : FileStore :=
  { fs with entries := fs.entries.insert loc e }

def write (fs : FileStore) (p : Path) (content : Bytes) : Except FileFault FileStore := do
  match ← fs.lookup p with
  | (_, some .directory) => .error .isADirectory
  | (loc, _) =>
    if p.endsInSlash then .error .isADirectory else .ok (fs.put loc (.file content))

def makeDirectory (fs : FileStore) (p : Path) : Except FileFault FileStore := do
  let loc ← fs.locate p
  match fs.entry? loc with
  | some _ => .error .alreadyExists
  | none => .ok (fs.put loc .directory)

def removeFile (fs : FileStore) (p : Path) : Except FileFault FileStore := do
  match ← fs.lookup p with
  | (_, none) => .error .notFound
  | (_, some .directory) => .error .isADirectory
  | (loc, some (.file content)) =>
    .ok { fs with
      entries := fs.entries.erase loc
      -- who has the file open reads on
      opened := fs.opened.map (OpenFile.afterRemoval loc content) }

/-- Makes the first of these paths a directory, each being the parent of the one before it, after
making the others where they are missing.  What was made before a fault is kept. -/
def makeNested (fs : FileStore) : List Path → Except FileFault Unit × FileStore
  | [] => (.error .notFound, fs)
  | p :: above =>
    let settle (fs : FileStore) (fault : FileFault) : Except FileFault Unit × FileStore :=
      (if fs.isDirectory p then .ok () else .error fault, fs)
    -- the empty path is the directory that relative paths begin at
    if p.text = "" then (.ok (), fs) else
    match fs.makeDirectory p with
    | .ok fs' => (.ok (), fs')
    -- its parent is missing, so that comes first
    | .error .notFound =>
      match fs.makeNested above with
      | (.error fault, fs') => (.error fault, fs')
      | (.ok (), fs') =>
        match fs'.makeDirectory p with
        | .ok fs'' => (.ok (), fs'')
        -- somebody else may have made it in between
        | .error fault => settle fs' fault
    | .error fault => settle fs fault

/-- Makes the directory `p` and those on the way to it that are missing. -/
def makeDirectories (fs : FileStore) (p : Path) : Except FileFault Unit × FileStore :=
  fs.makeNested p.selfAndParents

/-! ## 4. Reading piece by piece -/

def openFile (fs : FileStore) (p : Path) : Except FileFault FileStore := do
  match ← fs.lookup p with
  | (_, none) => .error .notFound
  | (_, some .directory) => .error .isADirectory
  | (loc, some (.file _)) => .ok { fs with opened := some (.named loc) }

def openContent (fs : FileStore) : Bytes :=
  match fs.opened with
  | some (.named loc) =>
    match fs.entry? loc with
    | some (.file content) => content
    | _ => []
  | some (.removed content) => content
  | none => []

/-- At most `count` bytes of the open file as it is now, from `offset` on. -/
def readOpen (fs : FileStore) (offset count : Nat) : Bytes :=
  (fs.openContent.drop offset).take count

def closeFile (fs : FileStore) : FileStore := { fs with opened := none }

end FileStore

/-! ## 5. Actions on files -/

/-- A computation that reads and changes the file store and can fail; what was changed before a
failure stays changed. -/
abbrev FileAction := ExceptT Failure (StateM FileStore)

namespace FileAction

/-- Goes on only if a request makes sense. -/
def accept {α : Type} (r : Except Refusal α) : FileAction α :=
  match r with
  | .ok a => pure a
  | .error c => throw (.refused c)

def ask {α : Type} (f : FileStore → Except FileFault α) : FileAction α := do
  match f (← get) with
  | .ok a => pure a
  | .error fault => throw (.file fault)

def change (f : FileStore → Except FileFault FileStore) : FileAction Unit := do
  match f (← get) with
  | .ok fs => set fs
  | .error fault => throw (.file fault)

end FileAction

end RasterScript
