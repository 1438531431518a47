import RasterScript.Files.Store

/-!
# Disk — files on a disk that can fail

A `FileStore` does what names and directories allow.  The disk below it may still refuse: permission
to open or to make a file is missing, a file cannot be removed, or a file is opened and then not all
of it can be written.  A `Disk` says when that happens, and its operations are those of the store
with these faults in front of them.  A file that cannot be written whole is left with what could.

What is written goes out in pieces, the last of them when all of it has been made.  So a fault is
met either by what makes the content, which has words of its own for it, or by the file at the end.
-/

namespace RasterScript

/-- What a disk can be asked for. -/
inductive DiskRequest
  | openForReading
  | makeDirectory
  | openForWriting
  | remove
  deriving DecidableEq, Repr

/-- Where a file ends that is too long for a disk. -/
structure Shortage where
  room : Nat
  fault : DiskFault
  /-- Whether it is met while the content is still being made. -/
  early : Bool
  deriving DecidableEq, Repr

/-- The failure when a file ends early: that of what makes the content, or one of the file. -/
def Shortage.failure (s : Shortage) (ofMaker : DiskFault → Failure) : Failure :=
  if s.early then ofMaker s.fault else .file (.disk s.fault)

/-- When a disk fails, which may depend on all that it holds. -/
structure Disk where
  fault? : DiskRequest → FileStore → Path → Option DiskFault
  shortage? : FileStore → Path → Option Shortage

namespace Disk

/-- A disk that never fails. -/
def sound : Disk where
  fault? := fun _ _ _ => none
  shortage? := fun _ _ => none

/-- Goes on only if the disk does not refuse. -/
def allow (disk : Disk) (request : DiskRequest) (p : Path) : FileAction Unit := do
  match disk.fault? request (← get) p with
  | none => return
  | some fault => throw (.file (.disk fault))

/-- Writes as much of a file as there is room for, and complains if that is not all.  Opening the
file has emptied it. -/
def write (disk : Disk) (p : Path) (content : Bytes) (complaint : Shortage → Failure) :
    FileAction Unit := do
  disk.allow .openForWriting p
  match disk.shortage? (← get) p with
  | none => FileAction.change (·.write p content)
  | some s =>
    FileAction.change (·.write p (content.take s.room))
    if s.room < content.length then throw (complaint s)

end Disk

end RasterScript
