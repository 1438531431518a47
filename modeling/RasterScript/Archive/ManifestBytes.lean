import RasterScript.Archive.Manifest

/-!
# ManifestBytes — a manifest as bytes

Numbers stand lowest byte first, texts as an eight-byte length and UTF-8, flags as one byte 0 or 1,
the list of layers as an eight-byte count and its items.  Bytes after the last item are ignored.
-/

namespace RasterScript

namespace Manifest

/-! ## 1. Writing -/

def encodeText (s : String) : Bytes :=
  let bs := encodeUtf8 s
  littleEndian 8 bs.length ++ bs

def encodeFlag (b : Bool) : Bytes := [if b then 1 else 0]

def encodeRecord (r : LayerRecord) : Bytes :=
  encodeText r.name ++ encodeFlag r.visible ++ encodeText r.file

/-- The bytes of a manifest. -/
def encode (m : Manifest) : Bytes :=
  encodeText m.magic ++ littleEndian 4 m.width.toNat ++ littleEndian 4 m.height.toNat ++
    littleEndian 8 m.layers.length ++ m.layers.flatMap encodeRecord

/-! ## 2. Reading -/

/-- A reader takes what it needs from the front of some bytes. -/
abbrev Reader := StateT Bytes (Except ManifestFault)

/-- The next `n` bytes. -/
def readBytes (n : Nat) : Reader Bytes := fun bs =>
  match splitBytes? n bs with
  | some split => .ok split
  | none => .error .truncated

def readNumber (n : Nat) : Reader Nat := do
  return ofLittleEndian (← readBytes n)

def readText : Reader String := do
  let bs ← readBytes (← readNumber 8)
  match decodeUtf8? bs with
  | some s => return s
  | none => throw .invalidText

def readFlag : Reader Bool := do
  match ← readNumber 1 with
  | 0 => return false
  | 1 => return true
  -- no other byte is a flag
  | _ => throw .invalidFlag

def readRecord : Reader LayerRecord := do
  let name ← readText
  let visible ← readFlag
  let file ← readText
  return ⟨name, visible, file⟩

def readRecords : Nat → Reader (List LayerRecord)
  | 0 => return []
  | n + 1 => do
    let r ← readRecord
    let rest ← readRecords n
    return r :: rest

def read : Reader Manifest := do
  let magic ← readText
  let width ← readNumber 4
  let height ← readNumber 4
  let count ← readNumber 8
  let layers ← readRecords count
  return ⟨magic, .ofNat width, .ofNat height, layers⟩

/-- The manifest that some bytes begin with. -/
def decode (bs : Bytes) : Except ManifestFault Manifest :=
  -- bytes after the last layer are not looked at
  (read.run bs).map (·.1)

end Manifest

end RasterScript
