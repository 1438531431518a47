import RasterScript.Binary.Checksum
import RasterScript.Raster.PrefixCode

/-!
# Deflate — data in blocks

The data of a zlib stream comes in blocks.  A stored block holds bytes as they are.  The other kinds
are rows of symbols: a byte, the end of the block, or the length of a stretch that is copied from
what is there already, with how far back it begins.  The codes of the symbols are known beforehand
or stand at the front of the block.  Bits are taken from each byte lowest first.

What is written here is stored; all kinds are read.
-/

namespace RasterScript

namespace Deflate

/-! ## 1. Writing -/

/-- The most bytes of a stored block. -/
def blockSize : Nat := 65535

/-- One stored block; `final` marks the last one. -/
def block (final : Bool) (data : Bytes) : Bytes :=
  (if final then 1 else 0) :: littleEndian 2 data.length ++
    littleEndian 2 (blockSize - data.length) ++ data

/-- `data` in `more + 1` blocks, all but the last of them full. -/
def blocks : Nat → Bytes → Bytes
  | 0, data => block true data
  | more + 1, data => block false (data.take blockSize) ++ blocks more (data.drop blockSize)

/-- The zlib stream of `data`. -/
def zlib (data : Bytes) : Bytes :=
  [0x78, 0x01] ++ blocks ((data.length - 1) / blockSize) data ++
    bigEndian 4 (adler32 data).toNat

/-! ## 2. Bits -/

/-- Data that is being read: what is left of a byte that was begun, and the bytes behind it. -/
structure Source where
  begun : List Bool
  bytes : Bytes

abbrev Reader := StateT Source Option

def bitsLeft (s : Source) : Nat := s.begun.length + 8 * s.bytes.length

/-- The bits of a byte, lowest first. -/
def bitsOf (byte : UInt8) : List Bool := (List.range 8).map byte.toNat.testBit

def readBit : Reader Bool
  | ⟨b :: begun, bytes⟩ => some (b, ⟨begun, bytes⟩)
  | ⟨[], byte :: bytes⟩ => some (byte.toNat.testBit 0, ⟨(bitsOf byte).tail, bytes⟩)
  | ⟨[], []⟩ => none

/-- A number of `n` bits, lowest first. -/
def readNumber : Nat → Reader Nat
  | 0 => return 0
  | n + 1 => do
    let b ← readBit
    return b.toNat + 2 * (← readNumber n)

/-- The next `n` bytes; a byte that was begun is left. -/
def readBytes (n : Nat) : Reader Bytes := fun s => do
  let (front, rest) ← splitBytes? n s.bytes
  return (front, ⟨[], rest⟩)

/-! ## 3. Codes -/

/-- The most bits of a pattern. -/
def maxLength : Nat := 15

/-- The code in which the pattern of symbol `i` has `lengths[i]` bits; a symbol of length 0 has no
pattern.  Patterns of one length are in the order of their symbols. -/
def codeOf (lengths : List Nat) : PrefixCode Nat :=
  let lengthsInUse := (List.range maxLength).map (· + 1)
  { counts := lengthsInUse.map lengths.count
    values := lengthsInUse.flatMap fun n =>
      lengths.zipIdx.filterMap fun (length, v) => if length = n then some v else none }

/-- The code, unless there are more patterns than bits can be. -/
def codeOf? (lengths : List Nat) : Option (PrefixCode Nat) :=
  let code := codeOf lengths
  if PrefixCode.patternsFit 1 code.counts then some code else none

def readSymbol (c : PrefixCode Nat) : Reader Nat := return (← c.read readBit).1

/-- The codes of a block: of bytes, ends and lengths, and of distances. -/
structure Codes where
  symbols : PrefixCode Nat
  distances : PrefixCode Nat

/-- The codes that are known beforehand. -/
def usualCodes : Codes where
  symbols := codeOf (.replicate 144 8 ++ .replicate 112 9 ++ .replicate 24 7 ++ .replicate 8 8)
  distances := codeOf (.replicate 30 5)

/-- The lengths of `count` patterns, told by a code: a length, or how often the one before it or
none at all comes again.  At most `fuel` symbols are read. -/
def readLengths (c : PrefixCode Nat) (count : Nat) : Nat → Array Nat → Reader (Array Nat)
  | 0, _ => failure
  | fuel + 1, lengths => do
    if lengths.size = count then return lengths
    if count < lengths.size then failure
    match ← readSymbol c with
    | 16 =>
      let last ← lengths.back?
      let times ← readNumber 2
      readLengths c count fuel (lengths ++ Array.replicate (times + 3) last)
    | 17 => readLengths c count fuel (lengths ++ Array.replicate ((← readNumber 3) + 3) 0)
    | 18 => readLengths c count fuel (lengths ++ Array.replicate ((← readNumber 7) + 11) 0)
    | length => readLengths c count fuel (lengths.push length)

/-- The order in which the lengths of the code of lengths are told. -/
def lengthOrder : List Nat := [16, 17, 18, 0, 8, 7, 9, 6, 10, 5, 11, 4, 12, 3, 13, 2, 14, 1, 15]

/-- The codes at the front of a block. -/
def readCodes : Reader Codes := do
  let symbolCount := (← readNumber 5) + 257
  let distanceCount := (← readNumber 5) + 1
  let orderCount := (← readNumber 4) + 4
  let told ← (lengthOrder.take orderCount).mapM fun v => return (v, ← readNumber 3)
  let lengthCode ← codeOf? ((List.range lengthOrder.length).map fun v => (told.lookup v).getD 0)
  let count := symbolCount + distanceCount
  let lengths := (← readLengths lengthCode count (count + 1) #[]).toList
  return ⟨← codeOf? (lengths.take symbolCount), ← codeOf? (lengths.drop symbolCount)⟩

/-! ## 4. Copies -/

/-- The number that a symbol with further bits stands for: of `step` symbols in a row each has the
same number of further bits, and of the next `step` one more; the first two rows have none. -/
def readGraded (step symbol : Nat) : Reader Nat := do
  let more := symbol / step - 1
  let base := if symbol < step then symbol else (step + symbol % step) <<< more
  return base + (← readNumber more)

/-- The length of a copy. -/
def readLength (symbol : Nat) : Reader Nat :=
  if symbol = 285 then return 258
  else if symbol < 285 then return 3 + (← readGraded 4 (symbol - 257))
  else failure

/-- How far back a copy begins. -/
def readDistance (symbol : Nat) : Reader Nat :=
  if symbol < 30 then return 1 + (← readGraded 2 symbol) else failure

/-- Bytes copied from `distance` back, one after the other; a copy may go on into itself. -/
def copyBack (distance : Nat) : Nat → Array UInt8 → Array UInt8
  | 0, out => out
  | n + 1, out => copyBack distance n (out.push (out.getD (out.size - distance) 0))

/-! ## 5. Blocks -/

/-- What a stored block adds. -/
def readStored (out : Array UInt8) : Reader (Array UInt8) := do
  let length := ofLittleEndian (← readBytes 2)
  let complement := ofLittleEndian (← readBytes 2)
  if length + complement ≠ blockSize then failure
  return out ++ (← readBytes length)

/-- What a row of symbols adds; at most `fuel` of them are read. -/
def readSymbols (codes : Codes) : Nat → Array UInt8 → Reader (Array UInt8)
  | 0, _ => failure
  | fuel + 1, out => do
    let symbol ← readSymbol codes.symbols
    if symbol < 256 then readSymbols codes fuel (out.push (.ofNat symbol))
    else if symbol = 256 then return out
    else
      let length ← readLength symbol
      let distance ← readDistance (← readSymbol codes.distances)
      if out.size < distance then failure
      readSymbols codes fuel (copyBack distance length out)

/-- What a block adds that is of this kind.  No symbol has an empty pattern. -/
def readBlock (out : Array UInt8) : Nat → Reader (Array UInt8)
  | 0 => readStored out
  | 1 => do readSymbols usualCodes (bitsLeft (← get)) out
  | 2 => do
    let codes ← readCodes
    readSymbols codes (bitsLeft (← get)) out
  | _ => failure

/-- What at most `fuel` blocks add, up to the final one. -/
def readBlocks : Nat → Array UInt8 → Reader (Array UInt8)
  | 0, _ => failure
  | fuel + 1, out => do
    let final ← readBit
    let out ← readBlock out (← readNumber 2)
    if final then return out else readBlocks fuel out

/-- Whether a zlib stream may begin with these two bytes. -/
def isZlibHead : Bytes → Bool
  | [a, b] => a.toNat % 16 = 8 && a.toNat < 128 && b.toNat / 32 % 2 = 0 &&
    (256 * a.toNat + b.toNat) % 31 = 0
  | _ => false

/-- The data of a zlib stream.  The checksum at the end has to be there, but who reads pictures has
checksums of their own. -/
def readZlib? (bs : Bytes) : Option Bytes := do
  let (head, bs) ← splitBytes? 2 bs
  -- three bits of a block tell its kind, so there are no more blocks than bits
  let (out, source) ← (readBlocks (8 * bs.length) #[]).run ⟨[], bs⟩
  let (_, _) ← splitBytes? 4 source.bytes
  if isZlibHead head then some out.toList else none

end Deflate

end RasterScript
