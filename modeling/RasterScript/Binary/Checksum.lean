import RasterScript.Binary.Number

/-!
# Checksum — CRC-32 and Adler-32

The two checksums of a PNG file: CRC-32 (reflected polynomial `EDB88320`) over every chunk and
Adler-32 over the picture data before packing.
-/

namespace RasterScript

/-- One step of the CRC-32 shift register. -/
def crcStep (c : UInt32) : UInt32 :=
  if c &&& 1 == 1 then (c >>> 1) ^^^ 0xEDB88320 else c >>> 1

/-- The CRC-32 register after one more byte. -/
def crcByte (c : UInt32) (b : UInt8) : UInt32 :=
  let c := c ^^^ b.toUInt32
  crcStep (crcStep (crcStep (crcStep (crcStep (crcStep (crcStep (crcStep c)))))))

/-- The CRC-32 of some bytes. -/
def crc32 (bs : Bytes) : UInt32 := bs.foldl crcByte 0xFFFFFFFF ^^^ 0xFFFFFFFF

/-- The two sums of Adler-32 after one more byte. -/
def adlerByte (sums : UInt32 × UInt32) (b : UInt8) : UInt32 × UInt32 :=
  let low := (sums.1 + b.toUInt32) % 65521
  (low, (sums.2 + low) % 65521)

/-- The Adler-32 of some bytes. -/
def adler32 (bs : Bytes) : UInt32 :=
  let (low, high) := bs.foldl adlerByte (1, 0)
  high <<< 16 ||| low

end RasterScript
