import RasterScript.Binary.Number
import RasterScript.Failure
import RasterScript.Text.Utf8

/-!
# Manifest — the table of contents of a saved stack

A manifest tells the size of a stack and, front to back, the name, visibility and file of every
layer.  How it becomes bytes is the business of a library (`ManifestFormat`), of which the rest
needs to know that a manifest is read back, that a piece of one is not, and where the magic stands.
-/

namespace RasterScript

/-- What a manifest says about one layer. -/
structure LayerRecord where
  name : String
  visible : Bool
  file : String
  deriving DecidableEq, Repr

/-- The table of contents of a saved stack. -/
structure Manifest where
  magic : String
  width : UInt32
  height : UInt32
  layers : List LayerRecord
  deriving DecidableEq, Repr

/-- The texts of a record are not too long for lengths of eight bytes. -/
structure LayerRecord.Fits (r : LayerRecord) : Prop where
  name : (encodeUtf8 r.name).length < byteLimit 8
  file : (encodeUtf8 r.file).length < byteLimit 8

namespace Manifest

/-- What the first field of a manifest says. -/
def expectedMagic : String := "PGL1"

/-- The name of the manifest in the directory of a saved stack. -/
def fileName : String := "manifest.pgl"

/-- No text is too long, and there are not too many layers to count. -/
structure Fits (m : Manifest) : Prop where
  magic : (encodeUtf8 m.magic).length < byteLimit 8
  count : m.layers.length < byteLimit 8
  layers : ∀ r ∈ m.layers, r.Fits

/-- Whether bytes have the magic where the text of the first field begins. -/
def hasMagic (bs : Bytes) : Bool :=
  -- the length of the text comes first and takes 8 bytes
  (bs.drop 8).take 4 == encodeUtf8 expectedMagic

end Manifest

/-- A library that makes bytes of manifests and reads them. -/
class ManifestFormat where
  encode : Manifest → Bytes
  decode : Bytes → Except ManifestFault Manifest
  /-- Whatever comes after the bytes of a manifest is not looked at. -/
  decode_encode : ∀ {m : Manifest}, m.Fits → ∀ rest, decode (encode m ++ rest) = .ok m
  decode_cut : ∀ {m : Manifest} {cut lost : Bytes}, m.Fits → encode m = cut ++ lost → lost ≠ [] →
    ∀ m', decode cut ≠ .ok m'
  hasMagic_encode : ∀ {m : Manifest}, m.magic = Manifest.expectedMagic → ∀ rest,
    Manifest.hasMagic (encode m ++ rest) = true

/-- The file of a layer: its index, a dash, its name, and the extension of its format. -/
def layerFileName (index : Nat) (name : String) : String :=
  toString index ++ "-" ++ name ++ ".png"

end RasterScript
