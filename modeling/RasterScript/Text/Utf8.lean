import RasterScript.Binary.Number

/-!
# Utf8 — text as bytes

Texts are stored in files as UTF-8.  Not all bytes are the encoding of a text; those that are, are
of exactly one: `decodeUtf8?_encodeUtf8`.
-/

namespace RasterScript

def encodeUtf8 (s : String) : Bytes := s.toByteArray.data.toList

/-- The text with these bytes, if there is one. -/
def decodeUtf8? (bs : Bytes) : Option String := String.fromUTF8? ⟨bs.toArray⟩

@[simp] theorem decodeUtf8?_encodeUtf8 (s : String) : decodeUtf8? (encodeUtf8 s) = some s := by
  have h : (⟨(encodeUtf8 s).toArray⟩ : ByteArray) = s.toByteArray := by
    simp [encodeUtf8]
  rw [decodeUtf8?, h, String.fromUTF8?, dif_pos s.isValidUTF8]
  rfl

theorem encodeUtf8_of_decodeUtf8? {bs : Bytes} {s : String} (h : decodeUtf8? bs = some s) :
    encodeUtf8 s = bs := by
  unfold decodeUtf8? String.fromUTF8? at h
  split at h
  · cases h; simp [encodeUtf8, String.fromUTF8]
  · cases h

end RasterScript
