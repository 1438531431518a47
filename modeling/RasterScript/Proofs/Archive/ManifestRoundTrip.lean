import RasterScript.Archive.ManifestBytes

/-!
# ManifestRoundTrip — a manifest is read back from its bytes

`Reads r bs x` says that the reader `r` takes `bs` from the front of whatever begins with them and
gives `x`.  Such facts compose as the readers do, so there is one for every part of a manifest.
Lengths have eight bytes each: `Manifest.Fits` says that they are enough.
-/

namespace RasterScript

namespace Manifest

variable {α β : Type}

/-! ## 1. Readers -/

/-- The reader takes `bs` and gives `x`, whatever follows. -/
def Reads (r : Reader α) (bs : Bytes) (x : α) : Prop := ∀ rest, r.run (bs ++ rest) = .ok (x, rest)

theorem reads_pure (x : α) : Reads (pure x) [] x := fun _ => rfl

theorem reads_bind {r : Reader α} {g : α → Reader β} {bs bs' : Bytes} {x : α} {y : β}
    (hr : Reads r bs x) (hg : Reads (g x) bs' y) : Reads (r >>= g) (bs ++ bs') y := by
  intro rest
  rw [StateT.run_bind, List.append_assoc, hr (bs' ++ rest)]
  exact hg rest

/-- A last step that takes nothing. -/
theorem reads_map {r : Reader α} {g : α → Reader β} {bs : Bytes} {x : α} {y : β}
    (hr : Reads r bs x) (hg : Reads (g x) [] y) : Reads (r >>= g) bs y := by
  have h := reads_bind hr hg
  rw [List.append_nil] at h
  exact h

theorem reads_bytes (bs : Bytes) : Reads (readBytes bs.length) bs bs := by
  intro rest
  have hsplit : splitBytes? bs.length (bs ++ rest) = some (bs, rest) := splitBytes?_append rfl
  unfold readBytes
  simp [hsplit, StateT.run]

theorem reads_number {n v : Nat} (h : v < byteLimit n) :
    Reads (readNumber n) (littleEndian n v) v := by
  have hbytes := reads_bytes (littleEndian n v)
  rw [length_littleEndian] at hbytes
  unfold readNumber
  apply reads_map hbytes
  rw [ofLittleEndian_littleEndian h]
  exact reads_pure v

theorem reads_text {s : String} (h : (encodeUtf8 s).length < byteLimit 8) :
    Reads readText (encodeText s) s := by
  unfold readText encodeText
  apply reads_bind (reads_number h)
  apply reads_map (reads_bytes _)
  rw [decodeUtf8?_encodeUtf8]
  exact reads_pure s

theorem reads_flag (b : Bool) : Reads readFlag (encodeFlag b) b := by
  have hbyte : encodeFlag b = littleEndian 1 (if b then 1 else 0) := by
    cases b <;> rfl
  have hlimit : (if b then 1 else 0) < byteLimit 1 := by
    cases b <;> decide
  unfold readFlag
  rw [hbyte]
  apply reads_map (reads_number hlimit)
  cases b with
  | false => exact reads_pure false
  | true => exact reads_pure true

/-! ## 2. Manifests -/

theorem reads_record {r : LayerRecord} (h : r.Fits) : Reads readRecord (encodeRecord r) r := by
  unfold readRecord encodeRecord
  rw [List.append_assoc]
  apply reads_bind (reads_text h.name)
  apply reads_bind (reads_flag r.visible)
  apply reads_map (reads_text h.file)
  exact reads_pure r

theorem reads_records {rs : List LayerRecord} (h : ∀ r ∈ rs, r.Fits) :
    Reads (readRecords rs.length) (rs.flatMap encodeRecord) rs := by
  induction rs with
  | nil => exact reads_pure []
  | cons r rs ih =>
    obtain ⟨hr, hrs⟩ := List.forall_mem_cons.1 h
    rw [List.flatMap_cons]
    show Reads (readRecord >>= fun r => readRecords rs.length >>= fun rest => pure (r :: rest)) _ _
    apply reads_bind (reads_record hr)
    apply reads_map (ih hrs)
    exact reads_pure (r :: rs)

theorem reads_manifest {m : Manifest} (h : m.Fits) : Reads read (encode m) m := by
  have hwidth : m.width.toNat < byteLimit 4 := m.width.toNat_lt
  have hheight : m.height.toNat < byteLimit 4 := m.height.toNat_lt
  unfold read encode
  rw [List.append_assoc, List.append_assoc, List.append_assoc]
  apply reads_bind (reads_text h.magic)
  apply reads_bind (reads_number hwidth)
  apply reads_bind (reads_number hheight)
  apply reads_bind (reads_number h.count)
  apply reads_map (reads_records h.layers)
  rw [UInt32.ofNat_toNat, UInt32.ofNat_toNat]
  exact reads_pure m

/-- A manifest is decoded from its bytes, whatever comes after them. -/
theorem decode_encode {m : Manifest} (h : m.Fits) (rest : Bytes) :
    decode (encode m ++ rest) = .ok m := by
  unfold decode
  rw [reads_manifest h rest]
  rfl

theorem hasMagic_encode {m : Manifest} (h : m.magic = expectedMagic) (rest : Bytes) :
    hasMagic (encode m ++ rest) = true := by
  have hlength : (encodeUtf8 expectedMagic).length = 4 := by decide
  have hbytes : encode m ++ rest = littleEndian 8 4 ++ (encodeUtf8 expectedMagic ++
      (littleEndian 4 m.width.toNat ++ (littleEndian 4 m.height.toNat ++
        (littleEndian 8 m.layers.length ++ (m.layers.flatMap encodeRecord ++ rest))))) := by
    unfold encode encodeText
    rw [h]
    simp only [List.append_assoc, hlength]
  unfold hasMagic
  rw [hbytes, List.drop_left' (length_littleEndian 8 4), List.take_left' hlength]
  exact beq_self_eq_true _

end Manifest

end RasterScript
