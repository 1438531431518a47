import RasterScript.Proofs.Archive.ManifestRoundTrip

/-!
# ManifestCuts — the beginning of a manifest is no manifest

`EndsEarly r bs` says that the reader `r` comes to the end of the data wherever `bs` is cut short.
Beside `Reads` it is what a step needs to hand on, since a cut is either in what the first step
takes or in what it leaves to the next.
-/

namespace RasterScript

namespace Manifest

variable {α β : Type}

/-! ## 1. Readers -/

/-- Wherever the bytes are cut short, the reader is told that the data has ended. -/
def EndsEarly (r : Reader α) (bs : Bytes) : Prop :=
  ∀ ⦃cut lost⦄, bs = cut ++ lost → lost ≠ [] → r.run cut = .error .truncated

theorem endsEarly_nil (r : Reader α) : EndsEarly r [] := by
  intro cut lost hbytes hlost
  exact absurd (List.append_eq_nil_iff.1 hbytes.symm).2 hlost

/-- What a step takes decides for all steps after it that take nothing. -/
theorem endsEarly_map {r : Reader α} {g : α → Reader β} {bs : Bytes} (hr : EndsEarly r bs) :
    EndsEarly (r >>= g) bs := by
  intro cut lost hbytes hlost
  rw [StateT.run_bind, hr hbytes hlost]
  rfl

theorem endsEarly_bind {r : Reader α} {g : α → Reader β} {bs bs' : Bytes} {x : α}
    (hr : EndsEarly r bs) (hreads : Reads r bs x) (hg : EndsEarly (g x) bs') :
    EndsEarly (r >>= g) (bs ++ bs') := by
  intro cut lost hbytes hlost
  rcases List.append_eq_append_iff.1 hbytes with ⟨mid, rfl, hmid⟩ | ⟨mid, rfl, hmid⟩
  · -- the first step has all its bytes, so it hands on what is left of the others
    rw [StateT.run_bind, hreads mid]
    exact hg hmid hlost
  · by_cases hnil : mid = []
    · -- cut just between the two steps
      subst hnil
      rw [List.append_nil] at hreads
      have hfirst := hreads []
      have hnext : bs' = [] ++ lost := hmid.symm
      rw [List.append_nil] at hfirst
      rw [StateT.run_bind, hfirst]
      exact hg hnext hlost
    · exact endsEarly_map hr rfl hnil

theorem endsEarly_bytes (bs : Bytes) : EndsEarly (readBytes bs.length) bs := by
  intro cut lost hbytes hlost
  have hpos : 0 < lost.length := List.length_pos_iff.2 hlost
  have hshort : cut.length < bs.length := by
    rw [hbytes, List.length_append]
    omega
  have hsplit : splitBytes? bs.length cut = none := splitBytes?_eq_none.2 hshort
  unfold readBytes
  simp [hsplit, StateT.run]

theorem endsEarly_number (n v : Nat) : EndsEarly (readNumber n) (littleEndian n v) := by
  have hbytes := endsEarly_bytes (littleEndian n v)
  rw [length_littleEndian] at hbytes
  unfold readNumber
  exact endsEarly_map hbytes

theorem endsEarly_text {s : String} (h : (encodeUtf8 s).length < byteLimit 8) :
    EndsEarly readText (encodeText s) := by
  unfold readText encodeText
  apply endsEarly_bind (endsEarly_number 8 _) (reads_number h)
  exact endsEarly_map (endsEarly_bytes _)

theorem endsEarly_flag (b : Bool) : EndsEarly readFlag (encodeFlag b) := by
  have hbyte : encodeFlag b = littleEndian 1 (if b then 1 else 0) := by
    cases b <;> rfl
  unfold readFlag
  rw [hbyte]
  exact endsEarly_map (endsEarly_number 1 _)

/-! ## 2. Manifests -/

theorem endsEarly_record {r : LayerRecord} (h : r.Fits) :
    EndsEarly readRecord (encodeRecord r) := by
  unfold readRecord encodeRecord
  rw [List.append_assoc]
  apply endsEarly_bind (endsEarly_text h.name) (reads_text h.name)
  apply endsEarly_bind (endsEarly_flag r.visible) (reads_flag r.visible)
  exact endsEarly_map (endsEarly_text h.file)

theorem endsEarly_records {rs : List LayerRecord} (h : ∀ r ∈ rs, r.Fits) :
    EndsEarly (readRecords rs.length) (rs.flatMap encodeRecord) := by
  induction rs with
  | nil => exact endsEarly_nil _
  | cons r rs ih =>
    obtain ⟨hr, hrs⟩ := List.forall_mem_cons.1 h
    rw [List.flatMap_cons]
    show EndsEarly
      (readRecord >>= fun r => readRecords rs.length >>= fun rest => pure (r :: rest)) _
    apply endsEarly_bind (endsEarly_record hr) (reads_record hr)
    exact endsEarly_map (ih hrs)

theorem endsEarly_manifest {m : Manifest} (h : m.Fits) : EndsEarly read (encode m) := by
  have hwidth : m.width.toNat < byteLimit 4 := m.width.toNat_lt
  have hheight : m.height.toNat < byteLimit 4 := m.height.toNat_lt
  unfold read encode
  rw [List.append_assoc, List.append_assoc, List.append_assoc]
  apply endsEarly_bind (endsEarly_text h.magic) (reads_text h.magic)
  apply endsEarly_bind (endsEarly_number 4 _) (reads_number hwidth)
  apply endsEarly_bind (endsEarly_number 4 _) (reads_number hheight)
  -- the count is there, so a cut further on cannot pass for fewer layers
  apply endsEarly_bind (endsEarly_number 8 _) (reads_number h.count)
  exact endsEarly_map (endsEarly_records h.layers)

/-- The beginning of a manifest is no manifest. -/
theorem decode_cut {m : Manifest} (h : m.Fits) {cut lost : Bytes} (hbytes : m.encode = cut ++ lost)
    (hlost : lost ≠ []) : decode cut = .error .truncated := by
  unfold decode
  rw [endsEarly_manifest h hbytes hlost]
  rfl

end Manifest

end RasterScript
