import RasterScript.Proofs.Archive.ManifestReading

/-!
# CutManifest — a manifest file that is cut short

A save that is interrupted can leave the beginning of a manifest.  It is never read as a manifest,
not even as that of a smaller stack: it has no magic, or the data in it comes to an end.
-/

namespace RasterScript

/-! ## 1. The magic -/

namespace Manifest

/-- The magic ends with the twelfth byte, so a shorter piece does not show it and a longer one
does. -/
theorem hasMagic_cut {m : Manifest} (h : m.magic = expectedMagic) {cut lost : Bytes}
    (hbytes : m.encode = cut ++ lost) : hasMagic cut = decide (12 ≤ cut.length) := by
  have hwhole := hasMagic_encode h []
  rw [List.append_nil, hbytes] at hwhole
  unfold hasMagic at hwhole ⊢
  by_cases hlength : 12 ≤ cut.length
  · have hdrop : 4 ≤ (cut.drop 8).length := by
      rw [List.length_drop]
      omega
    rw [List.drop_append_of_le_length (by omega), List.take_append_of_le_length hdrop] at hwhole
    rw [hwhole, decide_eq_true hlength]
  · have hshort : ((cut.drop 8).take 4).length ≠ (encodeUtf8 expectedMagic).length := by
      rw [length_expectedMagic, List.length_take, List.length_drop]
      omega
    rw [decide_eq_false hlength]
    exact beq_eq_false_iff_ne.2 fun heq => hshort (congrArg List.length heq)

/-- Why the first bytes of a manifest are refused, when there are `n` of them in the file `p`. -/
def cutFailure (p : Path) (n : Nat) : Failure :=
  if n < 12 then .refused (.notAManifest p.text) else .persistence .truncated

end Manifest

/-! ## 2. Manifest files -/

open FileStore Manifest

theorem fails_readManifest_cut {p : Path} {fs : FileStore} {m : Manifest} {cut lost : Bytes}
    (hmagic : m.magic = expectedMagic) (hfits : m.Fits) (hbytes : m.encode = cut ++ lost)
    (hlost : lost ≠ []) (hread : fs.read p = .ok cut) :
    Fails (readManifest p) fs (cutFailure p cut.length) fs := by
  have hasked : Yields (FileAction.ask (·.read p)) fs cut fs := yields_ask.2 ⟨hread, rfl⟩
  unfold readManifest cutFailure
  rw [hasked.fails_bind_iff, hasMagic_cut hmagic hbytes]
  by_cases hlength : cut.length < 12
  · rw [if_pos hlength, decide_eq_false (Nat.not_le.2 hlength)]
    exact fails_accept_bind.2 (.inl ⟨_, rfl, rfl, rfl⟩)
  · rw [if_neg hlength, decide_eq_true (Nat.not_lt.1 hlength)]
    refine fails_accept_bind.2 (.inr ⟨(), rfl, ?_⟩)
    have hdecode : ManifestFormat.decode cut = .error .truncated := decode_cut hfits hbytes hlost
    rw [hdecode]
    exact fails_throw.2 ⟨rfl, rfl⟩

section Codec

variable [PictureCodec]

/-- A manifest with the magic is read back from its bytes, whatever comes after them; from any
proper beginning of its bytes nothing is read, neither as a manifest nor as a stack.  The texts and
the list of layers are to be no longer than eight bytes can count. -/
theorem manifest_read_whole_or_not {m : Manifest} (hmagic : m.magic = expectedMagic)
    (hfits : m.Fits) (fs : FileStore) :
    (∀ (p : Path) (trailing : Bytes), fs.read p = .ok (m.encode ++ trailing) →
      Yields (readManifest p) fs m fs) ∧
    (∀ (p : Path) (cut lost : Bytes), m.encode = cut ++ lost → lost ≠ [] → fs.read p = .ok cut →
      Fails (readManifest p) fs (cutFailure p cut.length) fs) ∧
    ∀ (dir : Path) (cut lost : Bytes), m.encode = cut ++ lost → lost ≠ [] →
      fs.isDirectory dir = true → fs.read (dir.join Manifest.fileName) = .ok cut →
      ∀ maxDimension, Fails (LayeredImage.load dir maxDimension) fs
        (cutFailure (dir.join Manifest.fileName) cut.length) fs := by
  refine ⟨?_, ?_, ?_⟩
  · intro p trailing hread
    refine yields_readManifest_iff.2 ⟨rfl, _, hread, ?_, decode_encode hfits trailing⟩
    exact hasMagic_encode hmagic trailing
  · intro p cut lost hbytes hlost hread
    exact fails_readManifest_cut hmagic hfits hbytes hlost hread
  · intro dir cut lost hbytes hlost hdir hread maxDimension
    exact fails_load_of_not_manifest hdir hread
      (fails_readManifest_cut hmagic hfits hbytes hlost hread)

end Codec

/-- Two layers, one with a name that has more bytes than characters. -/
def twoRecords : Manifest :=
  ⟨"PGL1", 3, 2, [⟨"front", true, "0-front.png"⟩, ⟨"wände", false, "1-wände.png"⟩]⟩

theorem fits_twoRecords : twoRecords.Fits :=
  ⟨by decide, by decide, by
    intro r hr
    rcases List.mem_cons.1 hr with rfl | hr
    · exact ⟨by decide, by decide⟩
    · obtain rfl := List.mem_singleton.1 hr
      exact ⟨by decide, by decide⟩⟩

/-- A directory `d` with a whole manifest and two more bytes in the file `copy`, and the same
manifest without its last record as the manifest of the directory. -/
def interruptedSave : FileStore :=
  ((bareStore.put ["d"] .directory).put ["d", "copy"] (.file (twoRecords.encode ++ [7, 8]))).put
    ["d", "manifest.pgl"] (.file (twoRecords.encode.take 61))

theorem manifest_read_whole_or_not_twoRecords :
    Yields (readManifest ⟨"d/copy"⟩) interruptedSave twoRecords interruptedSave ∧
    Fails (readManifest ⟨"d/manifest.pgl"⟩) interruptedSave (.persistence .truncated)
      interruptedSave ∧
    Fails (LayeredImage.load ⟨"d"⟩ 3) interruptedSave (.persistence .truncated)
      interruptedSave := by
  obtain ⟨hwhole, hcut, hload⟩ :=
    manifest_read_whole_or_not (m := twoRecords) rfl fits_twoRecords interruptedSave
  have hbytes : twoRecords.encode = twoRecords.encode.take 61 ++ twoRecords.encode.drop 61 :=
    (List.take_append_drop 61 _).symm
  have hlost : twoRecords.encode.drop 61 ≠ [] := by decide
  refine ⟨hwhole _ [7, 8] (by decide), ?_, ?_⟩
  · exact hcut ⟨"d/manifest.pgl"⟩ _ _ hbytes hlost (by decide)
  · exact hload ⟨"d"⟩ _ _ hbytes hlost (by decide) (by decide) 3

end RasterScript
