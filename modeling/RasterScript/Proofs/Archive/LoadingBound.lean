import RasterScript.Proofs.Archive.SaveRuns

/-!
# LoadingBound — which saved stacks are loaded again within a bound

Saving bounds the number of layers as loading does, and a picture bounds the product of its sides,
but only loading bounds a side by itself.  So of the stacks that have been saved into a fresh
directory, exactly those with a longer side than the bound are refused.
-/

namespace RasterScript

open FileStore

variable {fs fs' : FileStore} {dir : Path} {loc : Location} {img : LayeredImage}
  {maxDimension : Nat}

section Formats

variable [PictureCodec] [ManifestFormat]

/-- A manifest with a side of its stack out of bounds is refused before any layer is read. -/
theorem fails_load_of_side (hd : DirectoryAt fs dir loc) {m : Manifest}
    (hm : fs.HoldsManifest dir loc m)
    (hside : ¬ (m.width.toNat ≤ maxDimension ∧ m.height.toNat ≤ maxDimension)) :
    Fails (LayeredImage.load dir maxDimension) fs
      (.refused (.archiveSize m.width.toNat m.height.toNat maxDimension)) fs := by
  have hdirectory : fs.isDirectory dir = true := isDirectory_iff.2 ⟨loc, hd⟩
  obtain ⟨content, hfile, -, -⟩ := id hm
  have hisFile : fs.isFile (dir.join Manifest.fileName) = true :=
    (isFile_join hd isPlainFileName_manifest).2 ⟨hfile.1, content, hfile.2⟩
  have hread := (yields_readManifest hd).2 ⟨rfl, hm⟩
  unfold LayeredImage.load
  rw [fails_get_bind]
  refine fails_accept_bind.2 (.inr ⟨(), require_eq_ok.2 hdirectory, ?_⟩)
  refine fails_accept_bind.2 (.inr ⟨(), require_eq_ok.2 hisFile, ?_⟩)
  rw [hread.fails_bind_iff]
  refine fails_accept_bind.2 (.inl ⟨_, require_eq_error.2 ⟨?_, rfl⟩, rfl, rfl⟩)
  rw [Bool.eq_false_iff]
  intro hinside
  simp only [Bool.and_eq_true, decide_eq_true_eq] at hinside
  exact hside ⟨hinside.1.2, hinside.2.2⟩

/-- After a save into a directory without a manifest, the directory holds the manifest of the stack
and the stack itself. -/
theorem holds_of_fresh_save
    (hfresh : ∀ loc, fs.locate dir = .ok loc → fs.entry? (loc ++ [Manifest.fileName]) = none)
    (hsave : Yields (img.save dir) fs () fs') : ∃ loc, DirectoryAt fs' dir loc ∧
      fs'.HoldsManifest dir loc img.manifest ∧ fs'.HoldsStack dir loc img.manifest img := by
  obtain ⟨loc, before, own, ⟨hloc, hbefore⟩, hown, hd, hsaved⟩ := LayeredImage.saved_of_save hsave
  have hnot : Manifest.fileName ∉ own := by
    rw [manifest_mem_own_iff hloc hbefore hown hd hsaved.manifest_nameable,
      listedFiles_of_fresh hfresh]
    exact List.not_mem_nil
  exact ⟨loc, hsaved.directory, hsaved.holdsManifest hnot, hsaved.holdsStack⟩

/-- A stack that has been saved into a directory without a manifest, such as a fresh one, is loaded
back within the default bound if and only if neither side is longer than this bound; a saved stack
with a longer side is refused. -/
theorem default_load_iff_sides_le
    (hfresh : ∀ loc, fs.locate dir = .ok loc → fs.entry? (loc ++ [Manifest.fileName]) = none)
    (hsave : Yields (img.save dir) fs () fs') :
    (Yields (LayeredImage.load dir defaultMaxDimension) fs' img fs' ↔
      img.width ≤ defaultMaxDimension ∧ img.height ≤ defaultMaxDimension) ∧
    (¬ (img.width ≤ defaultMaxDimension ∧ img.height ≤ defaultMaxDimension) →
      Fails (LayeredImage.load dir defaultMaxDimension) fs'
        (.refused (.archiveSize img.width img.height defaultMaxDimension)) fs') := by
  obtain ⟨loc, hd, hm, hstack⟩ := holds_of_fresh_save hfresh hsave
  constructor
  · rw [yields_load hd]
    exact ⟨fun h => h.2.1, fun h => ⟨rfl, h, img.manifest, hm, hstack⟩⟩
  · intro hside
    -- the manifest has the sides of the stack, which fit its words
    rw [← hstack.width_eq, ← hstack.height_eq] at hside ⊢
    exact fails_load_of_side hd hm hside

end Formats

/-- A stack without layers, one pixel high. -/
def strip (width : Nat) (hpos : 0 < width) (harea : width * 1 ≤ maxPixels) : LayeredImage :=
  .blank ⟨width, 1, hpos, Nat.one_pos, harea⟩

/-- As wide as the default bound allows. -/
def widestStrip : LayeredImage := strip 32768 (by decide) (by decide)

/-- One pixel wider. -/
def tooWideStrip : LayeredImage := strip 32769 (by decide) (by decide)

theorem no_manifest_bareStore : ∀ loc, bareStore.locate ⟨"d"⟩ = .ok loc →
    bareStore.entry? (loc ++ [Manifest.fileName]) = none := by
  intro loc _
  cases loc <;> rfl

theorem default_load_iff_sides_le_strips :
    (∃ fs, Yields (widestStrip.save ⟨"d"⟩) bareStore () fs ∧
      Yields (LayeredImage.load ⟨"d"⟩ defaultMaxDimension) fs widestStrip fs) ∧
    ∃ fs, Yields (tooWideStrip.save ⟨"d"⟩) bareStore () fs ∧
      Fails (LayeredImage.load ⟨"d"⟩ defaultMaxDimension) fs
        (.refused (.archiveSize 32769 1 32768)) fs := by
  have hwidest : (outcome (widestStrip.save ⟨"d"⟩) bareStore).1 = .ok () := by decide +kernel
  have htooWide : (outcome (tooWideStrip.save ⟨"d"⟩) bareStore).1 = .ok () := by decide +kernel
  refine ⟨⟨_, yields_of_outcome hwidest, ?_⟩, ⟨_, yields_of_outcome htooWide, ?_⟩⟩
  · exact (default_load_iff_sides_le no_manifest_bareStore (yields_of_outcome hwidest)).1.2
      (by decide)
  · exact (default_load_iff_sides_le no_manifest_bareStore (yields_of_outcome htooWide)).2
      (by decide)

/-- Not every stack that can be saved into a fresh directory can be loaded within the default
bound. -/
theorem exists_fresh_save_beyond_default : ∃ (img : LayeredImage) (dir : Path)
    (fs fs' : FileStore), fs.pathExists dir = false ∧ Yields (img.save dir) fs () fs' ∧
      ∀ img' fs'', ¬ Yields (LayeredImage.load dir defaultMaxDimension) fs' img' fs'' := by
  have hsave : (outcome (tooWideStrip.save ⟨"d"⟩) bareStore).1 = .ok () := by decide +kernel
  refine ⟨tooWideStrip, ⟨"d"⟩, bareStore, _, by decide +kernel, yields_of_outcome hsave, ?_⟩
  intro img' fs'' hload
  have hfails : (outcome (LayeredImage.load ⟨"d"⟩ defaultMaxDimension)
      (outcome (tooWideStrip.save ⟨"d"⟩) bareStore).2).1 =
      .error (.refused (.archiveSize 32769 1 32768)) := by decide +kernel
  exact hload.not_fails (fails_of_outcome hfails)

end RasterScript
