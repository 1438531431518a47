import RasterScript.Proofs.Archive.RoundTrip

/-!
# LayerFiles — the layer files of a save do not get into each other's way

A layer file tells the index and the name of its layer, whatever digits, dashes and dots the name
has, and it is a plain name other than that of the manifest.  So the files of one save are as many
as the layers, each lies in the directory itself, writing them leaves the manifest alone, and the
loader, which wants plain names, reads each layer back from its own file.
-/

namespace RasterScript

open FileStore

variable {disk : Disk} {fs fs' : FileStore} {dir : Path} {loc : Location} {img : LayeredImage}

section Formats

variable [PictureCodec]

/-! ## 1. Writing -/

/-- However writing the layer files ends, what has been written has their names. -/
theorem exists_putFiles_of_writeLayers (hd : DirectoryAt fs dir loc) (disk : Disk)
    (img : LayeredImage) : ∃ files, files.map Prod.fst <+: img.fileNames ∧
      (outcome (img.targets.forM (writeLayer disk dir)) fs).2 = fs.putFiles loc files := by
  have hplain : ∀ x ∈ img.targets, isPlainFileName x.2 = true :=
    fun x hx => LayeredImage.isPlainFileName_target hx
  rw [← img.names_layerFiles]
  cases hend : (outcome (img.targets.forM (writeLayer disk dir)) fs).1 with
  | ok _ =>
    obtain ⟨-, hfs, -⟩ := yields_writeLayers hd hplain (yields_of_outcome hend)
    exact ⟨img.layerFiles, List.prefix_refl _, hfs⟩
  | error f =>
    obtain ⟨k, part, -, -, -, hfs, -⟩ := fails_writeLayers hd hplain (fails_of_outcome hend)
    exact ⟨arrived img.layerFiles k part, names_arrived _ k part, hfs⟩

theorem entry?_writeLayers_other (hd : DirectoryAt fs dir loc) {loc' : Location}
    (hother : ∀ file ∈ img.fileNames, loc' ≠ loc ++ [file]) :
    entry? (outcome (img.targets.forM (writeLayer disk dir)) fs).2 loc' = fs.entry? loc' := by
  obtain ⟨files, hnames, hfs⟩ := exists_putFiles_of_writeLayers hd disk img
  rw [hfs]
  apply entry?_putFiles_other
  intro file content hm
  apply hother
  exact hnames.subset (List.mem_map_of_mem hm)

/-! ## 2. Loading -/

variable [ManifestFormat]

theorem LayeredImage.Saved.yields_loadLayer {own : List String} {before : FileStore}
    (h : img.Saved dir loc own before fs) {i : Nat} {l : Layer} (hl : img.layers[i]? = some l) :
    Yields (loadLayer dir img.width img.height ⟨l.name, l.visible, layerFileName i l.name⟩)
      fs l fs := by
  have hplain := isPlainFileName_layerFileName i l.name_valid
  exact (RasterScript.yields_loadLayer h.directory).2
    ⟨rfl, ⟨rfl, rfl, hplain, h.holdsPicture hl⟩, sides_of_mem (List.mem_of_getElem? hl)⟩

/-! ## 3. Names, files and what becomes of them -/

/-- Layer files of different indices or names are different.  All are plain names, and none is that
of the manifest.  So writing the layer files of a stack, whether it succeeds or not, changes entries
of these names in the directory at most, and the manifest keeps what it was; and after a save each
layer stands in its own file and is loaded from it. -/
theorem layer_files_apart :
    (∀ i j a b, IsLayerName a → IsLayerName b →
      layerFileName i a = layerFileName j b → i = j ∧ a = b) ∧
    (∀ i a, IsLayerName a → layerFileName i a ≠ Manifest.fileName ∧
      (Path.mk (layerFileName i a)).fileName? = some (layerFileName i a) ∧
      '/' ∉ (layerFileName i a).toList ∧ layerFileName i a ∉ ["", ".", ".."]) ∧
    ∀ (disk : Disk) (img : LayeredImage) (dir : Path), img.fileNames.Nodup ∧
      (∀ fs loc, DirectoryAt fs dir loc →
        let after := (outcome (img.targets.forM (writeLayer disk dir)) fs).2
        after.entry? (loc ++ [Manifest.fileName]) = fs.entry? (loc ++ [Manifest.fileName]) ∧
        ∀ loc', after.entry? loc' ≠ fs.entry? loc' →
          ∃ file ∈ img.fileNames, loc' = loc ++ [file]) ∧
      ∀ fs fs', Yields (img.saveOn disk dir) fs () fs' → ∃ loc, DirectoryAt fs' dir loc ∧
        ∀ i l, img.layers[i]? = some l →
          fs'.entry? (loc ++ [layerFileName i l.name]) = some (.file (PictureCodec.png l.grid)) ∧
          Yields (loadLayer dir img.width img.height ⟨l.name, l.visible, layerFileName i l.name⟩)
            fs' l fs' := by
  refine ⟨fun i j a b _ _ => layerFileName_inj, ?_, ?_⟩
  · intro i a ha
    have hplain := isPlainFileName_layerFileName i ha
    obtain ⟨hempty, hdot, hup, hslash⟩ := isPlainFileName_iff.1 hplain
    refine ⟨layerFileName_ne_manifest i a, beq_iff_eq.1 hplain, hslash, ?_⟩
    simp only [List.mem_cons, List.not_mem_nil, hempty, hdot, hup, or_self, not_false_eq_true]
  · intro disk img dir
    refine ⟨img.fileNames_nodup, ?_, ?_⟩
    · intro fs loc hd
      refine ⟨entry?_writeLayers_other hd ?_, ?_⟩
      · intro file hm heq
        exact img.manifest_not_mem_fileNames (location_inj.1 heq ▸ hm)
      · intro loc' hne
        by_contra hnone
        exact hne (entry?_writeLayers_other hd fun file hm heq => hnone ⟨file, hm, heq⟩)
    · intro fs fs' hsave
      obtain ⟨loc, before, own, -, -, -, hsaved⟩ := LayeredImage.saved_of_save hsave
      refine ⟨loc, hsaved.directory, ?_⟩
      intro i l hl
      exact ⟨hsaved.entry?_layer hl, hsaved.yields_loadLayer hl⟩

end Formats

/-- A white layer, and behind it a clear one whose name begins like the file of the first. -/
def dashedLayers : LayeredImage :=
  whiteLayer.pushBack ⟨"0-a", by decide, by decide⟩ ⟨.fill .single ⟨9, 9, 9, 0⟩, rfl⟩ true

/-- The store in which this stack has been saved. -/
def dashedStore : FileStore := (outcome (dashedLayers.save ⟨"d"⟩) bareStore).2

theorem layer_files_apart_dashedLayers :
    layerFileName 1 "0-a" ≠ layerFileName 10 "a" ∧
    (Path.mk (layerFileName 0 "..")).fileName? = some "0-...png" ∧
    entry? (outcome (dashedLayers.targets.forM (writeLayer .sound ⟨"d"⟩)) dashedStore).2
      ["d", "manifest.pgl"] = dashedStore.entry? ["d", "manifest.pgl"] ∧
    ∃ loc, DirectoryAt dashedStore ⟨"d"⟩ loc ∧
      dashedStore.entry? (loc ++ ["1-0-a.png"]) =
        some (.file (Png.encode (.fill .single ⟨9, 9, 9, 0⟩))) := by
  have hdirectory : DirectoryAt dashedStore ⟨"d"⟩ ["d"] := by
    refine ⟨?_, ?_⟩ <;> decide +kernel
  have hsave : Yields (dashedLayers.save ⟨"d"⟩) bareStore () dashedStore := by
    apply yields_of_outcome
    decide +kernel
  obtain ⟨happart, hplain, hstack⟩ := layer_files_apart
  obtain ⟨-, hwriting, hsaving⟩ := hstack .sound dashedLayers ⟨"d"⟩
  obtain ⟨loc, hd, hlayers⟩ := hsaving _ _ hsave
  refine ⟨?_, (hplain 0 ".." (by decide)).2.1, (hwriting _ _ hdirectory).1, loc, hd, ?_⟩
  · intro heq
    have hindex := (happart 1 10 "0-a" "a" (by decide) (by decide) heq).1
    cases hindex
  · exact (hlayers 1 ⟨"0-a", true, .fill .single ⟨9, 9, 9, 0⟩, by decide⟩ rfl).1

end RasterScript
