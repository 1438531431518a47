import RasterScript.Proofs.Archive.Saving
import RasterScript.StandardFormats

/-!
# RoundTrip — loading a stack that has been saved

After a save that succeeded the directory holds every layer file and the new manifest, so loading
gives the stack back, unless the removal of files of an earlier save takes the manifest with it.
That happens exactly if the earlier manifest lists the name of the manifest among its layer files.
-/

namespace RasterScript

open FileStore

/-! ## 1. What was written is what is read -/

theorem length_encodeUtf8 (s : String) : (encodeUtf8 s).length = s.utf8ByteSize := by
  unfold encodeUtf8
  rw [Array.length_toList]
  rfl

theorem utf8ByteSize_le_layerFileName (i : Nat) (name : String) :
    name.utf8ByteSize ≤ (layerFileName i name).utf8ByteSize := by
  unfold layerFileName
  rw [String.utf8ByteSize_append, String.utf8ByteSize_append, String.utf8ByteSize_append]
  omega

theorem toNat_ofNat_side {n : Nat} (h : n ≤ maxPixels) : (UInt32.ofNat n).toNat = n := by
  have hlimit : maxPixels < UInt32.size := by decide
  exact UInt32.toNat_ofNat_of_lt' (Nat.lt_of_le_of_lt h hlimit)

namespace LayeredImage

variable {img : LayeredImage} {dir : Path}

/-- The texts in the manifest are no longer than the names of files can be. -/
theorem fits_manifest (hcount : img.layers.length ≤ maxLayers)
    (hnames : ∀ file ∈ img.fileNames, Nameable dir file) : img.manifest.Fits where
  magic := by
    show (encodeUtf8 Manifest.expectedMagic).length < _
    decide
  count := by
    show (img.layers.mapIdx _).length < _
    rw [List.length_mapIdx]
    exact Nat.lt_of_le_of_lt hcount (by decide)
  layers := by
    intro r hr
    obtain ⟨i, hi⟩ := List.mem_iff_getElem?.1 hr
    unfold manifest at hi
    rw [List.getElem?_mapIdx, Option.map_eq_some_iff] at hi
    obtain ⟨l, hl, rfl⟩ := hi
    -- the file has a short name, and the name of its layer is a part of it
    have hfile : (layerFileName i l.name).utf8ByteSize ≤ maxNameLength :=
      (hnames _ (mem_fileNames.2 ⟨i, l, hl, rfl⟩)).2.2
    have hname := utf8ByteSize_le_layerFileName i l.name
    have hlimit : maxNameLength < byteLimit 8 := by decide
    refine ⟨?_, ?_⟩
    · rw [length_encodeUtf8]
      exact Nat.lt_of_le_of_lt (Nat.le_trans hname hfile) hlimit
    · rw [length_encodeUtf8]
      exact Nat.lt_of_le_of_lt hfile hlimit

end LayeredImage

/-! ## 2. The files that an earlier manifest lists -/

/-- Making a directory changes nothing else, and nothing inside it. -/
theorem entry?_of_entered {fs before : FileStore} {loc loc' : Location}
    (h : before = fs ∨ fs.entry? loc = none ∧ before = fs.put loc .directory) (hne : loc' ≠ loc) :
    before.entry? loc' = fs.entry? loc' := by
  rcases h with rfl | ⟨hnone, rfl⟩
  · rfl
  · have hroot : loc ≠ [] := by
      rintro rfl
      -- the root has an entry
      cases hnone
    rw [entry?_put fs hroot, if_neg hne]

section Formats

variable [ManifestFormat]

/-- The layer files that the manifest in the directory `dir` lists, if there is one. -/
def FileStore.listedFiles (fs : FileStore) (dir : Path) : List String :=
  match fs.locate dir with
  | .error _ => []
  | .ok loc =>
    match fs.entry? (loc ++ [Manifest.fileName]) with
    | some (.file content) =>
      match ManifestFormat.decode content with
      | .ok m => m.layers.map (·.file)
      | .error _ => []
    | _ => []

theorem FileStore.HoldsManifest.listedFiles_eq {fs : FileStore} {dir : Path} {loc : Location}
    {m : Manifest} (h : fs.HoldsManifest dir loc m) (hloc : fs.locate dir = .ok loc) :
    fs.listedFiles dir = m.layers.map (·.file) := by
  obtain ⟨content, hfile, -, hdecode⟩ := h
  unfold listedFiles
  rw [hloc]
  dsimp only
  rw [hfile.2]
  dsimp only
  rw [hdecode]

theorem listedFiles_eq_nil {fs : FileStore} {dir : Path} {loc : Location}
    (hloc : fs.locate dir = .ok loc) (hnone : fs.entry? (loc ++ [Manifest.fileName]) = none) :
    fs.listedFiles dir = [] := by
  unfold listedFiles
  rw [hloc]
  dsimp only
  rw [hnone]

theorem FileStore.HoldsManifest.of_entered {fs before : FileStore} {dir : Path} {loc : Location}
    {m : Manifest} (h : before.HoldsManifest dir loc m)
    (hbefore : before = fs ∨ fs.entry? loc = none ∧ before = fs.put loc .directory) :
    fs.HoldsManifest dir loc m := by
  obtain ⟨content, ⟨hname, hentry⟩, hm⟩ := h
  rw [entry?_of_entered hbefore (location_ne_self loc _)] at hentry
  exact ⟨content, ⟨hname, hentry⟩, hm⟩

/-- What a save counts among its own files are the plain names that the earlier manifest lists. -/
theorem mem_own_iff {fs before : FileStore} {dir : Path} {loc : Location} {own : List String}
    (hloc : fs.locate dir = .ok loc)
    (hbefore : before = fs ∨ fs.entry? loc = none ∧ before = fs.put loc .directory)
    (hown : (∃ m, before.HoldsManifest dir loc m ∧ own = m.plainFiles) ∨
      before.pathExists (dir.join Manifest.fileName) = false ∧ own = [])
    (hd : DirectoryAt before dir loc) (hname : Nameable dir Manifest.fileName) {file : String} :
    file ∈ own ↔ file ∈ fs.listedFiles dir ∧ isPlainFileName file = true := by
  rcases hown with ⟨m, hm, rfl⟩ | ⟨hnot, rfl⟩
  · rw [(hm.of_entered hbefore).listedFiles_eq hloc]
    exact List.mem_filter
  · have hnone : fs.entry? (loc ++ [Manifest.fileName]) = none := by
      rw [← entry?_of_entered hbefore (location_ne_self loc _)]
      by_contra hthere
      rw [(pathExists_join hd isPlainFileName_manifest).2 ⟨hname, hthere⟩] at hnot
      cases hnot
    rw [listedFiles_eq_nil hloc hnone]
    simp

/-- A save counts the manifest among its own files exactly if the manifest lists itself. -/
theorem manifest_mem_own_iff {fs before : FileStore} {dir : Path} {loc : Location}
    {own : List String} (hloc : fs.locate dir = .ok loc)
    (hbefore : before = fs ∨ fs.entry? loc = none ∧ before = fs.put loc .directory)
    (hown : (∃ m, before.HoldsManifest dir loc m ∧ own = m.plainFiles) ∨
      before.pathExists (dir.join Manifest.fileName) = false ∧ own = [])
    (hd : DirectoryAt before dir loc) (hname : Nameable dir Manifest.fileName) :
    Manifest.fileName ∈ own ↔ Manifest.fileName ∈ fs.listedFiles dir := by
  rw [mem_own_iff hloc hbefore hown hd hname]
  exact and_iff_left isPlainFileName_manifest

/-! ## 3. Loading after saving -/

variable [PictureCodec]

namespace LayeredImage

variable {img : LayeredImage} {dir : Path} {loc : Location} {own : List String}
  {before after : FileStore}

/-- A layer file is spared by the removal, and it is not the manifest. -/
theorem Saved.entry?_layer (h : img.Saved dir loc own before after) {i : Nat} {l : Layer}
    (hl : img.layers[i]? = some l) :
    after.entry? (loc ++ [layerFileName i l.name]) = some (.file (PictureCodec.png l.grid)) := by
  rw [h.entry?_eq, if_neg, if_neg, entry?_putFiles_of_mem]
  · rw [names_layerFiles]
    exact fileNames_nodup img
  · exact mem_layerFiles.2 ⟨i, l, hl, rfl⟩
  · rw [location_inj]
    exact layerFileName_ne_manifest i l.name
  · rintro ⟨file, -, hnot, heq⟩
    rw [location_inj] at heq
    exact hnot (heq ▸ mem_fileNames.2 ⟨i, l, hl, rfl⟩)

theorem Saved.entry?_manifest (h : img.Saved dir loc own before after)
    (hown : Manifest.fileName ∉ own) :
    after.entry? (loc ++ [Manifest.fileName]) =
      some (.file (ManifestFormat.encode img.manifest)) := by
  rw [h.entry?_eq, if_neg, if_pos rfl]
  rintro ⟨file, hm, -, heq⟩
  rw [location_inj] at heq
  exact hown (heq ▸ hm)

theorem Saved.holdsPicture (h : img.Saved dir loc own before after) {i : Nat} {l : Layer}
    (hl : img.layers[i]? = some l) :
    after.HoldsPicture dir loc (layerFileName i l.name) l.grid :=
  ⟨PictureCodec.png l.grid, ⟨h.nameable _ (mem_fileNames.2 ⟨i, l, hl, rfl⟩), h.entry?_layer hl⟩,
    gridOf?_png l.grid⟩

theorem Saved.holdsManifest (h : img.Saved dir loc own before after)
    (hown : Manifest.fileName ∉ own) : after.HoldsManifest dir loc img.manifest := by
  refine ⟨ManifestFormat.encode img.manifest, ⟨h.manifest_nameable, h.entry?_manifest hown⟩, ?_, ?_⟩
  · have hmagic := ManifestFormat.hasMagic_encode (m := img.manifest) rfl []
    rw [List.append_nil] at hmagic
    exact hmagic
  · have hdecode := ManifestFormat.decode_encode (fits_manifest h.count_le h.nameable) []
    rw [List.append_nil] at hdecode
    exact hdecode

theorem Saved.holdsStack (h : img.Saved dir loc own before after) :
    after.HoldsStack dir loc img.manifest img where
  width_eq := toNat_ofNat_side img.extent.width_le
  height_eq := toNat_ofNat_side img.extent.height_le
  count_le := by
    show (img.layers.mapIdx _).length ≤ _
    rw [List.length_mapIdx]
    exact h.count_le
  layers := by
    show List.Forall₂ _ (img.layers.mapIdx _) img.layers
    apply List.forall₂_of_length_eq_of_get List.length_mapIdx
    intro i hi hi'
    rw [List.get_eq_getElem, List.get_eq_getElem, List.getElem_mapIdx]
    have hl : img.layers[i]? = some img.layers[i] := List.getElem?_eq_getElem hi'
    exact ⟨rfl, rfl, isPlainFileName_layerFileName i (img.layers[i]).name_valid, h.holdsPicture hl⟩

end LayeredImage

/-- A stack that has been saved is loaded back as it was, with its size, its layers in their order,
and all pixels, if and only if no manifest that was in the directory before lists the manifest
itself as a layer file.  If one does, the save succeeds and leaves no manifest in the directory. -/
theorem load_save_iff_manifest_not_listed {img : LayeredImage} {dir : Path} {maxDimension : Nat}
    {fs fs' : FileStore} (hsave : Yields (img.save dir) fs () fs')
    (hwidth : img.width ≤ maxDimension) (hheight : img.height ≤ maxDimension) :
    (Yields (LayeredImage.load dir maxDimension) fs' img fs' ↔
      Manifest.fileName ∉ fs.listedFiles dir) ∧
    (Manifest.fileName ∈ fs.listedFiles dir →
      Fails (LayeredImage.load dir maxDimension) fs'
        (.refused (.noManifest dir.text Manifest.fileName)) fs') := by
  obtain ⟨loc, before, own, ⟨hloc, hbefore⟩, hown, hd, hsaved⟩ := LayeredImage.saved_of_save hsave
  have hlisted := manifest_mem_own_iff hloc hbefore hown hd hsaved.manifest_nameable
  have hfails : Manifest.fileName ∈ fs.listedFiles dir →
      Fails (LayeredImage.load dir maxDimension) fs'
        (.refused (.noManifest dir.text Manifest.fileName)) fs' := by
    intro hmem
    apply fails_load_of_no_manifest hsaved.directory
    rw [hsaved.entry?_eq, if_pos]
    -- the manifest is no layer file of the new stack, so the removal takes it
    exact ⟨_, hlisted.2 hmem, img.manifest_not_mem_fileNames, rfl⟩
  refine ⟨⟨?_, ?_⟩, hfails⟩
  · intro hload hmem
    exact hload.not_fails (hfails hmem)
  · intro hnot
    refine (yields_load hsaved.directory).2 ⟨rfl, ⟨hwidth, hheight⟩, img.manifest, ?_, ?_⟩
    · exact hsaved.holdsManifest fun hm => hnot (hlisted.1 hm)
    · exact hsaved.holdsStack

end Formats

/-! ## 4. Two saves -/

/-- A stack of one layer of one pixel. -/
def oneLayer (g : LayeredImage.Fitting (.blank .single)) : LayeredImage :=
  (LayeredImage.blank .single).pushFront ⟨"a", by decide, by decide⟩ g true

/-- A stack of one white layer. -/
def whiteLayer : LayeredImage := oneLayer ⟨.single, rfl⟩

/-- A file store with nothing in it. -/
def bareStore : FileStore := ⟨∅, [], none⟩

/-- A directory `d` with nothing but a manifest, which lists itself as the file of a layer. -/
def selfListing : FileStore :=
  (bareStore.put ["d"] .directory).put ["d", "manifest.pgl"]
    (.file (Manifest.encode ⟨"PGL1", 1, 1, [⟨"a", true, "manifest.pgl"⟩]⟩))

theorem yields_save_bareStore : Yields (whiteLayer.save ⟨"d"⟩) bareStore ()
    (outcome (whiteLayer.save ⟨"d"⟩) bareStore).2 := by
  apply yields_of_outcome
  decide +kernel

theorem yields_save_selfListing : Yields (whiteLayer.save ⟨"d"⟩) selfListing ()
    (outcome (whiteLayer.save ⟨"d"⟩) selfListing).2 := by
  apply yields_of_outcome
  decide +kernel

theorem load_save_whiteLayer :
    (Yields (LayeredImage.load ⟨"d"⟩ 1) (outcome (whiteLayer.save ⟨"d"⟩) bareStore).2 whiteLayer
      (outcome (whiteLayer.save ⟨"d"⟩) bareStore).2) ∧
    Fails (LayeredImage.load ⟨"d"⟩ 1) (outcome (whiteLayer.save ⟨"d"⟩) selfListing).2
      (.refused (.noManifest "d" "manifest.pgl"))
      (outcome (whiteLayer.save ⟨"d"⟩) selfListing).2 := by
  have hside : whiteLayer.width ≤ 1 ∧ whiteLayer.height ≤ 1 := by decide
  constructor
  · have hfresh : Manifest.fileName ∉ bareStore.listedFiles ⟨"d"⟩ := by decide +kernel
    exact (load_save_iff_manifest_not_listed yields_save_bareStore hside.1 hside.2).1.2 hfresh
  · have hlisted : Manifest.fileName ∈ selfListing.listedFiles ⟨"d"⟩ := by decide +kernel
    exact (load_save_iff_manifest_not_listed yields_save_selfListing hside.1 hside.2).2 hlisted

/-- Not every save that succeeds can be loaded. -/
theorem exists_save_without_load : ∃ (img : LayeredImage) (dir : Path) (fs fs' : FileStore),
    Yields (img.save dir) fs () fs' ∧ img.width ≤ 1 ∧ img.height ≤ 1 ∧
      ∀ img' fs'', ¬ Yields (LayeredImage.load dir 1) fs' img' fs'' := by
  refine ⟨whiteLayer, ⟨"d"⟩, selfListing, _, yields_save_selfListing, by decide, by decide, ?_⟩
  intro img' fs'' hload
  have hfails : (outcome (LayeredImage.load ⟨"d"⟩ 1)
      (outcome (whiteLayer.save ⟨"d"⟩) selfListing).2).1 =
      .error (.refused (.noManifest "d" "manifest.pgl")) := by decide +kernel
  exact hload.not_fails (fails_of_outcome hfails)

end RasterScript
