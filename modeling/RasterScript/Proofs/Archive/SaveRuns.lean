import RasterScript.Proofs.Archive.SaveFrame

/-!
# SaveRuns — many saves into one directory

Calls of a save that succeed or are refused, one after the other, into a directory that had no
manifest at first.  After each of them the directory holds what it held at first and, beside that,
the files of the last stack that was saved and nothing of the stacks before it (`StandsBeside`).

What carries this from one save to the next is that the manifest lists exactly the layer files that
are there, and that no file that was there at first is among them.
-/

namespace RasterScript

open FileStore

variable {fs₀ fs fs' : FileStore} {dir : Path} {loc : Location} {img : LayeredImage}
  {files : List String}

/-! ## 1. One save -/

/-- The names of all files of a saved stack. -/
def LayeredImage.savedNames (img : LayeredImage) : List String :=
  Manifest.fileName :: img.fileNames

theorem LayeredImage.map_file_manifest (img : LayeredImage) :
    img.manifest.layers.map (·.file) = img.fileNames := by
  apply List.ext_getElem?
  intro i
  unfold manifest
  rw [List.getElem?_map, List.getElem?_mapIdx, getElem?_fileNames, Option.map_map]
  rfl

/-- The files that the earlier manifest lists have given way to those of the stack. -/
structure LayeredImage.Replaces [ManifestFormat] (img : LayeredImage) (dir : Path) (loc : Location)
    (fs fs' : FileStore) : Prop where
  located : fs.locate dir = .ok loc
  listed_or_new : ∀ file ∈ img.fileNames,
    file ∈ fs.listedFiles dir ∨ fs.entry? (loc ++ [file]) = none
  stale : ∀ file ∈ fs.listedFiles dir, isPlainFileName file = true → file ∉ img.savedNames →
    fs'.entry? (loc ++ [file]) = none
  other : ∀ loc', loc' ≠ loc →
    (∀ file ∈ fs.listedFiles dir ++ img.savedNames, loc' ≠ loc ++ [file]) →
      fs'.entry? loc' = fs.entry? loc'

section Formats

variable [PictureCodec] [ManifestFormat]

/-- The directory holds the stack: its files are there, the manifest lists the layer files, and
loading gives the stack. -/
structure LayeredImage.StandsIn (img : LayeredImage) (dir : Path) (loc : Location)
    (fs : FileStore) : Prop where
  directory : DirectoryAt fs dir loc
  manifest :
    fs.entry? (loc ++ [Manifest.fileName]) = some (.file (ManifestFormat.encode img.manifest))
  layers : ∀ i l, img.layers[i]? = some l →
    fs.entry? (loc ++ [layerFileName i l.name]) = some (.file (PictureCodec.png l.grid))
  listed : fs.listedFiles dir = img.fileNames
  loads : ∀ maxDimension, img.width ≤ maxDimension → img.height ≤ maxDimension →
    Yields (LayeredImage.load dir maxDimension) fs img fs

/-- A save fails before it has changed anything, or passes all checks; from then on it stays inside
its directory, and only the file store can have something against it. -/
theorem save_cases {r : Except Failure Unit} (hr : fs.Rooted)
    (h : outcome (img.save dir) fs = (r, fs')) : (∃ f, r = .error f) ∧ fs' = fs ∨
      ∃ loc own before, img.Admitted dir loc own fs before ∧
        ChangedIn dir loc (img.Touches dir own) before fs' ∧
        ∀ f, r = .error f → ∃ fault, f = .file fault := by
  unfold LayeredImage.save at h
  rcases outcome_saveOn hr .sound img dir with ⟨f, hfails⟩ | ⟨loc, own, before, hadmitted, hgoes⟩
  · rw [hfails] at h
    cases h
    exact .inl ⟨⟨f, rfl⟩, rfl⟩
  · have hconfined := confined_putInto .sound dir loc img
      (fun file hm => (hadmitted.own_listed file hm).1) before hadmitted.directory hadmitted.rooted
    rw [← hgoes, h] at hconfined
    obtain ⟨hchanged, hcause⟩ := hconfined
    exact .inr ⟨loc, own, before, hadmitted, hchanged,
      fun f hf => (hcause f hf).2 Disk.roomy_sound⟩

theorem rooted_of_save {r : Except Failure Unit} (hr : fs.Rooted)
    (h : outcome (img.save dir) fs = (r, fs')) : fs'.Rooted := by
  rcases save_cases hr h with ⟨-, rfl⟩ | ⟨loc, own, before, -, hchanged, -⟩
  · exact hr
  · exact hchanged.rooted

theorem unchanged_of_refused (hr : fs.Rooted) {c : Refusal}
    (h : Fails (img.save dir) fs (.refused c) fs') : fs' = fs := by
  rcases save_cases hr h with ⟨-, hsame⟩ | ⟨loc, own, before, -, -, hcause⟩
  · exact hsame
  · obtain ⟨fault, hfault⟩ := hcause _ rfl
    cases hfault

/-- A layer file of a save that succeeded was listed by the earlier manifest, or new. -/
theorem listed_or_new_of_save (hr : fs.Rooted) (h : Yields (img.save dir) fs () fs')
    (hloc : fs.locate dir = .ok loc) {file : String} (hm : file ∈ img.fileNames)
    (hname : Nameable dir file) :
    file ∈ fs.listedFiles dir ∨ fs.entry? (loc ++ [file]) = none := by
  rcases save_cases hr h with ⟨⟨f, hf⟩, -⟩ | ⟨loc', own, before, hadmitted, -, -⟩
  · cases hf
  · obtain rfl : loc' = loc := Except.ok.inj (hadmitted.located.symm.trans hloc)
    rcases hadmitted.cases_of_touches ⟨hname, .inr (.inr hm)⟩ with
      rfl | ⟨-, hlisted⟩ | ⟨-, hnone⟩
    · exact absurd hm img.manifest_not_mem_fileNames
    · exact .inl hlisted
    · exact .inr hnone

theorem LayeredImage.Saved.standsIn {own : List String} {before after : FileStore}
    (h : img.Saved dir loc own before after) (hown : Manifest.fileName ∉ own) :
    img.StandsIn dir loc after where
  directory := h.directory
  manifest := h.entry?_manifest hown
  layers := fun _ _ hl => h.entry?_layer hl
  listed := by
    rw [(h.holdsManifest hown).listedFiles_eq h.directory.located, img.map_file_manifest]
  loads := fun _ hw hh => (yields_load h.directory).2
    ⟨rfl, ⟨hw, hh⟩, img.manifest, h.holdsManifest hown, h.holdsStack⟩

/-- What a save has done that succeeded, where no earlier manifest lists the manifest itself. -/
theorem replaces_of_save (hr : fs.Rooted) (hnot : Manifest.fileName ∉ fs.listedFiles dir)
    (h : Yields (img.save dir) fs () fs') :
    ∃ loc, img.Replaces dir loc fs fs' ∧ img.StandsIn dir loc fs' := by
  obtain ⟨loc, before, own, ⟨hloc, hentered⟩, hown, hd, hsaved⟩ := LayeredImage.saved_of_save h
  have hmine : ∀ file, file ∈ own ↔ file ∈ fs.listedFiles dir ∧ isPlainFileName file = true :=
    fun file => mem_own_iff hloc hentered hown hd hsaved.manifest_nameable
  have hmanifest : Manifest.fileName ∉ own := fun hm => hnot ((hmine _).1 hm).1
  refine ⟨loc, ⟨hloc, ?_, ?_, ?_⟩, hsaved.standsIn hmanifest⟩
  · intro file hm
    exact listed_or_new_of_save hr h hloc hm (hsaved.nameable file hm)
  · intro file hlisted hplain hfile
    rw [hsaved.entry?_eq, if_pos]
    exact ⟨file, (hmine file).2 ⟨hlisted, hplain⟩, fun hm => hfile (List.mem_cons_of_mem _ hm), rfl⟩
  · intro loc' hne hall
    obtain ⟨hlisted, hsavedNames⟩ := List.forall_mem_append.1 hall
    obtain ⟨hnotManifest, hlayers⟩ := List.forall_mem_cons.1 hsavedNames
    rw [hsaved.entry?_eq, if_neg, if_neg hnotManifest, entry?_putFiles_other,
      entry?_of_entered hentered hne]
    · intro name content hm
      apply hlayers
      rw [← img.names_layerFiles]
      exact List.mem_map_of_mem hm
    · rintro ⟨file, hm, -, heq⟩
      exact hlisted file ((hmine file).1 hm).1 heq

end Formats

/-! ## 2. What was there at first -/

/-- The files named so are new in `fs`, and everything else, the directory itself apart, is as it
was in `fs₀`. -/
structure Beside (fs₀ fs : FileStore) (loc : Location) (files : List String) : Prop where
  new : ∀ file ∈ files, fs₀.entry? (loc ++ [file]) = none
  other : ∀ loc', loc' ≠ loc → (∀ file ∈ files, loc' ≠ loc ++ [file]) →
    fs.entry? loc' = fs₀.entry? loc'

theorem beside_refl (fs : FileStore) (loc : Location) : Beside fs fs loc [] :=
  ⟨fun _ hm => absurd hm List.not_mem_nil, fun _ _ _ => rfl⟩

/-- Where the files of an earlier save are the listed ones and the manifest, a save leaves those of
its own in their place. -/
theorem LayeredImage.Replaces.beside [ManifestFormat] (h : img.Replaces dir loc fs fs')
    (hbeside : Beside fs₀ fs loc files)
    (hlisted : ∀ file ∈ fs.listedFiles dir, isPlainFileName file = true ∧ file ∈ files)
    (hfiles : ∀ file ∈ files, file = Manifest.fileName ∨ file ∈ fs.listedFiles dir)
    (hfresh : fs₀.entry? (loc ++ [Manifest.fileName]) = none) :
    Beside fs₀ fs' loc img.savedNames where
  new := by
    intro file hm
    rcases List.mem_cons.1 hm with rfl | hm
    · exact hfresh
    · by_cases hearlier : file ∈ files
      · exact hbeside.new file hearlier
      · rcases h.listed_or_new file hm with hmine | hnone
        · exact absurd (hlisted file hmine).2 hearlier
        · rwa [hbeside.other _ (location_ne_self loc file)] at hnone
          intro other hother heq
          exact hearlier (location_inj.1 heq ▸ hother)
  other := by
    intro loc' hne hall
    by_cases hstale : ∃ file ∈ fs.listedFiles dir, loc' = loc ++ [file]
    · -- a file of an earlier save, which was not there at first and is gone
      obtain ⟨file, hm, rfl⟩ := hstale
      obtain ⟨hplain, hmine⟩ := hlisted file hm
      rw [h.stale file hm hplain fun hsaved => hall file hsaved rfl, hbeside.new file hmine]
    · have hunlisted : ∀ file ∈ fs.listedFiles dir, loc' ≠ loc ++ [file] :=
        fun file hm heq => hstale ⟨file, hm, heq⟩
      rw [h.other loc' hne (List.forall_mem_append.2 ⟨hunlisted, hall⟩)]
      apply hbeside.other loc' hne
      intro file hm
      rcases hfiles file hm with rfl | hm
      · exact hall _ List.mem_cons_self
      · exact hunlisted file hm

/-! ## 3. Runs -/

theorem listedFiles_of_fresh [ManifestFormat]
    (hfresh : ∀ loc, fs.locate dir = .ok loc → fs.entry? (loc ++ [Manifest.fileName]) = none) :
    fs.listedFiles dir = [] := by
  cases hloc : fs.locate dir with
  | ok loc => exact listedFiles_eq_nil hloc (hfresh loc hloc)
  | error fault =>
    unfold listedFiles
    rw [hloc]

section Formats

variable [PictureCodec] [ManifestFormat]

/-- Saves into `dir` one after the other, begun in `fs₀`, each of which succeeds or is refused; the
stack is the last one that was saved. -/
inductive SaveRun (dir : Path) (fs₀ : FileStore) : Option LayeredImage → FileStore → Prop
  | start : SaveRun dir fs₀ none fs₀
  | saved {last : Option LayeredImage} {fs fs' : FileStore} {img : LayeredImage}
      (h : SaveRun dir fs₀ last fs) (hsave : Yields (img.save dir) fs () fs') :
      SaveRun dir fs₀ (some img) fs'
  | refused {last : Option LayeredImage} {fs fs' : FileStore} {img : LayeredImage} {c : Refusal}
      (h : SaveRun dir fs₀ last fs) (hsave : Fails (img.save dir) fs (.refused c) fs') :
      SaveRun dir fs₀ last fs'

/-- The last stack that was saved stands in the directory, beside what was there at first. -/
structure StandsBeside (fs₀ fs : FileStore) (dir : Path) (loc : Location) (img : LayeredImage) :
    Prop extends img.StandsIn dir loc fs where
  located : fs₀.locate dir = .ok loc
  beside : Beside fs₀ fs loc img.savedNames

/-- What every run keeps. -/
structure SaveInvariant (dir : Path) (fs₀ : FileStore) (last : Option LayeredImage)
    (fs : FileStore) : Prop where
  rooted : fs.Rooted
  unsaved : last = none → fs = fs₀
  saved : ∀ img, last = some img → ∃ loc, StandsBeside fs₀ fs dir loc img

namespace SaveInvariant

variable {last : Option LayeredImage}

theorem listed (h : SaveInvariant dir fs₀ last fs)
    (hfresh : ∀ loc, fs₀.locate dir = .ok loc → fs₀.entry? (loc ++ [Manifest.fileName]) = none) :
    fs.listedFiles dir = last.elim [] LayeredImage.fileNames := by
  cases last with
  | none =>
    rw [h.unsaved rfl]
    exact listedFiles_of_fresh hfresh
  | some img =>
    obtain ⟨loc, hstands⟩ := h.saved img rfl
    exact hstands.listed

theorem beside (h : SaveInvariant dir fs₀ last fs) (hloc : fs.locate dir = .ok loc) :
    fs₀.locate dir = .ok loc ∧ Beside fs₀ fs loc (last.elim [] LayeredImage.savedNames) := by
  cases last with
  | none =>
    rw [h.unsaved rfl] at hloc ⊢
    exact ⟨hloc, beside_refl fs₀ loc⟩
  | some img =>
    obtain ⟨loc', hstands⟩ := h.saved img rfl
    obtain rfl : loc' = loc := Except.ok.inj (hstands.directory.located.symm.trans hloc)
    exact ⟨hstands.located, hstands.beside⟩

theorem start (hrooted : fs₀.Rooted) : SaveInvariant dir fs₀ none fs₀ :=
  ⟨hrooted, fun _ => rfl, fun _ h => by cases h⟩

theorem step_saved (h : SaveInvariant dir fs₀ last fs)
    (hfresh : ∀ loc, fs₀.locate dir = .ok loc → fs₀.entry? (loc ++ [Manifest.fileName]) = none)
    (hsave : Yields (img.save dir) fs () fs') : SaveInvariant dir fs₀ (some img) fs' := by
  have hlisted := h.listed hfresh
  have hplain : ∀ file ∈ fs.listedFiles dir,
      isPlainFileName file = true ∧ file ∈ last.elim [] LayeredImage.savedNames := by
    rw [hlisted]
    cases last with
    | none => exact fun _ hm => absurd hm List.not_mem_nil
    | some old =>
      exact fun _ hm => ⟨LayeredImage.isPlainFileName_of_mem hm, List.mem_cons_of_mem _ hm⟩
  have hfiles : ∀ file ∈ last.elim [] LayeredImage.savedNames,
      file = Manifest.fileName ∨ file ∈ fs.listedFiles dir := by
    rw [hlisted]
    cases last with
    | none => exact fun _ hm => absurd hm List.not_mem_nil
    | some old => exact fun _ hm => List.mem_cons.1 hm
  have hnot : Manifest.fileName ∉ fs.listedFiles dir := by
    rw [hlisted]
    cases last with
    | none => exact List.not_mem_nil
    | some old => exact old.manifest_not_mem_fileNames
  obtain ⟨loc, hreplaces, hstands⟩ := replaces_of_save h.rooted hnot hsave
  obtain ⟨hloc, hbeside⟩ := h.beside hreplaces.located
  have hstandsBeside : StandsBeside fs₀ fs' dir loc img :=
    ⟨hstands, hloc, hreplaces.beside hbeside hplain hfiles (hfresh loc hloc)⟩
  refine ⟨rooted_of_save h.rooted hsave, fun hnone => absurd hnone (by simp), ?_⟩
  intro other heq
  exact ⟨loc, Option.some.inj heq ▸ hstandsBeside⟩

theorem step_refused (h : SaveInvariant dir fs₀ last fs) {c : Refusal}
    (hsave : Fails (img.save dir) fs (.refused c) fs') : SaveInvariant dir fs₀ last fs' := by
  rw [unchanged_of_refused h.rooted hsave]
  exact h

end SaveInvariant

/-- However many saves into a directory that had no manifest succeed or are refused, the directory
holds just the last stack that was saved, beside what was there at first, and loading gives this
stack.  Before a first stack has been saved, nothing has changed. -/
theorem stands_beside_after_saves {last : Option LayeredImage} (hrooted : fs₀.Rooted)
    (hfresh : ∀ loc, fs₀.locate dir = .ok loc → fs₀.entry? (loc ++ [Manifest.fileName]) = none)
    (hrun : SaveRun dir fs₀ last fs) :
    (last = none → fs = fs₀) ∧
    ∀ img, last = some img → ∃ loc, StandsBeside fs₀ fs dir loc img := by
  have hinvariant : SaveInvariant dir fs₀ last fs := by
    induction hrun with
    | start => exact .start hrooted
    | saved _ hsave ih => exact ih.step_saved hfresh hsave
    | refused _ hsave ih => exact ih.step_refused hsave
  exact ⟨hinvariant.unsaved, hinvariant.saved⟩

end Formats

/-! ## 4. A stack that is refused, and one that shrinks -/

/-- A directory `d` with a file of a name that layer files can have. -/
def foreignStore : FileStore :=
  (bareStore.put ["d"] .directory).put ["d", "1-top.png"] (.file [2])

theorem rooted_foreignStore : foreignStore.Rooted := by
  have hd : (bareStore.put ["d"] .directory).Rooted :=
    @Rooted.put _ [] "d" rooted_bareStore (by decide) (by decide) _
  exact @Rooted.put _ ["d"] "1-top.png" hd (by decide) (by decide) _

theorem extent_whiteLayer : whiteLayer.extent = Grid.single.extent := rfl

/-- A stack whose second layer has the file that is there. -/
def twoLayers : LayeredImage :=
  whiteLayer.pushBack ⟨"top", by decide, by decide⟩ ⟨.single, extent_whiteLayer.symm⟩ true

theorem stands_beside_after_saves_foreignStore : ∃ fs,
    SaveRun ⟨"d"⟩ foreignStore (some (.blank .single)) fs ∧
      fs.entry? ["d", "1-top.png"] = some (.file [2]) ∧ fs.entry? ["d", "0-a.png"] = none ∧
      Yields (LayeredImage.load ⟨"d"⟩ 1) fs (.blank .single) fs := by
  let fs₁ := (outcome (whiteLayer.save ⟨"d"⟩) foreignStore).2
  let fs₂ := (outcome (twoLayers.save ⟨"d"⟩) fs₁).2
  let fs₃ := (outcome ((LayeredImage.blank .single).save ⟨"d"⟩) fs₂).2
  have hwhite : (outcome (whiteLayer.save ⟨"d"⟩) foreignStore).1 = .ok () := by decide +kernel
  have htwo : (outcome (twoLayers.save ⟨"d"⟩) fs₁).1 =
      .error (.refused (.foreignFile "d/1-top.png")) := by decide +kernel
  have hblank : (outcome ((LayeredImage.blank .single).save ⟨"d"⟩) fs₂).1 = .ok () := by
    decide +kernel
  have hrun : SaveRun ⟨"d"⟩ foreignStore (some (.blank .single)) fs₃ :=
    .saved (.refused (.saved .start (yields_of_outcome hwhite)) (fails_of_outcome htwo))
      (yields_of_outcome hblank)
  have hlocated : foreignStore.locate ⟨"d"⟩ = .ok ["d"] := by decide +kernel
  have hfresh : ∀ loc, foreignStore.locate ⟨"d"⟩ = .ok loc →
      foreignStore.entry? (loc ++ [Manifest.fileName]) = none := by
    intro loc hloc
    obtain rfl : ["d"] = loc := Except.ok.inj (hlocated.symm.trans hloc)
    decide +kernel
  obtain ⟨loc, hstands⟩ :=
    (stands_beside_after_saves rooted_foreignStore hfresh hrun).2 _ rfl
  obtain rfl : ["d"] = loc := Except.ok.inj (hlocated.symm.trans hstands.located)
  refine ⟨fs₃, hrun, ?_, ?_, hstands.loads 1 (by decide) (by decide)⟩
  · rw [hstands.beside.other ["d", "1-top.png"] (by decide) (by decide)]
    decide +kernel
  · rw [hstands.beside.other ["d", "0-a.png"] (by decide) (by decide)]
    decide +kernel

end RasterScript
