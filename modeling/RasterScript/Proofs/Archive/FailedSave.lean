import RasterScript.Proofs.Archive.CutManifest
import RasterScript.Proofs.Archive.RoundTrip

/-!
# FailedSave — what a save that fails has done to the stack saved before

A save replaces files where they are, one after the other, and undoes nothing.  A save that fails
has stopped somewhere (`SaveStop`): in a check, and nothing has happened; at a file, and the ones
before it are those of the new stack; or at the removal of a file, and all files are.  What it
leaves there is a store that can be computed (`SaveStop.left`), and whether the stack that could be
loaded before can still be loaded is a condition on the place and on the two stacks
(`SaveStop.Spares`).
-/

namespace RasterScript

open FileStore

variable {disk : Disk} {fs fs' : FileStore} {dir : Path} {loc : Location} {m : Manifest}

/-! ## 1. Where a save stops -/

/-- Where a save stops that fails. -/
inductive SaveStop
  /-- Before any file is touched. -/
  | check
  /-- At file number `k`, the manifest being the last one; `part` of its bytes have been written, or
  it has not been opened. -/
  | writing (k : Nat) (part : Option Nat)
  /-- At a removal, when the files `gone` have been removed. -/
  | removing (gone : List String)

theorem nodup_eraseDups : (names : List String) → names.eraseDups.Nodup
  | [] => List.nodup_nil
  | name :: names => by
    have hrest := nodup_eraseDups (names.filter fun other => !other == name)
    rw [List.eraseDups_cons, List.nodup_cons, List.mem_eraseDups, List.mem_filter]
    exact ⟨by simp, hrest⟩
termination_by names => names.length
decreasing_by exact Nat.lt_succ_of_le (List.length_filter_le _ _)

/-- The failure when file number `k` ends early. -/
def LayeredImage.complaint (img : LayeredImage) (k : Nat) : Shortage → Failure :=
  if k < img.layers.length then pictureComplaint else manifestComplaint

section Formats

variable [PictureCodec] [ManifestFormat]

namespace SaveStop

/-- The store that a save of `img` into the directory at `loc` leaves there. -/
def left (img : LayeredImage) (loc : Location) (fs : FileStore) : SaveStop → FileStore
  | .check => fs
  | .writing k part => fs.putFiles loc (arrived img.savedFiles k part)
  | .removing gone => (fs.putFiles loc img.savedFiles).unlinkFiles loc gone

/-- Why a save of `img` over a stack with the manifest `m` stops there.  The order in which files
are removed does not matter here. -/
def Occurs (disk : Disk) (img : LayeredImage) (m : Manifest) (f : Failure) : SaveStop → Prop
  | .check => (∃ c, f = .refused c) ∨ ∃ fault, f = .file fault
  | .writing k part => ∃ file, img.savedFiles[k]? = some file ∧
      disk.Stops file.2 (img.complaint k) f part
  | .removing gone => (∃ fault, f = .file fault) ∧
      (∀ file ∈ gone, file ∈ m.plainFiles ∧ file ∉ img.fileNames) ∧
      ∃ file ∈ m.plainFiles, file ∉ img.fileNames ∧ file ∉ gone

/-- Nothing of the stack `old` with the manifest `m` is lost there: no file that has arrived is the
manifest, and each that the manifest lists still holds the picture of its layer; once the new
manifest is there, the stacks have to be the same. -/
def Spares (img old : LayeredImage) (m : Manifest) : SaveStop → Prop
  | .check => True
  | .writing k part => ∀ file ∈ arrived img.savedFiles k part, file.1 ≠ Manifest.fileName ∧
      ∀ x ∈ m.layers.zip old.layers, x.1.file = file.1 → gridOf? file.2 = some x.2.grid
  | .removing gone => Manifest.fileName ∉ gone ∧ img = old

/-- The directory when a save of `img` has stopped there. -/
def Reached (img : LayeredImage) (dir : Path) (loc : Location) (before after : FileStore) :
    SaveStop → Prop
  | .check => True
  | .writing k part => img.layers.length ≤ maxLayers ∧ DirectoryAt after dir loc ∧
      ∀ x ∈ arrived img.savedFiles k part, Nameable dir x.1
  | .removing gone => img.Saved dir loc gone before after

end SaveStop

namespace LayeredImage

variable {img : LayeredImage} {k : Nat} {part : Option Nat} {f : Failure}

omit [ManifestFormat] in
theorem length_layerFiles (img : LayeredImage) : img.layerFiles.length = img.layers.length := by
  unfold layerFiles
  rw [List.length_map, length_targets]

theorem arrived_of_lt (hk : k < img.layers.length) (part : Option Nat) :
    arrived img.savedFiles k part = arrived img.layerFiles k part := by
  unfold savedFiles
  rw [arrived_append (by rw [length_layerFiles]; exact hk)]

theorem arrived_manifest (img : LayeredImage) (part : Option Nat) :
    arrived img.savedFiles img.layers.length part =
      img.layerFiles ++ arrived [(Manifest.fileName, ManifestFormat.encode img.manifest)] 0 part
    := by
  unfold savedFiles
  rw [← length_layerFiles, arrived_length]

theorem getElem?_savedFiles_manifest (img : LayeredImage) :
    img.savedFiles[img.layers.length]? =
      some (Manifest.fileName, ManifestFormat.encode img.manifest) := by
  unfold savedFiles
  rw [← length_layerFiles, List.getElem?_append_right (Nat.le_refl _), Nat.sub_self]
  rfl

theorem le_of_getElem?_savedFiles {file : String × Bytes} (h : img.savedFiles[k]? = some file) :
    k ≤ img.layers.length := by
  obtain ⟨hlt, -⟩ := List.getElem?_eq_some_iff.1 h
  unfold savedFiles at hlt
  rw [List.length_append, length_layerFiles] at hlt
  exact Nat.lt_succ_iff.1 hlt

/-- While a layer file is written. -/
theorem exists_stop_of_fails_layers (hd : DirectoryAt fs dir loc)
    (hcount : img.layers.length ≤ maxLayers)
    (h : Fails (img.targets.forM (writeLayer disk dir)) fs f fs') :
    ∃ stop : SaveStop, stop.Occurs disk img m f ∧ fs' = stop.left img loc fs ∧
      stop.Reached img dir loc fs fs' := by
  have hplain : ∀ x ∈ img.targets, isPlainFileName x.2 = true :=
    fun x hx => isPlainFileName_target hx
  obtain ⟨k, part, x, hx, hstops, hfs, hnames, hd'⟩ := fails_writeLayers hd hplain h
  have hfile : img.layerFiles[k]? = some (layerFile x) := by
    unfold layerFiles
    rw [List.getElem?_map, hx]
    rfl
  obtain ⟨hlength, -⟩ := List.getElem?_eq_some_iff.1 hfile
  have hk : k < img.layers.length := by
    rw [← length_layerFiles]
    exact hlength
  rw [show img.targets.map layerFile = img.layerFiles from rfl, ← arrived_of_lt hk] at hfs hnames
  refine ⟨.writing k part, ⟨layerFile x, ?_, ?_⟩, hfs, hcount, hd', hnames⟩
  · unfold savedFiles
    rw [List.getElem?_append_left hlength, hfile]
  · rw [complaint, if_pos hk]
    exact hstops

/-- While the manifest is written. -/
theorem exists_stop_of_fails_manifest (hcount : img.layers.length ≤ maxLayers)
    (hd : DirectoryAt (fs.putFiles loc img.layerFiles) dir loc)
    (hnames : ∀ x ∈ img.layerFiles, Nameable dir x.1)
    (h : Fails (disk.write (dir.join Manifest.fileName) (ManifestFormat.encode img.manifest)
      manifestComplaint) (fs.putFiles loc img.layerFiles) f fs') :
    ∃ stop : SaveStop, stop.Occurs disk img m f ∧ fs' = stop.left img loc fs ∧
      stop.Reached img dir loc fs fs' := by
  obtain ⟨part, hstops, hfs, hname, hd'⟩ :=
    arrived_of_fails_write hd isPlainFileName_manifest h
  have harrived := arrived_manifest img part
  refine ⟨.writing img.layers.length part,
    ⟨(Manifest.fileName, ManifestFormat.encode img.manifest), ?_, ?_⟩, ?_, hcount, hd', ?_⟩
  · exact getElem?_savedFiles_manifest img
  · rw [complaint, if_neg (Nat.lt_irrefl _)]
    exact hstops
  · show fs' = FileStore.putFiles _ _ _
    rw [harrived, putFiles_append]
    exact hfs
  · rw [harrived]
    exact List.forall_mem_append.2 ⟨hnames, hname⟩

/-- While stale files are removed. -/
theorem exists_stop_of_fails_removeStale (hcount : img.layers.length ≤ maxLayers)
    (hd : DirectoryAt (fs.putFiles loc img.savedFiles) dir loc)
    (hnames : ∀ x ∈ img.savedFiles, Nameable dir x.1)
    (h : Fails ((m.plainFiles.eraseDups.filter (· ∉ img.fileNames)).forM (removeStale disk dir))
      (fs.putFiles loc img.savedFiles) f fs') :
    ∃ stop : SaveStop, stop.Occurs disk img m f ∧ fs' = stop.left img loc fs ∧
      stop.Reached img dir loc fs fs' := by
  obtain ⟨hf, gone, next, rest, hstale, hgone⟩ := fails_removeStale_all h
  have hmem : ∀ file ∈ gone ++ next :: rest, file ∈ m.plainFiles ∧ file ∉ img.fileNames := by
    intro file hm
    rw [← hstale] at hm
    obtain ⟨hlisted, hnot⟩ := List.mem_filter.1 hm
    exact ⟨List.mem_eraseDups.1 hlisted, of_decide_eq_true hnot⟩
  have hremoved : ∀ file ∈ gone, file ∈ m.plainFiles ∧ file ∉ img.fileNames :=
    fun file hm => hmem file (List.mem_append_left _ hm)
  have hplain : ∀ file ∈ gone, isPlainFileName file = true ∧ file ∉ img.fileNames :=
    fun file hm => ⟨(List.mem_filter.1 (hremoved file hm).1).2, (hremoved file hm).2⟩
  refine ⟨.removing gone, ⟨hf, hremoved, next, ?_⟩, ?_,
    saved_of_removeStale hcount hd hnames hplain hgone⟩
  · obtain ⟨hlisted, hnot⟩ := hmem next (List.mem_append_right _ List.mem_cons_self)
    refine ⟨hlisted, hnot, ?_⟩
    -- each file is removed once, so the next one is not among those that are gone
    have hnodup := (nodup_eraseDups m.plainFiles).filter (· ∉ img.fileNames)
    rw [hstale] at hnodup
    exact fun hm => (List.nodup_append.1 hnodup).2.2 next hm next List.mem_cons_self rfl
  · exact (yields_removeStale_all hd (fun file hm => (hplain file hm).1) hgone).2.1

/-- Where a manifest can be read, a save that fails has stopped somewhere. -/
theorem exists_stop_of_fails (hd : DirectoryAt fs dir loc) (hm : fs.HoldsManifest dir loc m)
    (h : Fails (img.saveOn disk dir) fs f fs') :
    ∃ stop : SaveStop, stop.Occurs disk img m f ∧ fs' = stop.left img loc fs ∧
      stop.Reached img dir loc fs fs' := by
  rw [saveOn_eq] at h
  -- too many layers
  rcases fails_accept_bind.1 h with ⟨c, -, hf, hfs⟩ | ⟨_, hcount, h₁⟩
  · exact ⟨.check, .inl ⟨c, hf⟩, hfs, trivial⟩
  replace hcount := of_decide_eq_true (require_eq_ok.1 hcount)
  rw [Yields.fails_bind_iff (yields_enterDirectory_self hd)] at h₁
  -- the old manifest cannot be read again, although it is there
  rcases fails_bind.1 h₁ with hf | ⟨own, fs₁, hown, h₂⟩
  · obtain ⟨hf, hfs⟩ := fails_ownFiles hd hm hf
    exact ⟨.check, .inr hf, hfs, trivial⟩
  obtain ⟨rfl, hown⟩ := own_of_yields_ownFiles hd hown
  have hown : own = m.plainFiles := by
    rcases hown with ⟨m', hm', rfl⟩ | ⟨hnot, -⟩
    · rw [hm.unique hm']
    · obtain ⟨content, hfile, -⟩ := hm
      rw [(pathExists_join hd isPlainFileName_manifest).2 ⟨hfile.1, by simp [hfile.2]⟩] at hnot
      cases hnot
  subst hown
  -- a layer file belongs to somebody else
  rcases fails_bind.1 h₂ with hf | ⟨_, fs₂, hforeign, h₃⟩
  · obtain ⟨hf, hfs⟩ := fails_checkNotForeign_all hf
    exact ⟨.check, .inl hf, hfs, trivial⟩
  obtain rfl := yields_checkNotForeign_all hforeign
  -- from here on something may have been written
  rcases fails_bind.1 h₃ with hf | ⟨_, fs₃, hwrite, h₄⟩
  · exact exists_stop_of_fails_layers hd hcount hf
  obtain ⟨hd₃, rfl, hnames⟩ := yields_writeLayers hd (fun x hx => isPlainFileName_target hx) hwrite
  rcases fails_bind.1 h₄ with hf | ⟨_, fs₄, hwrite, h₅⟩
  · exact exists_stop_of_fails_manifest hcount hd₃ hnames hf
  obtain ⟨hname, hentry, hfs₄⟩ :=
    (write_join hd₃ isPlainFileName_manifest).1 (Disk.write_of_yields hwrite)
  have hall : fs₄ = fs₂.putFiles loc img.savedFiles := by
    unfold savedFiles
    rw [putFiles_append, hfs₄]
    rfl
  subst hall
  refine exists_stop_of_fails_removeStale hcount ?_ ?_ h₅
  · rw [hfs₄]
    exact hd₃.put_file hentry _
  · exact List.forall_mem_append.2 ⟨hnames, List.forall_mem_singleton.2 hname⟩

end LayeredImage

/-! ## 2. The layers of the old stack -/

variable {files : List (String × Bytes)}

omit [ManifestFormat] in
/-- An old layer is still there if and only if its file was not written or with the same picture. -/
theorem holdsLayer_putFiles_iff (hnodup : (files.map Prod.fst).Nodup)
    (hnames : ∀ x ∈ files, Nameable dir x.1) {r : LayerRecord} {o : Layer}
    (hold : fs.HoldsLayer dir loc r o) : (fs.putFiles loc files).HoldsLayer dir loc r o ↔
      ∀ file ∈ files, r.file = file.1 → gridOf? file.2 = some o.grid := by
  constructor
  · intro hafter file hm hfile
    obtain ⟨content, hholds, hgrid⟩ := hafter.picture
    have hwritten : (fs.putFiles loc files).HoldsFile dir loc r.file file.2 := by
      rw [hfile]
      exact ⟨hnames file hm, entry?_putFiles_of_mem hnodup hm⟩
    rw [hwritten.unique hholds] at hgrid
    exact hgrid
  · intro hsame
    refine ⟨hold.name_eq, hold.visible_eq, hold.plain, ?_⟩
    -- a file that was written holds the new picture, all others what they held
    by_cases hw : ∃ file ∈ files, r.file = file.1
    · obtain ⟨file, hm, hfile⟩ := hw
      refine ⟨file.2, ?_, hsame file hm hfile⟩
      rw [hfile]
      exact ⟨hnames file hm, entry?_putFiles_of_mem hnodup hm⟩
    · obtain ⟨content, ⟨hname, hentry⟩, hgrid⟩ := hold.picture
      refine ⟨content, ⟨hname, ?_⟩, hgrid⟩
      rw [entry?_putFiles_other, hentry]
      intro name bytes hm heq
      exact hw ⟨(name, bytes), hm, location_inj.1 heq⟩

omit [ManifestFormat] in
theorem holdsLayers_putFiles_iff (hnodup : (files.map Prod.fst).Nodup)
    (hnames : ∀ x ∈ files, Nameable dir x.1) {rs : List LayerRecord} {os : List Layer}
    (hold : List.Forall₂ (fs.HoldsLayer dir loc) rs os) :
    List.Forall₂ ((fs.putFiles loc files).HoldsLayer dir loc) rs os ↔
      ∀ file ∈ files, ∀ x ∈ rs.zip os, x.1.file = file.1 → gridOf? file.2 = some x.2.grid := by
  rw [List.forall₂_iff_zip] at hold ⊢
  obtain ⟨hlength, hold⟩ := hold
  constructor
  · rintro ⟨-, hafter⟩ file hm ⟨r, o⟩ hx
    exact (holdsLayer_putFiles_iff hnodup hnames (hold hx)).1 (hafter hx) file hm
  · intro hsame
    refine ⟨hlength, ?_⟩
    intro r o hx
    exact (holdsLayer_putFiles_iff hnodup hnames (hold hx)).2 fun file hm => hsame file hm (r, o) hx

/-! ## 3. Loading after a save that failed -/

namespace LayeredImage

variable {img old : LayeredImage} {maxDimension : Nat}

/-- As long as the manifest has not been written, it is the old one that is read. -/
theorem load_putFiles_iff (hafter : DirectoryAt (fs.putFiles loc files) dir loc)
    (hm : fs.HoldsManifest dir loc m)
    (hbounds : old.width ≤ maxDimension ∧ old.height ≤ maxDimension)
    (hstack : fs.HoldsStack dir loc m old) (hnodup : (files.map Prod.fst).Nodup)
    (hnames : ∀ x ∈ files, Nameable dir x.1) (hnot : ∀ file ∈ files, file.1 ≠ Manifest.fileName) :
    Yields (load dir maxDimension) (fs.putFiles loc files) old (fs.putFiles loc files) ↔
      ∀ file ∈ files, ∀ x ∈ m.layers.zip old.layers, x.1.file = file.1 →
        gridOf? file.2 = some x.2.grid := by
  have hm' : (fs.putFiles loc files).HoldsManifest dir loc m := by
    obtain ⟨content, ⟨hname, hentry⟩, hrest⟩ := hm
    refine ⟨content, ⟨hname, ?_⟩, hrest⟩
    rw [entry?_putFiles_other, hentry]
    intro name bytes hmem heq
    exact hnot _ hmem (location_inj.1 heq).symm
  rw [yields_load hafter, ← holdsLayers_putFiles_iff hnodup hnames hstack.layers]
  constructor
  · rintro ⟨-, -, m', hm'', hstack'⟩
    obtain rfl := hm'.unique hm''
    exact hstack'.layers
  · intro hlayers
    exact ⟨rfl, hbounds, m, hm', hstack.width_eq, hstack.height_eq, hstack.count_le, hlayers⟩

/-- With a part of the new manifest nothing can be loaded. -/
theorem not_yields_load_of_cut (hd : DirectoryAt fs dir loc)
    (hcount : img.layers.length ≤ maxLayers) (hnames : ∀ file ∈ img.fileNames, Nameable dir file)
    {n : Nat} (hn : n < (ManifestFormat.encode img.manifest).length)
    (hentry : fs.entry? (loc ++ [Manifest.fileName]) =
      some (.file ((ManifestFormat.encode img.manifest).take n))) :
    ¬ Yields (load dir maxDimension) fs old fs' := by
  intro h
  obtain ⟨-, -, m', ⟨content, ⟨-, hcontent⟩, -, hdecode⟩, -⟩ := (yields_load hd).1 h
  rw [hentry] at hcontent
  cases hcontent
  have hlost : (ManifestFormat.encode img.manifest).drop n ≠ [] := by
    rw [← List.length_pos_iff, List.length_drop]
    omega
  exact ManifestFormat.decode_cut (fits_manifest hcount hnames) (List.take_append_drop n _).symm
    hlost m' hdecode

/-- Once all files are written, it is the new stack that is loaded, unless the manifest has been
removed. -/
theorem Saved.load_iff {own : List String} {before : FileStore}
    (h : img.Saved dir loc own before fs)
    (hbounds : old.width ≤ maxDimension ∧ old.height ≤ maxDimension) :
    Yields (load dir maxDimension) fs old fs ↔ Manifest.fileName ∉ own ∧ img = old := by
  constructor
  · intro hload
    have hown : Manifest.fileName ∉ own := by
      intro hmem
      have hnone : fs.entry? (loc ++ [Manifest.fileName]) = none := by
        rw [h.entry?_eq, if_pos ⟨_, hmem, img.manifest_not_mem_fileNames, rfl⟩]
      exact hload.not_fails (fails_load_of_no_manifest h.directory hnone maxDimension)
    refine ⟨hown, ?_⟩
    -- the new manifest gives the old sides, so the new stack is within the bound as well
    obtain ⟨-, -, m', hm', hstack⟩ := (yields_load h.directory).1 hload
    obtain rfl := (h.holdsManifest hown).unique hm'
    have hsides := h.holdsStack
    rw [← hstack.width_eq, ← hstack.height_eq, hsides.width_eq, hsides.height_eq] at hbounds
    have hnew : Yields (load dir maxDimension) fs img fs := (yields_load h.directory).2
      ⟨rfl, hbounds, img.manifest, h.holdsManifest hown, h.holdsStack⟩
    exact (hnew.unique hload).1
  · rintro ⟨hown, rfl⟩
    exact (yields_load h.directory).2
      ⟨rfl, hbounds, img.manifest, h.holdsManifest hown, h.holdsStack⟩

/-- What arrives has different names, so that each file holds what was written to it. -/
theorem nodup_arrived (img : LayeredImage) (k : Nat) (part : Option Nat) :
    ((arrived img.savedFiles k part).map Prod.fst).Nodup := by
  refine List.Nodup.sublist (names_arrived _ k part).sublist ?_
  unfold savedFiles
  rw [List.map_append, names_layerFiles, List.nodup_append]
  refine ⟨img.fileNames_nodup, by simp, ?_⟩
  rintro file hm _ hmanifest rfl
  rw [List.mem_singleton.1 hmanifest] at hm
  exact img.manifest_not_mem_fileNames hm

/-- If anything of the manifest has arrived, it is the file at which the writing has stopped. -/
theorem exists_part_of_manifest_arrived {k : Nat} {part : Option Nat}
    (hk : k ≤ img.layers.length) {file : String × Bytes}
    (hm : file ∈ arrived img.savedFiles k part) (hname : file.1 = Manifest.fileName) :
    ∃ n, k = img.layers.length ∧ part = some n ∧
      file = (Manifest.fileName, (ManifestFormat.encode img.manifest).take n) := by
  have hlayer : ∀ x ∈ img.layerFiles, x.1 ≠ Manifest.fileName := by
    intro x hx heq
    apply img.manifest_not_mem_fileNames
    rw [← heq, ← names_layerFiles]
    exact List.mem_map_of_mem hx
  rcases Nat.lt_or_eq_of_le hk with hlt | rfl
  · rw [arrived_of_lt hlt] at hm
    have hnames := (names_arrived img.layerFiles k part).subset (List.mem_map_of_mem hm)
    rw [names_layerFiles, hname] at hnames
    exact absurd hnames img.manifest_not_mem_fileNames
  · rw [arrived_manifest] at hm
    rcases List.mem_append.1 hm with hm | hm
    · exact absurd hname (hlayer file hm)
    · cases part with
      | none => cases hm
      | some n => exact ⟨n, rfl, rfl, List.mem_singleton.1 hm⟩

end LayeredImage

open LayeredImage

/-- After a save that has stopped somewhere the old stack can be loaded if and only if it is spared
there. -/
theorem SaveStop.load_iff_spares {img old : LayeredImage} {f : Failure} {maxDimension : Nat}
    {stop : SaveStop} (hoccurs : stop.Occurs disk img m f) (hfs : fs' = stop.left img loc fs)
    (hreached : stop.Reached img dir loc fs fs') (hd : DirectoryAt fs dir loc)
    (hm : fs.HoldsManifest dir loc m)
    (hbounds : old.width ≤ maxDimension ∧ old.height ≤ maxDimension)
    (hstack : fs.HoldsStack dir loc m old) :
    Yields (LayeredImage.load dir maxDimension) fs' old fs' ↔ stop.Spares img old m := by
  cases stop with
  | check =>
    rw [hfs]
    exact iff_of_true ((yields_load hd).2 ⟨rfl, hbounds, m, hm, hstack⟩) trivial
  | removing gone => exact Saved.load_iff hreached hbounds
  | writing k part =>
    obtain ⟨whole, hwhole, hstops⟩ := hoccurs
    have hk := le_of_getElem?_savedFiles hwhole
    obtain ⟨hcount, hd', hnames⟩ := hreached
    by_cases hnot : ∀ file ∈ arrived img.savedFiles k part, file.1 ≠ Manifest.fileName
    · have hnodup := nodup_arrived img k part
      have hafter : DirectoryAt (fs.putFiles loc (arrived img.savedFiles k part)) dir loc := by
        rw [hfs] at hd'
        exact hd'
      rw [hfs]
      refine (load_putFiles_iff hafter hm hbounds hstack hnodup hnames hnot).trans ?_
      exact ⟨fun h file hmem => ⟨hnot file hmem, h file hmem⟩, fun h file hmem => (h file hmem).2⟩
    · -- a part of the new manifest is there, which is neither the old one nor the new one
      push Not at hnot
      obtain ⟨file, hmem, hname⟩ := hnot
      obtain ⟨n, rfl, rfl, rfl⟩ := exists_part_of_manifest_arrived hk hmem hname
      refine iff_of_false ?_ fun hspares => (hspares _ hmem).1 rfl
      rw [getElem?_savedFiles_manifest] at hwhole
      cases hwhole
      obtain ⟨s, ⟨hroom, -⟩, rfl, -⟩ := hstops
      refine not_yields_load_of_cut hd' hcount ?_ hroom ?_
      · intro name hfile
        rw [← names_layerFiles] at hfile
        obtain ⟨x, hx, rfl⟩ := List.mem_map.1 hfile
        apply hnames x
        rw [arrived_manifest]
        exact List.mem_append_left _ hx
      · rw [hfs]
        exact entry?_putFiles_of_mem (nodup_arrived img _ _) hmem

/-- Where a stack can be loaded, a save of another that fails has stopped in a check, while it wrote
a file, or while it removed one, and has left what it had done by then.  The old stack can be loaded
afterwards if and only if nothing of it is lost there: all files that have been written, the last
one perhaps in part, still hold the pictures that the old manifest lists them for, and of the new
manifest there is nothing; or the manifest is the new one, and the stacks are the same. -/
theorem load_after_failed_save_iff {img old : LayeredImage} {maxDimension : Nat} {f : Failure}
    (hload : Yields (LayeredImage.load dir maxDimension) fs old fs)
    (hsave : Fails (img.saveOn disk dir) fs f fs') :
    ∃ (loc : Location) (m : Manifest) (stop : SaveStop), DirectoryAt fs dir loc ∧
      fs.HoldsManifest dir loc m ∧ stop.Occurs disk img m f ∧ fs' = stop.left img loc fs ∧
      (Yields (LayeredImage.load dir maxDimension) fs' old fs' ↔ stop.Spares img old m) := by
  obtain ⟨loc, hd⟩ := directoryAt_of_load hload
  obtain ⟨-, hbounds, m, hm, hstack⟩ := (yields_load hd).1 hload
  obtain ⟨stop, hoccurs, hfs, hreached⟩ := exists_stop_of_fails hd hm hsave
  exact ⟨loc, m, stop, hd, hm, hoccurs, hfs,
    SaveStop.load_iff_spares hoccurs hfs hreached hd hm hbounds hstack⟩

end Formats

/-! ## 4. A save that fails -/

/-- The store in which the stack of one white layer has been saved. -/
def whiteStore : FileStore := (outcome (whiteLayer.save ⟨"d"⟩) bareStore).2

/-- A stack whose second layer has a name that no file can have. -/
def halfSavable : LayeredImage :=
  (oneLayer ⟨.fill .single .transparent, rfl⟩).pushBack ⟨"b\x00", by decide, by decide⟩
    ⟨.fill .single .transparent, rfl⟩ true

theorem yields_load_whiteStore :
    Yields (LayeredImage.load ⟨"d"⟩ 1) whiteStore whiteLayer whiteStore := by
  have hload : Yields (LayeredImage.load ⟨"d"⟩ 1) whiteStore whiteLayer
      (outcome (LayeredImage.load ⟨"d"⟩ 1) whiteStore).2 := by
    apply yields_of_outcome
    decide +kernel
  have hsame := unchanged_of_load hload
  rw [hsame] at hload
  exact hload

theorem fails_save_halfSavable : Fails (halfSavable.save ⟨"d"⟩) whiteStore (.file .invalidName)
    (outcome (halfSavable.save ⟨"d"⟩) whiteStore).2 := by
  apply fails_of_outcome
  decide +kernel

/-- A disk with room for four bytes of a manifest. -/
def smallDisk : Disk where
  fault? := fun _ _ _ => none
  shortage? := fun _ p => if p = ⟨"d/manifest.pgl"⟩ then some ⟨4, .noSpace, false⟩ else none

theorem fails_save_smallDisk :
    Fails (whiteLayer.saveOn smallDisk ⟨"d"⟩) whiteStore (.file (.disk .noSpace))
      (outcome (whiteLayer.saveOn smallDisk ⟨"d"⟩) whiteStore).2 := by
  apply fails_of_outcome
  decide +kernel

/-- With a name that no file can have it stops at a layer file, and without room at the manifest,
also if the stack is the one that was saved before. -/
theorem load_after_failed_save_iff_whiteStore :
    (∃ (loc : Location) (m : Manifest) (stop : SaveStop), DirectoryAt whiteStore ⟨"d"⟩ loc ∧
      whiteStore.HoldsManifest ⟨"d"⟩ loc m ∧
      stop.Occurs .sound halfSavable m (.file .invalidName) ∧
      (outcome (halfSavable.save ⟨"d"⟩) whiteStore).2 = stop.left halfSavable loc whiteStore ∧
      (Yields (LayeredImage.load ⟨"d"⟩ 1) (outcome (halfSavable.save ⟨"d"⟩) whiteStore).2 whiteLayer
        (outcome (halfSavable.save ⟨"d"⟩) whiteStore).2 ↔ stop.Spares halfSavable whiteLayer m)) ∧
    ∃ (loc : Location) (m : Manifest) (stop : SaveStop), DirectoryAt whiteStore ⟨"d"⟩ loc ∧
      whiteStore.HoldsManifest ⟨"d"⟩ loc m ∧
      stop.Occurs smallDisk whiteLayer m (.file (.disk .noSpace)) ∧
      (outcome (whiteLayer.saveOn smallDisk ⟨"d"⟩) whiteStore).2 =
        stop.left whiteLayer loc whiteStore ∧
      (Yields (LayeredImage.load ⟨"d"⟩ 1) (outcome (whiteLayer.saveOn smallDisk ⟨"d"⟩) whiteStore).2
        whiteLayer (outcome (whiteLayer.saveOn smallDisk ⟨"d"⟩) whiteStore).2 ↔
          stop.Spares whiteLayer whiteLayer m) :=
  ⟨load_after_failed_save_iff yields_load_whiteStore fails_save_halfSavable,
    load_after_failed_save_iff yields_load_whiteStore fails_save_smallDisk⟩

/-- A save that fails can change the stack that was saved before. -/
theorem exists_failed_save_that_changes_old :
    ∃ (img old : LayeredImage) (dir : Path) (f : Failure) (fs fs' : FileStore),
      Yields (LayeredImage.load dir 1) fs old fs ∧ Fails (img.save dir) fs f fs' ∧
        ¬ Yields (LayeredImage.load dir 1) fs' old fs' := by
  refine ⟨halfSavable, whiteLayer, ⟨"d"⟩, .file .invalidName, whiteStore, _,
    yields_load_whiteStore, fails_save_halfSavable, ?_⟩
  intro hload
  have hother : (outcome (LayeredImage.load ⟨"d"⟩ 1)
      (outcome (halfSavable.save ⟨"d"⟩) whiteStore).2).1 ≠ .ok whiteLayer := by decide +kernel
  exact hother (congrArg Prod.fst hload)

end RasterScript
