import RasterScript.Proofs.Archive.Loading
import RasterScript.Proofs.Files.DiskFaults

/-!
# Saving — what each step of a save does to the directory

One lemma for each step and each way it can end, on a disk that may fail: entering the directory,
finding out which files are its own, writing the layer files, and removing files of an earlier save.
Two steps are loops, and what they leave behind is a store in its own right: `putFiles` for a number
of files that have been written, `unlinkFiles` for a number of files that have been removed.  A loop
of writes that stops has written what `arrived` says, the last file perhaps in part.
-/

namespace RasterScript

open FileStore

variable {disk : Disk} {fs fs' : FileStore} {dir : Path} {loc : Location} {name : String}

theorem location_ne_nil (loc : Location) (name : String) : loc ++ [name] ≠ [] := by
  simp

theorem location_ne_self (loc : Location) (name : String) : loc ++ [name] ≠ loc := by
  simp

theorem location_inj {name' : String} : loc ++ [name] = loc ++ [name'] ↔ name = name' := by
  simp

/-! ## 1. Entering the directory -/

/-- The directory was there, or there was nothing and it has been made. -/
theorem yields_enterDirectory (h : Yields (enterDirectory disk dir) fs () fs') :
    ∃ loc, DirectoryAt fs' dir loc ∧ fs.locate dir = .ok loc ∧
      (fs' = fs ∨ fs.entry? loc = none ∧ fs' = fs.put loc .directory) := by
  unfold enterDirectory at h
  rw [yields_get_bind] at h
  cases hexists : fs.pathExists dir with
  | true =>
    rw [hexists, if_pos rfl] at h
    obtain ⟨hrequire, rfl⟩ := yields_accept.1 h
    obtain ⟨loc, hd⟩ := isDirectory_iff.1 (require_eq_ok.1 hrequire)
    exact ⟨loc, hd, hd.located, .inl rfl⟩
  | false =>
    rw [hexists, if_neg Bool.false_ne_true] at h
    obtain ⟨_, fs₁, hparent, hmake⟩ := yields_bind.1 h
    -- the check of the parent only looks
    have hsame : fs₁ = fs := by
      unfold checkParent at hparent
      rw [yields_get_bind] at hparent
      obtain ⟨_, -, hparent⟩ := yields_accept_bind.1 hparent
      split at hparent
      · exact (yields_pure.1 hparent).2
      · exact (yields_accept.1 hparent).2
    subst hsame
    replace hmake := (Disk.yields_allow_bind.1 hmake).2
    rw [yields_change] at hmake
    unfold makeDirectory at hmake
    obtain ⟨loc, hloc, hmake⟩ := bind_eq_ok.1 hmake
    cases hentry : fs₁.entry? loc with
    | some e =>
      rw [hentry] at hmake
      cases hmake
    | none =>
      rw [hentry] at hmake
      cases hmake
      have hne : loc ≠ [] := by
        rintro rfl
        cases hentry
      have hkeep : KeepsDirectories fs₁ (fs₁.put loc .directory) := by
        apply keepsDirectories_put hne
        rw [hentry]
        exact fun h => by cases h
      refine ⟨loc, ⟨locate_mono hkeep hloc, ?_⟩, hloc, .inr ⟨hentry, rfl⟩⟩
      rw [entry?_put fs₁ hne, if_pos rfl]

theorem yields_enterDirectory_self (hd : DirectoryAt fs dir loc) :
    Yields (enterDirectory disk dir) fs () fs := by
  have hdirectory : fs.isDirectory dir = true := isDirectory_iff.2 ⟨loc, hd⟩
  have hexists : fs.pathExists dir = true := by
    unfold isDirectory at hdirectory
    unfold pathExists
    rw [beq_iff_eq.1 hdirectory]
    rfl
  unfold enterDirectory
  rw [yields_get_bind, hexists, if_pos rfl]
  exact yields_accept.2 ⟨require_eq_ok.2 hdirectory, rfl⟩

/-! ## 2. The files of an earlier save -/

/-- The plain names among the files that a manifest lists. -/
def Manifest.plainFiles (m : Manifest) : List String :=
  (m.layers.map (·.file)).filter isPlainFileName

section Formats

variable [ManifestFormat]

/-- A save counts among its own files what the manifest lists that it finds. -/
theorem own_of_yields_ownFiles (hd : DirectoryAt fs dir loc) {own : List String}
    (h : Yields (ownFiles disk dir) fs own fs') : fs' = fs ∧
      ((∃ m, fs.HoldsManifest dir loc m ∧ own = m.plainFiles) ∨
        fs.pathExists (dir.join Manifest.fileName) = false ∧ own = []) := by
  unfold ownFiles at h
  rw [yields_get_bind] at h
  cases hexists : fs.pathExists (dir.join Manifest.fileName) with
  | false =>
    rw [hexists, if_neg Bool.false_ne_true] at h
    obtain ⟨rfl, hfs⟩ := yields_pure.1 h
    exact ⟨hfs, .inr ⟨rfl, rfl⟩⟩
  | true =>
    rw [hexists, if_pos rfl] at h
    obtain ⟨m, fs₁, hm, hpure⟩ := yields_bind.1 (Disk.yields_allow_bind.1 h).2
    obtain ⟨rfl, hmanifest⟩ := (yields_readManifest hd).1 hm
    obtain ⟨rfl, hfs⟩ := yields_pure.1 hpure
    exact ⟨hfs, .inl ⟨m, hmanifest, rfl⟩⟩

/-- Where there is a manifest, only the disk can be a reason against reading it. -/
theorem fails_ownFiles (hd : DirectoryAt fs dir loc) {m : Manifest}
    (hm : fs.HoldsManifest dir loc m) {f : Failure} (h : Fails (ownFiles disk dir) fs f fs') :
    (∃ fault, f = .file fault) ∧ fs' = fs := by
  unfold ownFiles at h
  rw [fails_get_bind] at h
  split at h
  · rcases Disk.fails_allow_bind.1 h with ⟨fault, -, hf, hfs⟩ | ⟨-, h⟩
    · exact ⟨⟨_, hf⟩, hfs⟩
    · rw [Yields.fails_bind_iff ((yields_readManifest hd).2 ⟨rfl, hm⟩)] at h
      exact absurd h fails_pure
  · exact absurd h fails_pure

end Formats

/-! ## 3. The check for files of others -/

theorem checkNotForeign_unchanged {own : List String} {file : String} :
    (∀ fs₁, Yields (checkNotForeign dir own file) fs ⟨⟩ fs₁ → fs₁ = fs) ∧
      ∀ f fs₁, Fails (checkNotForeign dir own file) fs f fs₁ →
        (∃ c, f = .refused c) ∧ fs₁ = fs := by
  unfold checkNotForeign
  constructor
  · intro fs₁ h
    rw [yields_get_bind] at h
    exact (yields_accept.1 h).2
  · intro f fs₁ h
    rw [fails_get_bind] at h
    obtain ⟨⟨c, -, hf⟩, hfs⟩ := fails_accept.1 h
    exact ⟨⟨c, hf⟩, hfs⟩

theorem yields_checkNotForeign_all {own files : List String}
    (h : Yields (files.forM (checkNotForeign dir own)) fs () fs') : fs' = fs :=
  ((yields_forM_iff fun _ fs₁ hx => checkNotForeign_unchanged.1 fs₁ hx).1 h).1

theorem fails_checkNotForeign_all {own files : List String} {f : Failure}
    (h : Fails (files.forM (checkNotForeign dir own)) fs f fs') :
    (∃ c, f = .refused c) ∧ fs' = fs := by
  induction files with
  | nil => cases h
  | cons file files ih =>
    rcases fails_forM_cons.1 h with hx | ⟨fs₁, hx, hxs⟩
    · exact checkNotForeign_unchanged.2 f fs' hx
    · have hsame := checkNotForeign_unchanged.1 fs₁ hx
      subst hsame
      exact ih hxs

/-! ## 4. Writing files -/

namespace FileStore

/-- The store with files written one after the other into the directory at `loc`. -/
def putFiles (fs : FileStore) (loc : Location) : List (String × Bytes) → FileStore
  | [] => fs
  | (name, content) :: rest => putFiles (fs.put (loc ++ [name]) (.file content)) loc rest

theorem entry?_putFiles_other {files : List (String × Bytes)} {loc' : Location}
    (h : ∀ name content, (name, content) ∈ files → loc' ≠ loc ++ [name]) :
    entry? (fs.putFiles loc files) loc' = fs.entry? loc' := by
  induction files generalizing fs with
  | nil => rfl
  | cons file files ih =>
    obtain ⟨name, content⟩ := file
    rw [putFiles, ih fun n c hm => h n c (List.mem_cons_of_mem _ hm),
      entry?_put fs (location_ne_nil loc name), if_neg (h name content List.mem_cons_self)]

theorem entry?_putFiles_of_mem {files : List (String × Bytes)} {name : String} {content : Bytes}
    (hnodup : (files.map Prod.fst).Nodup) (hm : (name, content) ∈ files) :
    entry? (fs.putFiles loc files) (loc ++ [name]) = some (.file content) := by
  induction files generalizing fs with
  | nil => cases hm
  | cons file files ih =>
    rw [List.map_cons, List.nodup_cons] at hnodup
    rcases List.mem_cons.1 hm with rfl | hrest
    · -- written first, and no later file has its name
      rw [putFiles, entry?_putFiles_other, entry?_put fs (location_ne_nil loc name), if_pos rfl]
      intro name' content' hm' heq
      apply hnodup.1
      exact List.mem_map.2 ⟨(name', content'), hm', (location_inj.1 heq).symm⟩
    · obtain ⟨name', content'⟩ := file
      rw [putFiles]
      exact ih hnodup.2 hrest

theorem putFiles_append (fs : FileStore) (loc : Location) (files more : List (String × Bytes)) :
    fs.putFiles loc (files ++ more) = (fs.putFiles loc files).putFiles loc more := by
  induction files generalizing fs with
  | nil => rfl
  | cons file files ih => exact ih _

theorem DirectoryAt.put_file (hd : DirectoryAt fs dir loc)
    (h : fs.entry? (loc ++ [name]) ≠ some .directory) (content : Bytes) :
    DirectoryAt (fs.put (loc ++ [name]) (.file content)) dir loc :=
  hd.mono (keepsDirectories_put (location_ne_nil loc name) h)

end FileStore

theorem yields_checkParent_join (hd : DirectoryAt fs dir loc) (hn : isPlainFileName name = true) :
    Yields (checkParent (dir.join name)) fs () fs := by
  obtain ⟨q, hq, hparent⟩ := isDirectory_parent hd hn
  obtain ⟨front, hjoin, -⟩ := Path.text_join hd.text_ne hn
  have hne : (dir.join name).text ≠ "" := by
    rw [← toList_ne_nil_iff, hjoin]
    simp
  unfold checkParent
  rw [yields_get_bind]
  refine yields_accept_bind.2 ⟨(), require_eq_ok.2 (decide_eq_true hne), ?_⟩
  rw [hq]
  refine yields_accept.2 ⟨require_eq_ok.2 ?_, rfl⟩
  simp only [Bool.or_eq_true, decide_eq_true_eq]
  exact hparent

/-- What has arrived of files that are written one after the other when that stops at number `k`, of
which the first `n` bytes have been written if `part` is `n`, and nothing if it was not opened. -/
def arrived : List (String × Bytes) → Nat → Option Nat → List (String × Bytes)
  | file :: _, 0, some n => [(file.1, file.2.take n)]
  | file :: files, k + 1, part => file :: arrived files k part
  | _, _, _ => []

/-- Where the files are more, it stops at the same place. -/
theorem arrived_append {files more : List (String × Bytes)} {k : Nat} (hk : k < files.length)
    (part : Option Nat) : arrived (files ++ more) k part = arrived files k part := by
  induction files generalizing k with
  | nil => cases hk
  | cons file files ih =>
    cases k with
    | zero => cases part <;> rfl
    | succ k =>
      rw [List.cons_append, arrived, arrived, ih (Nat.lt_of_succ_lt_succ hk)]

theorem arrived_length (files : List (String × Bytes)) (file : String × Bytes)
    (part : Option Nat) : arrived (files ++ [file]) files.length part =
      files ++ arrived [file] 0 part := by
  induction files with
  | nil => rfl
  | cons first files ih =>
    rw [List.cons_append, List.length_cons, arrived, ih, List.cons_append]

/-- What arrives has the names of the files, in their order. -/
theorem names_arrived (files : List (String × Bytes)) (k : Nat) (part : Option Nat) :
    (arrived files k part).map Prod.fst <+: files.map Prod.fst := by
  induction files generalizing k with
  | nil =>
    cases k <;> exact List.nil_prefix
  | cons file files ih =>
    cases k with
    | zero =>
      cases part with
      | none => exact List.nil_prefix
      | some n => exact ⟨files.map Prod.fst, rfl⟩
    | succ k => exact List.prefix_cons_inj _ |>.2 (ih k)

theorem pictureComplaint_ne_refused (s : Shortage) (c : Refusal) :
    pictureComplaint s ≠ .refused c :=
  s.failure_ne_refused (fun _ _ h => by cases h) c

theorem manifestComplaint_ne_refused (s : Shortage) (c : Refusal) :
    manifestComplaint s ≠ .refused c :=
  s.failure_ne_refused (fun _ _ h => by cases h) c

/-- How a file ends that is not written whole: as it was, or cut. -/
theorem arrived_of_fails_write (hd : DirectoryAt fs dir loc) (hn : isPlainFileName name = true)
    {content : Bytes} {complaint : Shortage → Failure} {f : Failure}
    (h : Fails (disk.write (dir.join name) content complaint) fs f fs') :
    ∃ part, disk.Stops content complaint f part ∧
      fs' = fs.putFiles loc (arrived [(name, content)] 0 part) ∧
      (∀ x ∈ arrived [(name, content)] 0 part, Nameable dir x.1) ∧ DirectoryAt fs' dir loc := by
  rcases Disk.cases_of_fails_write h with ⟨hf, hfs⟩ | ⟨s, hcut, hf, hwrite⟩
  · exact ⟨none, hf, hfs, by simp [arrived], hfs ▸ hd⟩
  · obtain ⟨hname, hentry, rfl⟩ := (write_join hd hn).1 hwrite
    refine ⟨some s.room, ⟨s, hcut, rfl, hf⟩, rfl, ?_, hd.put_file hentry _⟩
    intro x hx
    rw [List.mem_singleton.1 hx]
    exact hname

/-! ## 5. Removing files of an earlier save -/

namespace FileStore

/-- The store without those of these files in the directory at `loc` that were there. -/
def unlinkFiles (fs : FileStore) (loc : Location) : List String → FileStore
  | [] => fs
  | name :: names =>
    match fs.entry? (loc ++ [name]) with
    | some (.file content) => unlinkFiles (fs.unlink (loc ++ [name]) content) loc names
    | _ => unlinkFiles fs loc names

end FileStore

/-- A stale file is removed or has been gone; either way it is not there afterwards. -/
theorem yields_removeStale (hd : DirectoryAt fs dir loc) {file : String}
    (hn : isPlainFileName file = true) (h : Yields (removeStale disk dir file) fs () fs') :
    DirectoryAt fs' dir loc ∧
      (∀ files, fs.unlinkFiles loc (file :: files) = fs'.unlinkFiles loc files) ∧
      ∀ loc', fs'.entry? loc' = if loc' = loc ++ [file] then none else fs.entry? loc' := by
  unfold removeStale at h
  replace h := (Disk.yields_allow_bind.1 h).2
  rw [yields_get_bind] at h
  split at h
  · rename_i fs₁ hremove
    -- removed just now
    have hset : fs' = fs₁ := by
      cases h
      rfl
    obtain ⟨-, content, hentry, hfs⟩ := (removeFile_join hd hn).1 hremove
    rw [hset, hfs]
    refine ⟨hd.mono (keepsDirectories_unlink (location_ne_nil loc file) ?_), fun files => ?_, ?_⟩
    · rw [hentry]
      exact fun h => by cases h
    · rw [unlinkFiles, hentry]
    · exact entry?_unlink fs (location_ne_nil loc file) content
  · rename_i hremove
    -- gone before
    obtain ⟨-, hentry⟩ := (removeFile_join_notFound hd hn).1 hremove
    obtain ⟨-, rfl⟩ := yields_pure.1 h
    refine ⟨hd, fun files => ?_, ?_⟩
    · rw [unlinkFiles, hentry]
    · intro loc'
      by_cases heq : loc' = loc ++ [file]
      · rw [if_pos heq, heq, hentry]
      · rw [if_neg heq]
  · exact absurd h yields_throw

theorem yields_removeStale_all (hd : DirectoryAt fs dir loc) {files : List String}
    (hn : ∀ file ∈ files, isPlainFileName file = true)
    (h : Yields (files.forM (removeStale disk dir)) fs () fs') :
    DirectoryAt fs' dir loc ∧ fs' = fs.unlinkFiles loc files ∧ ∀ loc', fs'.entry? loc' =
      if ∃ file ∈ files, loc' = loc ++ [file] then none else fs.entry? loc' := by
  induction files generalizing fs with
  | nil =>
    obtain rfl := yields_forM_nil.1 h
    exact ⟨hd, rfl, by simp⟩
  | cons file files ih =>
    obtain ⟨hfile, hfiles⟩ := List.forall_mem_cons.1 hn
    obtain ⟨fs₁, hremove, hrest⟩ := yields_forM_cons.1 h
    obtain ⟨hd₁, hstep, hentry₁⟩ := yields_removeStale hd hfile hremove
    obtain ⟨hd', hfs, hentry⟩ := ih hd₁ hfiles hrest
    refine ⟨hd', hfs.trans (hstep files).symm, ?_⟩
    intro loc'
    rw [hentry, hentry₁]
    -- a file can be listed twice, so now and later do not exclude each other
    by_cases hlater : ∃ other ∈ files, loc' = loc ++ [other]
    · obtain ⟨other, hm, heq⟩ := hlater
      rw [if_pos ⟨other, hm, heq⟩, if_pos ⟨other, List.mem_cons_of_mem _ hm, heq⟩]
    · rw [if_neg hlater]
      by_cases hnow : loc' = loc ++ [file]
      · rw [if_pos hnow, if_pos ⟨file, List.mem_cons_self, hnow⟩]
      · rw [if_neg hnow, if_neg]
        rintro ⟨other, hm, heq⟩
        rcases List.mem_cons.1 hm with rfl | hm
        · exact hnow heq
        · exact hlater ⟨other, hm, heq⟩

theorem fails_removeStale {file : String} {f : Failure}
    (h : Fails (removeStale disk dir file) fs f fs') : (∃ fault, f = .file fault) ∧ fs' = fs := by
  unfold removeStale at h
  rcases Disk.fails_allow_bind.1 h with ⟨fault, -, hf, hfs⟩ | ⟨-, h⟩
  · exact ⟨⟨_, hf⟩, hfs⟩
  rw [fails_get_bind] at h
  split at h
  · cases h
  · exact absurd h fails_pure
  · rename_i fault _ _
    obtain ⟨hf, hfs⟩ := fails_throw.1 h
    exact ⟨⟨fault, hf⟩, hfs⟩

/-- A failure while files are removed leaves the first of them removed, and there is one more. -/
theorem fails_removeStale_all {files : List String} {f : Failure}
    (h : Fails (files.forM (removeStale disk dir)) fs f fs') :
    (∃ fault, f = .file fault) ∧ ∃ gone file rest, files = gone ++ file :: rest ∧
      Yields (gone.forM (removeStale disk dir)) fs () fs' := by
  induction files generalizing fs with
  | nil => cases h
  | cons file files ih =>
    rcases fails_forM_cons.1 h with hremove | ⟨fs₁, hremove, hrest⟩
    · obtain ⟨hf, rfl⟩ := fails_removeStale hremove
      exact ⟨hf, [], file, files, rfl, yields_forM_nil.2 rfl⟩
    · obtain ⟨hf, gone, next, rest, rfl, hgone⟩ := ih hrest
      exact ⟨hf, file :: gone, next, rest, rfl, yields_forM_cons.2 ⟨fs₁, hremove, hgone⟩⟩

/-! ## 6. Writing the layer files -/

namespace LayeredImage

variable {img : LayeredImage}

/-- The layers of a stack, each with its file. -/
def targets (img : LayeredImage) : List (Layer × String) := img.layers.zip img.fileNames

theorem getElem?_targets (img : LayeredImage) (i : Nat) :
    img.targets[i]? = img.layers[i]?.map fun l => (l, layerFileName i l.name) := by
  unfold targets
  cases hl : img.layers[i]? with
  | none =>
    rw [List.getElem?_eq_none_iff] at hl
    rw [Option.map_none, List.getElem?_eq_none_iff, List.length_zip]
    omega
  | some l =>
    rw [Option.map_some, List.getElem?_zip_eq_some, getElem?_fileNames, hl]
    exact ⟨rfl, rfl⟩

theorem length_targets (img : LayeredImage) : img.targets.length = img.layers.length := by
  unfold targets
  rw [List.length_zip, length_fileNames, Nat.min_self]

theorem map_snd_targets (img : LayeredImage) : img.targets.map Prod.snd = img.fileNames := by
  unfold targets
  exact List.map_snd_zip (Nat.le_of_eq (length_fileNames img))

theorem isPlainFileName_target {x : Layer × String} (h : x ∈ img.targets) :
    isPlainFileName x.2 = true := by
  apply isPlainFileName_of_mem
  rw [← map_snd_targets]
  exact List.mem_map_of_mem h

end LayeredImage

variable [PictureCodec]

/-- A picture that is written into a directory is a file there. -/
theorem put_of_yields_writePng (hd : DirectoryAt fs dir loc) (hn : isPlainFileName name = true)
    {g : Grid} {quality : Nat}
    (h : Yields (writePictureOn disk g .png (dir.join name) quality) fs () fs') :
    Nameable dir name ∧ fs.entry? (loc ++ [name]) ≠ some .directory ∧
      fs' = fs.put (loc ++ [name]) (.file (PictureCodec.png g)) := by
  unfold writePictureOn at h
  rw [Yields.bind_iff (yields_checkParent_join hd hn)] at h
  exact (write_join hd hn).1 (Disk.write_of_yields h)

theorem arrived_of_fails_writePng (hd : DirectoryAt fs dir loc) (hn : isPlainFileName name = true)
    {g : Grid} {quality : Nat} {f : Failure}
    (h : Fails (writePictureOn disk g .png (dir.join name) quality) fs f fs') :
    ∃ part, disk.Stops (PictureCodec.png g) pictureComplaint f part ∧
      fs' = fs.putFiles loc (arrived [(name, PictureCodec.png g)] 0 part) ∧
      (∀ x ∈ arrived [(name, PictureCodec.png g)] 0 part, Nameable dir x.1) ∧
      DirectoryAt fs' dir loc := by
  unfold writePictureOn at h
  rw [Yields.fails_bind_iff (yields_checkParent_join hd hn)] at h
  exact arrived_of_fails_write hd hn h

/-- The step of a save that writes one layer file. -/
def writeLayer (disk : Disk) (dir : Path) (x : Layer × String) : FileAction Unit :=
  writePictureOn disk x.1.grid .png (dir.join x.2) defaultJpegQuality

/-- A layer file, named and encoded. -/
def layerFile (x : Layer × String) : String × Bytes := (x.2, PictureCodec.png x.1.grid)

theorem yields_writeLayers (hd : DirectoryAt fs dir loc) {xs : List (Layer × String)}
    (hn : ∀ x ∈ xs, isPlainFileName x.2 = true)
    (h : Yields (xs.forM (writeLayer disk dir)) fs () fs') :
    DirectoryAt fs' dir loc ∧ fs' = fs.putFiles loc (xs.map layerFile) ∧
      ∀ x ∈ xs.map layerFile, Nameable dir x.1 := by
  induction xs generalizing fs with
  | nil =>
    obtain rfl := yields_forM_nil.1 h
    exact ⟨hd, rfl, by simp⟩
  | cons x xs ih =>
    obtain ⟨hx, hxs⟩ := List.forall_mem_cons.1 hn
    obtain ⟨fs₁, hwrite, hrest⟩ := yields_forM_cons.1 h
    obtain ⟨hname, hentry, rfl⟩ := put_of_yields_writePng hd hx hwrite
    obtain ⟨hd', hfs, hnames⟩ := ih (hd.put_file hentry _) hxs hrest
    exact ⟨hd', hfs, List.forall_mem_cons.2 ⟨hname, hnames⟩⟩

/-- A failure while layer files are written leaves the first of them written, and the one at which
it stops as it was or in part. -/
theorem fails_writeLayers (hd : DirectoryAt fs dir loc) {xs : List (Layer × String)}
    (hn : ∀ x ∈ xs, isPlainFileName x.2 = true) {f : Failure}
    (h : Fails (xs.forM (writeLayer disk dir)) fs f fs') :
    ∃ k part x, xs[k]? = some x ∧
      disk.Stops (PictureCodec.png x.1.grid) pictureComplaint f part ∧
      fs' = fs.putFiles loc (arrived (xs.map layerFile) k part) ∧
      (∀ x ∈ arrived (xs.map layerFile) k part, Nameable dir x.1) ∧
      DirectoryAt fs' dir loc := by
  induction xs generalizing fs with
  | nil => cases h
  | cons x xs ih =>
    obtain ⟨hx, hxs⟩ := List.forall_mem_cons.1 hn
    rcases fails_forM_cons.1 h with hwrite | ⟨fs₁, hwrite, hrest⟩
    · -- this is the first file that is not written whole
      obtain ⟨part, hstops, hfs, hnames, hd'⟩ := arrived_of_fails_writePng hd hx hwrite
      have hfirst : arrived ((x :: xs).map layerFile) 0 part = arrived [layerFile x] 0 part := by
        cases part <;> rfl
      refine ⟨0, part, x, rfl, hstops, ?_⟩
      rw [hfirst]
      exact ⟨hfs, hnames, hd'⟩
    · obtain ⟨hname, hentry, rfl⟩ := put_of_yields_writePng hd hx hwrite
      obtain ⟨k, part, y, hy, hstops, hfs, hnames, hd'⟩ := ih (hd.put_file hentry _) hxs hrest
      exact ⟨k + 1, part, y, hy, hstops, hfs, List.forall_mem_cons.2 ⟨hname, hnames⟩, hd'⟩

/-! ## 7. The whole save -/

namespace LayeredImage

variable {img : LayeredImage}

/-- The layer files of a stack, named and encoded, front to back. -/
def layerFiles (img : LayeredImage) : List (String × Bytes) := img.targets.map layerFile

theorem names_layerFiles (img : LayeredImage) : img.layerFiles.map Prod.fst = img.fileNames := by
  rw [← map_snd_targets]
  unfold layerFiles
  rw [List.map_map]
  rfl

theorem getElem?_layerFiles (img : LayeredImage) (i : Nat) : img.layerFiles[i]? =
    img.layers[i]?.map fun l => (layerFileName i l.name, PictureCodec.png l.grid) := by
  unfold layerFiles
  rw [List.getElem?_map, getElem?_targets, Option.map_map]
  rfl

theorem mem_layerFiles {file : String × Bytes} : file ∈ img.layerFiles ↔
    ∃ i l, img.layers[i]? = some l ∧ file = (layerFileName i l.name, PictureCodec.png l.grid) := by
  rw [List.mem_iff_getElem?]
  refine exists_congr fun i => ?_
  rw [getElem?_layerFiles, Option.map_eq_some_iff]
  exact exists_congr fun l => and_congr_right fun _ => eq_comm

variable [ManifestFormat]

/-- The steps of a save as functions that have lemmas. -/
theorem saveOn_eq (disk : Disk) (img : LayeredImage) (dir : Path) : img.saveOn disk dir = (do
    FileAction.accept <|
      require (img.layers.length ≤ maxLayers) (.tooManyLayersToSave img.layers.length maxLayers)
    enterDirectory disk dir
    let own ← ownFiles disk dir
    img.fileNames.forM (checkNotForeign dir own)
    img.targets.forM (writeLayer disk dir)
    disk.write (dir.join Manifest.fileName) (ManifestFormat.encode img.manifest) manifestComplaint
    (own.eraseDups.filter (· ∉ img.fileNames)).forM (removeStale disk dir)) := rfl

/-- The directory after a save into it that succeeded, when `before` is the store with the directory
in it and `own` are the files of the earlier save. -/
structure Saved (img : LayeredImage) (dir : Path) (loc : Location) (own : List String)
    (before after : FileStore) : Prop where
  count_le : img.layers.length ≤ maxLayers
  directory : DirectoryAt after dir loc
  nameable : ∀ file ∈ img.fileNames, Nameable dir file
  manifest_nameable : Nameable dir Manifest.fileName
  entry?_eq : ∀ loc', after.entry? loc' =
    if ∃ file ∈ own, file ∉ img.fileNames ∧ loc' = loc ++ [file] then none
    else if loc' = loc ++ [Manifest.fileName] then some (.file (ManifestFormat.encode img.manifest))
    else entry? (before.putFiles loc img.layerFiles) loc'

/-- All files of a stack in the order in which they are written, the manifest last. -/
def savedFiles (img : LayeredImage) : List (String × Bytes) :=
  img.layerFiles ++ [(Manifest.fileName, (ManifestFormat.encode img.manifest))]

/-- Once all files are written, the directory holds them whatever stale files are removed. -/
theorem saved_of_removeStale {before after : FileStore} {stale : List String}
    (hcount : img.layers.length ≤ maxLayers)
    (hd : DirectoryAt (before.putFiles loc img.savedFiles) dir loc)
    (hnames : ∀ x ∈ img.savedFiles, Nameable dir x.1)
    (hstale : ∀ file ∈ stale, isPlainFileName file = true ∧ file ∉ img.fileNames)
    (h : Yields (stale.forM (removeStale disk dir)) (before.putFiles loc img.savedFiles) () after) :
    img.Saved dir loc stale before after := by
  obtain ⟨hd', -, hentries⟩ := yields_removeStale_all hd (fun file hm => (hstale file hm).1) h
  refine ⟨hcount, hd', ?_, hnames _ (List.mem_append_right _ List.mem_cons_self), ?_⟩
  · intro file hfile
    rw [← names_layerFiles] at hfile
    obtain ⟨x, hx, rfl⟩ := List.mem_map.1 hfile
    exact hnames x (List.mem_append_left _ hx)
  · intro loc'
    have hremoved : (∃ file ∈ stale, loc' = loc ++ [file]) ↔
        ∃ file ∈ stale, file ∉ img.fileNames ∧ loc' = loc ++ [file] :=
      exists_congr fun file => and_congr_right fun hm => (and_iff_right (hstale file hm).2).symm
    rw [hentries, if_congr hremoved rfl rfl]
    unfold savedFiles
    rw [putFiles_append, putFiles, putFiles, entry?_put _ (location_ne_nil loc _)]

theorem saved_of_save (h : Yields (img.saveOn disk dir) fs () fs') : ∃ loc before own,
    (fs.locate dir = .ok loc ∧
      (before = fs ∨ fs.entry? loc = none ∧ before = fs.put loc .directory)) ∧
    ((∃ m, before.HoldsManifest dir loc m ∧ own = m.plainFiles) ∨
      before.pathExists (dir.join Manifest.fileName) = false ∧ own = []) ∧
    DirectoryAt before dir loc ∧ img.Saved dir loc own before fs' := by
  rw [saveOn_eq] at h
  obtain ⟨_, hcount, h₁⟩ := yields_accept_bind.1 h
  obtain ⟨_, before, henter, h₂⟩ := yields_bind.1 h₁
  obtain ⟨loc, hd, hloc, hbefore⟩ := yields_enterDirectory henter
  obtain ⟨own, fs₁, hask, h₃⟩ := yields_bind.1 h₂
  obtain ⟨hfs₁, hown⟩ := own_of_yields_ownFiles hd hask
  obtain ⟨_, fs₂, hforeign, h₄⟩ := yields_bind.1 h₃
  have hfs₂ : fs₂ = before := (yields_checkNotForeign_all hforeign).trans hfs₁
  obtain ⟨_, fs₃, hwrite, h₅⟩ := yields_bind.1 h₄
  rw [hfs₂] at hwrite
  obtain ⟨hd₃, hfs₃, hnames⟩ := yields_writeLayers hd (fun x hx => isPlainFileName_target hx) hwrite
  obtain ⟨_, fs₄, hmanifest, hremove⟩ := yields_bind.1 h₅
  obtain ⟨hname, hentry, hfs₄⟩ :=
    (write_join hd₃ isPlainFileName_manifest).1 (Disk.write_of_yields hmanifest)
  have hwritten : fs₄ = before.putFiles loc img.savedFiles := by
    unfold savedFiles
    rw [putFiles_append, hfs₄, hfs₃]
    rfl
  have hd₄ : DirectoryAt fs₄ dir loc := by
    rw [hfs₄]
    exact hd₃.put_file hentry _
  -- removals stay inside the directory: names that lead out of it are not among its own
  have hstale : ∀ file ∈ own.eraseDups.filter (· ∉ img.fileNames),
      isPlainFileName file = true ∧ file ∉ img.fileNames := by
    intro file hfile
    obtain ⟨hm, hnot⟩ := List.mem_filter.1 hfile
    refine ⟨?_, of_decide_eq_true hnot⟩
    rcases hown with ⟨m, -, rfl⟩ | ⟨-, rfl⟩
    · exact (List.mem_filter.1 (List.mem_eraseDups.1 hm)).2
    · cases List.mem_eraseDups.1 hm
  rw [hwritten] at hd₄ hremove
  have hsaved := saved_of_removeStale (of_decide_eq_true (require_eq_ok.1 hcount)) hd₄
    (List.forall_mem_append.2 ⟨hnames, List.forall_mem_singleton.2 hname⟩) hstale hremove
  refine ⟨loc, before, own, ⟨hloc, hbefore⟩, hown, hd, ⟨hsaved.count_le, hsaved.directory,
    hsaved.nameable, hsaved.manifest_nameable, ?_⟩⟩
  intro loc'
  have hremoved : (∃ file ∈ own.eraseDups.filter (· ∉ img.fileNames),
      file ∉ img.fileNames ∧ loc' = loc ++ [file]) ↔
      ∃ file ∈ own, file ∉ img.fileNames ∧ loc' = loc ++ [file] := by
    simp only [List.mem_filter, List.mem_eraseDups, decide_eq_true_eq, and_assoc,
      and_self_left]
  rw [hsaved.entry?_eq, if_congr hremoved rfl rfl]

end LayeredImage

end RasterScript
