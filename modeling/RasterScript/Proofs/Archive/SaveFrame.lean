import RasterScript.Proofs.Archive.RoundTrip

/-!
# SaveFrame — what a save leaves alone

A save that is refused, or finds a manifest that is none, has touched nothing.  Any other
may have made its directory, and from then on all that it does stays inside (`Confined`): it changes
the manifest, the files that the earlier manifest lists, and layer files that were not there.  That
is so on every disk, whatever it refuses and however much of a file it has room for.

The stores in question are trees without links (`FileStore.Rooted`), so there is nothing inside a
directory that has just been made, and what is written to a name in a directory is in that
directory.
-/

namespace RasterScript

open FileStore

variable {disk : Disk} {fs fs' : FileStore} {dir : Path} {loc : Location} {name : String}

/-! ## 1. Stores that are trees -/

/-- The store is a tree: whatever there is stands in a directory.  Links there are none, as an entry
is a directory or a file of its own. -/
def FileStore.Rooted (fs : FileStore) : Prop :=
  ∀ loc name, fs.entry? (loc ++ [name]) ≠ none → fs.entry? loc = some .directory

theorem FileStore.Rooted.put (h : fs.Rooted) (hparent : fs.entry? loc = some .directory)
    (hentry : fs.entry? (loc ++ [name]) ≠ some .directory) (e : Entry) :
    (fs.put (loc ++ [name]) e).Rooted := by
  have hkeep : KeepsDirectories fs (fs.put (loc ++ [name]) e) :=
    keepsDirectories_put (location_ne_nil loc name) hentry
  intro loc' name' hthere
  apply hkeep.2
  rw [entry?_put fs (location_ne_nil loc name)] at hthere
  by_cases heq : loc' ++ [name'] = loc ++ [name]
  · obtain ⟨rfl, -⟩ := List.append_inj' heq rfl
    exact hparent
  · rw [if_neg heq] at hthere
    exact h loc' name' hthere

theorem FileStore.Rooted.unlink (h : fs.Rooted) {content : Bytes}
    (hentry : fs.entry? (loc ++ [name]) = some (.file content)) :
    (fs.unlink (loc ++ [name]) content).Rooted := by
  have hkeep : KeepsDirectories fs (fs.unlink (loc ++ [name]) content) :=
    keepsDirectories_unlink (location_ne_nil loc name) (by simp [hentry])
  intro loc' name' hthere
  apply hkeep.2
  apply h loc' name'
  rw [entry?_unlink fs (location_ne_nil loc name)] at hthere
  intro hnone
  apply hthere
  rw [hnone, ite_self]

theorem FileStore.Rooted.dropLast (h : fs.Rooted) (hd : fs.entry? loc = some .directory) :
    fs.entry? loc.dropLast = some .directory := by
  rcases List.eq_nil_or_concat loc with rfl | ⟨front, name, rfl⟩
  · exact hd
  · rw [List.concat_eq_append, List.dropLast_concat]
    apply h front name
    simp [← List.concat_eq_append, hd]

/-- A way leads through the directory around the place where it ends. -/
theorem FileStore.Rooted.directory_of_follow (h : fs.Rooted) {start : Location}
    {segments : List String} (hstart : segments = [] → fs.entry? start ≠ none)
    (hfollow : fs.follow start segments = .ok (loc ++ [name])) :
    fs.entry? loc = some .directory := by
  induction segments generalizing start with
  | nil =>
    cases hfollow
    exact h loc name (hstart rfl)
  | cons segment rest ih =>
    have hd := directory_of_follow_cons hfollow
    have hthere : ∀ {loc' : Location}, fs.entry? loc' = some .directory →
        rest = [] → fs.entry? loc' ≠ none := by
      intro loc' hd' _
      simp [hd']
    rw [follow_cons_directory hd] at hfollow
    by_cases hdot : segment = "."
    · rw [if_pos hdot] at hfollow
      exact ih (hthere hd) hfollow
    · rw [if_neg hdot] at hfollow
      by_cases hup : segment = ".."
      · rw [if_pos hup] at hfollow
        exact ih (hthere (h.dropLast hd)) hfollow
      · rw [if_neg hup] at hfollow
        by_cases hlong : maxNameLength < segment.utf8ByteSize
        · rw [if_pos hlong] at hfollow
          cases hfollow
        · rw [if_neg hlong] at hfollow
          -- only a last step may lead to nothing
          cases rest with
          | nil =>
            obtain ⟨rfl, -⟩ := List.append_inj' (Except.ok.inj hfollow) rfl
            exact hd
          | cons next rest => exact ih (fun hnil => by cases hnil) hfollow

theorem Path.segments_ne_nil {p : Path} (hne : p.text ≠ "") (hrelative : p.isAbsolute = false) :
    p.segments ≠ [] := by
  unfold Path.isAbsolute at hrelative
  unfold Path.segments
  cases hchars : p.text.toList with
  | nil => exact absurd hchars (toList_ne_nil_iff.2 hne)
  | cons c cs =>
    rw [hchars] at hrelative
    have hc : c ≠ '/' := by simpa using hrelative
    rw [pieces_cons]
    unfold consPiece
    rw [if_neg hc]
    split <;> simp

theorem FileStore.Rooted.directory_of_locate (h : fs.Rooted) {p : Path}
    (hloc : fs.locate p = .ok (loc ++ [name])) : fs.entry? loc = some .directory := by
  obtain ⟨hne, -, -, hfollow⟩ := locate_eq_ok.1 hloc
  refine h.directory_of_follow ?_ hfollow
  intro hnil
  cases habs : p.isAbsolute with
  | true => exact fun h => by cases h
  | false => exact absurd hnil (Path.segments_ne_nil hne habs)

/-- Where something is not a directory, or is not there, there is a directory around it. -/
theorem FileStore.Rooted.put_located (h : fs.Rooted) {p : Path} (hloc : fs.locate p = .ok loc)
    (hentry : fs.entry? loc ≠ some .directory) (e : Entry) : (fs.put loc e).Rooted := by
  rcases List.eq_nil_or_concat' loc with rfl | ⟨front, name, rfl⟩
  · exact absurd rfl hentry
  · exact h.put (h.directory_of_locate hloc) hentry e

/-- A store stays a tree when a file is written, as when a directory is made or a file removed. -/
theorem FileStore.Rooted.write (h : fs.Rooted) {p : Path} {content : Bytes}
    (hwrite : fs.write p content = .ok fs') : fs'.Rooted := by
  obtain ⟨⟨loc, found⟩, hlookup, hput⟩ := bind_eq_ok.1 hwrite
  obtain ⟨hloc, hfound, -⟩ := lookup_eq_ok.1 hlookup
  split at hput
  · cases hput
  · rename_i loc' found' hother heq
    cases heq
    split at hput
    · cases hput
    · cases hput
      apply h.put_located hloc
      rw [hfound]
      rintro rfl
      exact hother rfl

theorem FileStore.Rooted.makeDirectory (h : fs.Rooted) {p : Path}
    (hmake : fs.makeDirectory p = .ok fs') : fs'.Rooted := by
  obtain ⟨loc, hloc, hput⟩ := bind_eq_ok.1 hmake
  split at hput
  · cases hput
  · rename_i hnone
    cases hput
    exact h.put_located hloc (by simp [hnone]) _

theorem FileStore.Rooted.removeFile (h : fs.Rooted) {p : Path}
    (hremove : fs.removeFile p = .ok fs') : fs'.Rooted := by
  obtain ⟨⟨loc, found⟩, hlookup, herase⟩ := bind_eq_ok.1 hremove
  obtain ⟨-, hfound, -⟩ := lookup_eq_ok.1 hlookup
  split at herase
  · cases herase
  · cases herase
  · rename_i loc' content heq
    cases heq
    cases herase
    rcases List.eq_nil_or_concat' loc with rfl | ⟨front, name, rfl⟩
    · cases hfound
    · exact h.unlink hfound

/-! ## 2. Actions that stay inside a directory -/

/-- From `fs` to `fs'` only entries of the directory at `loc` with a name for which `P` holds have
changed. -/
structure FileStore.ChangedIn (dir : Path) (loc : Location) (P : String → Prop)
    (fs fs' : FileStore) : Prop where
  directory : DirectoryAt fs' dir loc
  rooted : fs'.Rooted
  workingDirectory : fs'.workingDirectory = fs.workingDirectory
  changed : ∀ loc', fs'.entry? loc' ≠ fs.entry? loc' → ∃ name, loc' = loc ++ [name] ∧ P name

variable {P : String → Prop} {α β : Type}

theorem FileStore.ChangedIn.refl (hd : DirectoryAt fs dir loc) (h : fs.Rooted) :
    ChangedIn dir loc P fs fs :=
  ⟨hd, h, rfl, fun _ hne => absurd rfl hne⟩

theorem FileStore.ChangedIn.trans {fs₁ fs₂ fs₃ : FileStore} (h : ChangedIn dir loc P fs₁ fs₂)
    (h' : ChangedIn dir loc P fs₂ fs₃) : ChangedIn dir loc P fs₁ fs₃ where
  directory := h'.directory
  rooted := h'.rooted
  workingDirectory := h'.workingDirectory.trans h.workingDirectory
  changed := by
    intro loc' hne
    by_cases hlater : fs₃.entry? loc' = fs₂.entry? loc'
    · exact h.changed loc' (hlater ▸ hne)
    · exact h'.changed loc' hlater

theorem FileStore.ChangedIn.put (hd : DirectoryAt fs dir loc) (h : fs.Rooted) (hP : P name)
    (hentry : fs.entry? (loc ++ [name]) ≠ some .directory) (content : Bytes) :
    ChangedIn dir loc P fs (fs.put (loc ++ [name]) (.file content)) where
  directory := hd.put_file hentry content
  rooted := h.put hd.directory hentry _
  workingDirectory := rfl
  changed := by
    intro loc' hne
    rw [entry?_put fs (location_ne_nil loc name)] at hne
    by_cases heq : loc' = loc ++ [name]
    · exact ⟨name, heq, hP⟩
    · rw [if_neg heq] at hne
      exact absurd rfl hne

theorem FileStore.ChangedIn.unlink (hd : DirectoryAt fs dir loc) (h : fs.Rooted) (hP : P name)
    {content : Bytes} (hentry : fs.entry? (loc ++ [name]) = some (.file content)) :
    ChangedIn dir loc P fs (fs.unlink (loc ++ [name]) content) where
  directory := hd.mono (keepsDirectories_unlink (location_ne_nil loc name) (by simp [hentry]))
  rooted := h.unlink hentry
  workingDirectory := rfl
  changed := by
    intro loc' hne
    rw [entry?_unlink fs (location_ne_nil loc name)] at hne
    by_cases heq : loc' = loc ++ [name]
    · exact ⟨name, heq, hP⟩
    · rw [if_neg heq] at hne
      exact absurd rfl hne

/-- However the action ends, it has changed nothing but entries of the directory with a name for
which `P` holds; and it fails for no other reason than that the file store or the disk has one. -/
def Confined (disk : Disk) (dir : Path) (loc : Location) (P : String → Prop) (a : FileAction α) :
    Prop :=
  ∀ fs, DirectoryAt fs dir loc → fs.Rooted → ChangedIn dir loc P fs (outcome a fs).2 ∧
    ∀ f, (outcome a fs).1 = .error f → disk.Blamed f

theorem outcome_get_bind {σ : Type} {g : σ → ExceptT Failure (StateM σ) α} {s : σ} :
    outcome (get >>= g) s = outcome (g s) s := rfl

theorem confined_pure (x : α) : Confined disk dir loc P (pure x : FileAction α) :=
  fun _ hd hr => ⟨.refl hd hr, fun _ h => by cases h⟩

theorem confined_throw {f : Failure} (hf : disk.Blamed f) :
    Confined disk dir loc P (throw f : FileAction α) := by
  intro fs hd hr
  refine ⟨.refl hd hr, ?_⟩
  intro f h
  cases h
  exact hf

theorem confined_get_bind {g : FileStore → FileAction α}
    (hg : ∀ fs, Confined disk dir loc P (g fs)) : Confined disk dir loc P (get >>= g) :=
  fun fs => hg fs fs

theorem confined_bind {a : FileAction α} {g : α → FileAction β} (ha : Confined disk dir loc P a)
    (hg : ∀ x, Confined disk dir loc P (g x)) : Confined disk dir loc P (a >>= g) := by
  intro fs hd hr
  obtain ⟨hfs, hcause⟩ := ha fs hd hr
  rw [outcome_bind]
  cases h : outcome a fs with
  | mk r fs₁ =>
    rw [h] at hfs hcause
    cases r with
    | error f =>
      refine ⟨hfs, ?_⟩
      intro g hg
      cases hg
      exact hcause f rfl
    | ok x =>
      obtain ⟨hfs', hcause'⟩ := hg x fs₁ hfs.directory hfs.rooted
      exact ⟨hfs.trans hfs', hcause'⟩

theorem confined_forM {g : α → FileAction PUnit} {xs : List α}
    (hg : ∀ x ∈ xs, Confined disk dir loc P (g x)) : Confined disk dir loc P (xs.forM g) := by
  induction xs with
  | nil => exact confined_pure PUnit.unit
  | cons x xs ih =>
    obtain ⟨hx, hxs⟩ := List.forall_mem_cons.1 hg
    rw [List.forM]
    exact confined_bind hx fun _ => ih hxs

/-! ## 3. What a save does in its directory -/

theorem confined_allow (disk : Disk) (request : DiskRequest) (p : Path) :
    Confined disk dir loc P (disk.allow request p) := by
  intro fs hd hr
  unfold Disk.allow
  rw [outcome_get_bind]
  cases disk.fault? request fs p with
  | none => exact confined_pure () fs hd hr
  | some fault => exact confined_throw (disk.blamed_file _) fs hd hr

theorem confined_change (hn : isPlainFileName name = true) (hP : Nameable dir name → P name)
    (content : Bytes) :
    Confined disk dir loc P (FileAction.change (·.write (dir.join name) content)) := by
  intro fs hd hr
  cases h : outcome (FileAction.change (·.write (dir.join name) content)) fs with
  | mk r fs' =>
    cases r with
    | ok u =>
      obtain ⟨hname, hentry, rfl⟩ := (write_join hd hn).1 (yields_change.1 h)
      exact ⟨.put hd hr (hP hname) hentry content, fun f h => by cases h⟩
    | error f =>
      obtain ⟨⟨fault, -, rfl⟩, rfl⟩ := fails_change.1 h
      refine ⟨.refl hd hr, ?_⟩
      intro f h
      cases h
      exact disk.blamed_file fault

/-- A file that is cut is the same entry as one that is written whole. -/
theorem confined_write (hn : isPlainFileName name = true) (hP : Nameable dir name → P name)
    (disk : Disk) (content : Bytes) {complaint : Shortage → Failure}
    (hcomplaint : ∀ s c, complaint s ≠ .refused c) :
    Confined disk dir loc P (disk.write (dir.join name) content complaint) := by
  unfold Disk.write
  refine confined_bind (confined_allow disk _ _) fun _ => ?_
  refine confined_get_bind fun fs => ?_
  split
  · exact confined_change hn hP content
  · rename_i s hshort
    refine confined_bind (confined_change hn hP _) fun _ => ?_
    split
    · exact confined_throw (Disk.blamed_of_shortage hshort (hcomplaint s))
    · exact confined_pure ()

theorem confined_removeStale (hn : isPlainFileName name = true)
    (hP : Nameable dir name → P name) : Confined disk dir loc P (removeStale disk dir name) := by
  unfold removeStale
  refine confined_bind (confined_allow disk _ _) fun _ => ?_
  intro fs hd hr
  rw [outcome_get_bind]
  cases hremove : fs.removeFile (dir.join name) with
  | ok fs₁ =>
    obtain ⟨hname, content, hentry, rfl⟩ := (removeFile_join hd hn).1 hremove
    exact ⟨.unlink hd hr (hP hname) hentry, fun f h => by cases h⟩
  | error fault =>
    -- gone before, or still there
    cases fault with
    | notFound => exact confined_pure () fs hd hr
    | _ => exact confined_throw (disk.blamed_file _) fs hd hr

theorem confined_writeLayer [PictureCodec] {x : Layer × String} (hn : isPlainFileName x.2 = true)
    (hP : Nameable dir x.2 → P x.2) : Confined disk dir loc P (writeLayer disk dir x) := by
  intro fs hd hr
  -- the directory is there, so the check of the parent passes
  have hsame : outcome (writeLayer disk dir x) fs =
      outcome (disk.write (dir.join x.2) (PictureCodec.png x.1.grid) pictureComplaint) fs := by
    have hparent := yields_checkParent_join hd hn
    unfold writeLayer writePictureOn
    rw [outcome_bind]
    rw [Yields] at hparent
    rw [hparent]
  rw [hsame]
  exact confined_write hn hP disk _ pictureComplaint_ne_refused fs hd hr

/-! ## 4. What it does before that -/

/-- An action either fails at its first step or goes on from where that has led. -/
theorem outcome_bind_cases {σ : Type} (a : ExceptT Failure (StateM σ) α)
    (g : α → ExceptT Failure (StateM σ) β) (s : σ) :
    (∃ f s', Fails a s f s' ∧ outcome (a >>= g) s = (.error f, s')) ∨
      ∃ x s', Yields a s x s' ∧ outcome (a >>= g) s = outcome (g x) s' := by
  rw [outcome_bind]
  cases h : outcome a s with
  | mk r s' =>
    cases r with
    | error f => exact .inl ⟨f, s', h, rfl⟩
    | ok x => exact .inr ⟨x, s', h, rfl⟩

/-- However the action ends, the file store is as it was. -/
def OnlyLooks (a : FileAction α) : Prop := ∀ fs, (outcome a fs).2 = fs

theorem OnlyLooks.of_yields {a : FileAction α} {x : α} (ha : OnlyLooks a)
    (h : Yields a fs x fs') : fs' = fs := by
  have hsame := ha fs
  rw [h] at hsame
  exact hsame

theorem OnlyLooks.of_fails {a : FileAction α} {f : Failure} (ha : OnlyLooks a)
    (h : Fails a fs f fs') : fs' = fs := by
  have hsame := ha fs
  rw [h] at hsame
  exact hsame

theorem onlyLooks_pure (x : α) : OnlyLooks (pure x : FileAction α) := fun _ => rfl

theorem onlyLooks_throw (f : Failure) : OnlyLooks (throw f : FileAction α) := fun _ => rfl

theorem onlyLooks_accept (r : Except Refusal α) : OnlyLooks (FileAction.accept r) := by
  intro fs
  cases r <;> rfl

theorem onlyLooks_ask (q : FileStore → Except FileFault α) : OnlyLooks (FileAction.ask q) := by
  intro fs
  unfold FileAction.ask
  rw [outcome_get_bind]
  cases q fs <;> rfl

theorem onlyLooks_get_bind {g : FileStore → FileAction α} (hg : ∀ fs, OnlyLooks (g fs)) :
    OnlyLooks (get >>= g) := fun fs => hg fs fs

theorem onlyLooks_bind {a : FileAction α} {g : α → FileAction β} (ha : OnlyLooks a)
    (hg : ∀ x, OnlyLooks (g x)) : OnlyLooks (a >>= g) := by
  intro fs
  rcases outcome_bind_cases a g fs with ⟨f, fs₁, hf, heq⟩ | ⟨x, fs₁, hx, heq⟩
  · rw [heq]
    exact ha.of_fails hf
  · rw [heq, hg x fs₁]
    exact ha.of_yields hx

theorem onlyLooks_checkParent (p : Path) : OnlyLooks (checkParent p) := by
  unfold checkParent
  refine onlyLooks_get_bind fun fs => onlyLooks_bind (onlyLooks_accept _) fun _ => ?_
  split
  · exact onlyLooks_pure ()
  · exact onlyLooks_accept _

theorem onlyLooks_allow (disk : Disk) (request : DiskRequest) (p : Path) :
    OnlyLooks (disk.allow request p) := by
  unfold Disk.allow
  refine onlyLooks_get_bind fun fs => ?_
  split
  · exact onlyLooks_pure _
  · exact onlyLooks_throw _

theorem fails_enterDirectory {f : Failure} (h : Fails (enterDirectory disk dir) fs f fs') :
    fs' = fs := by
  unfold enterDirectory at h
  rw [fails_get_bind] at h
  split at h
  · exact (fails_accept.1 h).2
  · rcases fails_bind.1 h with hparent | ⟨_, fs₁, hparent, hmake⟩
    · exact (onlyLooks_checkParent dir).of_fails hparent
    · rw [← (onlyLooks_checkParent dir).of_yields hparent]
      rcases Disk.fails_allow_bind.1 hmake with ⟨_, -, -, hfs⟩ | ⟨-, hmake⟩
      · exact hfs
      · exact (fails_change.1 hmake).2

theorem yields_checkNotForeign {own : List String} {file : String} :
    Yields (checkNotForeign dir own file) fs ⟨⟩ fs' ↔
      (file ∈ own ∨ fs.pathExists (dir.join file) = false) ∧ fs' = fs := by
  unfold checkNotForeign
  rw [yields_get_bind, yields_accept, require_eq_ok]
  simp

theorem fails_checkNotForeign {own : List String} {file : String} {f : Failure}
    (h : Fails (checkNotForeign dir own file) fs f fs') :
    fs.pathExists (dir.join file) = true := by
  unfold checkNotForeign at h
  rw [fails_get_bind] at h
  obtain ⟨⟨c, hc, -⟩, -⟩ := fails_accept.1 h
  have hrefused := (require_eq_error.1 hc).1
  simp only [Bool.or_eq_false_iff, Bool.not_eq_false'] at hrefused
  exact hrefused.2

theorem pathExists_of_fails_checkNotForeign_all {own files : List String} {f : Failure}
    (h : Fails (files.forM (checkNotForeign dir own)) fs f fs') :
    ∃ file ∈ files, fs.pathExists (dir.join file) = true := by
  induction files with
  | nil => cases h
  | cons file files ih =>
    rcases fails_forM_cons.1 h with hfile | ⟨fs₁, hfile, hfiles⟩
    · exact ⟨file, List.mem_cons_self, fails_checkNotForeign hfile⟩
    · obtain ⟨-, rfl⟩ := yields_checkNotForeign.1 hfile
      obtain ⟨other, hm, hexists⟩ := ih hfiles
      exact ⟨other, List.mem_cons_of_mem _ hm, hexists⟩

/-- Before a save goes on, its directory was there or has been made. -/
def Entered (loc : Location) (fs before : FileStore) : Prop :=
  before = fs ∨ fs.entry? loc = none ∧ before = fs.put loc .directory

variable {img : LayeredImage} {own : List String} {before : FileStore}

theorem rooted_of_entered (hr : fs.Rooted) (hloc : fs.locate dir = .ok loc)
    (h : Entered loc fs before) : before.Rooted := by
  rcases h with rfl | ⟨hnone, rfl⟩
  · exact hr
  · exact hr.put_located hloc (by simp [hnone]) _

/-- A directory that has just been made has nothing in it. -/
theorem eq_of_pathExists (hr : fs.Rooted) (hd : DirectoryAt before dir loc)
    (h : Entered loc fs before)
    (hn : isPlainFileName name = true) (hexists : before.pathExists (dir.join name) = true) :
    before = fs := by
  obtain ⟨-, hthere⟩ := (pathExists_join hd hn).1 hexists
  rw [entry?_of_entered h (location_ne_self loc name)] at hthere
  rcases h with hsame | ⟨hnone, -⟩
  · exact hsame
  · have hloc := hr loc name hthere
    rw [hnone] at hloc
    cases hloc

/-- The names of the files that a save writes or removes. -/
def LayeredImage.Touches (img : LayeredImage) (dir : Path) (own : List String) (name : String) :
    Prop :=
  Nameable dir name ∧ (name = Manifest.fileName ∨ name ∈ own ∨ name ∈ img.fileNames)

section Formats

variable [ManifestFormat]

theorem onlyLooks_readManifest (p : Path) : OnlyLooks (readManifest p) := by
  unfold readManifest
  refine onlyLooks_bind (onlyLooks_ask _) fun content => ?_
  refine onlyLooks_bind (onlyLooks_accept _) fun _ => ?_
  split
  · exact onlyLooks_pure _
  · exact onlyLooks_throw _

theorem onlyLooks_ownFiles (disk : Disk) (dir : Path) : OnlyLooks (ownFiles disk dir) := by
  unfold ownFiles
  refine onlyLooks_get_bind fun fs => ?_
  split
  · refine onlyLooks_bind (onlyLooks_allow _ _ _) fun _ => ?_
    exact onlyLooks_bind (onlyLooks_readManifest _) fun _ => onlyLooks_pure _
  · exact onlyLooks_pure _

/-- Only a manifest that is there can be a reason against it. -/
theorem pathExists_of_fails_ownFiles {f : Failure} (h : Fails (ownFiles disk dir) fs f fs') :
    fs.pathExists (dir.join Manifest.fileName) = true := by
  unfold ownFiles at h
  rw [fails_get_bind] at h
  split at h
  · assumption
  · exact absurd h fails_pure

/-- All checks have been passed, and what could be overwritten are files that the earlier manifest
lists. -/
structure LayeredImage.Admitted (img : LayeredImage) (dir : Path) (loc : Location)
    (own : List String) (fs before : FileStore) : Prop where
  located : fs.locate dir = .ok loc
  entered : Entered loc fs before
  directory : DirectoryAt before dir loc
  rooted : before.Rooted
  own_listed : ∀ file ∈ own, isPlainFileName file = true ∧ file ∈ fs.listedFiles dir
  own_or_new : ∀ file ∈ img.fileNames, file ∈ own ∨ before.pathExists (dir.join file) = false

namespace LayeredImage.Admitted

theorem workingDirectory (h : img.Admitted dir loc own fs before) :
    before.workingDirectory = fs.workingDirectory := by
  rcases h.entered with rfl | ⟨-, rfl⟩
  · rfl
  · rfl

/-- What is touched from then on is the manifest, a file that the earlier manifest lists, or a layer
file that was not there. -/
theorem cases_of_touches (h : img.Admitted dir loc own fs before)
    (htouches : img.Touches dir own name) : name = Manifest.fileName ∨
      isPlainFileName name = true ∧ name ∈ fs.listedFiles dir ∨
      name ∈ img.fileNames ∧ fs.entry? (loc ++ [name]) = none := by
  obtain ⟨hname, hmanifest | hmine | hlayer⟩ := htouches
  · exact .inl hmanifest
  · exact .inr (.inl (h.own_listed name hmine))
  · rcases h.own_or_new name hlayer with hmine | hnone
    · exact .inr (.inl (h.own_listed name hmine))
    · refine .inr (.inr ⟨hlayer, ?_⟩)
      rw [← entry?_of_entered h.entered (location_ne_self loc name)]
      by_contra hthere
      rw [(pathExists_join h.directory (LayeredImage.isPlainFileName_of_mem hlayer)).2
        ⟨hname, hthere⟩] at hnone
      cases hnone

end LayeredImage.Admitted

/-! ## 5. The whole save -/

variable [PictureCodec]

/-- The part of a save that comes after all checks. -/
def LayeredImage.putInto (disk : Disk) (img : LayeredImage) (dir : Path) (own : List String) :
    FileAction Unit := do
  img.targets.forM (writeLayer disk dir)
  disk.write (dir.join Manifest.fileName) (ManifestFormat.encode img.manifest) manifestComplaint
  (own.eraseDups.filter (· ∉ img.fileNames)).forM (removeStale disk dir)

/-- A save either fails before it has changed anything, or passes all checks and goes on. -/
theorem outcome_saveOn (hr : fs.Rooted) (disk : Disk) (img : LayeredImage) (dir : Path) :
    (∃ f, outcome (img.saveOn disk dir) fs = (.error f, fs)) ∨ ∃ loc own before,
      img.Admitted dir loc own fs before ∧
        outcome (img.saveOn disk dir) fs = outcome (img.putInto disk dir own) before := by
  rw [LayeredImage.saveOn_eq]
  rcases outcome_bind_cases (FileAction.accept _) _ fs with ⟨f, fs₁, hf, heq⟩ | ⟨_, fs₁, hx, heq⟩
  · rw [heq, (fails_accept.1 hf).2]
    exact .inl ⟨f, rfl⟩
  rw [heq, (yields_accept.1 hx).2]
  rcases outcome_bind_cases (enterDirectory disk dir) _ fs with
    ⟨f, fs₂, hf, heq⟩ | ⟨_, before, hx, heq⟩
  · rw [heq, fails_enterDirectory hf]
    exact .inl ⟨f, rfl⟩
  obtain ⟨loc, hd, hloc, hentered⟩ := yields_enterDirectory hx
  rw [heq]
  rcases outcome_bind_cases (ownFiles disk dir) _ before with
    ⟨f, fs₃, hf, heq⟩ | ⟨own, fs₃, hx, heq⟩
  · -- there was a manifest, so the directory was there
    have hexists := pathExists_of_fails_ownFiles hf
    have hsame := eq_of_pathExists hr hd hentered isPlainFileName_manifest hexists
    rw [heq, (onlyLooks_ownFiles disk dir).of_fails hf, hsame]
    exact .inl ⟨f, rfl⟩
  obtain ⟨hfs₃, hown⟩ := own_of_yields_ownFiles hd hx
  rw [heq, hfs₃]
  rcases outcome_bind_cases (img.fileNames.forM (checkNotForeign dir own)) _ before with
    ⟨f, fs₄, hf, heq⟩ | ⟨_, fs₄, hx, heq⟩
  · -- some layer file was there, so the directory was there
    obtain ⟨file, hm, hexists⟩ := pathExists_of_fails_checkNotForeign_all hf
    have hsame := eq_of_pathExists hr hd hentered (LayeredImage.isPlainFileName_of_mem hm) hexists
    rw [heq, (fails_checkNotForeign_all hf).2, hsame]
    exact .inl ⟨f, rfl⟩
  have hchecked := (yields_forM_iff fun _ fs₁ h => (yields_checkNotForeign.1 h).2).1 hx
  rw [heq, hchecked.1]
  have hbefore := rooted_of_entered hr hloc hentered
  refine .inr ⟨loc, own, before, ⟨hloc, hentered, hd, hbefore, ?_, ?_⟩, rfl⟩
  · rcases hown with ⟨m, hm, rfl⟩ | ⟨-, rfl⟩
    · intro file hmem
      rw [(hm.of_entered hentered).listedFiles_eq hloc]
      exact (List.mem_filter.1 hmem).symm
    · simp
  · intro file hm
    exact (yields_checkNotForeign.1 (hchecked.2 file hm)).1

theorem confined_putInto (disk : Disk) (dir : Path) (loc : Location) (img : LayeredImage)
    (hown : ∀ file ∈ own, isPlainFileName file = true) :
    Confined disk dir loc (img.Touches dir own) (img.putInto disk dir own) := by
  refine confined_bind (confined_forM ?_) fun _ => confined_bind (confined_write
    isPlainFileName_manifest (fun hname => ⟨hname, .inl rfl⟩) disk _
    manifestComplaint_ne_refused) fun _ => confined_forM ?_
  · intro x hx
    have hmem : x.2 ∈ img.fileNames := by
      rw [← img.map_snd_targets]
      exact List.mem_map_of_mem hx
    exact confined_writeLayer (LayeredImage.isPlainFileName_target hx)
      fun hname => ⟨hname, .inr (.inr hmem)⟩
  · intro file hfile
    have hmem : file ∈ own := List.mem_eraseDups.1 (List.mem_filter.1 hfile).1
    exact confined_removeStale (hown file hmem) fun hname => ⟨hname, .inr (.inl hmem)⟩

end Formats

theorem rooted_bareStore : bareStore.Rooted := by
  intro loc name hthere
  rw [entry?_of_ne (location_ne_nil loc name)] at hthere
  exact absurd rfl hthere

/-- A directory `d` with a manifest, which lists a file outside of it, and with a file that no
manifest lists. -/
def sharedStore : FileStore :=
  (((bareStore.put ["x"] (.file [1])).put ["d"] .directory).put ["d", "notes"] (.file [2])).put
    ["d", "manifest.pgl"] (.file (Manifest.encode ⟨"PGL1", 1, 1, [⟨"a", true, "../x"⟩]⟩))

end RasterScript
