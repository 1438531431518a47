import RasterScript.Proofs.Archive.Saving
import RasterScript.Proofs.Messages.Edits

/-!
# Files — what messages about files show

They show paths of the request, parts of these paths, and names of layers.  The one exception is
loading a stack: the names of the layer files come out of the manifest and are shown as they stand
there, with any line break that they hold (`Failure.ShowsFile`).
-/

namespace RasterScript

/-! ## 1. Files -/

theorem Path.oneLine_join {p : Path} {name : String} (h : OneLine p.text) (hname : OneLine name) :
    OneLine (p.join name).text := by
  have hslash : OneLine "/" := by decide
  unfold join
  split
  · exact hname
  · split
    · exact oneLine_append.2 ⟨h, hname⟩
    · exact oneLine_append.2 ⟨oneLine_append.2 ⟨h, hslash⟩, hname⟩

theorem Path.oneLine_of_join {p : Path} {name : String} (h : OneLine (p.join name).text) :
    OneLine name := by
  unfold join at h
  split at h
  · exact h
  · split at h
    · exact (oneLine_append.1 h).2
    · exact (oneLine_append.1 h).2

theorem mem_joined_of_mem {sep c : α} {ps : List (List α)} {p : List α} (hp : p ∈ ps)
    (hc : c ∈ p) : c ∈ joined sep ps := by
  induction ps with
  | nil => cases hp
  | cons q qs ih =>
    cases qs with
    | nil =>
      obtain rfl := List.mem_singleton.1 hp
      exact hc
    | cons r rs =>
      rw [joined, List.mem_append, List.mem_cons]
      rcases List.mem_cons.1 hp with rfl | hp
      · exact .inl hc
      · exact .inr (.inr (ih hp))

theorem mem_of_mem_joined {sep c : α} {ps : List (List α)} (hc : c ∈ joined sep ps)
    (hne : c ≠ sep) : ∃ p ∈ ps, c ∈ p := by
  induction ps with
  | nil => cases hc
  | cons q qs ih =>
    cases qs with
    | nil => exact ⟨q, List.mem_cons_self, hc⟩
    | cons r rs =>
      rw [joined, List.mem_append, List.mem_cons] at hc
      rcases hc with hc | hc | hc
      · exact ⟨q, List.mem_cons_self, hc⟩
      · exact absurd hc hne
      · obtain ⟨p, hp, hcp⟩ := ih hc
        exact ⟨p, List.mem_cons_of_mem q hp, hcp⟩

/-- A parent consists of pieces of the path. -/
theorem Path.oneLine_parent {p q : Path} (h : OneLine p.text) (hq : p.parent? = some q) :
    OneLine q.text := by
  unfold parent? at hq
  cases hpieces : p.reversedPieces with
  | nil =>
    rw [hpieces] at hq
    cases hq
  | cons last rest =>
    rw [hpieces] at hq
    cases hq
    intro hm
    have hbody : '\n' ∈ joined '/' (dropIdle p.isAbsolute rest).reverse := by
      rw [String.toList_ofList] at hm
      split at hm
      · exact (List.mem_cons.1 hm).resolve_left (by decide)
      · exact hm
    obtain ⟨piece, hpiece, hnewline⟩ := mem_of_mem_joined hbody (by decide)
    have hmem : piece ∈ pieces '/' p.body := by
      have hrest := mem_of_mem_dropIdle (List.mem_reverse.1 hpiece)
      have hall : piece ∈ p.reversedPieces := by
        rw [hpieces]
        exact List.mem_cons_of_mem last hrest
      rw [reversedPieces_eq] at hall
      exact List.mem_reverse.1 (mem_of_mem_dropIdle hall)
    apply h
    rw [text_eq_body]
    have hin : '\n' ∈ p.body := by
      rw [← joined_pieces '/' p.body]
      exact mem_joined_of_mem hmem hnewline
    split
    · exact List.mem_cons_of_mem _ hin
    · exact hin

theorem failsOnly_checkParent {p : Path} (h : OneLine p.text) :
    FailsOnly Failure.Plain (checkParent p) := by
  unfold checkParent
  refine failsOnly_get_bind fun fs => ?_
  refine failsOnly_bind (failsOnly_accept (refusesPlainly_require (plain_of_no_texts rfl))) ?_
  intro _
  split
  · exact failsOnly_pure _
  · rename_i dir hdir
    exact failsOnly_accept
      (refusesPlainly_require (plain_of_text rfl (Path.oneLine_parent h hdir)))

theorem failsOnly_allow (disk : Disk) (request : DiskRequest) (p : Path) :
    FailsOnly Failure.Plain (disk.allow request p) := by
  unfold Disk.allow
  refine failsOnly_get_bind fun fs => ?_
  split
  · exact failsOnly_pure _
  · exact failsOnly_throw trivial

theorem failsOnly_write (disk : Disk) (p : Path) (content : Bytes) {complaint : Shortage → Failure}
    (h : ∀ s c, complaint s ≠ .refused c) :
    FailsOnly Failure.Plain (disk.write p content complaint) := by
  unfold Disk.write
  refine failsOnly_bind (failsOnly_allow _ _ _) fun _ => failsOnly_get_bind fun fs => ?_
  split
  · exact failsOnly_change fun _ => trivial
  · refine failsOnly_bind (failsOnly_change fun _ => trivial) fun _ => ?_
    split
    · exact failsOnly_throw (Failure.plain_of_ne_refused (h _))
    · exact failsOnly_pure _

theorem failsOnly_readManifest [ManifestFormat] {p : Path} (h : OneLine p.text) :
    FailsOnly Failure.Plain (readManifest p) := by
  unfold readManifest
  refine failsOnly_bind (failsOnly_ask fun _ => trivial) fun content => ?_
  refine failsOnly_bind (failsOnly_accept (refusesPlainly_require (plain_of_text rfl h))) ?_
  intro _
  split
  · exact failsOnly_pure _
  · exact failsOnly_throw trivial

theorem oneLine_layerFileName (i : Nat) {name : String} (h : OneLine name) :
    OneLine (layerFileName i name) := by
  have hdash : OneLine "-" := by decide
  have hending : OneLine ".png" := by decide
  exact oneLine_append.2 ⟨oneLine_append.2 ⟨oneLine_append.2 ⟨oneLine_repr i, hdash⟩, h⟩, hending⟩

section Formats

variable [PictureCodec]

theorem failsOnly_writePicture (disk : Disk) (g : Grid) (format : ImageFormat) {p : Path}
    (h : OneLine p.text) (quality : Nat) :
    FailsOnly Failure.Plain (writePictureOn disk g format p quality) := by
  unfold writePictureOn
  refine failsOnly_bind (failsOnly_checkParent h) fun _ => ?_
  split
  · exact failsOnly_write _ _ _ pictureComplaint_ne_refused
  · exact failsOnly_write _ _ _ pictureComplaint_ne_refused
  · obtain ⟨content, fault⟩ := PictureCodec.jpeg (max 1 (min 100 quality)) g
    cases fault with
    | none =>
      exact failsOnly_bind (failsOnly_write _ _ _ pictureComplaint_ne_refused) fun _ =>
        failsOnly_pure _
    | some fault =>
      exact failsOnly_bind (failsOnly_write _ _ _ fun _ _ => nofun) fun _ => failsOnly_throw trivial

theorem failsOnly_readGrid {p : Path} (h : P (.refused (.missing .imageFile p.text)))
    (hplain : ∀ f : Failure, f.Plain → P f) : FailsOnly P (readGrid p) := by
  unfold readGrid readRaster
  refine failsOnly_bind (failsOnly_get_bind fun fs => ?_) fun r => ?_
  · refine failsOnly_bind (failsOnly_accept ?_) fun _ => ?_
    · intro c hc
      exact (require_eq_error.1 hc).2 ▸ h
    · refine failsOnly_bind (failsOnly_ask fun _ => hplain _ trivial) fun content => ?_
      split
      · exact failsOnly_pure _
      · exact failsOnly_throw (hplain _ trivial)
  · exact failsOnly_accept fun c hc => hplain _ (refusesPlainly_toGrid r c hc)

namespace LayeredImage

theorem failsOnly_save [ManifestFormat] (disk : Disk) (img : LayeredImage) {dir : Path}
    (h : OneLine dir.text) :
    FailsOnly Failure.Plain (img.saveOn disk dir) := by
  have hmanifest : OneLine (dir.join Manifest.fileName).text := Path.oneLine_join h (by decide)
  have hfile : ∀ file ∈ img.fileNames, OneLine (dir.join file).text := by
    intro file hm
    obtain ⟨i, l, -, rfl⟩ := mem_fileNames.1 hm
    exact Path.oneLine_join h (oneLine_layerFileName i (oneLine_of_isLayerName l.name_valid))
  rw [saveOn_eq]
  refine failsOnly_bind (failsOnly_accept (refusesPlainly_require (plain_of_no_texts rfl))) ?_
  intro _
  refine failsOnly_bind ?_ fun _ => failsOnly_bind ?_ fun own => failsOnly_bind ?_ fun _ =>
    failsOnly_bind ?_ fun _ =>
      failsOnly_bind (failsOnly_write _ _ _ manifestComplaint_ne_refused) fun _ => ?_
  · -- the directory
    unfold enterDirectory
    refine failsOnly_get_bind fun fs => ?_
    split
    · exact failsOnly_accept (refusesPlainly_require (plain_of_text rfl h))
    · exact failsOnly_bind (failsOnly_checkParent h) fun _ =>
        failsOnly_bind (failsOnly_allow _ _ _) fun _ => failsOnly_change fun _ => trivial
  · -- the earlier manifest
    unfold ownFiles
    refine failsOnly_get_bind fun fs => ?_
    split
    · exact failsOnly_bind (failsOnly_allow _ _ _) fun _ =>
        failsOnly_bind (failsOnly_readManifest hmanifest) fun _ => failsOnly_pure _
    · exact failsOnly_pure _
  · -- files of others
    refine failsOnly_forM fun file hm => failsOnly_get_bind fun fs => ?_
    exact failsOnly_accept (refusesPlainly_require (plain_of_text rfl (hfile file hm)))
  · -- the layer files
    refine failsOnly_forM fun x hx => failsOnly_writePicture _ _ _ (hfile x.2 ?_) _
    rw [← img.map_snd_targets]
    exact List.mem_map_of_mem hx
  · -- files that are not needed any more
    refine failsOnly_forM fun file _ => failsOnly_bind (failsOnly_allow _ _ _) fun _ =>
      failsOnly_get_bind fun fs => ?_
    split
    · intro fs f fs' hf
      cases hf
    · exact failsOnly_pure _
    · exact failsOnly_throw trivial

theorem failsOnly_addPicture (img : LayeredImage) {name : String} {p : Path} (hname : OneLine name)
    (hp : OneLine p.text) : FailsOnly Failure.Plain (img.addPicture name p) := by
  unfold addPicture
  refine failsOnly_bind (failsOnly_accept (img.refusesPlainly_freshName hname)) fun _ => ?_
  refine failsOnly_bind (failsOnly_readGrid (plain_of_text rfl hp) fun _ hf => hf) fun g => ?_
  exact failsOnly_accept (img.refusesPlainly_addGrid hname g)

end LayeredImage

end Formats

/-! ## 2. Loading -/

/-- The failure shows the name of a layer file, as a manifest gives it, with a line break. -/
def Failure.ShowsFile (dir : Path) (file : String) (f : Failure) : Prop :=
  ¬ OneLine file ∧ (f = .refused (.notAPlainFileName file) ∨
    f = .refused (.missing .imageFile (dir.join file).text))

theorem Failure.ShowsFile.not_plain {dir : Path} {file : String} {f : Failure}
    (h : f.ShowsFile dir file) : ¬ f.Plain := by
  intro hplain
  obtain ⟨hfile, rfl | rfl⟩ := h
  · exact hfile (hplain file List.mem_cons_self)
  · exact hfile (Path.oneLine_of_join (hplain _ List.mem_cons_self))

variable [PictureCodec]

theorem failsOnly_loadLayer {dir : Path} (h : OneLine dir.text) (width height : Nat)
    (r : LayerRecord) : FailsOnly (fun f => f.Plain ∨ f.ShowsFile dir r.file)
      (loadLayer dir width height r) := by
  have hplain : ∀ {f : Failure}, f.Plain → f.Plain ∨ f.ShowsFile dir r.file := .inl
  unfold loadLayer
  refine failsOnly_accept_bind
    (fun c hc => hplain (refusesPlainly_checkLayerName r.name c hc)) fun _ hname => ?_
  have hname : OneLine r.name := oneLine_of_isLayerName (checkLayerName_eq_ok.1 hname)
  refine failsOnly_accept_bind ?_ fun _ _ => ?_
  · intro c hc
    obtain rfl := (require_eq_error.1 hc).2
    by_cases hfile : OneLine r.file
    · exact hplain (plain_of_text rfl hfile)
    · exact .inr ⟨hfile, .inl rfl⟩
  refine failsOnly_bind (failsOnly_readGrid ?_ fun _ => hplain) fun g => ?_
  · by_cases hfile : OneLine r.file
    · exact hplain (plain_of_text rfl (Path.oneLine_join h hfile))
    · exact .inr ⟨hfile, .inr rfl⟩
  refine failsOnly_accept_bind (fun c hc => hplain
    (refusesPlainly_require (plain_of_text rfl hname) c hc)) fun _ _ => ?_
  refine failsOnly_accept fun c hc => hplain ?_
  unfold Layer.named at hc
  split at hc
  · cases hc
  · rename_i c' hcheck
    cases hc
    exact refusesPlainly_checkLayerName r.name c hcheck

/-- Loading a stack fails plainly, or at a layer file for which the manifest gives a name with a
line break. -/
theorem LayeredImage.fails_load [ManifestFormat] {dir : Path} (h : OneLine dir.text)
    {maxDimension : Nat} {fs fs' : FileStore} {f : Failure}
    (hf : Fails (LayeredImage.load dir maxDimension) fs f fs') : f.Plain ∨
      ∃ loc m r, fs.DirectoryAt dir loc ∧ fs.HoldsManifest dir loc m ∧ r ∈ m.layers ∧
        f.ShowsFile dir r.file := by
  have hmanifest : OneLine (dir.join Manifest.fileName).text := Path.oneLine_join h (by decide)
  unfold load at hf
  rw [fails_get_bind] at hf
  rcases fails_accept_bind.1 hf with ⟨c, hc, rfl, -⟩ | ⟨_, hdir, hf⟩
  · exact .inl (refusesPlainly_require (plain_of_text rfl h) c hc)
  obtain ⟨loc, hd⟩ := FileStore.isDirectory_iff.1 (require_eq_ok.1 hdir)
  rcases fails_accept_bind.1 hf with ⟨c, hc, rfl, -⟩ | ⟨_, -, hf⟩
  · refine .inl (refusesPlainly_require ?_ c hc)
    have hname : OneLine Manifest.fileName := by decide
    simp [Refusal.Plain, Refusal.texts, h, hname]
  rcases fails_bind.1 hf with hf | ⟨m, fs₁, hm, hf⟩
  · exact .inl (failsOnly_readManifest hmanifest _ _ _ hf)
  obtain ⟨-, hm⟩ := (FileStore.yields_readManifest hd).1 hm
  rcases fails_accept_bind.1 hf with ⟨c, hc, rfl, -⟩ | ⟨_, -, hf⟩
  · exact .inl (refusesPlainly_require (plain_of_no_texts rfl) c hc)
  rcases fails_accept_bind.1 hf with ⟨c, hc, rfl, -⟩ | ⟨_, -, hf⟩
  · exact .inl (refusesPlainly_require (plain_of_no_texts rfl) c hc)
  rcases fails_bind.1 hf with hf | ⟨layers, fs₂, -, hf⟩
  · have hlayers : FailsOnly (fun f => f.Plain ∨ ∃ r ∈ m.layers, f.ShowsFile dir r.file)
        (m.layers.mapM (loadLayer dir m.width.toNat m.height.toNat)) := by
      refine failsOnly_mapM fun r hr fs f fs' hf => ?_
      exact (failsOnly_loadLayer h _ _ r fs f fs' hf).imp id fun hshows => ⟨r, hr, hshows⟩
    rcases hlayers _ _ _ hf with hplain | ⟨r, hr, hshows⟩
    · exact .inl hplain
    · exact .inr ⟨loc, m, r, hd, hm, hr, hshows⟩
  · obtain ⟨⟨c, hc, rfl⟩, -⟩ := fails_accept.1 hf
    exact .inl (refusesPlainly_ofLayers _ _ layers c hc)

end RasterScript
