import Mathlib.Data.List.Forall2
import RasterScript.Archive.Load
import RasterScript.Proofs.Archive.FileNames
import RasterScript.Proofs.Files.Directory
import RasterScript.Proofs.Layered.Assembly

/-!
# Loading — which stack is read from a directory

Loading is a question: it changes nothing, and gives the stack that `Describes` what the manifest
and the files next to it say.  There is at most one, and the answer depends on the entries of these
names in the one directory only.
-/

namespace RasterScript

open FileStore

/-! ## 1. Lists of questions -/

section Questions

variable {σ α β : Type}

/-- Questions asked one after the other are answered together if each is answered on its own. -/
theorem yields_mapM_iff {g : α → ExceptT Failure (StateM σ) β} {s s' : σ} {xs : List α}
    {ys : List β} (hg : ∀ x y s₁, Yields (g x) s y s₁ → s₁ = s) :
    Yields (xs.mapM g) s ys s' ↔ s' = s ∧ List.Forall₂ (fun x y => Yields (g x) s y s) xs ys := by
  -- one question is answered and leaves the state for the others as it was
  induction xs generalizing ys s' with
  | nil => simp [and_comm]
  | cons x xs ih =>
    rw [List.mapM_cons, yields_bind]
    constructor
    · rintro ⟨y, s₁, hx, h⟩
      have hs₁ := hg x y s₁ hx
      subst hs₁
      obtain ⟨ys', s₂, hxs, hpure⟩ := yields_bind.1 h
      obtain ⟨rfl, hall⟩ := ih.1 hxs
      obtain ⟨rfl, rfl⟩ := yields_pure.1 hpure
      exact ⟨rfl, .cons hx hall⟩
    · rintro ⟨rfl, hall⟩
      cases hall with
      | cons hx hxs =>
        exact ⟨_, _, hx, yields_bind.2 ⟨_, _, ih.2 ⟨rfl, hxs⟩, yields_pure.2 ⟨rfl, rfl⟩⟩⟩

end Questions

/-! ## 2. The manifest of a saved stack -/

namespace FileStore

variable {fs fs' : FileStore} {dir : Path} {loc : Location} {name : String}

/-- The directory `dir`, which is at `loc`, has a file of that name with this content. -/
def HoldsFile (fs : FileStore) (dir : Path) (loc : Location) (name : String) (content : Bytes) :
    Prop :=
  Nameable dir name ∧ fs.entry? (loc ++ [name]) = some (.file content)

theorem HoldsFile.unique {content content' : Bytes} (h : fs.HoldsFile dir loc name content)
    (h' : fs.HoldsFile dir loc name content') : content' = content := by
  have heq := h.2
  rw [h'.2] at heq
  cases heq
  rfl

variable [ManifestFormat]

/-- The manifest in the directory is this one. -/
def HoldsManifest (fs : FileStore) (dir : Path) (loc : Location) (m : Manifest) : Prop :=
  ∃ content, fs.HoldsFile dir loc Manifest.fileName content ∧ Manifest.hasMagic content = true ∧
    ManifestFormat.decode content = .ok m

theorem HoldsManifest.unique {m m' : Manifest} (h : fs.HoldsManifest dir loc m)
    (h' : fs.HoldsManifest dir loc m') : m' = m := by
  obtain ⟨content, hfile, -, hm⟩ := h
  obtain ⟨content', hfile', -, hm'⟩ := h'
  rw [hfile.unique hfile', hm] at hm'
  cases hm'
  rfl

/-- A manifest is read where there is a file with the magic whose bytes are that manifest. -/
theorem yields_readManifest_iff {p : Path} {m : Manifest} : Yields (readManifest p) fs m fs' ↔
    fs' = fs ∧ ∃ content, fs.read p = .ok content ∧ Manifest.hasMagic content = true ∧
      ManifestFormat.decode content = .ok m := by
  unfold readManifest
  constructor
  · intro h
    obtain ⟨content, hread, h⟩ := yields_ask_bind.1 h
    obtain ⟨_, hmagic, h⟩ := yields_accept_bind.1 h
    cases hdecode : ManifestFormat.decode content with
    | error fault =>
      rw [hdecode] at h
      exact absurd h yields_throw
    | ok m' =>
      rw [hdecode] at h
      obtain ⟨rfl, rfl⟩ := yields_pure.1 h
      exact ⟨rfl, content, hread, require_eq_ok.1 hmagic, hdecode⟩
  · rintro ⟨rfl, content, hread, hmagic, hdecode⟩
    refine yields_ask_bind.2 ⟨content, hread, ?_⟩
    refine yields_accept_bind.2 ⟨(), require_eq_ok.2 hmagic, ?_⟩
    rw [hdecode]
    exact yields_pure.2 ⟨rfl, rfl⟩

theorem yields_readManifest (hd : DirectoryAt fs dir loc) {m : Manifest} :
    Yields (readManifest (dir.join Manifest.fileName)) fs m fs' ↔
      fs' = fs ∧ fs.HoldsManifest dir loc m := by
  rw [yields_readManifest_iff]
  exact and_congr_right fun _ => exists_congr fun _ =>
    and_congr_left fun _ => read_join hd isPlainFileName_manifest

end FileStore

/-! ## 3. Its layers -/

theorem toGrid_eq_ok {r : Raster} {g : Grid} : r.toGrid = .ok g ↔ r.toGrid.toOption = some g := by
  cases r.toGrid with
  | error c => simp [Except.toOption]
  | ok g' => simp [Except.toOption]

theorem Layer.named_eq_ok {name : String} {g : Grid} {visible : Bool} {l : Layer} :
    Layer.named name g visible = .ok l ↔ l.name = name ∧ l.grid = g ∧ l.visible = visible := by
  unfold Layer.named
  constructor
  · intro h
    split at h
    · cases h
      exact ⟨rfl, rfl, rfl⟩
    · cases h
  · rintro ⟨rfl, rfl, rfl⟩
    split
    · rfl
    · rename_i c hc
      rw [checkLayerName_eq_ok.2 l.name_valid] at hc
      cases hc

theorem sides_of_mem {img : LayeredImage} {l : Layer} (h : l ∈ img.layers) :
    l.grid.width = img.width ∧ l.grid.height = img.height := by
  unfold Grid.width Grid.height
  rw [img.same_extent l h]
  exact ⟨rfl, rfl⟩

variable [PictureCodec]

/-- The picture with pixels that the bytes of a file are. -/
def gridOf? (content : Bytes) : Option Grid :=
  match PictureCodec.decode content with
  | .ok r => r.toGrid.toOption
  | .error _ => none

theorem gridOf?_png (g : Grid) : gridOf? (PictureCodec.png g) = some g := by
  unfold gridOf?
  rw [PictureCodec.decode_png]
  dsimp only
  rw [Grid.toGrid_toRaster]
  rfl

namespace FileStore

variable {fs fs' : FileStore} {dir : Path} {loc : Location} {name : String}

/-- A file in the directory is this picture. -/
def HoldsPicture (fs : FileStore) (dir : Path) (loc : Location) (name : String) (g : Grid) : Prop :=
  ∃ content, fs.HoldsFile dir loc name content ∧ gridOf? content = some g

/-- A layer is what a manifest says and the file that it names holds. -/
structure HoldsLayer (fs : FileStore) (dir : Path) (loc : Location) (r : LayerRecord) (l : Layer) :
    Prop where
  name_eq : l.name = r.name
  visible_eq : l.visible = r.visible
  plain : isPlainFileName r.file = true
  picture : fs.HoldsPicture dir loc r.file l.grid

/-- A stack is what the manifest `m` describes, with the files next to it. -/
structure HoldsStack (fs : FileStore) (dir : Path) (loc : Location) (m : Manifest)
    (img : LayeredImage) : Prop where
  width_eq : m.width.toNat = img.width
  height_eq : m.height.toNat = img.height
  count_le : m.layers.length ≤ maxLayers
  layers : List.Forall₂ (fs.HoldsLayer dir loc) m.layers img.layers

/-- A picture is read where there is a file whose bytes are that picture. -/
theorem yields_readGrid_iff {p : Path} {g : Grid} : Yields (readGrid p) fs g fs' ↔
    fs' = fs ∧ ∃ content, fs.read p = .ok content ∧ gridOf? content = some g := by
  unfold readGrid readRaster
  constructor
  · intro h
    obtain ⟨r, fs₁, hr, hg⟩ := yields_bind.1 h
    rw [yields_get_bind] at hr
    obtain ⟨_, -, hr⟩ := yields_accept_bind.1 hr
    obtain ⟨content, hcontent, hr⟩ := yields_ask_bind.1 hr
    cases hdecode : PictureCodec.decode content with
    | error fault =>
      rw [hdecode] at hr
      exact absurd hr yields_throw
    | ok r' =>
      rw [hdecode] at hr
      obtain ⟨rfl, rfl⟩ := yields_pure.1 hr
      obtain ⟨hgrid, hfs⟩ := yields_accept.1 hg
      refine ⟨hfs, content, hcontent, ?_⟩
      unfold gridOf?
      rw [hdecode]
      exact toGrid_eq_ok.1 hgrid
  · rintro ⟨rfl, content, hread, hg⟩
    unfold gridOf? at hg
    cases hdecode : PictureCodec.decode content with
    | error fault =>
      rw [hdecode] at hg
      cases hg
    | ok r =>
      rw [hdecode] at hg
      refine yields_bind.2 ⟨r, fs', ?_, yields_accept.2 ⟨toGrid_eq_ok.2 hg, rfl⟩⟩
      rw [yields_get_bind]
      refine yields_accept_bind.2 ⟨(), require_eq_ok.2 (isFile_of_read hread), ?_⟩
      refine yields_ask_bind.2 ⟨content, hread, ?_⟩
      rw [hdecode]
      exact yields_pure.2 ⟨rfl, rfl⟩

theorem yields_readGrid (hd : DirectoryAt fs dir loc) (hn : isPlainFileName name = true)
    {g : Grid} :
    Yields (readGrid (dir.join name)) fs g fs' ↔ fs' = fs ∧ fs.HoldsPicture dir loc name g := by
  rw [yields_readGrid_iff]
  exact and_congr_right fun _ => exists_congr fun _ => and_congr_left fun _ => read_join hd hn

end FileStore

theorem yields_loadLayer {fs fs' : FileStore} {dir : Path} {loc : Location}
    (hd : DirectoryAt fs dir loc) {width height : Nat} {r : LayerRecord} {l : Layer} :
    Yields (loadLayer dir width height r) fs l fs' ↔
      fs' = fs ∧ fs.HoldsLayer dir loc r l ∧ l.grid.width = width ∧ l.grid.height = height := by
  unfold loadLayer
  constructor
  · intro h
    obtain ⟨_, hname, h⟩ := yields_accept_bind.1 h
    obtain ⟨_, hplain, h⟩ := yields_accept_bind.1 h
    have hplain := require_eq_ok.1 hplain
    obtain ⟨g, fs₁, hg, hrest⟩ := yields_bind.1 h
    obtain ⟨rfl, hpicture⟩ := (yields_readGrid hd hplain).1 hg
    obtain ⟨_, hsize, hrest⟩ := yields_accept_bind.1 hrest
    obtain ⟨hlayer, hfs⟩ := yields_accept.1 hrest
    obtain ⟨hn, rfl, hv⟩ := Layer.named_eq_ok.1 hlayer
    have hsides := of_decide_eq_true (require_eq_ok.1 hsize)
    exact ⟨hfs, ⟨hn, hv, hplain, hpicture⟩, hsides.1, hsides.2⟩
  · rintro ⟨rfl, ⟨hn, hv, hplain, hpicture⟩, rfl, rfl⟩
    have hname : checkLayerName r.name = .ok () := by
      rw [← hn]
      exact checkLayerName_eq_ok.2 l.name_valid
    refine yields_accept_bind.2 ⟨(), hname, ?_⟩
    refine yields_accept_bind.2 ⟨(), require_eq_ok.2 hplain, ?_⟩
    refine yields_bind.2 ⟨l.grid, fs', (yields_readGrid hd hplain).2 ⟨rfl, hpicture⟩, ?_⟩
    refine yields_accept_bind.2 ⟨(), require_eq_ok.2 (decide_eq_true ⟨rfl, rfl⟩), ?_⟩
    exact yields_accept.2 ⟨Layer.named_eq_ok.2 ⟨hn, rfl, hv⟩, rfl⟩

/-! ## 4. Loading -/

/-- The layers of a stack are read, one by one, exactly if the files hold them. -/
theorem yields_loadLayers {fs fs' : FileStore} {dir : Path} {loc : Location}
    (hd : DirectoryAt fs dir loc) {rs : List LayerRecord} {img : LayeredImage} :
    Yields (rs.mapM (loadLayer dir img.width img.height)) fs img.layers fs' ↔
      fs' = fs ∧ List.Forall₂ (fs.HoldsLayer dir loc) rs img.layers := by
  rw [yields_mapM_iff fun r l fs₁ h => ((yields_loadLayer hd).1 h).1]
  refine and_congr_right fun _ => ?_
  constructor
  · intro h
    exact h.imp fun r l hl => ((yields_loadLayer hd).1 hl).2.1
  · intro h
    -- every layer of an image has its size, so the check of sizes adds nothing
    have hsides := (List.forall₂_and_left img.layers rs).2 ⟨fun l hl => sides_of_mem hl, h.flip⟩
    apply hsides.flip.imp
    rintro r l ⟨hl, hholds⟩
    exact (yields_loadLayer hd).2 ⟨rfl, hholds, hl⟩

variable [ManifestFormat]

theorem yields_load {fs fs' : FileStore} {dir : Path} {loc : Location} (hd : DirectoryAt fs dir loc)
    {maxDimension : Nat} {img : LayeredImage} :
    Yields (LayeredImage.load dir maxDimension) fs img fs' ↔
      fs' = fs ∧ (img.width ≤ maxDimension ∧ img.height ≤ maxDimension) ∧
        ∃ m, fs.HoldsManifest dir loc m ∧ fs.HoldsStack dir loc m img := by
  unfold LayeredImage.load
  rw [yields_get_bind]
  constructor
  · intro h
    obtain ⟨_, -, h⟩ := yields_accept_bind.1 h
    obtain ⟨_, -, h⟩ := yields_accept_bind.1 h
    obtain ⟨m, fs₁, hm, hrest⟩ := yields_bind.1 h
    obtain ⟨rfl, hmanifest⟩ := (yields_readManifest hd).1 hm
    obtain ⟨_, hinside, hrest⟩ := yields_accept_bind.1 hrest
    obtain ⟨_, hcount, hrest⟩ := yields_accept_bind.1 hrest
    obtain ⟨layers, fs₂, hlayers, hrest⟩ := yields_bind.1 hrest
    obtain ⟨himg, hfs⟩ := yields_accept.1 hrest
    -- the manifest gives the sides as words, the image as its extent
    obtain ⟨hwidth, hheight, rfl⟩ := LayeredImage.ofLayers_eq_ok.1 himg
    rw [← hwidth, ← hheight] at hlayers hinside
    obtain ⟨hfs₂, hholds⟩ := (yields_loadLayers hd).1 hlayers
    have hbounds := require_eq_ok.1 hinside
    simp only [Bool.and_eq_true, decide_eq_true_eq] at hbounds
    exact ⟨hfs.trans hfs₂, ⟨hbounds.1.2, hbounds.2.2⟩, m, hmanifest, hwidth.symm, hheight.symm,
      of_decide_eq_true (require_eq_ok.1 hcount), hholds⟩
  · rintro ⟨rfl, ⟨hw, hh⟩, m, hmanifest, hwidth, hheight, hcount, hholds⟩
    have hdirectory : fs'.isDirectory dir = true := isDirectory_iff.2 ⟨loc, hd⟩
    obtain ⟨content, hfile, -, -⟩ := id hmanifest
    have hisFile : fs'.isFile (dir.join Manifest.fileName) = true :=
      (isFile_join hd isPlainFileName_manifest).2 ⟨hfile.1, content, hfile.2⟩
    refine yields_accept_bind.2 ⟨(), require_eq_ok.2 hdirectory, ?_⟩
    refine yields_accept_bind.2 ⟨(), require_eq_ok.2 hisFile, ?_⟩
    refine yields_bind.2 ⟨m, fs', (yields_readManifest hd).2 ⟨rfl, hmanifest⟩, ?_⟩
    refine yields_accept_bind.2 ⟨(), require_eq_ok.2 ?_, ?_⟩
    · rw [hwidth, hheight]
      simp only [Bool.and_eq_true, decide_eq_true_eq]
      exact ⟨⟨img.extent.width_pos, hw⟩, ⟨img.extent.height_pos, hh⟩⟩
    · refine yields_accept_bind.2 ⟨(), require_eq_ok.2 (decide_eq_true hcount), ?_⟩
      rw [hwidth, hheight]
      refine yields_bind.2 ⟨img.layers, fs', (yields_loadLayers hd).2 ⟨rfl, hholds⟩, ?_⟩
      exact yields_accept.2 ⟨LayeredImage.ofLayers_eq_ok.2 ⟨rfl, rfl, rfl⟩, rfl⟩

theorem directoryAt_of_load {fs fs' : FileStore} {dir : Path} {maxDimension : Nat}
    {img : LayeredImage} (h : Yields (LayeredImage.load dir maxDimension) fs img fs') :
    ∃ loc, DirectoryAt fs dir loc := by
  unfold LayeredImage.load at h
  rw [yields_get_bind] at h
  obtain ⟨_, hdirectory, -⟩ := yields_accept_bind.1 h
  exact isDirectory_iff.1 (require_eq_ok.1 hdirectory)

theorem unchanged_of_load {fs fs' : FileStore} {dir : Path} {maxDimension : Nat}
    {img : LayeredImage} (h : Yields (LayeredImage.load dir maxDimension) fs img fs') :
    fs' = fs := by
  obtain ⟨loc, hd⟩ := directoryAt_of_load h
  exact ((yields_load hd).1 h).1

/-- Without the manifest there is nothing to load, and that is what the failure says. -/
theorem fails_load_of_no_manifest {fs : FileStore} {dir : Path} {loc : Location}
    (hd : DirectoryAt fs dir loc) (hnone : fs.entry? (loc ++ [Manifest.fileName]) = none)
    (maxDimension : Nat) :
    Fails (LayeredImage.load dir maxDimension) fs
      (.refused (.noManifest dir.text Manifest.fileName)) fs := by
  have hdirectory : fs.isDirectory dir = true := isDirectory_iff.2 ⟨loc, hd⟩
  have hisFile : fs.isFile (dir.join Manifest.fileName) = false := by
    rw [← Bool.not_eq_true, isFile_join hd isPlainFileName_manifest, hnone]
    rintro ⟨-, content, h⟩
    cases h
  unfold LayeredImage.load
  rw [fails_get_bind]
  refine fails_accept_bind.2 (.inr ⟨(), require_eq_ok.2 hdirectory, ?_⟩)
  exact fails_accept_bind.2 (.inl ⟨_, require_eq_error.2 ⟨hisFile, rfl⟩, rfl, rfl⟩)

end RasterScript
