import RasterScript.Proofs.Archive.FailedSave
import RasterScript.Proofs.Archive.SaveFrame
import RasterScript.Proofs.Session.SoundImages

/-!
# LoadConfinement — what a manifest that is not trusted can do

Whatever the manifest and the files next to it hold, a stack that is loaded is sound, and what comes
of loading, a stack or a failure, depends on nothing outside the directory.  For two stores that
have the same entries in it, the steps of a load give the same answers one by one (`Alike`): the
names that a manifest gives are followed only if they are plain, and the path of a plain name leads
to an entry of the directory or fails for a reason that is in the name.
-/

namespace RasterScript

open FileStore

variable {fs fs' : FileStore} {dir : Path} {loc loc' : Location} {name : String}

/-! ## 1. Files of directories with the same entries -/

/-- Both stores have the directory `dir`, with the same entries in it, or neither has it. -/
def SameInside (dir : Path) (fs fs' : FileStore) : Prop :=
  ((∀ loc, ¬ DirectoryAt fs dir loc) ∧ ∀ loc, ¬ DirectoryAt fs' dir loc) ∨
    ∃ loc loc', DirectoryAt fs dir loc ∧ DirectoryAt fs' dir loc' ∧
      ∀ name, fs.entry? (loc ++ [name]) = fs'.entry? (loc' ++ [name])

/-- Where a file cannot be called so, the reason is the same in all directories. -/
theorem locate_join_unnameable (hd : DirectoryAt fs dir loc) (hd' : DirectoryAt fs' dir loc')
    (hn : isPlainFileName name = true) (hname : ¬ Nameable dir name) :
    fs.locate (dir.join name) = fs'.locate (dir.join name) := by
  unfold locate
  rw [follow_join hd hn, follow_join hd' hn, follow_child hd.directory hn,
    follow_child hd'.directory hn]
  by_cases hlength : maxNameLength < name.utf8ByteSize
  · rw [if_pos hlength, if_pos hlength]
  · -- the name is not too long, so the path is, or has a letter that no path has
    have hpath : '\x00' ∈ (dir.join name).text.toList ∨
        pathLengthLimit ≤ (dir.join name).text.utf8ByteSize := by
      by_contra hfine
      obtain ⟨hnul, hlong⟩ := not_or.1 hfine
      exact hname ⟨fun hm => hnul ((nul_mem_join hd hn).2 hm), Nat.not_le.1 hlong,
        Nat.not_lt.1 hlength⟩
    rcases hpath with hnul | hlong
    · simp [hnul]
    · simp [hlong]

theorem read_join_same (hd : DirectoryAt fs dir loc) (hd' : DirectoryAt fs' dir loc')
    (hn : isPlainFileName name = true)
    (hentry : fs.entry? (loc ++ [name]) = fs'.entry? (loc' ++ [name])) :
    fs.read (dir.join name) = fs'.read (dir.join name) := by
  unfold FileStore.read
  by_cases hname : Nameable dir name
  · rw [lookup_join hd hn hname, lookup_join hd' hn hname, hentry]
    cases fs'.entry? (loc' ++ [name]) with
    | none => rfl
    | some e => cases e <;> rfl
  · obtain ⟨fault, herror, -⟩ := locate_join_error hd hn hname
    have herror' := (locate_join_unnameable hd hd' hn hname).symm.trans herror
    unfold lookup
    rw [herror, herror']
    rfl

theorem isFile_join_same (hd : DirectoryAt fs dir loc) (hd' : DirectoryAt fs' dir loc')
    (hn : isPlainFileName name = true)
    (hentry : fs.entry? (loc ++ [name]) = fs'.entry? (loc' ++ [name])) :
    fs.isFile (dir.join name) = fs'.isFile (dir.join name) := by
  unfold isFile
  rw [find?_join hd hn, find?_join hd' hn, hentry]

/-! ## 2. Questions with the same answer -/

section Alike

variable {α β : Type}

/-- The one question about `fs` and the other about `fs'` have the same answer, and neither changes
anything. -/
def Alike (fs fs' : FileStore) (a b : FileAction α) : Prop :=
  ∃ r, outcome a fs = (r, fs) ∧ outcome b fs' = (r, fs')

theorem alike_pure (x : α) : Alike fs fs' (pure x) (pure x) := ⟨.ok x, rfl, rfl⟩

theorem alike_throw (f : Failure) : Alike fs fs' (throw f : FileAction α) (throw f) :=
  ⟨.error f, rfl, rfl⟩

theorem alike_accept {r r' : Except Refusal α} (h : r = r') :
    Alike fs fs' (FileAction.accept r) (FileAction.accept r') := by
  subst h
  cases r with
  | ok x => exact alike_pure x
  | error c => exact alike_throw (.refused c)

theorem alike_get_bind {g k : FileStore → FileAction α} (h : Alike fs fs' (g fs) (k fs')) :
    Alike fs fs' (get >>= g) (get >>= k) := h

theorem alike_ask {q : FileStore → Except FileFault α} (h : q fs = q fs') :
    Alike fs fs' (FileAction.ask q) (FileAction.ask q) := by
  refine alike_get_bind ?_
  rw [h]
  cases q fs' with
  | ok x => exact alike_pure x
  | error fault => exact alike_throw (.file fault)

theorem alike_bind {a b : FileAction α} {g k : α → FileAction β} (h : Alike fs fs' a b)
    (hg : ∀ x, Alike fs fs' (g x) (k x)) : Alike fs fs' (a >>= g) (b >>= k) := by
  obtain ⟨r, ha, hb⟩ := h
  unfold Alike
  rw [outcome_bind, outcome_bind, ha, hb]
  cases r with
  | ok x => exact hg x
  | error f => exact ⟨.error f, rfl, rfl⟩

/-- What a check lets pass, the steps after it may rely on. -/
theorem alike_require_bind {b : Bool} {c : Refusal} {g k : Unit → FileAction β}
    (h : b = true → Alike fs fs' (g ()) (k ())) :
    Alike fs fs' (FileAction.accept (require b c) >>= g)
      (FileAction.accept (require b c) >>= k) := by
  cases b with
  | true => exact alike_bind (alike_accept rfl) fun _ => h rfl
  | false => exact ⟨.error (.refused c), rfl, rfl⟩

theorem alike_mapM {g k : α → FileAction β} (h : ∀ x, Alike fs fs' (g x) (k x)) (xs : List α) :
    Alike fs fs' (xs.mapM g) (xs.mapM k) := by
  induction xs with
  | nil => exact alike_pure []
  | cons x xs ih =>
    rw [List.mapM_cons, List.mapM_cons]
    exact alike_bind (h x) fun y => alike_bind ih fun ys => alike_pure (y :: ys)

end Alike

/-! ## 3. Loading -/

section Loading

variable (hd : DirectoryAt fs dir loc) (hd' : DirectoryAt fs' dir loc')
  (hentries : ∀ name, fs.entry? (loc ++ [name]) = fs'.entry? (loc' ++ [name]))

include hd hd' hentries

theorem alike_readManifest [ManifestFormat] :
    Alike fs fs' (readManifest (dir.join Manifest.fileName))
      (readManifest (dir.join Manifest.fileName)) := by
  unfold readManifest
  have hread := read_join_same hd hd' isPlainFileName_manifest (hentries Manifest.fileName)
  refine alike_bind (alike_ask hread) fun content => ?_
  refine alike_bind (alike_accept rfl) fun _ => ?_
  cases ManifestFormat.decode content with
  | ok m => exact alike_pure m
  | error fault => exact alike_throw (.persistence fault)

variable [PictureCodec]

theorem alike_readGrid (hn : isPlainFileName name = true) :
    Alike fs fs' (readGrid (dir.join name)) (readGrid (dir.join name)) := by
  unfold readGrid readRaster
  refine alike_bind (alike_get_bind ?_) fun r => alike_accept rfl
  rw [isFile_join_same hd hd' hn (hentries name)]
  refine alike_bind (alike_accept rfl) fun _ => ?_
  refine alike_bind (alike_ask (read_join_same hd hd' hn (hentries name))) fun content => ?_
  cases PictureCodec.decode content with
  | ok r => exact alike_pure r
  | error fault => exact alike_throw (.codec fault)

theorem alike_loadLayer (width height : Nat) (r : LayerRecord) :
    Alike fs fs' (loadLayer dir width height r) (loadLayer dir width height r) := by
  unfold loadLayer
  refine alike_bind (alike_accept rfl) fun _ => ?_
  -- a name that leads out of the directory is refused before it is followed
  refine alike_require_bind fun hplain => ?_
  refine alike_bind (alike_readGrid hd hd' hentries hplain) fun g => ?_
  exact alike_bind (alike_accept rfl) fun _ => alike_accept rfl

theorem alike_load [ManifestFormat] (maxDimension : Nat) :
    Alike fs fs' (LayeredImage.load dir maxDimension) (LayeredImage.load dir maxDimension) := by
  unfold LayeredImage.load
  refine alike_get_bind ?_
  rw [isDirectory_iff.2 ⟨loc, hd⟩, isDirectory_iff.2 ⟨loc', hd'⟩,
    isFile_join_same hd hd' isPlainFileName_manifest (hentries Manifest.fileName)]
  refine alike_bind (alike_accept rfl) fun _ => ?_
  refine alike_bind (alike_accept rfl) fun _ => ?_
  refine alike_bind (alike_readManifest hd hd' hentries) fun m => ?_
  refine alike_bind (alike_accept rfl) fun _ => ?_
  refine alike_bind (alike_accept rfl) fun _ => ?_
  refine alike_bind (alike_mapM (fun r => alike_loadLayer hd hd' hentries _ _ r) m.layers) ?_
  exact fun layers => alike_accept rfl

end Loading

section Formats

variable [PictureCodec] [ManifestFormat]

/-- Without the directory there is nothing to load, and that is what the failure says. -/
theorem outcome_load_of_no_directory (h : ∀ loc, ¬ DirectoryAt fs dir loc) (maxDimension : Nat) :
    (outcome (LayeredImage.load dir maxDimension) fs).1 =
      .error (.refused (.missing .directory dir.text)) := by
  have hmissing : fs.isDirectory dir = false := by
    rw [← Bool.not_eq_true, isDirectory_iff]
    exact not_exists.2 h
  have hfails : Fails (LayeredImage.load dir maxDimension) fs
      (.refused (.missing .directory dir.text)) fs := by
    unfold LayeredImage.load
    rw [fails_get_bind]
    exact fails_accept_bind.2 (.inl ⟨_, require_eq_error.2 ⟨hmissing, rfl⟩, rfl, rfl⟩)
  exact congrArg Prod.fst hfails

/-- Whatever a directory holds, a stack that is loaded from it is sound, within the bound, and has
no more layers than can be saved; and whether there is one, which it is, and what a failure says
depends on nothing but the entries of the directory. -/
theorem load_confined (dir : Path) (maxDimension : Nat) :
    (∀ fs img fs', Yields (LayeredImage.load dir maxDimension) fs img fs' →
      img.Sound maxDimension ∧ img.layers.length ≤ maxLayers) ∧
    ∀ fs fs', SameInside dir fs fs' →
      (outcome (LayeredImage.load dir maxDimension) fs).1 =
        (outcome (LayeredImage.load dir maxDimension) fs').1 := by
  refine ⟨?_, ?_⟩
  · intro fs img fs' hload
    obtain ⟨loc, hd⟩ := directoryAt_of_load hload
    obtain ⟨-, ⟨hwidth, hheight⟩, m, -, hstack⟩ := (yields_load hd).1 hload
    refine ⟨LayeredImage.sound_of_le hwidth hheight, ?_⟩
    rw [← hstack.layers.length_eq]
    exact hstack.count_le
  · rintro fs fs' (⟨hnone, hnone'⟩ | ⟨loc, loc', hd, hd', hentries⟩)
    · rw [outcome_load_of_no_directory hnone, outcome_load_of_no_directory hnone']
    · obtain ⟨r, h, h'⟩ := alike_load hd hd' hentries maxDimension
      rw [h, h']

end Formats

theorem sameInside_put_outside {e : Entry} (hd : DirectoryAt fs dir loc) (hne : loc' ≠ [])
    (hentry : fs.entry? loc' ≠ some .directory) (houtside : loc'.dropLast ≠ loc) :
    SameInside dir fs (fs.put loc' e) := by
  refine .inr ⟨loc, loc, hd, hd.mono (keepsDirectories_put hne hentry), ?_⟩
  intro name
  rw [entry?_put fs hne, if_neg]
  rintro rfl
  exact houtside List.dropLast_concat

/-- A stack that is in the directory, and a manifest that lists a file outside of it: what that file
holds does not matter. -/
theorem load_confined_outside :
    (whiteLayer.Sound 1 ∧ whiteLayer.layers.length ≤ maxLayers) ∧
    (outcome (LayeredImage.load ⟨"d"⟩ 1) (whiteStore.put ["x"] (.file [1]))).1 = .ok whiteLayer ∧
    (outcome (LayeredImage.load ⟨"d"⟩ 1) (sharedStore.put ["x"] (.file (Png.encode .single)))).1 =
      .error (.refused (.notAPlainFileName "../x")) := by
  have hwhite : DirectoryAt whiteStore ⟨"d"⟩ ["d"] := ⟨by decide +kernel, by decide +kernel⟩
  have hshared : DirectoryAt sharedStore ⟨"d"⟩ ["d"] := ⟨by decide +kernel, by decide +kernel⟩
  have hrefused : (outcome (LayeredImage.load ⟨"d"⟩ 1) sharedStore).1 =
      .error (.refused (.notAPlainFileName "../x")) := by decide +kernel
  obtain ⟨hsound, hsame⟩ := load_confined ⟨"d"⟩ 1
  refine ⟨hsound whiteStore whiteLayer whiteStore yields_load_whiteStore, ?_, ?_⟩
  · rw [← hsame whiteStore _ (sameInside_put_outside hwhite (by decide) (by decide +kernel)
      (by decide))]
    exact congrArg Prod.fst yields_load_whiteStore
  · rw [← hsame sharedStore _ (sameInside_put_outside hshared (by decide) (by decide +kernel)
      (by decide)), hrefused]

end RasterScript
