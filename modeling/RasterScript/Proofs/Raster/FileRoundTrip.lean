import RasterScript.Proofs.Archive.SaveFrame

/-!
# FileRoundTrip — what has been written to a path is read from it

A file that is written replaces no directory, so its path leads to it afterwards, and whoever reads
the path gets the bytes (`FileStore.holds_of_write`) and from them the picture.  PNG keeps all of a
picture, PPM its colours; so the second time PPM keeps all of it as well.
-/

namespace RasterScript

variable {fs fs' : FileStore} {p : Path}

/-! ## 1. Bytes -/

namespace FileStore

variable {content : Bytes}

theorem write_eq_ok : fs.write p content = .ok fs' ↔
    ∃ loc, fs.locate p = .ok loc ∧ fs.entry? loc ≠ some .directory ∧ p.endsInSlash = false ∧
      fs' = fs.put loc (.file content) := by
  -- a file that is there is replaced, one that is missing is made
  have hwrite : ∀ loc (found : Option Entry), fs.lookup p = .ok (loc, found) →
      found ≠ some .directory →
        fs.write p content = if p.endsInSlash then .error .isADirectory
          else .ok (fs.put loc (.file content)) := by
    intro loc found hl hfound
    unfold write
    rw [hl]
    rcases found with _ | _ | held
    · rfl
    · exact absurd rfl hfound
    · rfl
  constructor
  · intro h
    have hlookup := h
    unfold write at hlookup
    obtain ⟨⟨loc, found⟩, hl, hrest⟩ := bind_eq_ok.1 hlookup
    have hfound : found ≠ some .directory := by
      rintro rfl
      cases hrest
    obtain ⟨hloc, hentry, -⟩ := lookup_eq_ok.1 hl
    rw [hwrite loc found hl hfound] at h
    split at h
    · cases h
    · rename_i hslash
      cases h
      exact ⟨loc, hloc, hentry ▸ hfound, eq_false_of_ne_true hslash, rfl⟩
  · rintro ⟨loc, hloc, hentry, hslash, rfl⟩
    rw [hwrite loc _ (lookup_eq_ok.2 ⟨hloc, rfl, fun _ _ => hslash⟩) hentry, hslash]
    rfl

/-- To put an entry where it already stands changes nothing. -/
theorem put_eq_self {loc : Location} {e : Entry} (hne : loc ≠ []) (h : fs.entry? loc = some e) :
    fs.put loc e = fs := by
  have hentries : fs.entries.insert loc e = fs.entries := by
    apply Table.ext_find?
    intro key
    rw [Table.find?_insert]
    split
    · rename_i hkey
      rw [hkey, ← entry?_of_ne hne, h]
    · rfl
  unfold put
  rw [hentries]

/-- The path leads to a file with these bytes. -/
structure Holds (fs : FileStore) (p : Path) (content : Bytes) : Prop where
  located : ∃ loc, loc ≠ [] ∧ fs.locate p = .ok loc ∧ fs.entry? loc = some (.file content)
  no_slash : p.endsInSlash = false

theorem holds_of_write (h : fs.write p content = .ok fs') :
    KeepsDirectories fs fs' ∧ fs'.Holds p content := by
  obtain ⟨loc, hloc, hentry, hslash, rfl⟩ := write_eq_ok.1 h
  -- the root is a directory, and no file
  have hne : loc ≠ [] := by
    rintro rfl
    exact hentry rfl
  have hkept : KeepsDirectories fs (fs.put loc (.file content)) := keepsDirectories_put hne hentry
  refine ⟨hkept, ⟨loc, hne, locate_mono hkept hloc, ?_⟩, hslash⟩
  rw [entry?_put fs hne, if_pos rfl]

namespace Holds

theorem lookup_eq (h : fs.Holds p content) :
    ∃ loc, fs.lookup p = .ok (loc, some (.file content)) := by
  obtain ⟨loc, -, hloc, hentry⟩ := h.located
  exact ⟨loc, lookup_eq_ok.2 ⟨hloc, hentry, fun _ _ => h.no_slash⟩⟩

theorem read (h : fs.Holds p content) : fs.read p = .ok content := by
  obtain ⟨loc, hl⟩ := h.lookup_eq
  unfold FileStore.read
  rw [hl]
  rfl

/-- To write the same bytes once more changes nothing. -/
theorem write (h : fs.Holds p content) : fs.write p content = .ok fs := by
  obtain ⟨loc, hne, hloc, hentry⟩ := h.located
  refine write_eq_ok.2 ⟨loc, hloc, ?_, h.no_slash, (put_eq_self hne hentry).symm⟩
  rw [hentry]
  simp

end Holds

end FileStore

/-! ## 2. Pictures -/

/-- A path whose directory is there keeps it while no directory disappears. -/
theorem yields_checkParent_mono (hk : FileStore.KeepsDirectories fs fs')
    (h : Yields (checkParent p) fs () fs) : Yields (checkParent p) fs' () fs' := by
  unfold checkParent at h ⊢
  rw [yields_get_bind] at h ⊢
  obtain ⟨_, hne, h⟩ := yields_accept_bind.1 h
  refine yields_accept_bind.2 ⟨(), hne, ?_⟩
  split
  · exact yields_pure.2 ⟨rfl, rfl⟩
  · rename_i dir hdir
    rw [hdir] at h
    have hthere := require_eq_ok.1 (yields_accept.1 h).1
    refine yields_accept.2 ⟨require_eq_ok.2 ?_, rfl⟩
    rw [Bool.or_eq_true] at hthere ⊢
    refine hthere.imp_right fun hd => ?_
    obtain ⟨loc, hat⟩ := FileStore.isDirectory_iff.1 hd
    exact FileStore.isDirectory_iff.2 ⟨loc, hat.mono hk⟩

variable {disk : Disk}

/-- What a write that succeeds leaves: the file, and its directory to write it to again. -/
theorem holds_of_diskWrite {content : Bytes} {complaint : Shortage → Failure}
    (h : Yields (checkParent p >>= fun _ => disk.write p content complaint) fs () fs') :
    Yields (checkParent p) fs' () fs' ∧ fs'.Holds p content := by
  obtain ⟨_, fs₁, hparent, hwrite⟩ := yields_bind.1 h
  obtain rfl := (onlyLooks_checkParent p).of_yields hparent
  obtain ⟨hkept, hholds⟩ := FileStore.holds_of_write (Disk.write_of_yields hwrite)
  exact ⟨yields_checkParent_mono hkept hparent, hholds⟩

variable [PictureCodec] {g : Grid} {quality : Nat}

/-- A file that was written as PPM is the picture with its colours, and fully visible. -/
theorem gridOf?_ppm (g : Grid) : gridOf? (PictureCodec.ppm g) = some g.solid := by
  unfold gridOf?
  rw [PictureCodec.decode_ppm]
  show g.solid.toRaster.toGrid.toOption = _
  rw [Grid.toGrid_toRaster]
  rfl

/-- A picture that was written as PNG is read as it was. -/
theorem readGrid_of_writePng (h : Yields (writePictureOn disk g .png p quality) fs () fs') :
    Yields (readGrid p) fs' g fs' :=
  FileStore.yields_readGrid_iff.2 ⟨rfl, _, (holds_of_diskWrite h).2.read, gridOf?_png g⟩

/-- A picture that was written as PPM is read with its colours, and fully visible. -/
theorem readGrid_of_writePpm (h : Yields (writePictureOn disk g .ppm p quality) fs () fs') :
    Yields (readGrid p) fs' g.solid fs' :=
  FileStore.yields_readGrid_iff.2 ⟨rfl, _, (holds_of_diskWrite h).2.read, gridOf?_ppm g⟩

/-- What was read from a PPM file is written to it without any change. -/
theorem writePpm_solid (h : Yields (writePictureOn disk g .ppm p quality) fs () fs') :
    Yields (writePicture g.solid .ppm p quality) fs' () fs' := by
  obtain ⟨hparent, hholds⟩ := holds_of_diskWrite h
  refine yields_bind.2 ⟨(), fs', hparent, yields_change.2 ?_⟩
  show fs'.write p (PictureCodec.ppm g.solid) = .ok fs'
  rw [PictureCodec.ppm_solid]
  exact hholds.write

end RasterScript
