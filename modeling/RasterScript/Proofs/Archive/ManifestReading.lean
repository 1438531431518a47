import RasterScript.Proofs.Archive.RoundTrip

/-!
# ManifestReading — what can be read as a manifest

The bytes that are read as a manifest are exactly its encoding with anything after it:
`Manifest.decode_eq_ok`.  So a manifest has one encoding, and `Takes` is the converse of `Reads`,
with one fact again for every part.

The check of the magic looks at four bytes at a fixed place.  They are the text of the first field
if that is four bytes long.  The text ends where its length says, though, and the check does not
look at the length: a longer text may go on after the magic, and a shorter one leaves the end of
the magic to the bytes of the width.
-/

namespace RasterScript

/-! ## 1. Numbers -/

theorem ofLittleEndian_lt (bs : Bytes) : ofLittleEndian bs < byteLimit bs.length := by
  induction bs with
  | nil => exact Nat.one_pos
  | cons b bs ih =>
    have hb : b.toNat < 256 := b.toNat_lt
    rw [ofLittleEndian, List.length_cons, byteLimit]
    omega

theorem littleEndian_ofLittleEndian (bs : Bytes) :
    littleEndian bs.length (ofLittleEndian bs) = bs := by
  induction bs with
  | nil => rfl
  | cons b bs ih =>
    have hb : b.toNat < 256 := b.toNat_lt
    have hlow : UInt8.ofNat (b.toNat + 256 * ofLittleEndian bs) = b := by
      apply UInt8.toNat_inj.1
      rw [UInt8.toNat_ofNat']
      omega
    have hhigh : (b.toNat + 256 * ofLittleEndian bs) / 256 = ofLittleEndian bs := by omega
    rw [List.length_cons, ofLittleEndian, littleEndian, hlow, hhigh, ih]

theorem splitBytes?_eq_some {n : Nat} {bs front rest : Bytes} :
    splitBytes? n bs = some (front, rest) ↔ bs = front ++ rest ∧ front.length = n := by
  constructor
  · intro h
    unfold splitBytes? at h
    by_cases hlength : (bs.take n).length = n
    · rw [if_pos hlength] at h
      cases h
      exact ⟨(List.take_append_drop n bs).symm, hlength⟩
    · rw [if_neg hlength] at h
      cases h
  · rintro ⟨rfl, hlength⟩
    exact splitBytes?_append hlength

namespace Manifest

variable {α β : Type}

/-! ## 2. Readers -/

/-- Whatever the reader gives is good, and what the reader took for it is its encoding. -/
def Takes (r : Reader α) (encoding : α → Bytes) (Good : α → Prop) : Prop :=
  ∀ ⦃bs x rest⦄, r.run bs = .ok (x, rest) → bs = encoding x ++ rest ∧ Good x

theorem run_bind_eq_ok {r : Reader α} {g : α → Reader β} {bs rest : Bytes} {y : β} :
    (r >>= g).run bs = .ok (y, rest) ↔
      ∃ x mid, r.run bs = .ok (x, mid) ∧ (g x).run mid = .ok (y, rest) := by
  rw [StateT.run_bind, bind_eq_ok]
  exact ⟨fun ⟨⟨x, mid⟩, h⟩ => ⟨x, mid, h⟩, fun ⟨x, mid, h⟩ => ⟨(x, mid), h⟩⟩

theorem run_pure_eq_ok {x y : α} {bs rest : Bytes} :
    (pure x : Reader α).run bs = .ok (y, rest) ↔ y = x ∧ rest = bs := by
  rw [StateT.run_pure, pure_eq_ok, Prod.mk.injEq]

theorem takes_bytes (n : Nat) : Takes (readBytes n) (fun bs => bs) (·.length = n) := by
  intro bs front rest h
  unfold readBytes StateT.run at h
  dsimp only at h
  cases hsplit : splitBytes? n bs with
  | none =>
    rw [hsplit] at h
    cases h
  | some split =>
    rw [hsplit] at h
    cases h
    exact splitBytes?_eq_some.1 hsplit

theorem takes_number (n : Nat) : Takes (readNumber n) (littleEndian n) (· < byteLimit n) := by
  intro bs v rest h
  unfold readNumber at h
  obtain ⟨front, mid, hfront, hpure⟩ := run_bind_eq_ok.1 h
  obtain ⟨rfl, rfl⟩ := run_pure_eq_ok.1 hpure
  obtain ⟨rfl, rfl⟩ := takes_bytes n hfront
  exact ⟨by rw [littleEndian_ofLittleEndian], ofLittleEndian_lt front⟩

theorem takes_text :
    Takes readText encodeText (fun s => (encodeUtf8 s).length < byteLimit 8) := by
  intro bs s rest h
  unfold readText at h
  obtain ⟨n, mid, hn, hrest⟩ := run_bind_eq_ok.1 h
  obtain ⟨front, mid', hfront, htext⟩ := run_bind_eq_ok.1 hrest
  obtain ⟨rfl, hlimit⟩ := takes_number 8 hn
  obtain ⟨rfl, rfl⟩ := takes_bytes n hfront
  cases hs : decodeUtf8? front with
  | none =>
    rw [hs] at htext
    cases htext
  | some s' =>
    rw [hs] at htext
    obtain ⟨rfl, rfl⟩ := run_pure_eq_ok.1 htext
    obtain rfl := encodeUtf8_of_decodeUtf8? hs
    exact ⟨by rw [encodeText, List.append_assoc], hlimit⟩

theorem takes_flag : Takes readFlag encodeFlag (fun _ => True) := by
  intro bs b rest h
  unfold readFlag at h
  obtain ⟨n, mid, hn, hflag⟩ := run_bind_eq_ok.1 h
  obtain ⟨rfl, -⟩ := takes_number 1 hn
  -- 0 and 1 are the only bytes that give a flag
  match n, hflag with
  | 0, hflag =>
    obtain ⟨rfl, rfl⟩ := run_pure_eq_ok.1 hflag
    exact ⟨rfl, trivial⟩
  | 1, hflag =>
    obtain ⟨rfl, rfl⟩ := run_pure_eq_ok.1 hflag
    exact ⟨rfl, trivial⟩
  | _ + 2, hflag => cases hflag

/-! ## 3. Manifests -/

theorem takes_record : Takes readRecord encodeRecord LayerRecord.Fits := by
  intro bs r rest h
  unfold readRecord at h
  obtain ⟨name, mid, hname, h⟩ := run_bind_eq_ok.1 h
  obtain ⟨visible, mid', hvisible, h⟩ := run_bind_eq_ok.1 h
  obtain ⟨file, mid'', hfile, h⟩ := run_bind_eq_ok.1 h
  obtain ⟨rfl, rfl⟩ := run_pure_eq_ok.1 h
  obtain ⟨rfl, hfitsName⟩ := takes_text hname
  obtain ⟨rfl, -⟩ := takes_flag hvisible
  obtain ⟨rfl, hfitsFile⟩ := takes_text hfile
  refine ⟨?_, hfitsName, hfitsFile⟩
  simp only [encodeRecord, List.append_assoc]

theorem takes_records (n : Nat) : Takes (readRecords n) (·.flatMap encodeRecord)
    (fun rs => rs.length = n ∧ ∀ r ∈ rs, r.Fits) := by
  -- the count stands before the items, so it is what the induction is on
  induction n with
  | zero =>
    intro bs rs rest h
    obtain ⟨rfl, rfl⟩ := run_pure_eq_ok.1 h
    exact ⟨rfl, rfl, by simp⟩
  | succ n ih =>
    intro bs rs rest h
    unfold readRecords at h
    obtain ⟨r, mid, hr, h⟩ := run_bind_eq_ok.1 h
    obtain ⟨rs', mid', hrs, h⟩ := run_bind_eq_ok.1 h
    obtain ⟨rfl, rfl⟩ := run_pure_eq_ok.1 h
    obtain ⟨rfl, hfits⟩ := takes_record hr
    obtain ⟨rfl, rfl, hall⟩ := ih hrs
    refine ⟨?_, rfl, List.forall_mem_cons.2 ⟨hfits, hall⟩⟩
    show encodeRecord r ++ (rs'.flatMap encodeRecord ++ rest) =
      (r :: rs').flatMap encodeRecord ++ rest
    rw [List.flatMap_cons, List.append_assoc]

theorem takes_manifest : Takes read encode Fits := by
  intro bs m rest h
  unfold read at h
  obtain ⟨magic, bs₁, hmagic, h⟩ := run_bind_eq_ok.1 h
  obtain ⟨width, bs₂, hwidth, h⟩ := run_bind_eq_ok.1 h
  obtain ⟨height, bs₃, hheight, h⟩ := run_bind_eq_ok.1 h
  obtain ⟨count, bs₄, hcount, h⟩ := run_bind_eq_ok.1 h
  obtain ⟨layers, bs₅, hlayers, h⟩ := run_bind_eq_ok.1 h
  obtain ⟨rfl, rfl⟩ := run_pure_eq_ok.1 h
  obtain ⟨rfl, hfitsMagic⟩ := takes_text hmagic
  obtain ⟨rfl, hlimitWidth⟩ := takes_number 4 hwidth
  obtain ⟨rfl, hlimitHeight⟩ := takes_number 4 hheight
  obtain ⟨rfl, hlimitCount⟩ := takes_number 8 hcount
  obtain ⟨rfl, rfl, hall⟩ := takes_records _ hlayers
  refine ⟨?_, hfitsMagic, hlimitCount, hall⟩
  -- four bytes are a word, so no bits are lost
  have hw : (UInt32.ofNat width).toNat = width := UInt32.toNat_ofNat_of_lt' hlimitWidth
  have hh : (UInt32.ofNat height).toNat = height := UInt32.toNat_ofNat_of_lt' hlimitHeight
  simp only [encode, hw, hh, List.append_assoc]

/-- The bytes that are read as a manifest are its encoding, and anything after it. -/
theorem decode_eq_ok {bs : Bytes} {m : Manifest} :
    decode bs = .ok m ↔ m.Fits ∧ ∃ rest, bs = m.encode ++ rest := by
  constructor
  · intro h
    unfold decode at h
    cases hread : read.run bs with
    | error fault =>
      rw [hread] at h
      cases h
    | ok x =>
      rw [hread] at h
      cases h
      obtain ⟨hbytes, hfits⟩ := takes_manifest hread
      exact ⟨hfits, x.2, hbytes⟩
  · rintro ⟨hfits, rest, rfl⟩
    exact decode_encode hfits rest

/-! ## 4. The magic -/

/-- The magic stands at the beginning of the first text, with the bytes of the width after it. -/
def ShowsMagic (m : Manifest) : Prop :=
  encodeUtf8 expectedMagic <+: encodeUtf8 m.magic ++ littleEndian 4 m.width.toNat

theorem length_expectedMagic : (encodeUtf8 expectedMagic).length = 4 := by decide

theorem hasMagic_encode_iff (m : Manifest) (rest : Bytes) :
    hasMagic (m.encode ++ rest) = true ↔ m.ShowsMagic := by
  -- the text and the width have four bytes or more, so what follows does not matter
  have hlength : 4 ≤ (encodeUtf8 m.magic ++ littleEndian 4 m.width.toNat).length := by
    rw [List.length_append, length_littleEndian]
    omega
  have htake : ((m.encode ++ rest).drop 8).take 4 =
      (encodeUtf8 m.magic ++ littleEndian 4 m.width.toNat).take 4 := by
    unfold encode encodeText
    simp only [List.append_assoc]
    rw [List.drop_left' (length_littleEndian 8 _), ← List.append_assoc,
      List.take_append_of_le_length hlength]
  unfold hasMagic ShowsMagic
  rw [htake, beq_iff_eq, List.prefix_iff_eq_take, length_expectedMagic, eq_comm]

theorem encodeUtf8_inj {s t : String} : encodeUtf8 s = encodeUtf8 t ↔ s = t := by
  constructor
  · intro h
    have hdecode := decodeUtf8?_encodeUtf8 s
    rw [h, decodeUtf8?_encodeUtf8] at hdecode
    exact (Option.some.inj hdecode).symm
  · rintro rfl
    rfl

/-- A text of the right length is the magic as soon as it shows it. -/
theorem showsMagic_iff (m : Manifest) :
    m.ShowsMagic ↔ m.magic = expectedMagic ∨ (encodeUtf8 m.magic).length ≠ 4 ∧ m.ShowsMagic := by
  constructor
  · intro h
    by_cases hlength : (encodeUtf8 m.magic).length = 4
    · have hprefix : encodeUtf8 expectedMagic <+: encodeUtf8 m.magic :=
        List.prefix_of_prefix_length_le h (List.prefix_append _ _)
          (Nat.le_of_eq (length_expectedMagic.trans hlength.symm))
      have heq := hprefix.eq_of_length (length_expectedMagic.trans hlength.symm)
      exact .inl (encodeUtf8_inj.1 heq).symm
    · exact .inr ⟨hlength, h⟩
  · rintro (h | ⟨-, h⟩)
    · unfold ShowsMagic
      rw [h]
      exact List.prefix_append _ _
    · exact h

end Manifest

/-! ## 5. Manifest files -/

open FileStore Manifest

theorem yields_readManifest_encode {p : Path} {fs fs' : FileStore} {m : Manifest} :
    Yields (readManifest p) fs m fs' ↔
      fs' = fs ∧ m.Fits ∧ (∃ rest, fs.read p = .ok (m.encode ++ rest)) ∧ m.ShowsMagic := by
  rw [yields_readManifest_iff]
  refine and_congr_right fun _ => ?_
  constructor
  · rintro ⟨content, hread, hmagic, hdecode⟩
    obtain ⟨hfits, rest, rfl⟩ := decode_eq_ok.1 hdecode
    exact ⟨hfits, ⟨rest, hread⟩, (hasMagic_encode_iff m rest).1 hmagic⟩
  · rintro ⟨hfits, ⟨rest, hread⟩, hshows⟩
    exact ⟨_, hread, (hasMagic_encode_iff m rest).2 hshows, decode_encode hfits rest⟩

theorem fails_readManifest {p : Path} {fs : FileStore} {m : Manifest} {rest : Bytes}
    (hread : fs.read p = .ok (m.encode ++ rest)) (hnot : ¬ m.ShowsMagic) :
    Fails (readManifest p) fs (.refused (.notAManifest p.text)) fs := by
  have hmagic : hasMagic (m.encode ++ rest) = false := by
    rw [← Bool.not_eq_true, hasMagic_encode_iff]
    exact hnot
  have hasked : Yields (FileAction.ask (·.read p)) fs (m.encode ++ rest) fs :=
    yields_ask.2 ⟨hread, rfl⟩
  unfold readManifest
  rw [hasked.fails_bind_iff, hmagic]
  exact fails_accept_bind.2 (.inl ⟨_, rfl, rfl, rfl⟩)

section Codec

variable [PictureCodec]

theorem fails_load_of_not_manifest {dir : Path} {fs : FileStore} {f : Failure} {maxDimension : Nat}
    {content : Bytes} (hdir : fs.isDirectory dir = true)
    (hread : fs.read (dir.join Manifest.fileName) = .ok content)
    (hfails : Fails (readManifest (dir.join Manifest.fileName)) fs f fs) :
    Fails (LayeredImage.load dir maxDimension) fs f fs := by
  unfold LayeredImage.load
  rw [fails_get_bind]
  refine fails_accept_bind.2 (.inr ⟨(), require_eq_ok.2 hdir, ?_⟩)
  refine fails_accept_bind.2 (.inr ⟨(), require_eq_ok.2 (isFile_of_read hread), ?_⟩)
  exact fails_bind.2 (.inl hfails)

theorem fails_save_of_not_manifest {dir : Path} {fs : FileStore} {f : Failure} {img : LayeredImage}
    {content : Bytes} (hcount : img.layers.length ≤ maxLayers) (hdir : fs.isDirectory dir = true)
    (hread : fs.read (dir.join Manifest.fileName) = .ok content)
    (hfails : Fails (readManifest (dir.join Manifest.fileName)) fs f fs) :
    Fails (img.save dir) fs f fs := by
  obtain ⟨loc, hd⟩ := isDirectory_iff.1 hdir
  -- the manifest is there, so the save has to read it before it writes anything
  obtain ⟨hname, hentry⟩ := (read_join hd isPlainFileName_manifest).1 hread
  have hthere : fs.pathExists (dir.join Manifest.fileName) = true := by
    rw [pathExists_join hd isPlainFileName_manifest, hentry]
    exact ⟨hname, Option.some_ne_none _⟩
  unfold LayeredImage.save
  rw [LayeredImage.saveOn_eq]
  refine fails_accept_bind.2 (.inr ⟨(), require_eq_ok.2 (decide_eq_true hcount), ?_⟩)
  rw [(yields_enterDirectory_self hd).fails_bind_iff]
  refine fails_bind.2 (.inl ?_)
  unfold ownFiles
  rw [fails_get_bind, if_pos hthere]
  exact Disk.fails_allow_bind.2 (.inr ⟨rfl, fails_bind.2 (.inl hfails)⟩)

/-- A manifest is read from a file if and only if the file begins with its encoding, and its first
text is the magic, or has another length than the magic but shows it with the bytes of the width
after it.  A manifest that does not show the magic is refused by loading and by saving, which then
change nothing. -/
theorem readManifest_iff_magic_or_other_length (fs : FileStore) :
    (∀ (p : Path) (m : Manifest) (fs' : FileStore), Yields (readManifest p) fs m fs' ↔
      fs' = fs ∧ m.Fits ∧ (∃ rest, fs.read p = .ok (m.encode ++ rest)) ∧
        (m.magic = expectedMagic ∨ (encodeUtf8 m.magic).length ≠ 4 ∧ m.ShowsMagic)) ∧
    ∀ (dir : Path) (m : Manifest) (rest : Bytes), fs.isDirectory dir = true →
      fs.read (dir.join Manifest.fileName) = .ok (m.encode ++ rest) → ¬ m.ShowsMagic →
      (∀ maxDimension, Fails (LayeredImage.load dir maxDimension) fs
        (.refused (.notAManifest (dir.join Manifest.fileName).text)) fs) ∧
      ∀ img : LayeredImage, img.layers.length ≤ maxLayers → Fails (img.save dir) fs
        (.refused (.notAManifest (dir.join Manifest.fileName).text)) fs := by
  constructor
  · intro p m fs'
    rw [yields_readManifest_encode, ← showsMagic_iff]
  · intro dir m rest hdir hread hnot
    have hfails := fails_readManifest hread hnot
    exact ⟨fun _ => fails_load_of_not_manifest hdir hread hfails,
      fun img hcount => fails_save_of_not_manifest hcount hdir hread hfails⟩

end Codec

/-- A directory `d` with nothing but this manifest. -/
def manifestOnly (m : Manifest) : FileStore :=
  (bareStore.put ["d"] .directory).put ["d", "manifest.pgl"] (.file m.encode)

/-- The first text is too long. -/
def longMagic : Manifest := ⟨"PGL1x", 1, 1, []⟩

/-- The first text is too short, and the width has the missing character as its lowest byte. -/
def shortMagic : Manifest := ⟨"PGL", 49, 1, []⟩

theorem readManifest_iff_magic_or_other_length_both :
    Yields (readManifest ⟨"d/manifest.pgl"⟩) (manifestOnly ⟨"PGL1", 1, 1, []⟩)
      ⟨"PGL1", 1, 1, []⟩ (manifestOnly ⟨"PGL1", 1, 1, []⟩) ∧
    Fails (LayeredImage.load ⟨"d"⟩ 1) (manifestOnly ⟨"PGL2", 1, 1, []⟩)
      (.refused (.notAManifest "d/manifest.pgl")) (manifestOnly ⟨"PGL2", 1, 1, []⟩) := by
  constructor
  · refine ((readManifest_iff_magic_or_other_length _).1 _ _ _).2 ⟨rfl, ?_, ⟨[], ?_⟩, .inl rfl⟩
    · exact ⟨by decide, by decide, by simp⟩
    · decide
  · have hnot : ¬ (⟨"PGL2", 1, 1, []⟩ : Manifest).ShowsMagic := by
      unfold ShowsMagic
      decide
    exact ((readManifest_iff_magic_or_other_length _).2 ⟨"d"⟩ ⟨"PGL2", 1, 1, []⟩ []
      (by decide) (by decide) hnot).1 1

/-- The manifest in `d` is read, the stack is loaded, and another one is saved over it. -/
def AcceptedThroughout (m : Manifest) : Prop :=
  (∃ fs, Yields (readManifest ⟨"d/manifest.pgl"⟩) (manifestOnly m) m fs) ∧
  (∃ img fs, Yields (LayeredImage.load ⟨"d"⟩ 49) (manifestOnly m) img fs) ∧
  ∃ fs, Yields (whiteLayer.save ⟨"d"⟩) (manifestOnly m) () fs

theorem acceptedThroughout {m : Manifest}
    (hread : (outcome (readManifest ⟨"d/manifest.pgl"⟩) (manifestOnly m)).1 = .ok m)
    (hload : (outcome (LayeredImage.load ⟨"d"⟩ 49) (manifestOnly m)).1.isOk = true)
    (hsave : (outcome (whiteLayer.save ⟨"d"⟩) (manifestOnly m)).1 = .ok ()) :
    AcceptedThroughout m := by
  have hloaded : ∃ img, (outcome (LayeredImage.load ⟨"d"⟩ 49) (manifestOnly m)).1 = .ok img := by
    cases hresult : (outcome (LayeredImage.load ⟨"d"⟩ 49) (manifestOnly m)).1 with
    | error f =>
      rw [hresult] at hload
      cases hload
    | ok img => exact ⟨img, rfl⟩
  obtain ⟨img, himg⟩ := hloaded
  exact ⟨⟨_, yields_of_outcome hread⟩, ⟨img, _, yields_of_outcome himg⟩,
    ⟨_, yields_of_outcome hsave⟩⟩

/-- A manifest whose first text is not the magic, but longer or shorter, can be accepted. -/
theorem other_magic_accepted :
    (longMagic.magic ≠ expectedMagic ∧ AcceptedThroughout longMagic) ∧
    (shortMagic.magic ≠ expectedMagic ∧ AcceptedThroughout shortMagic) := by
  refine ⟨⟨by decide, acceptedThroughout ?_ ?_ ?_⟩, ⟨by decide, acceptedThroughout ?_ ?_ ?_⟩⟩
  all_goals decide +kernel

end RasterScript
