import RasterScript.Grid.Rows
import RasterScript.Proofs.Text.Numerals
import RasterScript.Raster.Codec
import RasterScript.Raster.Decode
import RasterScript.Raster.PlainPixmap

/-!
# PixmapRoundTrip — a picture written as a plain pixmap is read back fully visible

A reader takes words between blanks.  The decimal digits of a number are one word, wherever a line
break is put in front of them or behind them, so the layout of the samples does not matter: the
numbers come back one by one, with what is left of the text in between (`decimalSamples?_lay`).
-/

namespace RasterScript

open AnyMap

/-! ## 1. Digits as bytes -/

/-- The byte of a digit is the digit for readers, no blank and no beginning of a comment. -/
theorem byte_of_isDigit {c : Char} (hc : c.isDigit = true) :
    Char.ofNat c.toNat.toUInt8.toNat = c ∧ (c.toNat.toUInt8 == 0x23) = false ∧
      isSeparator c.toNat.toUInt8 = false ∧ c.toNat.toUInt8 < 0x80 := by
  -- value by value, up to the last digit
  have hall : ∀ n : Nat, n < 58 → (Char.ofNat n).isDigit = true →
      Char.ofNat (Char.ofNat n).toNat.toUInt8.toNat = Char.ofNat n ∧
        ((Char.ofNat n).toNat.toUInt8 == 0x23) = false ∧
        isSeparator (Char.ofNat n).toNat.toUInt8 = false ∧ (Char.ofNat n).toNat.toUInt8 < 0x80 := by
    decide
  have hlt : c.toNat < 58 := by
    unfold Char.isDigit at hc
    simp only [Bool.and_eq_true, decide_eq_true_eq] at hc
    exact Nat.lt_succ_of_le hc.2
  have h := hall c.toNat hlt
  rw [Char.ofNat_toNat] at h
  exact h hc

namespace PlainPixmap

theorem isDigit_of_mem_toDigits {n : Nat} {c : Char} (hc : c ∈ Nat.toDigits 10 n) :
    c.isDigit = true :=
  (digitsOf_toDigits n).2.1 c hc

/-- Readers take the bytes of a number for its digits. -/
theorem map_decimal (n : Nat) :
    (decimal n).map (fun b => Char.ofNat b.toNat) = Nat.toDigits 10 n := by
  unfold decimal
  rw [List.map_map]
  have hbyte : ∀ c ∈ Nat.toDigits 10 n, Char.ofNat c.toNat.toUInt8.toNat = c :=
    fun c hc => (byte_of_isDigit (isDigit_of_mem_toDigits hc)).1
  exact (List.map_congr_left hbyte).trans (List.map_id' _)

theorem decimal_ne_nil (n : Nat) : decimal n ≠ [] := by
  intro h
  exact (digitsOf_toDigits n).1 (List.map_eq_nil_iff.1 h)

theorem decimal_spec {n : Nat} {b : UInt8} (hb : b ∈ decimal n) :
    (b == 0x23) = false ∧ isSeparator b = false ∧ b < 0x80 := by
  obtain ⟨c, hc, rfl⟩ := List.mem_map.1 hb
  exact (byte_of_isDigit (isDigit_of_mem_toDigits hc)).2

theorem unsigned?_toDigits {bound n : Nat} (hn : n < bound) :
    unsigned? bound (String.ofList (Nat.toDigits 10 n)) = some n := by
  refine unsigned?_eq_some.2 ⟨⟨Nat.toDigits 10 n, digitsOf_toDigits n, .inl ?_⟩, hn⟩
  rw [String.toList_ofList]

/-! ## 2. The header -/

theorem headerWord?_of_word {bs rest : Bytes} {b : UInt8} {word : List Char}
    (hbs : ∀ b ∈ bs, (b == 0x23) = false ∧ isSeparator b = false ∧ b < 0x80)
    (hb : isSeparator b = true) (hcomment : (b == 0x23) = false) (hne : bs ≠ [] ∨ word ≠ []) :
    headerWord? false word (bs ++ b :: rest) =
      some (word.reverse ++ bs.map (fun b => Char.ofNat b.toNat), rest) := by
  -- byte by byte; the word is collected back to front, and `b` ends it
  induction bs generalizing word with
  | nil =>
    have hword : word ≠ [] := hne.resolve_left fun h => h rfl
    simp [headerWord?, hcomment, hb, hword]
  | cons d ds ih =>
    obtain ⟨⟨hd, hsep, hascii⟩, hds⟩ := List.forall_mem_cons.1 hbs
    rw [List.cons_append, headerWord?, if_neg Bool.false_ne_true, hd, hsep,
      if_neg Bool.false_ne_true, if_neg Bool.false_ne_true, if_pos hascii,
      ih hds (.inr (List.cons_ne_nil _ _))]
    simp

/-- A number and the blank after it are read. -/
theorem headerNumber?_decimal {n : Nat} (hn : n < headerLimit) {b : UInt8}
    (hb : isSeparator b = true) (hcomment : (b == 0x23) = false) (rest : Bytes) :
    headerNumber? (decimal n ++ b :: rest) = some (n, rest) := by
  unfold headerNumber?
  rw [headerWord?_of_word (fun _ => decimal_spec) hb hcomment (.inl (decimal_ne_nil n)),
    map_decimal]
  show (unsigned? headerLimit (String.ofList (Nat.toDigits 10 n))).bind _ = _
  rw [unsigned?_toDigits hn]
  rfl

/-! ## 3. The layout -/

/-- The pieces as they are laid out on a line that has `n` bytes so far. -/
def lay : Nat → List Bytes → Bytes
  | _, [] => []
  | n, piece :: rest =>
    if n ≠ 0 ∧ lineLimit < n + piece.length then newlineByte :: piece ++ lay piece.length rest
    else piece ++ lay (n + piece.length) rest

theorem toList_text_foldl_add (l : Layout) (pieces : List Bytes) :
    (pieces.foldl Layout.add l).text.toList = l.text.toList ++ lay l.lineLength pieces := by
  induction pieces generalizing l with
  | nil => exact (List.append_nil _).symm
  | cons piece rest ih =>
    rw [List.foldl_cons, ih, Layout.add, lay]
    split <;> simp

/-- A list of nothing but blanks. -/
def Blank (bs : Bytes) : Prop := ∀ b ∈ bs, isSeparator b = true

/-- Where a piece is put there is a line break or nothing in front of it. -/
theorem lay_cons (n : Nat) (piece : Bytes) (rest : List Bytes) :
    ∃ front n', Blank front ∧ lay n (piece :: rest) = front ++ (piece ++ lay n' rest) := by
  rw [lay]
  split
  · exact ⟨[newlineByte], piece.length, List.forall_mem_singleton.2 rfl, by simp⟩
  · exact ⟨[], n + piece.length, nofun, rfl⟩

/-- A sample stands between blanks: it may begin a line, and behind it is at least one blank. -/
theorem lay_sample (n v : Nat) (rest : List Bytes) :
    ∃ front back n', Blank front ∧ Blank back ∧ back ≠ [] ∧
      lay n (decimal v :: [blankByte] :: rest) = front ++ (decimal v ++ (back ++ lay n' rest)) := by
  obtain ⟨front, m, hfront, hv⟩ := lay_cons n (decimal v) ([blankByte] :: rest)
  obtain ⟨back, n', hback, hblank⟩ := lay_cons m [blankByte] rest
  refine ⟨front, back ++ [blankByte], n', hfront, ?_, by simp, ?_⟩
  · exact List.forall_mem_append.2 ⟨hback, List.forall_mem_singleton.2 rfl⟩
  · rw [hv, hblank, List.append_assoc]

/-! ## 4. The samples -/

/-- A number between blanks is read as a sample, up to the blanks behind it. -/
theorem decimalSamples?_decimal {bound v : Nat} (hv : v < bound) {front back : Bytes}
    (hfront : Blank front) (hback : Blank back) (hne : back ≠ []) (rest : Bytes) (k : Nat)
    (samples : Array Nat) :
    decimalSamples? bound (k + 1) (front ++ (decimal v ++ (back ++ rest))) samples =
      decimalSamples? bound k (back ++ rest) (samples.push v) := by
  have hdigits : ∀ b ∈ decimal v, (!isSeparator b) = true := by
    intro b hb
    rw [(decimal_spec hb).2.1]
    rfl
  obtain ⟨d, ds, hd⟩ := List.exists_cons_of_ne_nil (decimal_ne_nil v)
  obtain ⟨b, bs, rfl⟩ := List.exists_cons_of_ne_nil hne
  have hsep : isSeparator b = true := hback b List.mem_cons_self
  have hskip : (front ++ (decimal v ++ (b :: bs ++ rest))).dropWhile isSeparator =
      decimal v ++ (b :: bs ++ rest) := by
    have hfirst : isSeparator d = false := (decimal_spec (hd ▸ List.mem_cons_self)).2.1
    rw [List.dropWhile_append_of_pos hfront, hd, List.cons_append, List.dropWhile_cons_of_neg]
    simp [hfirst]
  have htake :
      (decimal v ++ (b :: bs ++ rest)).takeWhile (fun b => !isSeparator b) = decimal v := by
    rw [List.takeWhile_append_of_pos hdigits, List.cons_append, List.takeWhile_cons_of_neg,
      List.append_nil]
    simp [hsep]
  have hdrop : (decimal v ++ (b :: bs ++ rest)).dropWhile (fun b => !isSeparator b) =
      b :: bs ++ rest := by
    rw [List.dropWhile_append_of_pos hdigits, List.cons_append, List.dropWhile_cons_of_neg]
    simp [hsep]
  have hascii : (decimal v).all (fun b => decide (b < 0x80)) = true :=
    List.all_eq_true.2 fun b hb => decide_eq_true (decimal_spec hb).2.2
  rw [decimalSamples?]
  rw [hskip, htake, hdrop, if_pos hascii, map_decimal, unsigned?_toDigits hv]

/-- However the samples are laid out, they are read back. -/
theorem decimalSamples?_lay (vs : List UInt8) {lead : Bytes} (hlead : Blank lead) (n : Nat)
    (samples : Array Nat) :
    decimalSamples? 256 vs.length
        (lead ++ lay n (vs.flatMap fun v => [decimal v.toNat, [blankByte]])) samples =
      some (samples ++ (vs.map UInt8.toNat).toArray) := by
  -- sample by sample; the blanks behind one are in front of the next
  induction vs generalizing lead n samples with
  | nil => simp [decimalSamples?]
  | cons v vs ih =>
    obtain ⟨front, back, n', hfront, hback, hne, hlay⟩ := lay_sample n v.toNat
      (vs.flatMap fun v => [decimal v.toNat, [blankByte]])
    have hblank : Blank (lead ++ front) := List.forall_mem_append.2 ⟨hlead, hfront⟩
    show decimalSamples? 256 (vs.length + 1) (lead ++ lay n (decimal v.toNat :: [blankByte] ::
      vs.flatMap fun v => [decimal v.toNat, [blankByte]])) samples = _
    rw [hlay, ← List.append_assoc, decimalSamples?_decimal v.toNat_lt hblank hback hne,
      ih hback n']
    simp

/-! ## 5. Pixels -/

theorem samples_eq_flatten (g : Grid) :
    samples g = (g.pixels.toList.map fun p => [p.red, p.green, p.blue]).flatten :=
  List.flatMap_def

/-- Every pixel has three samples. -/
theorem length_of_mem_channels {pixels : List Pixel} :
    ∀ r ∈ pixels.map fun p => [p.red, p.green, p.blue], r.length = 3 := by
  intro r hr
  obtain ⟨p, -, rfl⟩ := List.mem_map.1 hr
  rfl

theorem length_samples (g : Grid) : (samples g).length = 3 * g.pixels.size := by
  rw [samples_eq_flatten, length_flatten_of_length _ length_of_mem_channels, List.length_map,
    Array.length_toList]

/-- Sample `k` of pixel `i`. -/
theorem getElem?_samples {g : Grid} {i : Nat} (hi : i < g.pixels.size) {k : Nat} (hk : k < 3) :
    (samples g)[3 * i + k]? = [g.pixels[i].red, g.pixels[i].green, g.pixels[i].blue][k]? := by
  rw [samples_eq_flatten, Nat.mul_comm, getElem?_flatten_of_length _ length_of_mem_channels hk,
    List.getElem?_map, Array.getElem?_toList, Array.getElem?_eq_getElem hi]
  rfl

/-- The samples put together are the pixels, fully visible. -/
theorem colorPixels_samples (g : Grid) :
    colorPixels ((samples g).map UInt8.toNat).toArray =
      g.pixels.map fun p => .solid p.red p.green p.blue := by
  have hsize : ((samples g).map UInt8.toNat).toArray.size / 3 = g.pixels.size := by
    rw [List.size_toArray, List.length_map, length_samples]
    omega
  unfold colorPixels
  apply Array.ext
  · rw [Array.size_ofFn, hsize, Array.size_map]
  · intro i h _
    rw [Array.size_ofFn, hsize] at h
    -- the three samples of pixel `i`
    have hsample : ∀ k v, k < 3 →
        [g.pixels[i].red, g.pixels[i].green, g.pixels[i].blue][k]? = some v →
        UInt8.ofNat (((samples g).map UInt8.toNat).toArray.getD (3 * i + k) 0) = v := by
      intro k v hk hv
      rw [Array.getD_eq_getD_getElem?, List.getElem?_toArray, List.getElem?_map,
        getElem?_samples h hk, hv]
      simp
    rw [Array.getElem_ofFn, Array.getElem_map]
    dsimp only
    rw [hsample 0 _ (by decide) rfl, hsample 1 _ (by decide) rfl, hsample 2 _ (by decide) rfl]

end PlainPixmap

/-! ## 6. Pictures -/

namespace PlainPixmap

theorem encode_eq (g : Grid) : encode g = 0x50 :: 0x33 :: newlineByte ::
    (decimal g.width ++ blankByte :: (decimal g.height ++ blankByte :: (decimal 255 ++
      newlineByte :: lay 0 (samplePieces g)))) := by
  have hbody : ((samplePieces g).foldl Layout.add ⟨#[], 0⟩).text.toList = lay 0 (samplePieces g) :=
    toList_text_foldl_add _ _
  show header g.width g.height ++ ((samplePieces g).foldl Layout.add ⟨#[], 0⟩).text.toList = _
  rw [hbody]
  simp [header]

/-- With the highest sample 255 the samples are what they are. -/
theorem shadedSamples?_lay (g : Grid) :
    shadedSamples? true 255 (g.width * g.height * 3) (lay 0 (samplePieces g)) =
      some ((samples g).map UInt8.toNat).toArray := by
  have hlength : g.width * g.height * 3 = (samples g).length := by
    rw [length_samples, g.size_eq, Extent.area, Nat.mul_comm]
  have hread : decimalSamples? 256 (samples g).length (lay 0 (samplePieces g)) #[] =
      some ((samples g).map UInt8.toNat).toArray := by
    have hlay := decimalSamples?_lay (samples g) (show Blank [] from nofun) 0 #[]
    rw [Array.empty_append] at hlay
    exact hlay
  have hscale : scaleToByte 255 = id := by
    funext v
    exact if_pos rfl
  unfold shadedSamples?
  rw [if_pos (Nat.le_refl 255), if_pos rfl, hlength, hread, hscale]
  simp

/-- Opacities are not written. -/
theorem encode_solid (g : Grid) : encode g.solid = encode g := by
  have hsamples : samples g.solid = samples g := by
    unfold samples Grid.solid Grid.map
    simp [List.flatMap_map, Pixel.solid]
  unfold encode samplePieces
  rw [hsamples]
  rfl

theorem decode?_encode (g : Grid) : AnyMap.decode? (encode g) = some g.solid.toRaster := by
  have hlimit : maxPixels < headerLimit := by decide
  have hwidth : g.width < headerLimit := Nat.lt_of_le_of_lt g.extent.width_le hlimit
  have hheight : g.height < headerLimit := Nat.lt_of_le_of_lt g.extent.height_le hlimit
  have hkind : kind? (encode g) = some (⟨.color, true⟩, newlineByte ::
      (decimal g.width ++ blankByte :: (decimal g.height ++ blankByte :: (decimal 255 ++
        newlineByte :: lay 0 (samplePieces g))))) := by
    rw [encode_eq]
    rfl
  -- the line break after the magic is passed over
  have hfirst : headerNumber? (newlineByte :: (decimal g.width ++ blankByte ::
      (decimal g.height ++ blankByte :: (decimal 255 ++ newlineByte :: lay 0 (samplePieces g))))) =
        some (g.width, decimal g.height ++ blankByte :: (decimal 255 ++
          newlineByte :: lay 0 (samplePieces g))) :=
    headerNumber?_decimal hwidth rfl rfl _
  unfold AnyMap.decode?
  simp only [Option.bind_eq_bind, hkind, Option.bind_some, hfirst]
  rw [headerNumber?_decimal hheight rfl rfl]
  simp only [Option.bind_some]
  rw [headerNumber?_decimal (by decide) rfl rfl]
  simp only [Option.bind_some]
  -- 255 is a highest sample that files may have
  rw [if_neg (by decide), shadedSamples?_lay]
  simp only [Option.bind_some, colorPixels_samples]
  rfl

end PlainPixmap

/-- Readers recognise what they find in a file that was written as PPM, and it is the picture
without its opacities. -/
theorem decodePicture_encode_ppm (g : Grid) :
    decodePicture (PlainPixmap.encode g) = .ok g.solid.toRaster := by
  have hpng : Png.hasSignature (PlainPixmap.encode g) = false := by
    rw [PlainPixmap.encode_eq]
    rfl
  have hjpeg : Jpeg.hasSignature (PlainPixmap.encode g) = false := by
    rw [PlainPixmap.encode_eq]
    rfl
  have hkind : (AnyMap.kind? (PlainPixmap.encode g)).isSome = true := by
    rw [PlainPixmap.encode_eq]
    rfl
  unfold decodePicture
  rw [hpng, hjpeg, if_neg Bool.false_ne_true, if_neg Bool.false_ne_true, if_pos hkind,
    PlainPixmap.decode?_encode]

end RasterScript
