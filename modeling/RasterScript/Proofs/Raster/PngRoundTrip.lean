import RasterScript.Raster.Decode

/-!
# PngRoundTrip — a picture written as PNG is read back as it was

One lemma for each part of the format, every one with what follows the part: stored blocks, the zlib
stream, a chunk, the rows, the data chunks.  The lengths fit the fields for them because a picture
has at most `maxPixels` pixels.
-/

namespace RasterScript

/-! ## 1. Stored blocks -/

namespace Deflate

theorem length_block (final : Bool) (data : Bytes) :
    (block final data).length = data.length + 5 := by
  unfold block
  rw [List.length_append, List.length_append, List.length_cons, length_littleEndian,
    length_littleEndian]
  omega

theorem length_blocks (more : Nat) (data : Bytes) :
    (blocks more data).length = data.length + 5 * (more + 1) := by
  induction more generalizing data with
  | zero => rw [blocks, length_block]
  | succ more ih =>
    rw [blocks, List.length_append, length_block, ih, List.length_take, List.length_drop]
    omega

theorem readBytes_append {n : Nat} {front : Bytes} (h : front.length = n) (begun : List Bool)
    (rest : Bytes) : (readBytes n).run ⟨begun, front ++ rest⟩ = some (front, ⟨[], rest⟩) := by
  exact splitBytes?_append_bind h rest _

theorem readStored_append {data : Bytes} (hdata : data.length ≤ blockSize) (out : Array UInt8)
    (begun : List Bool) (rest : Bytes) :
    (readStored out).run ⟨begun, littleEndian 2 data.length ++
      (littleEndian 2 (blockSize - data.length) ++ (data ++ rest))⟩ =
      some (out ++ data, ⟨[], rest⟩) := by
  have hlength : data.length < byteLimit 2 := Nat.lt_succ_of_le hdata
  have hcomplement : blockSize - data.length < byteLimit 2 :=
    Nat.lt_succ_of_le (Nat.sub_le blockSize data.length)
  have hsum : data.length + (blockSize - data.length) = blockSize := Nat.add_sub_cancel' hdata
  unfold readStored
  rw [StateT.run_bind, readBytes_append (length_littleEndian _ _)]
  simp only [Option.bind_eq_bind, Option.bind_some]
  rw [StateT.run_bind, readBytes_append (length_littleEndian _ _)]
  simp only [Option.bind_eq_bind, Option.bind_some]
  rw [ofLittleEndian_littleEndian hlength, ofLittleEndian_littleEndian hcomplement, hsum,
    if_neg (not_not_intro rfl)]
  show ((readBytes data.length).run ⟨[], data ++ rest⟩ >>= fun read => _) = _
  rw [readBytes_append rfl]
  rfl

/-- The three bits in front of a stored block. -/
theorem readBlocks_block (final : Bool) {data : Bytes} (hdata : data.length ≤ blockSize)
    (fuel : Nat) (out : Array UInt8) (rest : Bytes) :
    (readBlocks (fuel + 1) out).run ⟨[], block final data ++ rest⟩ =
      if final then some (out ++ data, ⟨[], rest⟩)
      else (readBlocks fuel (out ++ data)).run ⟨[], rest⟩ := by
  -- three bits of the first byte count, and the others are left
  have hhead : (readBlocks (fuel + 1) out).run ⟨[], block final data ++ rest⟩ =
      (readStored out).run ⟨List.replicate 5 false, littleEndian 2 data.length ++
        (littleEndian 2 (blockSize - data.length) ++ (data ++ rest))⟩ >>= fun read =>
          (if final then pure read.1 else readBlocks fuel read.1).run read.2 := by
    unfold block
    simp only [List.append_assoc, List.cons_append]
    cases final <;> rfl
  rw [hhead, readStored_append hdata]
  cases final <;> rfl

theorem readBlocks_blocks {more fuel : Nat} {data : Bytes} (hfuel : more < fuel)
    (hdata : data.length ≤ blockSize * (more + 1)) (out : Array UInt8) (rest : Bytes) :
    (readBlocks fuel out).run ⟨[], blocks more data ++ rest⟩ = some (out ++ data, ⟨[], rest⟩) := by
  induction more generalizing fuel data out with
  | zero =>
    obtain ⟨fuel, rfl⟩ := Nat.exists_eq_add_of_lt hfuel
    rw [blocks, readBlocks_block true (by omega)]
    rfl
  | succ more ih =>
    obtain ⟨fuel, rfl⟩ := Nat.exists_eq_add_of_lt hfuel
    have htake : (data.take blockSize).length ≤ blockSize := by
      rw [List.length_take]
      omega
    have hdrop : (data.drop blockSize).length ≤ blockSize * (more + 1) := by
      rw [List.length_drop]
      have hmul : blockSize * (more + 1 + 1) = blockSize * (more + 1) + blockSize :=
        Nat.mul_succ _ _
      omega
    rw [blocks, List.append_assoc, readBlocks_block false htake, if_neg (by decide),
      ih (by omega) hdrop]
    have happend : out ++ data.take blockSize ++ data.drop blockSize = out ++ data := by
      apply Array.toList_inj.1
      rw [Array.toList_appendList, Array.toList_appendList, Array.toList_appendList,
        List.append_assoc, List.take_append_drop]
    rw [happend]

theorem readZlib?_zlib (data : Bytes) : readZlib? (zlib data) = some data := by
  have hblocks : data.length ≤ blockSize * ((data.length - 1) / blockSize + 1) := by
    unfold blockSize
    omega
  unfold readZlib? zlib
  rw [List.append_assoc, splitBytes?_append_bind (n := 2) rfl]
  dsimp only
  rw [readBlocks_blocks _ hblocks]
  · simp only [Option.bind_eq_bind, Option.bind_some]
    rw [← List.append_nil (bigEndian 4 _), splitBytes?_append (length_bigEndian _ _)]
    show some (Array.toList (#[] ++ data)) = some data
    rw [Array.toList_appendList, List.nil_append]
  · rw [List.length_append, length_blocks]
    omega

end Deflate

namespace Png

/-! ## 2. Chunks -/

/-- The fields of a chunk, and what follows it. -/
theorem chunk_append (type data rest : Bytes) : chunk type data ++ rest =
    bigEndian 4 data.length ++ (type ++ (data ++ (bigEndian 4 (crc32 (type ++ data)).toNat ++
      rest))) := by
  unfold chunk
  simp only [List.append_assoc]

theorem readChunk?_chunk {type data : Bytes} (htype : type.length = 4)
    (hdata : data.length < byteLimit 4) (rest : Bytes) :
    readChunk? type (chunk type data ++ rest) = some (data, rest) := by
  have hcrc : (crc32 (type ++ data)).toNat < byteLimit 4 := (crc32 (type ++ data)).toNat_lt
  rw [chunk_append]
  unfold readChunk?
  simp only [splitBytes?_append_bind (length_bigEndian 4 _), splitBytes?_append_bind htype,
    splitBytes?_append_bind (ofBigEndian_bigEndian hdata).symm]
  rw [ofBigEndian_bigEndian hcrc, if_pos ⟨trivial, rfl⟩]

theorem length_chunk {type data : Bytes} (htype : type.length = 4) :
    (chunk type data).length = data.length + 12 := by
  unfold chunk
  rw [List.length_append, List.length_append, List.length_append, length_bigEndian,
    length_bigEndian, htype]
  omega

/-! ## 3. Rows -/

theorem length_flatMap_pixelBytes (ps : List Pixel) :
    (ps.flatMap pixelBytes).length = 4 * ps.length := by
  induction ps with
  | nil => rfl
  | cons p ps ih =>
    rw [List.flatMap_cons, List.length_append, ih, List.length_cons]
    show 4 + 4 * ps.length = _
    omega

theorem restore_nothing (left above corner told : Pixel) :
    Prediction.nothing.restore left above corner told = told := by
  simp [Prediction.restore, Prediction.predict]

theorem addRow_nothing (width done : Nat) (ps : List Pixel) (pixels : Array Pixel) :
    addRow .nothing width done (ps.flatMap pixelBytes) pixels = pixels ++ ps.toArray := by
  induction ps generalizing done pixels with
  | nil =>
    rw [List.flatMap_nil]
    unfold addRow
    simp
  | cons p ps ih =>
    show addRow .nothing width done
      (p.red :: p.green :: p.blue :: p.opacity :: ps.flatMap pixelBytes) pixels = _
    rw [addRow, restore_nothing, ih]
    simp

theorem length_rows {height width : Nat} {pixels : List Pixel}
    (h : pixels.length = height * width) :
    (rows height width pixels).length = height * (4 * width + 1) := by
  induction height generalizing pixels with
  | zero => rw [rows, Nat.zero_mul, List.length_nil]
  | succ height ih =>
    rw [Nat.succ_mul] at h
    have hdrop : (pixels.drop width).length = height * width := by
      rw [List.length_drop]
      omega
    rw [rows, List.length_append, List.length_cons, length_flatMap_pixelBytes, ih hdrop,
      List.length_take, Nat.min_eq_left (by omega), Nat.succ_mul height]
    omega

theorem readRows?_rows {height width : Nat} {pixels : List Pixel}
    (h : pixels.length = height * width) (acc : Array Pixel) :
    readRows? height width (rows height width pixels) acc = some (acc ++ pixels.toArray) := by
  induction height generalizing pixels acc with
  | zero =>
    rw [Nat.zero_mul] at h
    rw [List.eq_nil_of_length_eq_zero h, readRows?]
    simp
  | succ height ih =>
    rw [Nat.succ_mul] at h
    have hdrop : (pixels.drop width).length = height * width := by
      rw [List.length_drop]
      omega
    have hrow : ((pixels.take width).flatMap pixelBytes).length = 4 * width := by
      rw [length_flatMap_pixelBytes, List.length_take, Nat.min_eq_left (by omega)]
    rw [rows, readRows?, List.cons_append, ← List.singleton_append,
      splitBytes?_append_bind (n := 1) rfl]
    simp only [splitBytes?_append_bind hrow]
    show readRows? height width _ (addRow .nothing width 0 _ acc) = _
    rw [addRow_nothing, ih hdrop, Array.append_assoc, List.append_toArray (pixels.take width),
      List.take_append_drop]

/-! ## 4. Files -/

/-- The picture data and all lengths on the way fit their fields. -/
theorem length_zlib_lt (g : Grid) :
    (Deflate.zlib (rows g.height g.width g.pixels.toList)).length < byteLimit 4 := by
  have hpixels : g.pixels.toList.length = g.height * g.width := by
    rw [Array.length_toList, g.size_eq, Extent.area, Nat.mul_comm]
  have harea : g.height * g.width ≤ maxPixels := by
    rw [Nat.mul_comm]
    exact g.extent.area_le
  have hheight : g.height ≤ g.height * g.width := Nat.le_mul_of_pos_right _ g.extent.width_pos
  have hrows := length_rows hpixels
  rw [Nat.mul_add, Nat.mul_one, Nat.mul_left_comm] at hrows
  unfold Deflate.zlib
  rw [List.length_append, List.length_append, Deflate.length_blocks, length_bigEndian, hrows]
  show _ < 4294967296
  unfold maxPixels at harea
  unfold Deflate.blockSize
  simp only [List.length_cons, List.length_nil]
  omega

theorem readData?_chunk {fuel : Nat} {data : Bytes} (hdata : data.length < byteLimit 4)
    (rest : Bytes) :
    readData? (fuel + 2) false (chunk dataType data ++ (chunk endType [] ++ rest)) = some data := by
  have hchunk := readChunk?_chunk (show dataType.length = 4 from rfl) hdata
    (chunk endType [] ++ rest)
  have hdataType := @splitBytes?_append_bind Bytes 4 dataType rfl
  have hendType := @splitBytes?_append_bind Bytes 4 endType rfl
  -- behind some data a chunk of any other type ends it
  have hend : readData? (fuel + 1) true (chunk endType [] ++ rest) = some [] := by
    rw [readData?, chunk_append]
    simp only [splitBytes?_append_bind (length_bigEndian 4 _), hendType]
    rw [if_neg (by decide)]
    rfl
  rw [readData?, chunk_append dataType]
  simp only [splitBytes?_append_bind (length_bigEndian 4 _), hdataType]
  rw [if_pos trivial, ← chunk_append, hchunk]
  simp only [Option.bind_eq_bind, Option.bind_some]
  rw [hend]
  simp only [Option.bind_some]
  rw [List.append_nil]
  rfl

theorem decode?_encode (g : Grid) : decode? (encode g) = some g.toRaster := by
  have hpixels : g.pixels.toList.length = g.height * g.width := by
    rw [Array.length_toList, g.size_eq, Extent.area, Nat.mul_comm]
  have hlimit : maxPixels < byteLimit 4 := by decide
  have hwidth : g.width < byteLimit 4 := Nat.lt_of_le_of_lt g.extent.width_le hlimit
  have hheight : g.height < byteLimit 4 := Nat.lt_of_le_of_lt g.extent.height_le hlimit
  have hheader : (bigEndian 4 g.width ++ bigEndian 4 g.height ++ depthAndColor).length <
      byteLimit 4 := by
    rw [List.length_append, List.length_append, length_bigEndian, length_bigEndian]
    decide
  unfold decode? encode
  rw [List.append_assoc, List.append_assoc, splitBytes?_append_bind (n := 8) rfl]
  dsimp only
  rw [if_neg (not_not_intro rfl), readChunk?_chunk rfl hheader]
  simp only [Option.bind_eq_bind, Option.bind_some]
  -- the data chunk is the first that is looked at, and the end the second
  have hlength : (chunk dataType (Deflate.zlib (rows g.height g.width g.pixels.toList)) ++
      chunk endType []).length =
        (Deflate.zlib (rows g.height g.width g.pixels.toList)).length + 22 + 2 := by
    rw [List.length_append, length_chunk rfl, length_chunk rfl]
    rfl
  have hread := @readData?_chunk
    ((Deflate.zlib (rows g.height g.width g.pixels.toList)).length + 22) _ (length_zlib_lt g) []
  rw [List.append_nil] at hread
  rw [hlength, hread]
  simp only [Option.bind_some]
  have hsides : ¬ (g.width = 0 ∨ g.height = 0 ∨ depthAndColor ≠ depthAndColor) := by
    rintro (h | h | h)
    · exact Nat.ne_of_gt g.extent.width_pos h
    · exact Nat.ne_of_gt g.extent.height_pos h
    · exact h rfl
  simp only [List.append_assoc, splitBytes?_append (length_bigEndian 4 _), Option.bind_some]
  rw [ofBigEndian_bigEndian hwidth, ofBigEndian_bigEndian hheight, if_neg hsides,
    Deflate.readZlib?_zlib]
  simp only [Option.bind_some]
  rw [readRows?_rows hpixels]
  simp only [Option.bind_some]
  show some (Raster.mk g.width g.height (#[] ++ g.pixels.toList.toArray)) = _
  rw [Array.empty_append, Array.toArray_toList]
  rfl

end Png

/-- Readers recognise what they find in a file that was written as PNG, and it is the picture. -/
theorem decodePicture_encode (g : Grid) : decodePicture (Png.encode g) = .ok g.toRaster := by
  unfold decodePicture
  have hsignature : Png.hasSignature (Png.encode g) = true := by
    unfold Png.hasSignature Png.encode
    rfl
  rw [if_pos hsignature, Png.decode?_encode]

end RasterScript
