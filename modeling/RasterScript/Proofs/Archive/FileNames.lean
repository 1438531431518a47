import RasterScript.Archive.Save
import RasterScript.Proofs.Files.Paths
import RasterScript.Text.Numeral

/-!
# FileNames — the files that a saved stack consists of

The file of a layer is a plain name, is not that of the manifest, and tells the index and the name
of the layer: the digits of the index end at the first dash.
-/

namespace RasterScript

/-! ## 1. One file -/

theorem toList_layerFileName (i : Nat) (name : String) : (layerFileName i name).toList =
    Nat.toDigits 10 i ++ '-' :: (name.toList ++ ['.', 'p', 'n', 'g']) := by
  unfold layerFileName
  rw [String.toList_append, String.toList_append, String.toList_append]
  have hdigits : (toString i).toList = Nat.toDigits 10 i := by
    rw [Nat.toString_eq_repr, Nat.toList_repr]
  rw [hdigits, List.append_assoc, List.append_assoc]
  rfl

theorem not_mem_toDigits {c : Char} (hc : c.isDigit = false) (i : Nat) :
    c ∉ Nat.toDigits 10 i := by
  intro hm
  have hdigit := Nat.isDigit_of_mem_toDigits (by decide) (by decide) hm
  rw [hc] at hdigit
  cases hdigit

theorem isPlainFileName_layerFileName (i : Nat) {name : String} (h : IsLayerName name) :
    isPlainFileName (layerFileName i name) = true := by
  have hdash : '-' ∈ (layerFileName i name).toList := by
    rw [toList_layerFileName]
    exact List.mem_append_right _ List.mem_cons_self
  refine isPlainFileName_iff.2 ⟨?_, ?_, ?_, ?_⟩
  · intro heq
    rw [heq] at hdash
    cases hdash
  · intro heq
    rw [heq] at hdash
    revert hdash
    decide
  · intro heq
    rw [heq] at hdash
    revert hdash
    decide
  · rw [toList_layerFileName, List.mem_append, List.mem_cons, List.mem_append]
    rintro (hm | hm | hm | hm)
    · exact not_mem_toDigits (by decide) i hm
    · revert hm
      decide
    · exact (h.2 '/' hm).1 rfl
    · revert hm
      decide

/-- The names of layer files end in another letter than that of the manifest. -/
theorem layerFileName_ne_manifest (i : Nat) (name : String) :
    layerFileName i name ≠ Manifest.fileName := by
  intro heq
  have hlast : (layerFileName i name).toList.getLast? = some 'g' := by
    rw [toList_layerFileName, List.getLast?_append, ← List.cons_append, List.getLast?_append]
    rfl
  rw [heq] at hlast
  revert hlast
  decide

theorem toDigits_inj {i j : Nat} (h : Nat.toDigits 10 i = Nat.toDigits 10 j) : i = j := by
  have hi := natural?_toDigits i
  rw [h, natural?_toDigits] at hi
  exact (Option.some.inj hi).symm

theorem layerFileName_inj {i j : Nat} {a b : String} (h : layerFileName i a = layerFileName j b) :
    i = j ∧ a = b := by
  have hlist := congrArg String.toList h
  rw [toList_layerFileName, toList_layerFileName] at hlist
  -- the digits are the first piece of the name
  have hpieces := congrArg (pieces '-') hlist
  rw [pieces_append_sep, pieces_append_sep, pieces_of_not_mem (not_mem_toDigits (by decide) i),
    pieces_of_not_mem (not_mem_toDigits (by decide) j)] at hpieces
  have hdigits : Nat.toDigits 10 i = Nat.toDigits 10 j := (List.cons.inj hpieces).1
  rw [hdigits] at hlist
  have htail := List.append_cancel_left hlist
  have hname : a.toList = b.toList := List.append_cancel_right (List.cons.inj htail).2
  exact ⟨toDigits_inj hdigits, toList_eq_iff.1 hname⟩

theorem isPlainFileName_manifest : isPlainFileName Manifest.fileName = true := by
  decide

/-! ## 2. The files of a stack -/

namespace LayeredImage

variable {img : LayeredImage}

theorem length_fileNames (img : LayeredImage) : img.fileNames.length = img.layers.length := by
  unfold fileNames
  rw [List.length_mapIdx]

theorem getElem?_fileNames (img : LayeredImage) (i : Nat) :
    img.fileNames[i]? = img.layers[i]?.map fun l => layerFileName i l.name := by
  unfold fileNames
  rw [List.getElem?_mapIdx]

theorem mem_fileNames {file : String} : file ∈ img.fileNames ↔
    ∃ i l, img.layers[i]? = some l ∧ file = layerFileName i l.name := by
  rw [List.mem_iff_getElem?]
  constructor
  · rintro ⟨i, hi⟩
    rw [getElem?_fileNames, Option.map_eq_some_iff] at hi
    obtain ⟨l, hl, heq⟩ := hi
    exact ⟨i, l, hl, heq.symm⟩
  · rintro ⟨i, l, hl, heq⟩
    refine ⟨i, ?_⟩
    rw [getElem?_fileNames, hl, heq]
    rfl

theorem isPlainFileName_of_mem {file : String} (h : file ∈ img.fileNames) :
    isPlainFileName file = true := by
  obtain ⟨i, l, -, rfl⟩ := mem_fileNames.1 h
  exact isPlainFileName_layerFileName i l.name_valid

theorem manifest_not_mem_fileNames (img : LayeredImage) : Manifest.fileName ∉ img.fileNames := by
  intro h
  obtain ⟨i, l, -, heq⟩ := mem_fileNames.1 h
  exact layerFileName_ne_manifest i l.name heq.symm

theorem fileNames_nodup (img : LayeredImage) : img.fileNames.Nodup := by
  unfold List.Nodup fileNames
  rw [List.pairwise_iff_getElem]
  intro i j hi hj hij heq
  rw [List.getElem_mapIdx, List.getElem_mapIdx] at heq
  exact Nat.ne_of_lt hij (layerFileName_inj heq).1

end LayeredImage

end RasterScript
