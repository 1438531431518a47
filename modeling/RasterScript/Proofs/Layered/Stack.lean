import RasterScript.Proofs.Command.Effect

/-!
# Stack — what an edit does to the order of the layers

A layer stands between those in front of it and those behind it (`Stands`), and a name says which
layer that is, because no two have one name.  Every edit of a layer is told here as a change to such
a list, so what it does to an image can be found out without looking inside the edit.
-/

namespace RasterScript

namespace LayeredImage

/-- The layer `l`, called `name`, with the layers `front` in front of it and `behind` behind it. -/
structure Stands (img : LayeredImage) (name : String) (front : List Layer) (l : Layer)
    (behind : List Layer) : Prop where
  layers_eq : img.layers = front ++ l :: behind
  name_eq : l.name = name

variable {img img' : LayeredImage} {name : String} {front behind : List Layer} {l : Layer}

namespace Stands

/-! ## 1. Names -/

theorem name_ne_front (h : img.Stands name front l behind) : ∀ k ∈ front, k.name ≠ name := by
  have hnodup := img.names_nodup
  rw [h.layers_eq, List.map_append, List.nodup_append] at hnodup
  intro k hk
  rw [← h.name_eq]
  exact hnodup.2.2 _ (List.mem_map_of_mem hk) _ (List.mem_map_of_mem List.mem_cons_self)

theorem name_ne_behind (h : img.Stands name front l behind) : ∀ k ∈ behind, k.name ≠ name := by
  have hnodup := img.names_nodup
  rw [h.layers_eq, List.map_append, List.nodup_append, List.map_cons, List.nodup_cons] at hnodup
  intro k hk heq
  apply hnodup.2.1.1
  rw [h.name_eq, ← heq]
  exact List.mem_map_of_mem hk

theorem find?_eq (h : img.Stands name front l behind) : img.find? name = some l := by
  unfold find?
  rw [h.layers_eq, List.find?_append, List.find?_eq_none.2 fun k hk => by
    simpa using h.name_ne_front k hk]
  simp [h.name_eq]

theorem index?_eq (h : img.Stands name front l behind) : img.index? name = some front.length := by
  unfold index?
  rw [h.layers_eq, List.findIdx?_append, List.findIdx?_eq_none_iff.2 fun k hk => by
    simpa using h.name_ne_front k hk]
  simp [List.findIdx?_cons, h.name_eq]

/-- The layers of other names are the ones around this one. -/
theorem filter_layers (h : img.Stands name front l behind) :
    img.layers.filter (·.name ≠ name) = front ++ behind := by
  rw [h.layers_eq, List.filter_append, List.filter_cons_of_neg (by simp [h.name_eq]),
    List.filter_eq_self.2 fun k hk => by simpa using h.name_ne_front k hk,
    List.filter_eq_self.2 fun k hk => by simpa using h.name_ne_behind k hk]

/-- A change to the layer of one name leaves the others alone. -/
theorem map_layers (h : img.Stands name front l behind) (f : Layer → Layer) :
    img.layers.map (fun k => if k.name = name then f k else k) = front ++ f l :: behind := by
  have hkeep : ∀ ks : List Layer, (∀ k ∈ ks, k.name ≠ name) →
      ks.map (fun k => if k.name = name then f k else k) = ks := by
    intro ks hks
    calc ks.map (fun k => if k.name = name then f k else k)
      _ = ks.map id := List.map_congr_left fun k hk => if_neg (hks k hk)
      _ = ks := List.map_id ks
  rw [h.layers_eq, List.map_append, List.map_cons, hkeep front h.name_ne_front,
    hkeep behind h.name_ne_behind, if_pos h.name_eq]

end Stands

theorem exists_stands (h : img.find? name = some l) :
    ∃ front behind, img.Stands name front l behind := by
  obtain ⟨hmem, hname⟩ := mem_of_find? h
  obtain ⟨front, behind, hlayers⟩ := List.append_of_mem hmem
  exact ⟨front, behind, hlayers, hname⟩

namespace Stands

/-! ## 2. Edits -/

theorem layers_removeLayer (h : img.Stands name front l behind)
    (hr : img.removeLayer name = .ok img') : img'.layers = front ++ behind := by
  unfold removeLayer at hr
  obtain ⟨_, -, hr⟩ := bind_eq_ok.1 hr
  rw [pure_eq_ok.1 hr]
  exact h.filter_layers

theorem layers_setVisibility (h : img.Stands name front l behind) {visible : Bool}
    (hv : img.setVisibility name visible = .ok img') :
    img'.layers = front ++ { l with visible := visible } :: behind := by
  unfold setVisibility at hv
  obtain ⟨_, -, hv⟩ := bind_eq_ok.1 hv
  rw [pure_eq_ok.1 hv]
  exact h.map_layers fun k => { k with visible := visible }

theorem layers_replaceGrid (h : img.Stands name front l behind) (g : Fitting img) :
    (img.replaceGrid name g).layers = front ++ { l with grid := g.1 } :: behind :=
  h.map_layers fun k => { k with grid := g.1 }

/-- The others close up, and the layer goes in between them again. -/
theorem layers_moveLayer (h : img.Stands name front l behind) {index : Nat}
    (hm : img.moveLayer name index = .ok img') :
    img'.layers = (front ++ behind).take index ++ l :: (front ++ behind).drop index := by
  unfold moveLayer at hm
  split at hm
  · cases hm
  · rename_i i hi
    obtain rfl : i = front.length := Option.some.inj (hi.symm.trans h.index?_eq)
    have hrest : img.layers.eraseIdx front.length = front ++ behind := by
      rw [h.layers_eq, List.eraseIdx_append_of_length_le (Nat.le_refl _), Nat.sub_self,
        List.eraseIdx_cons_zero]
    have hlayer : img.layers.get ⟨front.length, index?_lt hi⟩ = l := by
      simp [h.layers_eq]
    split at hm
    · cases hm
      show (img.layers.eraseIdx front.length).take index ++
        img.layers.get ⟨front.length, index?_lt hi⟩ ::
          (img.layers.eraseIdx front.length).drop index = _
      rw [hrest, hlayer]
    · cases hm

/-- Setting a pixel of a layer puts another picture on it, which differs in this pixel. -/
theorem setPixel_eq_ok (h : img.Stands name front l behind) {x y : Nat} {v : Pixel} :
    img.setPixel name x y v = .ok img' ↔
      ∃ g : Fitting img, l.grid.setPixel x y v = .ok g.1 ∧ img' = img.replaceGrid name g := by
  unfold setPixel
  constructor
  · intro hs
    split at hs
    · cases hs
    · rename_i k hk
      obtain rfl : k = l := Option.some.inj (hk.symm.trans h.find?_eq)
      split at hs
      · cases hs
      · rename_i g hg
        cases hs
        exact ⟨⟨g, (Grid.extent_setPixel hg).trans (extent_of_find? hk)⟩, hg, rfl⟩
  · rintro ⟨g, hg, rfl⟩
    split
    · rename_i hk
      rw [h.find?_eq] at hk
      cases hk
    · rename_i k hk
      obtain rfl : k = l := Option.some.inj (hk.symm.trans h.find?_eq)
      split
      · rename_i hg'
        rw [hg] at hg'
        cases hg'
      · rename_i g' hg'
        rw [hg] at hg'
        cases hg'
        rfl

end Stands

end LayeredImage

end RasterScript
