import RasterScript.Proofs.Layered.Assembly
import RasterScript.Proofs.Layered.Stack

/-!
# StackEdits — when an edit of a stack is accepted, and what it does

Moving and removing need a layer of the name, and a new layer needs a name that no layer has.  What
an accepted edit does is a relation between the image before and after it: `Moves`, `Removes` and
`AddsInFront`.  A name and an index that lead to a layer lead to the same one (`index?_eq_some`), in
every image and so before and after every edit.
-/

namespace RasterScript

namespace LayeredImage

variable {img img' : LayeredImage} {name : String} {index : Nat} {l : Layer}
  {front behind : List Layer}

/-! ## 1. Names and indices -/

theorem layerAt_eq_ok : img.layerAt index = .ok l ↔ img.layers[index]? = some l := by
  unfold layerAt
  split <;> simp_all

theorem stands_of_getElem? (h : img.layers[index]? = some l) :
    img.Stands l.name (img.layers.take index) l (img.layers.drop (index + 1)) := by
  obtain ⟨hindex, rfl⟩ := List.getElem?_eq_some_iff.1 h
  refine ⟨?_, rfl⟩
  rw [List.getElem_cons_drop, List.take_append_drop]

theorem mem_names : name ∈ img.names ↔ ∃ front l behind, img.Stands name front l behind := by
  constructor
  · intro hname
    cases hfind : img.find? name with
    | none => exact absurd hname (find?_eq_none.1 hfind)
    | some l =>
      obtain ⟨front, behind, hstands⟩ := exists_stands hfind
      exact ⟨front, l, behind, hstands⟩
  · rintro ⟨front, l, behind, hstands⟩
    rw [← hstands.name_eq]
    exact List.mem_map_of_mem (hstands.layers_eq ▸ List.mem_append_right _ List.mem_cons_self)

theorem index?_eq_none : img.index? name = none ↔ name ∉ img.names := by
  unfold index? names
  simp [List.findIdx?_eq_none_iff]

/-- The index that a name has is the one at which the layer of that name is found. -/
theorem index?_eq_some :
    img.index? name = some index ↔ ∃ l, img.layerAt index = .ok l ∧ l.name = name := by
  constructor
  · intro h
    have hname : name ∈ img.names := Decidable.byContradiction fun hnot => by
      rw [index?_eq_none.2 hnot] at h
      cases h
    obtain ⟨front, l, behind, hstands⟩ := mem_names.1 hname
    obtain rfl : front.length = index := Option.some.inj (hstands.index?_eq.symm.trans h)
    refine ⟨l, layerAt_eq_ok.2 ?_, hstands.name_eq⟩
    rw [hstands.layers_eq]
    simp
  · rintro ⟨l, hl, rfl⟩
    have hfound := layerAt_eq_ok.1 hl
    obtain ⟨hindex, -⟩ := List.getElem?_eq_some_iff.1 hfound
    rw [(stands_of_getElem? hfound).index?_eq, List.length_take_of_le (Nat.le_of_lt hindex)]

theorem layer_eq_ok_iff_layerAt :
    img.layer name = .ok l ↔ ∃ i, img.index? name = some i ∧ img.layerAt i = .ok l := by
  constructor
  · intro h
    obtain ⟨front, behind, hstands⟩ := exists_stands (layer_eq_ok.1 h)
    refine ⟨front.length, hstands.index?_eq, layerAt_eq_ok.2 ?_⟩
    rw [hstands.layers_eq]
    simp
  · rintro ⟨i, hi, hl⟩
    obtain ⟨l', hl', hname⟩ := index?_eq_some.1 hi
    rw [hl] at hl'
    cases hl'
    exact layer_eq_ok.2 (hname ▸ (stands_of_getElem? (layerAt_eq_ok.1 hl)).find?_eq)

namespace Stands

/-- Every other layer is found among those around this one. -/
theorem find?_of_ne (h : img.Stands name front l behind) {other : String} (hne : other ≠ name) :
    img.find? other = (front ++ behind).find? (·.name == other) := by
  have hl : (l.name == other) = false := by
    rw [h.name_eq]
    exact beq_false_of_ne hne.symm
  unfold find?
  rw [h.layers_eq, List.find?_append, List.find?_append, List.find?_cons, hl]

end Stands

/-! ## 2. Moving -/

/-- The layer of that name has gone to `index`.  Every name still means the same layer, those of
other names stand in the same order, and moving the layer back to where it was gives the image
back. -/
structure Moves (img : LayeredImage) (name : String) (index : Nat) (img' : LayeredImage) :
    Prop where
  extent_eq : img'.extent = img.extent
  index?_eq : img'.index? name = some index
  others_eq : img'.layers.filter (·.name ≠ name) = img.layers.filter (·.name ≠ name)
  find?_eq : ∀ other, img'.find? other = img.find? other
  back : ∀ former, img.index? name = some former → img'.moveLayer name former = .ok img

theorem exists_moveLayer : (∃ img', img.moveLayer name index = .ok img') ↔
    name ∈ img.names ∧ index < img.layers.length := by
  unfold moveLayer
  constructor
  · rintro ⟨img', hm⟩
    split at hm
    · cases hm
    · rename_i i hi
      obtain ⟨l, hl, rfl⟩ := index?_eq_some.1 hi
      split at hm
      · rename_i hindex
        exact ⟨mem_names.2 ⟨_, _, _, stands_of_getElem? (layerAt_eq_ok.1 hl)⟩, hindex⟩
      · cases hm
  · rintro ⟨hname, hindex⟩
    obtain ⟨front, l, behind, hstands⟩ := mem_names.1 hname
    split
    · rename_i hnone
      rw [hstands.index?_eq] at hnone
      cases hnone
    · rw [if_pos hindex]
      exact ⟨_, rfl⟩

theorem moves_of_moveLayer (hm : img.moveLayer name index = .ok img') :
    img.Moves name index img' := by
  obtain ⟨hname, hindex⟩ := exists_moveLayer.1 ⟨img', hm⟩
  obtain ⟨front, l, behind, hstands⟩ := mem_names.1 hname
  have hextent := extent_moveLayer hm
  -- where the layer stands now; the others are split at the new place and are the same together
  have hstands' :
      img'.Stands name ((front ++ behind).take index) l ((front ++ behind).drop index) :=
    ⟨hstands.layers_moveLayer hm, hstands.name_eq⟩
  have hothers := List.take_append_drop index (front ++ behind)
  have hlength : img.layers.length = (front ++ behind).length + 1 := by
    rw [hstands.layers_eq]
    simp [Nat.add_assoc]
  refine ⟨hextent, ?_, ?_, fun other => ?_, fun former hformer => ?_⟩
  · rw [hstands'.index?_eq, List.length_take_of_le (by omega)]
  · rw [hstands'.filter_layers, hstands.filter_layers, hothers]
  · by_cases hother : other = name
    · rw [hother, hstands'.find?_eq, hstands.find?_eq]
    · rw [hstands'.find?_of_ne hother, hstands.find?_of_ne hother, hothers]
  · -- what stood in front of the layer is found again by its number
    obtain rfl : front.length = former := Option.some.inj (hstands.index?_eq.symm.trans hformer)
    have hroom : front.length < img'.layers.length := by
      rw [hstands'.layers_eq, List.length_append, List.length_cons, ← Nat.add_assoc,
        ← List.length_append, hothers, List.length_append]
      omega
    obtain ⟨img'', hback⟩ := exists_moveLayer.2 ⟨mem_names.2 ⟨_, _, _, hstands'⟩, hroom⟩
    have hlayers := hstands'.layers_moveLayer hback
    rw [hothers, List.take_left, List.drop_left, ← hstands.layers_eq] at hlayers
    rw [hback, ext ((extent_moveLayer hback).trans hextent) hlayers]

/-! ## 3. Removing -/

/-- The layer of that name is gone, and the others have closed up. -/
structure Removes (img : LayeredImage) (name : String) (img' : LayeredImage) : Prop where
  extent_eq : img'.extent = img.extent
  layers_eq : ∃ front l behind, img.Stands name front l behind ∧ img'.layers = front ++ behind

theorem exists_removeLayer : (∃ img', img.removeLayer name = .ok img') ↔ name ∈ img.names := by
  unfold removeLayer
  constructor
  · rintro ⟨img', hr⟩
    obtain ⟨l, hl, -⟩ := bind_eq_ok.1 hr
    obtain ⟨front, behind, hstands⟩ := exists_stands (layer_eq_ok.1 hl)
    exact mem_names.2 ⟨_, _, _, hstands⟩
  · intro hname
    obtain ⟨front, l, behind, hstands⟩ := mem_names.1 hname
    exact ⟨_, bind_eq_ok.2 ⟨l, layer_eq_ok.2 hstands.find?_eq, rfl⟩⟩

theorem removes_of_removeLayer (hr : img.removeLayer name = .ok img') : img.Removes name img' := by
  obtain ⟨front, l, behind, hstands⟩ := mem_names.1 (exists_removeLayer.1 ⟨img', hr⟩)
  exact ⟨extent_removeLayer hr, front, l, behind, hstands, hstands.layers_removeLayer hr⟩

/-! ## 4. New layers -/

/-- The layer stands in front of the old stack. -/
structure AddsInFront (img : LayeredImage) (l : Layer) (img' : LayeredImage) : Prop where
  extent_eq : img'.extent = img.extent
  layers_eq : img'.layers = l :: img.layers

/-- A layer can be called so, and none is. -/
def Free (img : LayeredImage) (name : String) : Prop :=
  IsLayerName name ∧ name ∉ img.names

/-- A new layer made of this picture stands in front of the old stack. -/
def AddsPicture (img : LayeredImage) (name : String) (visible : Bool) (g : Grid)
    (img' : LayeredImage) : Prop :=
  ∃ l : Layer, (l.name = name ∧ l.visible = visible ∧ l.grid = g) ∧ img.AddsInFront l img'

/-- A free name, as the edits take it. -/
def Free.fresh (h : img.Free name) : FreshName img := ⟨name, h.1, h.2⟩

/-- What needs a fresh name goes on with a free one. -/
theorem freshName_bind_eq_ok {α : Type} {f : FreshName img → Except Refusal α} {r : α} :
    (img.freshName name >>= f) = .ok r ↔ ∃ h : img.Free name, f h.fresh = .ok r := by
  rw [bind_eq_ok]
  constructor
  · rintro ⟨n, hn, hr⟩
    obtain rfl := freshName_eq_ok.1 hn
    exact ⟨⟨n.valid, n.unused⟩, hr⟩
  · rintro ⟨h, hr⟩
    exact ⟨h.fresh, freshName_eq_ok.2 rfl, hr⟩

/-- A picture pushed to the front under a free name is added there. -/
theorem addsPicture_pushFront (h : img.Free name) (g : Fitting img) (visible : Bool) :
    img.AddsPicture name visible g.1 (img.pushFront h.fresh g visible) :=
  ⟨_, ⟨rfl, rfl, rfl⟩, rfl, rfl⟩

theorem addLayer_eq_ok : img.addLayer name = .ok img' ↔
    ∃ h : img.Free name,
      img' = img.pushFront h.fresh ⟨.fill img.extent .transparent, rfl⟩ true := by
  unfold addLayer
  rw [freshName_bind_eq_ok]
  exact exists_congr fun _ => pure_eq_ok

theorem copyLayer_eq_ok {source : String} : img.copyLayer name source = .ok img' ↔
    ∃ (h : img.Free name) (l : Layer) (hl : img.find? source = some l),
      img' = img.pushFront h.fresh ⟨l.grid, extent_of_find? hl⟩ l.visible := by
  unfold copyLayer
  rw [freshName_bind_eq_ok]
  refine exists_congr fun h => ?_
  split
  · rename_i hnone
    constructor
    · intro hrefused
      cases hrefused
    · rintro ⟨l, hl, -⟩
      rw [hnone] at hl
      cases hl
  · rename_i k hk
    rw [pure_eq_ok]
    constructor
    · rintro rfl
      exact ⟨k, hk, rfl⟩
    · rintro ⟨l, hl, rfl⟩
      obtain rfl : k = l := Option.some.inj (hk.symm.trans hl)
      rfl

theorem addGrid_eq_ok {g : Grid} : img.addGrid name g = .ok img' ↔
    ∃ (h : img.Free name) (hg : g.extent = img.extent),
      img' = img.pushFront h.fresh ⟨g, hg⟩ true := by
  unfold addGrid
  rw [freshName_bind_eq_ok]
  refine exists_congr fun h => ?_
  rw [bind_eq_ok]
  constructor
  · rintro ⟨g', hg', himg'⟩
    obtain rfl := fitting_eq_ok.1 hg'
    exact ⟨g'.2, pure_eq_ok.1 himg'⟩
  · rintro ⟨hg, rfl⟩
    exact ⟨⟨g, hg⟩, fitting_eq_ok.2 rfl, rfl⟩

theorem exists_addLayer : (∃ img', img.addLayer name = .ok img') ↔ img.Free name := by
  constructor
  · rintro ⟨img', ha⟩
    obtain ⟨h, -⟩ := addLayer_eq_ok.1 ha
    exact h
  · intro h
    exact ⟨_, addLayer_eq_ok.2 ⟨h, rfl⟩⟩

theorem addsPicture_of_addLayer (ha : img.addLayer name = .ok img') :
    img.AddsPicture name true (.fill img.extent .transparent) img' := by
  obtain ⟨h, rfl⟩ := addLayer_eq_ok.1 ha
  exact addsPicture_pushFront h ⟨.fill img.extent .transparent, rfl⟩ true

theorem exists_copyLayer {source : String} : (∃ img', img.copyLayer name source = .ok img') ↔
    img.Free name ∧ source ∈ img.names := by
  constructor
  · rintro ⟨img', hc⟩
    obtain ⟨h, l, hl, -⟩ := copyLayer_eq_ok.1 hc
    obtain ⟨front, behind, hstands⟩ := exists_stands hl
    exact ⟨h, mem_names.2 ⟨_, _, _, hstands⟩⟩
  · rintro ⟨h, hsource⟩
    obtain ⟨front, l, behind, hstands⟩ := mem_names.1 hsource
    exact ⟨_, copyLayer_eq_ok.2 ⟨h, l, hstands.find?_eq, rfl⟩⟩

theorem addsPicture_of_copyLayer {source : String} (hc : img.copyLayer name source = .ok img') :
    ∃ l, img.layer source = .ok l ∧ img.AddsPicture name l.visible l.grid img' := by
  obtain ⟨h, l, hl, rfl⟩ := copyLayer_eq_ok.1 hc
  exact ⟨l, layer_eq_ok.2 hl, addsPicture_pushFront h ⟨l.grid, extent_of_find? hl⟩ l.visible⟩

theorem exists_addGrid {g : Grid} : (∃ img', img.addGrid name g = .ok img') ↔
    img.Free name ∧ g.width = img.width ∧ g.height = img.height := by
  constructor
  · rintro ⟨img', ha⟩
    obtain ⟨h, hg, -⟩ := addGrid_eq_ok.1 ha
    exact ⟨h, congrArg Extent.width hg, congrArg Extent.height hg⟩
  · rintro ⟨h, hw, hh⟩
    exact ⟨_, addGrid_eq_ok.2 ⟨h, Extent.ext hw hh, rfl⟩⟩

theorem addsPicture_of_addGrid {g : Grid} (ha : img.addGrid name g = .ok img') :
    img.AddsPicture name true g img' := by
  obtain ⟨h, hg, rfl⟩ := addGrid_eq_ok.1 ha
  exact addsPicture_pushFront h ⟨g, hg⟩ true

/-! ## 5. All edits -/

/-- Each edit is accepted exactly if the names, the index and the size it is given make sense, and
then does to the stack what its name says.  Asking by name and by index gives the same layers. -/
theorem stack_edits (img : LayeredImage) (name : String) :
    (∀ index, ((∃ img', img.moveLayer name index = .ok img') ↔
        name ∈ img.names ∧ index < img.layers.length) ∧
      ∀ img', img.moveLayer name index = .ok img' → img.Moves name index img') ∧
    (((∃ img', img.removeLayer name = .ok img') ↔ name ∈ img.names) ∧
      ∀ img', img.removeLayer name = .ok img' → img.Removes name img') ∧
    (((∃ img', img.addLayer name = .ok img') ↔ img.Free name) ∧
      ∀ img', img.addLayer name = .ok img' →
        img.AddsPicture name true (.fill img.extent .transparent) img') ∧
    (∀ source, ((∃ img', img.copyLayer name source = .ok img') ↔
        img.Free name ∧ source ∈ img.names) ∧
      ∀ img', img.copyLayer name source = .ok img' →
        ∃ l, img.layer source = .ok l ∧ img.AddsPicture name l.visible l.grid img') ∧
    (∀ g, ((∃ img', img.addGrid name g = .ok img') ↔
        img.Free name ∧ g.width = img.width ∧ g.height = img.height) ∧
      ∀ img', img.addGrid name g = .ok img' → img.AddsPicture name true g img') ∧
    (∀ i, img.index? name = some i ↔ ∃ l, img.layerAt i = .ok l ∧ l.name = name) ∧
    ∀ l, img.layer name = .ok l ↔ ∃ i, img.index? name = some i ∧ img.layerAt i = .ok l :=
  ⟨fun _ => ⟨exists_moveLayer, fun _ => moves_of_moveLayer⟩,
    ⟨exists_removeLayer, fun _ => removes_of_removeLayer⟩,
    ⟨exists_addLayer, fun _ => addsPicture_of_addLayer⟩,
    fun _ => ⟨exists_copyLayer, fun _ => addsPicture_of_copyLayer⟩,
    fun _ => ⟨exists_addGrid, fun _ => addsPicture_of_addGrid⟩,
    fun _ => index?_eq_some, fun _ => layer_eq_ok_iff_layerAt⟩

/-- Three layers of one pixel, the one in the middle hidden. -/
def triptych : LayeredImage where
  extent := .single
  layers :=
    [⟨"sky", true, .fill .single (.solid 0 0 255), by decide⟩,
      ⟨"mist", false, .fill .single .white, by decide⟩,
      ⟨"sea", true, .fill .single (.solid 0 255 0), by decide⟩]
  same_extent := by decide
  names_nodup := by decide

/-- The front layer goes to the back and returns, the middle one goes or is copied, still hidden,
and a name that a layer has is refused for another. -/
theorem stack_edits_triptych :
    (∃ img', triptych.moveLayer "sky" 2 = .ok img' ∧ img'.index? "sky" = some 2 ∧
      img'.moveLayer "sky" 0 = .ok triptych) ∧
    (∃ img', triptych.removeLayer "mist" = .ok img' ∧ triptych.Removes "mist" img') ∧
    (∃ img', triptych.addLayer "ice" = .ok img' ∧
      triptych.AddsPicture "ice" true (.fill .single .transparent) img') ∧
    (∃ img', triptych.copyLayer "fog" "mist" = .ok img' ∧
      triptych.AddsPicture "fog" false (.fill .single .white) img') ∧
    (∃ img', triptych.addGrid "sun" .single = .ok img' ∧
      triptych.AddsPicture "sun" true .single img') ∧
    (¬ ∃ img', triptych.addLayer "sea" = .ok img') ∧
    triptych.index? "sea" = some 2 := by
  obtain ⟨hmove, -⟩ := stack_edits triptych "sky"
  obtain ⟨-, hremove, -⟩ := stack_edits triptych "mist"
  obtain ⟨-, -, hadd, -⟩ := stack_edits triptych "ice"
  obtain ⟨-, -, -, hcopy, -⟩ := stack_edits triptych "fog"
  obtain ⟨-, -, -, -, hgrid, -⟩ := stack_edits triptych "sun"
  obtain ⟨-, -, htaken, -, -, hindex, -⟩ := stack_edits triptych "sea"
  obtain ⟨moved, hmoved⟩ := (hmove 2).1.2 (by decide)
  obtain ⟨removed, hremoved⟩ := hremove.1.2 (by decide)
  obtain ⟨added, hadded⟩ := hadd.1.2 ⟨by decide, by decide⟩
  obtain ⟨copied, hcopied⟩ := (hcopy "mist").1.2 ⟨⟨by decide, by decide⟩, by decide⟩
  obtain ⟨painted, hpainted⟩ := (hgrid .single).1.2 ⟨⟨by decide, by decide⟩, rfl, rfl⟩
  have hmoves := (hmove 2).2 moved hmoved
  refine ⟨⟨moved, hmoved, hmoves.index?_eq, hmoves.back 0 rfl⟩,
    ⟨removed, hremoved, hremove.2 removed hremoved⟩, ⟨added, hadded, hadd.2 added hadded⟩,
    ⟨copied, hcopied, ?_⟩, ⟨painted, hpainted, (hgrid _).2 painted hpainted⟩, ?_,
    (hindex 2).2 ⟨_, rfl, rfl⟩⟩
  · obtain ⟨l, hl, hadds⟩ := (hcopy "mist").2 copied hcopied
    cases hl
    exact hadds
  · intro htwice
    exact (htaken.1.1 htwice).2 (by decide)

end LayeredImage

end RasterScript
