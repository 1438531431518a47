import RasterScript.Layered.Edit
import RasterScript.Proofs.Outcome

/-!
# Assembly — stacks from layers

An image is its extent and its layers, and it can be made out of them: pushed to the back one after
the other, layers that fit and have names of their own become an image (`ofLayers_eq_ok`).
-/

namespace RasterScript

namespace LayeredImage

theorem ext {img img' : LayeredImage} (he : img.extent = img'.extent)
    (hl : img.layers = img'.layers) : img = img' := by
  cases img
  cases img'
  cases he
  cases hl
  rfl

theorem freshName_eq_ok {img : LayeredImage} {name : String} {n : FreshName img} :
    img.freshName name = .ok n ↔ n.name = name := by
  unfold freshName
  constructor
  · intro h
    split at h
    · cases h
    · split at h
      · cases h
      · cases h
        rfl
  · rintro rfl
    split
    · rename_i c hc
      -- a name that an image accepts passes the check of names
      rw [checkLayerName_eq_ok.2 n.valid] at hc
      cases hc
    · split
      · rename_i hused
        exact absurd (List.contains_iff_mem.1 hused) n.unused
      · rfl

theorem fitting_eq_ok {img : LayeredImage} {g : Grid} {g' : Fitting img} :
    img.fitting g = .ok g' ↔ g'.1 = g := by
  unfold fitting
  constructor
  · intro h
    split at h
    · cases h
      rfl
    · cases h
  · rintro rfl
    rw [dif_pos g'.2]

/-- Layers are pushed to the back until the image has them all. -/
theorem foldlM_pushBack_eq_ok {layers : List Layer} {start img : LayeredImage} :
    layers.foldlM (fun img l => do
      return img.pushBack (← img.freshName l.name) (← img.fitting l.grid) l.visible) start =
        .ok img ↔
      img.extent = start.extent ∧ img.layers = start.layers ++ layers := by
  -- the induction runs over the layers that are still to be pushed
  induction layers generalizing start with
  | nil =>
    rw [List.foldlM_nil, pure_eq_ok, List.append_nil]
    constructor
    · rintro rfl
      exact ⟨rfl, rfl⟩
    · rintro ⟨he, hl⟩
      exact ext he hl
  | cons l layers ih =>
    rw [List.foldlM_cons, bind_eq_ok]
    constructor
    · rintro ⟨next, hnext, h⟩
      obtain ⟨n, hn, hnext⟩ := bind_eq_ok.1 hnext
      obtain ⟨g, hg, hnext⟩ := bind_eq_ok.1 hnext
      obtain rfl := pure_eq_ok.1 hnext
      have hname := freshName_eq_ok.1 hn
      have hgrid := fitting_eq_ok.1 hg
      obtain ⟨he, hl⟩ := ih.1 h
      have hlayer : (⟨n.name, l.visible, g.1, n.valid⟩ : Layer) = l := by
        cases l
        cases hname
        cases hgrid
        rfl
      refine ⟨he, hl.trans ?_⟩
      show (start.layers ++ [(⟨n.name, l.visible, g.1, n.valid⟩ : Layer)]) ++ layers = _
      rw [hlayer, List.append_assoc]
      rfl
    · rintro ⟨he, hl⟩
      have hmem : l ∈ img.layers := by
        rw [hl]
        exact List.mem_append_right _ List.mem_cons_self
      -- names differ in the whole image, so no later layer has the name of an earlier one
      have hunused : l.name ∉ start.names := by
        have hnodup := img.names_nodup
        rw [hl, List.map_append, List.map_cons] at hnodup
        intro hused
        exact (List.nodup_append.1 hnodup).2.2 _ hused _ List.mem_cons_self rfl
      have hfits : l.grid.extent = start.extent := (img.same_extent l hmem).trans he
      refine ⟨start.pushBack ⟨l.name, l.name_valid, hunused⟩ ⟨l.grid, hfits⟩ l.visible, ?_, ?_⟩
      · refine bind_eq_ok.2 ⟨⟨l.name, l.name_valid, hunused⟩, freshName_eq_ok.2 rfl, ?_⟩
        exact bind_eq_ok.2 ⟨⟨l.grid, hfits⟩, fitting_eq_ok.2 rfl, rfl⟩
      · refine ih.2 ⟨he, hl.trans ?_⟩
        show _ = (start.layers ++ [l]) ++ layers
        rw [List.append_assoc]
        rfl

/-- What is made out of an image without layers, and has its extent and these layers, is told by its
sides and its layers. -/
theorem new_bind_eq_ok {width height : Nat} {layers : List Layer} {img : LayeredImage}
    {f : LayeredImage → Except Refusal LayeredImage}
    (hf : ∀ e, f (blank e) = .ok img ↔ img.extent = e ∧ img.layers = layers) :
    (new width height >>= f) = .ok img ↔
      img.width = width ∧ img.height = height ∧ img.layers = layers := by
  unfold new
  rw [bind_eq_ok]
  constructor
  · rintro ⟨start, hstart, h⟩
    obtain ⟨e, he, hstart⟩ := bind_eq_ok.1 hstart
    obtain rfl := pure_eq_ok.1 hstart
    obtain ⟨hextent, hlayers⟩ := (hf e).1 h
    obtain ⟨hw, hh⟩ := Extent.ofSides_eq_ok.1 he
    unfold LayeredImage.width LayeredImage.height
    rw [hextent]
    exact ⟨hw, hh, hlayers⟩
  · rintro ⟨hw, hh, hlayers⟩
    refine ⟨blank img.extent, ?_, (hf img.extent).2 ⟨rfl, hlayers⟩⟩
    exact bind_eq_ok.2 ⟨img.extent, Extent.ofSides_eq_ok.2 ⟨hw, hh⟩, rfl⟩

theorem ofLayers_eq_ok {width height : Nat} {layers : List Layer} {img : LayeredImage} :
    ofLayers width height layers = .ok img ↔
      img.width = width ∧ img.height = height ∧ img.layers = layers :=
  new_bind_eq_ok fun _ => foldlM_pushBack_eq_ok

end LayeredImage

end RasterScript
