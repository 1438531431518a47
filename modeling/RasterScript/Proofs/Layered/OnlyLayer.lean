import RasterScript.Proofs.Layered.Coverage

/-!
# OnlyLayer — a place where one layer is all that is seen

Where all shown layers but one are clear, the flattened picture has the pixel of that layer, without
any loss, however much of the ground is seen through it.  So a stack with a single layer that is
seen looks like this layer; only its clear pixels give up the colour that nobody could see.
-/

namespace RasterScript

/-- The pixel without a colour that is not seen. -/
def Pixel.cleaned (v : Pixel) : Pixel := if v.opacity = 0 then .transparent else v

namespace LayeredImage

variable {x y : Nat} {layers front behind : List Layer} {l : Layer} {img : LayeredImage}

/-! ## 1. Blending -/

/-- Clear layers in front are not seen. -/
theorem blendAt_append_of_clear (hfront : ∀ k ∈ front, (k.colorAt x y).opacity = 0)
    (behind : List Layer) : blendAt (front ++ behind) x y = blendAt behind x y := by
  induction front with
  | nil => rfl
  | cons k front ih =>
    obtain ⟨hk, hrest⟩ := List.forall_mem_cons.1 hfront
    rw [List.cons_append, blendAt_cons, Pixel.composite_of_opacity_eq_zero hk]
    exact ih hrest

theorem blendAt_of_only (hfront : ∀ k ∈ front, (k.colorAt x y).opacity = 0)
    (hbehind : ∀ k ∈ behind, (k.colorAt x y).opacity = 0) :
    blendAt (front ++ l :: behind) x y = (l.colorAt x y).cleaned := by
  rw [blendAt_append_of_clear hfront, blendAt_cons, blendAt_eq_transparent hbehind]
  exact Pixel.composite_transparent _

/-! ## 2. Flattening -/

/-- A shown layer has the other shown layers in front of it and behind it, and stands there once. -/
theorem exists_visibleLayers_eq (hl : l ∈ img.layers) (hv : l.visible = true) :
    ∃ front behind, img.visibleLayers = front ++ l :: behind ∧
      ∀ k ∈ front ++ behind, k ∈ img.layers ∧ k.visible = true ∧ k ≠ l := by
  obtain ⟨front, behind, hsplit⟩ := List.append_of_mem (List.mem_filter.2 ⟨hl, hv⟩)
  refine ⟨front, behind, hsplit, ?_⟩
  have hnodup : (front ++ l :: behind).Nodup :=
    hsplit ▸ (img.names_nodup.of_map _).filter _
  intro k hk
  have hmem : k ∈ img.layers.filter (·.visible) := by
    rw [hsplit, List.mem_append, List.mem_cons]
    rcases List.mem_append.1 hk with h | h
    · exact .inl h
    · exact .inr (.inr h)
  obtain ⟨hlayer, hshown⟩ := List.mem_filter.1 hmem
  refine ⟨hlayer, hshown, ?_⟩
  rintro rfl
  exact (List.nodup_middle.1 hnodup).notMem hk

theorem pixel_flatten_of_only (hl : l ∈ img.layers) (hv : l.visible = true) {v : Pixel}
    (hpixel : l.grid.pixel x y = .ok v)
    (hothers : ∀ k ∈ img.layers, k ≠ l → k.visible = true →
      ∃ w, k.grid.pixel x y = .ok w ∧ w.opacity = 0) :
    img.flatten.pixel x y = .ok v.cleaned := by
  have hplace : x < l.grid.width ∧ y < l.grid.height := by
    by_contra hout
    rw [Grid.pixel_eq_ok, Grid.at?_eq_none.2 hout] at hpixel
    cases hpixel
  obtain ⟨hx, hy⟩ : x < img.width ∧ y < img.height := by
    unfold width height
    rw [← img.same_extent l hl]
    exact hplace
  have hcolor : l.colorAt x y = v := by
    rw [pixel_layer hl hx hy] at hpixel
    exact Except.ok.inj hpixel
  obtain ⟨front, behind, hsplit, hfar⟩ := exists_visibleLayers_eq hl hv
  have hclear : ∀ k ∈ front ++ behind, (k.colorAt x y).opacity = 0 := by
    intro k hk
    obtain ⟨hlayer, hshown, hne⟩ := hfar k hk
    obtain ⟨w, hw, hzero⟩ := hothers k hlayer hne hshown
    rw [pixel_layer hlayer hx hy] at hw
    rwa [← Except.ok.inj hw] at hzero
  obtain ⟨hfront, hbehind⟩ := List.forall_mem_append.1 hclear
  rw [pixel_flatten_eq_blendAt hx hy, hsplit, blendAt_of_only hfront hbehind, hcolor]

/-- Where a shown layer is the only one that is not clear, its pixel is the flattened one.  If all
other shown layers are clear everywhere, flattening gives the picture of this layer, its clear
pixels without their colour. -/
theorem flatten_of_only_layer (img : LayeredImage) {l : Layer} (hl : l ∈ img.layers)
    (hv : l.visible = true) :
    (∀ x y v, l.grid.pixel x y = .ok v → v.opacity ≠ 0 →
      (∀ k ∈ img.layers, k ≠ l → k.visible = true →
        ∃ w, k.grid.pixel x y = .ok w ∧ w.opacity = 0) →
      img.flatten.pixel x y = .ok v) ∧
    ((∀ k ∈ img.layers, k ≠ l → k.visible = true →
        ∀ x y w, k.grid.pixel x y = .ok w → w.opacity = 0) →
      img.flatten = l.grid.map Pixel.cleaned) := by
  constructor
  · intro x y v hpixel hseen hothers
    have hflat := pixel_flatten_of_only hl hv hpixel hothers
    rwa [Pixel.cleaned, if_neg hseen] at hflat
  · intro hclear
    have he := img.same_extent l hl
    have hwidth : img.flatten.width = (l.grid.map Pixel.cleaned).width :=
      congrArg Extent.width he.symm
    have hheight : img.flatten.height = (l.grid.map Pixel.cleaned).height :=
      congrArg Extent.height he.symm
    apply Grid.ext_at? hwidth hheight
    intro x y
    rw [Grid.at?_map]
    by_cases hplace : x < img.width ∧ y < img.height
    · have hpixel := pixel_layer hl hplace.1 hplace.2
      have hflat := pixel_flatten_of_only hl hv hpixel fun k hk hne hshown =>
        ⟨_, pixel_layer hk hplace.1 hplace.2, hclear k hk hne hshown x y _
          (pixel_layer hk hplace.1 hplace.2)⟩
      rw [Grid.pixel_eq_ok.1 hflat, Grid.pixel_eq_ok.1 hpixel]
      rfl
    · have hout : ¬ (x < l.grid.width ∧ y < l.grid.height) := by
        unfold Grid.width Grid.height
        rwa [he]
      rw [Grid.at?_eq_none.2 (show ¬ (x < img.flatten.width ∧ _) from hplace),
        Grid.at?_eq_none.2 hout]
      rfl

/-- Three by one: a hidden shutter, a clear film, and a tint that is seen on the left only. -/
def tintedPane : LayeredImage :=
  let e : Extent := ⟨3, 1, Nat.succ_pos 2, Nat.zero_lt_one, by decide⟩
  { extent := e
    layers :=
      [⟨"shutter", false, .fill e .white, by decide⟩,
        ⟨"film", true, .fill e ⟨9, 9, 9, 0⟩, by decide⟩,
        ⟨"tint", true, Grid.build e fun p => ⟨200, 7, 3, .ofNat (1 - p.x)⟩, by decide⟩]
    same_extent := by decide
    names_nodup := by decide }

theorem flatten_of_only_layer_tintedPane :
    ∃ l ∈ tintedPane.layers, l.name = "tint" ∧ l.visible = true ∧
      tintedPane.flatten.pixel 0 0 = .ok ⟨200, 7, 3, 1⟩ ∧
      tintedPane.flatten = l.grid.map Pixel.cleaned := by
  let tint := tintedPane.layers[2]
  have hmem : tint ∈ tintedPane.layers := List.getElem_mem _
  have hclear : ∀ k ∈ tintedPane.layers, k ≠ tint → k.visible = true →
      ∀ x y w, k.grid.pixel x y = .ok w → w.opacity = 0 := by
    intro k hk hne hshown x y w hw
    simp only [tintedPane, List.mem_cons, List.not_mem_nil, or_false] at hk
    rcases hk with rfl | rfl | rfl
    · cases hshown
    · obtain ⟨p, -, hp⟩ := Option.map_eq_some_iff.1 (Grid.pixel_eq_ok.1 hw)
      rw [← hp]
      exact congrArg Pixel.opacity (Grid.get_fill _ _ p)
    · exact absurd rfl hne
  obtain ⟨hpixel, hpicture⟩ := flatten_of_only_layer tintedPane hmem rfl
  refine ⟨tint, hmem, rfl, rfl, hpixel 0 0 _ rfl (by decide) ?_, hpicture hclear⟩
  intro k hk hne hshown
  have hinside := pixel_layer hk (x := 0) (y := 0) (by decide) (by decide)
  exact ⟨_, hinside, hclear k hk hne hshown 0 0 _ hinside⟩

end LayeredImage

end RasterScript
