import RasterScript.Proofs.Grid.Cells
import RasterScript.Proofs.Layered.SeenLayers
import RasterScript.Proofs.Pixel.Composition

/-!
# Coverage — what stays covered when a stack is flattened

A flattened pixel is at least as opaque as every layer that is shown there, however many layers are
laid onto it.  So it is fully transparent only where all of them are, and there nothing is left of
their colours.
-/

namespace RasterScript

namespace LayeredImage

variable {x y : Nat} {layers : List Layer}

/-! ## 1. Blending -/

@[simp] theorem blendAt_cons (l : Layer) (behind : List Layer) (x y : Nat) :
    blendAt (l :: behind) x y = Pixel.composite (blendAt behind x y) (l.colorAt x y) := rfl

/-- The opacity grows with every layer, and reaches that of each. -/
theorem opacity_le_blendAt {l : Layer} (hl : l ∈ layers) (x y : Nat) :
    (l.colorAt x y).opacity ≤ (blendAt layers x y).opacity := by
  induction layers with
  | nil => cases hl
  | cons k behind ih =>
    obtain ⟨hbehind, hfront⟩ := Pixel.opacity_le_composite (blendAt behind x y) (k.colorAt x y)
    rw [blendAt_cons]
    rcases List.mem_cons.1 hl with rfl | hl
    · exact hfront
    · exact UInt8.le_trans (ih hl) hbehind

/-- Transparent layers leave nothing but the ground that blending starts from. -/
theorem blendAt_eq_transparent (h : ∀ l ∈ layers, (l.colorAt x y).opacity = 0) :
    blendAt layers x y = .transparent := by
  induction layers with
  | nil => rfl
  | cons l behind ih =>
    rw [List.forall_mem_cons] at h
    rw [blendAt_cons, Pixel.composite_of_opacity_eq_zero h.1]
    exact ih h.2

theorem opacity_blendAt_eq_zero :
    (blendAt layers x y).opacity = 0 ↔ ∀ l ∈ layers, (l.colorAt x y).opacity = 0 := by
  constructor
  · intro hzero l hl
    have hle := opacity_le_blendAt hl x y
    rw [hzero] at hle
    exact UInt8.le_zero_iff.1 hle
  · intro h
    rw [blendAt_eq_transparent h]
    rfl

/-! ## 2. Flattening -/

variable {img : LayeredImage}

theorem pixel_flatten_eq_blendAt (hx : x < img.width) (hy : y < img.height) :
    img.flatten.pixel x y = .ok (blendAt img.visibleLayers x y) := by
  unfold visibleLayers
  rw [pixel_flatten hx hy, blendAt_seenAt, blendAt_eq_foldl]
  rfl

theorem pixel_layer {l : Layer} (hl : l ∈ img.layers) (hx : x < img.width) (hy : y < img.height) :
    l.grid.pixel x y = .ok (l.colorAt x y) := by
  unfold width at hx
  unfold height at hy
  rw [← img.same_extent l hl] at hx hy
  obtain ⟨p, rfl, rfl⟩ := Grid.exists_position (g := l.grid) hx hy
  have hplace : Position.of? l.grid.extent p.x p.y = some p := Position.of?_eq_some.2 ⟨rfl, rfl⟩
  rw [Grid.pixel_eq_ok, Grid.at?_position]
  unfold Layer.colorAt
  rw [hplace]
  rfl

/-- At every place of an image the flattened pixel is at least as opaque as each shown layer.  It is
fully transparent just where all shown layers are, and then it has no colour either. -/
theorem coverage_flatten (img : LayeredImage) {x y : Nat} (hx : x < img.width)
    (hy : y < img.height) :
    ∃ v, img.flatten.pixel x y = .ok v ∧
      (∀ l ∈ img.layers, l.visible = true →
        ∃ w, l.grid.pixel x y = .ok w ∧ w.opacity ≤ v.opacity) ∧
      (v.opacity = 0 ↔
        ∀ l ∈ img.layers, l.visible = true → ∃ w, l.grid.pixel x y = .ok w ∧ w.opacity = 0) ∧
      (v.opacity = 0 → v = .transparent) := by
  have hshown : ∀ {l}, l ∈ img.layers → l.visible = true → l ∈ img.visibleLayers :=
    fun hl hv => List.mem_filter.2 ⟨hl, hv⟩
  -- what blending takes from a layer is what its picture has there
  have hclear : (∀ l ∈ img.layers, l.visible = true →
      ∃ w, l.grid.pixel x y = .ok w ∧ w.opacity = 0) ↔
      ∀ l ∈ img.visibleLayers, (l.colorAt x y).opacity = 0 := by
    constructor
    · intro h l hl
      obtain ⟨hmem, hv⟩ := List.mem_filter.1 hl
      obtain ⟨w, hw, hzero⟩ := h l hmem hv
      rw [pixel_layer hmem hx hy] at hw
      cases hw
      exact hzero
    · intro h l hl hv
      exact ⟨_, pixel_layer hl hx hy, h l (hshown hl hv)⟩
  rw [hclear, ← opacity_blendAt_eq_zero]
  refine ⟨_, pixel_flatten_eq_blendAt hx hy, ?_, Iff.rfl, ?_⟩
  · intro l hl hv
    exact ⟨_, pixel_layer hl hx hy, opacity_le_blendAt (hshown hl hv) x y⟩
  · intro hzero
    exact blendAt_eq_transparent (opacity_blendAt_eq_zero.1 hzero)

/-- One by four: spray that begins as clear air and thickens downwards, in front of a hidden screen,
and haze behind it. -/
def smoke : LayeredImage :=
  let e : Extent := ⟨1, 4, Nat.one_pos, Nat.succ_pos 3, by decide⟩
  { extent := e
    layers :=
      [⟨"spray", true, Grid.build e fun p => ⟨90, 90, 90, .ofNat p.y⟩, by decide⟩,
        ⟨"screen", false, .fill e .white, by decide⟩,
        ⟨"haze", true, Grid.build e fun p => ⟨60, 60, 60, .ofNat (84 * p.y)⟩, by decide⟩]
    same_extent := by decide
    names_nodup := by decide }

theorem coverage_flatten_smoke :
    0 < smoke.width ∧ 3 < smoke.height ∧ smoke.flatten.pixel 0 0 = .ok .transparent ∧
      ∃ v, smoke.flatten.pixel 0 3 = .ok v ∧ 252 ≤ v.opacity := by
  have hwidth : 0 < smoke.width := by decide
  have hheight : 3 < smoke.height := by decide
  obtain ⟨v, hv, -, hclear, htransparent⟩ := coverage_flatten smoke hwidth (y := 0) (by decide)
  obtain ⟨w, hw, hle, -⟩ := coverage_flatten smoke hwidth hheight
  refine ⟨hwidth, hheight, ?_, w, hw, ?_⟩
  · have hzero : v.opacity = 0 := by
      apply hclear.2
      intro l hl hshown
      simp only [smoke, List.mem_cons, List.not_mem_nil, or_false] at hl
      rcases hl with rfl | rfl | rfl
      · exact ⟨_, rfl, rfl⟩
      · cases hshown
      · exact ⟨_, rfl, rfl⟩
    rw [hv, htransparent hzero]
  · obtain ⟨u, hu, hle⟩ := hle _ (.tail _ (.tail _ (.head _))) rfl
    cases hu
    exact hle

end LayeredImage

end RasterScript
