import RasterScript.Layered.Flatten
import RasterScript.Proofs.Layered.Stack

/-!
# SeenLayers — which layers make up a pixel of the flattened picture

Flattening goes through all shown layers.  At one place only some of them matter: those that show
something there, down to the first one that covers whatever is behind it (`seenAt`).  Everything
that cannot change a pixel follows from this: an edit that leaves the seen colours as they were
leaves the pixel as it was.
-/

namespace RasterScript

/-! ## 1. Layers at one place -/

namespace Layer

/-- The layer is shown, and not fully transparent in column `x` and row `y`. -/
def showsAt (x y : Nat) (l : Layer) : Bool := l.visible && (l.colorAt x y).opacity != 0

/-- The layer is shown, and nothing behind it is seen in column `x` and row `y`. -/
def coversAt (x y : Nat) (l : Layer) : Bool := l.visible && (l.colorAt x y).opacity == 255

/-- With the layers `front` in front of it, the layer has no part in column `x` and row `y`: it is
hidden, or fully transparent there, or covered. -/
def IdleBehind (x y : Nat) (front : List Layer) (l : Layer) : Prop :=
  l.visible = false ∨ (l.colorAt x y).opacity = 0 ∨ ∃ o ∈ front, o.coversAt x y = true

theorem shows_of_covers {x y : Nat} {l : Layer} (h : l.coversAt x y = true) :
    l.showsAt x y = true := by
  unfold coversAt at h
  unfold showsAt
  simp_all

theorem idleBehind_iff {x y : Nat} {front : List Layer} {l : Layer} : l.IdleBehind x y front ↔
    l.showsAt x y = false ∨ ∃ o ∈ front, o.coversAt x y = true := by
  unfold IdleBehind showsAt
  rw [← or_assoc]
  refine or_congr ?_ Iff.rfl
  cases l.visible <;> simp

/-- A layer of extent `e` holds the color of a place where the place comes row by row. -/
theorem colorAt_index {e : Extent} {l : Layer} (he : l.grid.extent = e) {i : Nat}
    (hi : i < e.area) :
    l.colorAt (i % e.width) (i / e.width) = l.grid.pixels.getD i .transparent := by
  subst he
  have hplace : Position.of? l.grid.extent (i % l.grid.extent.width) (i / l.grid.extent.width) =
      some (.ofIndex l.grid.extent i hi) := Position.of?_eq_some.2 ⟨rfl, rfl⟩
  have hsize : i < l.grid.pixels.size := by
    rw [l.grid.size_eq]
    exact hi
  unfold colorAt
  rw [hplace]
  show l.grid.get _ = _
  unfold Grid.get
  simp [Position.index_ofIndex, hsize]

end Layer

/-- Setting one pixel is not seen at another place. -/
theorem Grid.color_of_setPixel {g g' : Grid} {x y x' y' : Nat} {v : Pixel}
    (h : g.setPixel x' y' v = .ok g') (hplace : (x', y') ≠ (x, y)) :
    Node.color g' (Position.of? g'.extent x y) = Node.color g (Position.of? g.extent x y) := by
  unfold setPixel at h
  cases hp : Position.ofCoordinates g.extent x' y' with
  | error c =>
    rw [hp] at h
    cases h
  | ok p =>
    rw [hp] at h
    cases h
    obtain ⟨rfl, rfl⟩ := Position.ofCoordinates_eq_ok.1 hp
    show Node.color (g.set p v) (Position.of? g.extent x y) = _
    cases hq : Position.of? g.extent x y with
    | none => rfl
    | some q =>
      obtain ⟨rfl, rfl⟩ := Position.of?_eq_some.1 hq
      refine (get_set g p q v).trans (if_neg ?_)
      rintro rfl
      exact hplace rfl

namespace LayeredImage

variable {x y : Nat} {img img' : LayeredImage} {name : String} {front behind layers : List Layer}
  {l : Layer}

/-! ## 2. The layers that are seen -/

/-- Of these layers, those that show something in column `x` and row `y` and have nothing in front
of them that covers it. -/
def seenAt (x y : Nat) (layers : List Layer) : List Layer :=
  (layers.take (layers.findIdx (·.coversAt x y) + 1)).filter (·.showsAt x y)

/-- The colours that are seen, front to back. -/
def seenColors (x y : Nat) (layers : List Layer) : List Pixel :=
  (seenAt x y layers).map (·.colorAt x y)

theorem seenAt_cons (l : Layer) (behind : List Layer) : seenAt x y (l :: behind) =
    if l.coversAt x y then [l]
    else if l.showsAt x y then l :: seenAt x y behind else seenAt x y behind := by
  unfold seenAt
  rw [List.findIdx_cons]
  cases hc : l.coversAt x y with
  | true => simp [Layer.shows_of_covers hc]
  | false => simp [List.filter_cons]

/-- A layer without a part may as well be missing. -/
theorem seenAt_idle (h : l.IdleBehind x y front) (behind : List Layer) :
    seenAt x y (front ++ l :: behind) = seenAt x y (front ++ behind) := by
  rw [Layer.idleBehind_iff] at h
  -- layer by layer to the one that has no part, or to one that covers it
  induction front with
  | nil =>
    have hshows : l.showsAt x y = false := by simpa using h
    have hcovers : l.coversAt x y = false := by
      apply eq_false_of_ne_true
      intro hc
      rw [Layer.shows_of_covers hc] at hshows
      cases hshows
    rw [List.nil_append, List.nil_append, seenAt_cons, hshows, hcovers]
    rfl
  | cons o front ih =>
    rw [List.cons_append, List.cons_append, seenAt_cons, seenAt_cons]
    by_cases hc : o.coversAt x y = true
    · rw [if_pos hc, if_pos hc]
    · rw [if_neg hc, if_neg hc, ih]
      rcases h with hshows | ⟨k, hk, hcovers⟩
      · exact .inl hshows
      · rcases List.mem_cons.1 hk with rfl | hk
        · exact absurd hcovers hc
        · exact .inr ⟨k, hk, hcovers⟩

/-- Which colours are seen depends on what is shown of each layer at that place. -/
theorem seenColors_congr {layers layers' : List Layer}
    (h : layers.map (fun l => (l.visible, l.colorAt x y)) =
      layers'.map (fun l => (l.visible, l.colorAt x y))) :
    seenColors x y layers = seenColors x y layers' := by
  induction layers generalizing layers' with
  | nil => rw [List.map_eq_nil_iff.1 h.symm]
  | cons l behind ih =>
    obtain ⟨l', behind', rfl, hl, hbehind⟩ := List.map_eq_cons_iff.1 h.symm
    obtain ⟨hv, hcolor⟩ := Prod.mk.inj hl
    have hcovers : l'.coversAt x y = l.coversAt x y := by
      unfold Layer.coversAt
      rw [hv, hcolor]
    have hshows : l'.showsAt x y = l.showsAt x y := by
      unfold Layer.showsAt
      rw [hv, hcolor]
    have ih' : (seenAt x y behind).map (·.colorAt x y) = (seenAt x y behind').map (·.colorAt x y) :=
      ih hbehind.symm
    unfold seenColors
    rw [seenAt_cons, seenAt_cons, hcovers, hshows]
    by_cases hc : l.coversAt x y = true
    · simp [hc, hcolor]
    · by_cases hs : l.showsAt x y = true
      · simp [hc, hs, hcolor, ih']
      · simp [hc, hs, ih']

/-! ## 3. Blending -/

/-- Blending lays the colours onto each other, beginning with the one that is farthest behind. -/
theorem blendAt_eq_foldl (layers : List Layer) (x y : Nat) : blendAt layers x y =
    (layers.map (·.colorAt x y)).reverse.foldl Pixel.composite .transparent := by
  unfold blendAt
  rw [List.foldl_reverse, List.foldr_map]

/-- Blending all shown layers is blending those that are seen. -/
theorem blendAt_seenAt (layers : List Layer) (x y : Nat) :
    blendAt (layers.filter (·.visible)) x y = blendAt (seenAt x y layers) x y := by
  induction layers with
  | nil => rfl
  | cons l behind ih =>
    rw [seenAt_cons]
    cases hv : l.visible with
    | false =>
      rw [List.filter_cons_of_neg (by simp [hv]), ih]
      simp [Layer.coversAt, Layer.showsAt, hv]
    | true =>
      rw [List.filter_cons_of_pos hv]
      show Pixel.composite (blendAt (behind.filter (·.visible)) x y) (l.colorAt x y) = _
      by_cases hfull : (l.colorAt x y).opacity = 255
      · rw [if_pos (by simp [Layer.coversAt, hv, hfull]), Pixel.composite_of_opacity_eq_full hfull]
        show _ = Pixel.composite .transparent (l.colorAt x y)
        rw [Pixel.composite_of_opacity_eq_full hfull]
      · rw [if_neg (by simp [Layer.coversAt, hfull]), ih]
        by_cases hzero : (l.colorAt x y).opacity = 0
        · rw [if_neg (by simp [Layer.showsAt, hzero]), Pixel.composite_of_opacity_eq_zero hzero]
        · rw [if_pos (by simp [Layer.showsAt, hv, hzero])]
          rfl

theorem pixel_flatten (hx : x < img.width) (hy : y < img.height) : img.flatten.pixel x y =
    .ok ((seenColors x y img.layers).reverse.foldl Pixel.composite .transparent) := by
  have hplace : Position.ofCoordinates img.flatten.extent x y = .ok ⟨x, y, hx, hy⟩ :=
    Position.ofCoordinates_eq_ok.2 ⟨rfl, rfl⟩
  have hget : img.flatten.get ⟨x, y, hx, hy⟩ = blendAt img.visibleLayers x y :=
    get_flatten img ⟨x, y, hx, hy⟩
  unfold Grid.pixel
  unfold seenColors
  rw [hplace, ← blendAt_eq_foldl, ← blendAt_seenAt]
  exact congrArg Except.ok hget

/-- Cell by cell: the cells of one index are laid onto each other, and there are as many as the
sides ask for. -/
theorem ofPixels_blended (img : LayeredImage) :
    Grid.ofPixels img.width img.height (Array.ofFn fun i : Fin (img.width * img.height) =>
      (img.visibleLayers.map (·.grid.pixels.getD i .transparent)).reverse.foldl
        Pixel.composite .transparent) = .ok img.flatten := by
  have hcells : (Array.ofFn fun i : Fin (img.width * img.height) =>
      (img.visibleLayers.map (·.grid.pixels.getD i .transparent)).reverse.foldl
        Pixel.composite .transparent) = img.flatten.pixels := by
    show _ = Array.ofFn _
    congr 1
    funext i
    show _ = blendAt img.visibleLayers (i % img.extent.width) (i / img.extent.width)
    rw [blendAt_eq_foldl]
    congr 2
    apply List.map_congr_left
    intro l hl
    have he := img.same_extent l (List.mem_filter.1 hl).1
    exact (Layer.colorAt_index he i.isLt).symm
  rw [hcells]
  exact img.flatten.toGrid_toRaster

/-! ## 4. What cannot change a pixel -/

/-- Both images are flattened to the same pixel in column `x` and row `y`. -/
def SameAt (x y : Nat) (img img' : LayeredImage) : Prop :=
  img'.flatten.pixel x y = img.flatten.pixel x y

theorem sameAt_of_seenColors (hx : x < img.width) (hy : y < img.height) (hx' : x < img'.width)
    (hy' : y < img'.height) (h : seenColors x y img'.layers = seenColors x y img.layers) :
    SameAt x y img img' := by
  unfold SameAt
  rw [pixel_flatten hx hy, pixel_flatten hx' hy', h]

theorem sameAt_of_seenAt (he : img'.extent = img.extent) (hx : x < img.width) (hy : y < img.height)
    (h : seenAt x y img'.layers = seenAt x y img.layers) : SameAt x y img img' := by
  apply sameAt_of_seenColors hx hy
  · unfold width
    rw [he]
    exact hx
  · unfold height
    rw [he]
    exact hy
  · unfold seenColors
    rw [h]

/-- A layer with no part there, whatever takes its place there having no part either. -/
theorem seenAt_replaced (h : img.Stands name front l behind) {l' : Layer}
    (hl : l.IdleBehind x y front) (hl' : l'.IdleBehind x y front) :
    seenAt x y (front ++ l' :: behind) = seenAt x y img.layers := by
  rw [h.layers_eq, seenAt_idle hl, seenAt_idle hl']

theorem sameAt_setVisibility (hx : x < img.width) (hy : y < img.height)
    (h : img.Stands name front l behind) (hl : l.IdleBehind x y front)
    (hv : img.setVisibility name false = .ok img') : SameAt x y img img' := by
  apply sameAt_of_seenAt (extent_setVisibility hv) hx hy
  rw [h.layers_setVisibility hv]
  exact seenAt_replaced h hl (.inl rfl)

theorem sameAt_removeLayer (hx : x < img.width) (hy : y < img.height)
    (h : img.Stands name front l behind) (hl : l.IdleBehind x y front)
    (hr : img.removeLayer name = .ok img') : SameAt x y img img' := by
  apply sameAt_of_seenAt (extent_removeLayer hr) hx hy
  rw [h.layers_removeLayer hr, h.layers_eq, seenAt_idle hl]

theorem sameAt_moveLayer (hx : x < img.width) (hy : y < img.height)
    (h : img.Stands name front l behind) (hl : l.IdleBehind x y front) {index : Nat}
    (hl' : l.IdleBehind x y ((front ++ behind).take index))
    (hm : img.moveLayer name index = .ok img') : SameAt x y img img' := by
  apply sameAt_of_seenAt (extent_moveLayer hm) hx hy
  rw [h.layers_moveLayer hm, h.layers_eq, seenAt_idle hl, seenAt_idle hl', List.take_append_drop]

theorem sameAt_replaceGrid (hx : x < img.width) (hy : y < img.height)
    (h : img.Stands name front l behind) (hl : l.IdleBehind x y front) (g : Fitting img)
    (hl' : ({ l with grid := g.1 } : Layer).IdleBehind x y front) :
    SameAt x y img (img.replaceGrid name g) := by
  have hextent : (img.replaceGrid name g).extent = img.extent := rfl
  apply sameAt_of_seenAt hextent hx hy
  rw [h.layers_replaceGrid g]
  exact seenAt_replaced h hl hl'

/-- Whatever part the layer has there, it keeps it if its color there stays. -/
theorem sameAt_replaceGrid_of_colorAt (hx : x < img.width) (hy : y < img.height)
    (h : img.Stands name front l behind) (g : Fitting img)
    (hcolor : ({ l with grid := g.1 } : Layer).colorAt x y = l.colorAt x y) :
    SameAt x y img (img.replaceGrid name g) := by
  have hseen : seenColors x y (img.replaceGrid name g).layers = seenColors x y img.layers := by
    apply seenColors_congr
    rw [h.layers_replaceGrid g, h.layers_eq, List.map_append, List.map_append, List.map_cons,
      List.map_cons, hcolor]
  exact sameAt_of_seenColors hx hy hx hy hseen

/-- Another place of the layer may get any pixel. -/
theorem sameAt_setPixel (hx : x < img.width) (hy : y < img.height)
    (h : img.Stands name front l behind) {x' y' : Nat} (hplace : (x', y') ≠ (x, y)) {v : Pixel}
    (hs : img.setPixel name x' y' v = .ok img') : SameAt x y img img' := by
  obtain ⟨g, hg, rfl⟩ := h.setPixel_eq_ok.1 hs
  apply sameAt_replaceGrid_of_colorAt hx hy h g
  exact Grid.color_of_setPixel hg hplace

/-! ## 5. The flattened picture -/

/-- Flattening always gives a picture of the size of the stack.  Its pixel in column `x` and row `y`
is made up, back to front, of the colours that are seen there and of nothing else.  So it stays when
a layer without a part there is hidden, removed, painted on or moved, as long as it gets none, and
when a layer is changed at other places. -/
theorem flatten_seen (img : LayeredImage) :
    Grid.ofPixels img.width img.height (Array.ofFn fun i : Fin (img.width * img.height) =>
      (img.visibleLayers.map (·.grid.pixels.getD i .transparent)).reverse.foldl
        Pixel.composite .transparent) = .ok img.flatten ∧
    img.flatten.width = img.width ∧ img.flatten.height = img.height ∧
    ∀ x y, x < img.width → y < img.height →
      img.flatten.pixel x y =
        .ok ((seenColors x y img.layers).reverse.foldl Pixel.composite .transparent) ∧
      (∀ img' : LayeredImage, x < img'.width → y < img'.height →
        seenColors x y img'.layers = seenColors x y img.layers → SameAt x y img img') ∧
      ∀ name front l behind, img.Stands name front l behind →
        (l.IdleBehind x y front →
          (∀ img', img.setVisibility name false = .ok img' → SameAt x y img img') ∧
          (∀ img', img.removeLayer name = .ok img' → SameAt x y img img') ∧
          (∀ g : Fitting img, ({ l with grid := g.1 } : Layer).IdleBehind x y front →
            SameAt x y img (img.replaceGrid name g)) ∧
          ∀ index img', img.moveLayer name index = .ok img' →
            l.IdleBehind x y ((front ++ behind).take index) → SameAt x y img img') ∧
        (∀ g : Fitting img, ({ l with grid := g.1 } : Layer).colorAt x y = l.colorAt x y →
          SameAt x y img (img.replaceGrid name g)) ∧
        ∀ x' y' v img', (x', y') ≠ (x, y) → img.setPixel name x' y' v = .ok img' →
          SameAt x y img img' := by
  refine ⟨ofPixels_blended img, rfl, rfl, ?_⟩
  intro x y hx hy
  refine ⟨pixel_flatten hx hy, ?_, ?_⟩
  · intro img' hx' hy' hseen
    exact sameAt_of_seenColors hx hy hx' hy' hseen
  · intro name front l behind hstands
    refine ⟨fun hidle => ⟨?_, ?_, ?_, ?_⟩, ?_, ?_⟩
    · intro img' hv
      exact sameAt_setVisibility hx hy hstands hidle hv
    · intro img' hr
      exact sameAt_removeLayer hx hy hstands hidle hr
    · intro g hidle'
      exact sameAt_replaceGrid hx hy hstands hidle g hidle'
    · intro index img' hm hidle'
      exact sameAt_moveLayer hx hy hstands hidle hidle' hm
    · intro g hcolor
      exact sameAt_replaceGrid_of_colorAt hx hy hstands g hcolor
    · intro x' y' v img' hplace hs
      exact sameAt_setPixel hx hy hstands hplace hs

/-- Two by one: a hidden red layer, a transparent one, a blue one, and a green one behind all. -/
def blueWall : LayeredImage :=
  let e : Extent := ⟨2, 1, Nat.zero_lt_two, Nat.zero_lt_one, by decide⟩
  { extent := e
    layers :=
      [⟨"veil", false, .fill e (.solid 255 0 0), by decide⟩,
        ⟨"glass", true, .fill e .transparent, by decide⟩,
        ⟨"wall", true, .fill e (.solid 0 0 255), by decide⟩,
        ⟨"ground", true, .fill e (.solid 0 255 0), by decide⟩]
    same_extent := by decide
    names_nodup := by decide }

theorem flatten_seen_blueWall :
    blueWall.flatten.pixel 1 0 = .ok (.solid 0 0 255) ∧
    (∃ img', blueWall.removeLayer "ground" = .ok img' ∧ SameAt 1 0 blueWall img') ∧
    (∃ img', blueWall.moveLayer "veil" 3 = .ok img' ∧ SameAt 1 0 blueWall img') ∧
    ∃ img', blueWall.setPixel "wall" 0 0 .white = .ok img' ∧ SameAt 1 0 blueWall img' := by
  obtain ⟨-, -, -, hplaces⟩ := flatten_seen blueWall
  obtain ⟨hpixel, -, hedits⟩ := hplaces 1 0 (by decide) (by decide)
  refine ⟨?_, ⟨_, rfl, ?_⟩, ⟨_, rfl, ?_⟩, ⟨_, rfl, ?_⟩⟩
  · have hseen : seenColors 1 0 blueWall.layers = [.solid 0 0 255] := by decide
    rw [hpixel, hseen]
    rfl
  · exact ((hedits "ground" (blueWall.layers.take 3) _ [] ⟨rfl, rfl⟩).1
      (.inr (.inr ⟨_, .tail _ (.tail _ (.head _)), by decide⟩))).2.1 _ rfl
  · exact ((hedits "veil" [] _ (blueWall.layers.drop 1) ⟨rfl, rfl⟩).1 (.inl rfl)).2.2.2 3 _ rfl
      (.inl rfl)
  · exact (hedits "wall" (blueWall.layers.take 2) _ (blueWall.layers.drop 3) ⟨rfl, rfl⟩).2.2 0 0
      .white _ (by decide) rfl

end LayeredImage

end RasterScript
