import RasterScript.Proofs.Layered.StackEdits

/-!
# FrontAssembly — the same stacks, built from behind

An image can be made out of its layers in one go, which pushes them to the back, or by the edits
that a user has, which put every new layer in front and shown: then the last layer comes first, and
each is set to its visibility afterwards.  The stacks in between have no layer in common, one way
growing by the layers from the front and the other by those from behind, but both accept the same
lists, and make the same image (`ofLayers_iff_stacked`).
-/

namespace RasterScript

namespace LayeredImage

variable {img img' : LayeredImage} {l : Layer} {layers : List Layer}

/-- The layer added in front by its name and its picture, and then shown or hidden. -/
def placeInFront (img : LayeredImage) (l : Layer) : Except Refusal LayeredImage := do
  (← img.addGrid l.name l.grid).setVisibility l.name l.visible

/-- An image from its layers, the last one placed first. -/
def stacked (width height : Nat) (layers : List Layer) : Except Refusal LayeredImage := do
  layers.foldrM (fun l img => img.placeInFront l) (← new width height)

/-! ## 1. One layer -/

/-- A layer is found under its name, whatever visibility it is to get. -/
theorem Stands.exists_setVisibility {name : String} {front behind : List Layer}
    (h : img.Stands name front l behind) (visible : Bool) :
    ∃ img', img.setVisibility name visible = .ok img' :=
  ⟨_, bind_eq_ok.2 ⟨l, layer_eq_ok.2 h.find?_eq, rfl⟩⟩

theorem stands_pushFront (n : FreshName img) (g : Fitting img) (visible : Bool) :
    (img.pushFront n g visible).Stands n.name [] ⟨n.name, visible, g.1, n.valid⟩ img.layers :=
  ⟨rfl, rfl⟩

theorem layers_of_placeInFront (h : img.placeInFront l = .ok img') :
    img'.extent = img.extent ∧ img'.layers = l :: img.layers := by
  obtain ⟨mid, hadd, hset⟩ := bind_eq_ok.1 h
  obtain ⟨hfree, hfits, rfl⟩ := addGrid_eq_ok.1 hadd
  have hextent := extent_setVisibility hset
  exact ⟨hextent, (stands_pushFront hfree.fresh _ true).layers_setVisibility hset⟩

/-- The image that would come out says that the layer is accepted: its name is free and it fits. -/
theorem placeInFront_eq_ok :
    img.placeInFront l = .ok img' ↔ img'.extent = img.extent ∧ img'.layers = l :: img.layers := by
  constructor
  · exact layers_of_placeInFront
  · rintro ⟨hextent, hlayers⟩
    have hfits : l.grid.extent = img.extent := by
      rw [← hextent]
      exact img'.same_extent l (hlayers ▸ List.mem_cons_self)
    have hfree : img.Free l.name := by
      have hnodup := img'.names_nodup
      rw [hlayers, List.map_cons, List.nodup_cons] at hnodup
      exact ⟨l.name_valid, hnodup.1⟩
    obtain ⟨placed, hset⟩ :=
      (stands_pushFront hfree.fresh ⟨l.grid, hfits⟩ true).exists_setVisibility l.visible
    have hplaced : img.placeInFront l = .ok placed :=
      bind_eq_ok.2 ⟨_, addGrid_eq_ok.2 ⟨hfree, hfits, rfl⟩, hset⟩
    obtain ⟨hextent', hlayers'⟩ := layers_of_placeInFront hplaced
    rw [hplaced, ext (hextent.trans hextent'.symm) (hlayers.trans hlayers'.symm)]

/-! ## 2. All layers -/

theorem foldrM_placeInFront_eq_ok :
    layers.foldrM (fun l img => placeInFront img l) img = .ok img' ↔
      img'.extent = img.extent ∧ img'.layers = layers ++ img.layers := by
  -- the induction runs over the layers in front of those that are already placed
  induction layers generalizing img' with
  | nil =>
    rw [List.foldrM_nil, pure_eq_ok]
    constructor
    · rintro rfl
      exact ⟨rfl, rfl⟩
    · rintro ⟨hextent, hlayers⟩
      exact ext hextent hlayers
  | cons l layers ih =>
    rw [List.foldrM_cons, bind_eq_ok]
    constructor
    · rintro ⟨mid, hmid, hplace⟩
      obtain ⟨hextent, hlayers⟩ := ih.1 hmid
      obtain ⟨hextent', hlayers'⟩ := placeInFront_eq_ok.1 hplace
      rw [hlayers', hlayers]
      exact ⟨hextent'.trans hextent, rfl⟩
    · rintro ⟨hextent, hlayers⟩
      -- without its first layer, the image that comes out is the one before the last step
      let mid := img'.filter (·.name ≠ l.name)
      have hstands : img'.Stands l.name [] l (layers ++ img.layers) := ⟨hlayers, rfl⟩
      have hmid : mid.layers = layers ++ img.layers := hstands.filter_layers
      refine ⟨mid, ih.2 ⟨hextent, hmid⟩, placeInFront_eq_ok.2 ⟨rfl, ?_⟩⟩
      rw [hmid]
      exact hlayers

theorem stacked_eq_ok {width height : Nat} : stacked width height layers = .ok img ↔
    img.width = width ∧ img.height = height ∧ img.layers = layers := by
  refine new_bind_eq_ok fun e => ?_
  rw [foldrM_placeInFront_eq_ok]
  exact and_congr_right' (by rw [show (blank e).layers = [] from rfl, List.append_nil])

/-- The two ways of making an image out of layers accept the same ones and make the same image of
them: layers of any names, pictures and visibilities, as long as pictures can have these sides, all
layers do, and no two have one name. -/
theorem ofLayers_iff_stacked (width height : Nat) (layers : List Layer) :
    (∀ img, ofLayers width height layers = .ok img ↔ stacked width height layers = .ok img) ∧
    ((∃ img, ofLayers width height layers = .ok img) ↔
      (∃ e, Extent.ofSides width height = .ok e) ∧
        (∀ l ∈ layers, l.grid.width = width ∧ l.grid.height = height) ∧
        (layers.map (·.name)).Nodup) := by
  constructor
  · intro img
    rw [ofLayers_eq_ok, stacked_eq_ok]
  · constructor
    · rintro ⟨img, himg⟩
      obtain ⟨rfl, rfl, rfl⟩ := ofLayers_eq_ok.1 himg
      refine ⟨⟨img.extent, Extent.ofSides_eq_ok.2 ⟨rfl, rfl⟩⟩, ?_, img.names_nodup⟩
      intro l hl
      have hextent := img.same_extent l hl
      exact ⟨congrArg Extent.width hextent, congrArg Extent.height hextent⟩
    · rintro ⟨⟨e, he⟩, hsides, hnames⟩
      obtain ⟨hw, hh⟩ := Extent.ofSides_eq_ok.1 he
      have hextent : ∀ l ∈ layers, l.grid.extent = e := fun l hl =>
        Extent.ext ((hsides l hl).1.trans hw.symm) ((hsides l hl).2.trans hh.symm)
      exact ⟨⟨e, layers, hextent, hnames⟩, ofLayers_eq_ok.2 ⟨hw, hh, rfl⟩⟩

end LayeredImage

end RasterScript
