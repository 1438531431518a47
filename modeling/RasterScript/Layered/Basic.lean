import RasterScript.Grid.Walk
import RasterScript.Text.Name

/-!
# LayeredImage — a stack of named layers of one size

The first layer is the one in front.  A `LayeredImage` carries what every edit keeps: all layers
have the size of the image, and no two have one name.  So a name stands for at most one layer, and
looking a layer up by name and by index agree.
-/

namespace RasterScript

/-! ## 1. Layers -/

/-- A picture with a name, shown or hidden. -/
structure Layer where
  name : String
  visible : Bool
  grid : Grid
  name_valid : IsLayerName name
  deriving DecidableEq

namespace Layer

/-- A layer with this name, refused if layers cannot be called so. -/
def named (name : String) (grid : Grid) (visible : Bool) : Except Refusal Layer :=
  match h : checkLayerName name with
  | .ok () => .ok ⟨name, visible, grid, isLayerName_of_check h⟩
  | .error c => .error c

/-- The pixel of a layer in column `x` and row `y`; outside it reads as transparent. -/
def colorAt (l : Layer) (x y : Nat) : Pixel :=
  Node.color l.grid (Position.of? l.grid.extent x y)

end Layer

/-! ## 2. Layered images -/

/-- Layers of one size under different names, the one in front first. -/
structure LayeredImage where
  extent : Extent
  layers : List Layer
  same_extent : ∀ l ∈ layers, l.grid.extent = extent
  names_nodup : (layers.map (·.name)).Nodup
  deriving DecidableEq

namespace LayeredImage

abbrev width (img : LayeredImage) : Nat := img.extent.width

abbrev height (img : LayeredImage) : Nat := img.extent.height

def names (img : LayeredImage) : List String := img.layers.map (·.name)

def blank (e : Extent) : LayeredImage := ⟨e, [], by simp, by simp⟩

/-- An image without layers, refused if a picture cannot have these sides. -/
def new (width height : Nat) : Except Refusal LayeredImage := do
  return blank (← Extent.ofSides width height)

/-! ## 3. Looking layers up -/

def find? (img : LayeredImage) (name : String) : Option Layer :=
  img.layers.find? fun l => l.name == name

/-- How many layers are in front of the layer of that name. -/
def index? (img : LayeredImage) (name : String) : Option Nat :=
  img.layers.findIdx? fun l => l.name == name

/-- The layer of that name, refused if there is none. -/
def layer (img : LayeredImage) (name : String) : Except Refusal Layer :=
  match img.find? name with
  | some l => .ok l
  | none => .error (.missing .layer name)

/-- The layer with `index` layers in front of it, refused if there are too few. -/
def layerAt (img : LayeredImage) (index : Nat) : Except Refusal Layer :=
  match img.layers[index]? with
  | some l => .ok l
  | none => .error (.outsideLayers index img.layers.length)

def visibility (img : LayeredImage) (name : String) : Except Refusal Bool :=
  (img.layer name).map (·.visible)

/-- Whether the layer with `index` layers in front of it is shown. -/
def visibilityAt (img : LayeredImage) (index : Nat) : Except Refusal Bool :=
  (img.layerAt index).map (·.visible)

theorem mem_of_find? {img : LayeredImage} {name : String} {l : Layer}
    (h : img.find? name = some l) : l ∈ img.layers ∧ l.name = name :=
  ⟨List.mem_of_find?_eq_some h, by simpa using List.find?_some h⟩

theorem extent_of_find? {img : LayeredImage} {name : String} {l : Layer}
    (h : img.find? name = some l) : l.grid.extent = img.extent :=
  img.same_extent l (mem_of_find? h).1

theorem find?_eq_none {img : LayeredImage} {name : String} :
    img.find? name = none ↔ name ∉ img.names := by
  simp [find?, names]

theorem index?_lt {img : LayeredImage} {name : String} {i : Nat} (h : img.index? name = some i) :
    i < img.layers.length := by
  rw [index?, List.findIdx?_eq_some_iff_findIdx_eq] at h
  exact h.1

theorem layer_eq_ok {img : LayeredImage} {name : String} {l : Layer} :
    img.layer name = .ok l ↔ img.find? name = some l := by
  unfold layer
  split <;> simp_all

end LayeredImage

end RasterScript
