import RasterScript.Filter.Mutator
import RasterScript.Layered.Basic

/-!
# Edit — changes to a stack of layers

New layers go in front.  Every edit first finds out whether it makes sense and then gives the new
image; the invariants of `LayeredImage` are re-established by the few operations of the first
section, and all edits are made of those.
-/

namespace RasterScript

namespace LayeredImage

/-! ## 1. Operations that keep the invariants -/

/-- A name that a further layer of `img` can have. -/
structure FreshName (img : LayeredImage) where
  name : String
  valid : IsLayerName name
  unused : name ∉ img.names

/-- A picture of the size of `img`. -/
abbrev Fitting (img : LayeredImage) := { g : Grid // g.extent = img.extent }

/-- `name` for a further layer, refused if layers cannot be called so or one is. -/
def freshName (img : LayeredImage) (name : String) : Except Refusal (FreshName img) :=
  match h : checkLayerName name with
  | .error c => .error c
  | .ok () =>
    if hn : img.names.contains name then .error (.taken .layer name)
    else .ok ⟨name, isLayerName_of_check h, fun hm => hn (List.contains_iff_mem.2 hm)⟩

/-- `g` as a picture of the size of `img`, refused if it is not. -/
def fitting (img : LayeredImage) (g : Grid) : Except Refusal (Fitting img) :=
  if h : g.extent = img.extent then .ok ⟨g, h⟩
  else .error (.sizeMismatch g.width g.height img.width img.height)

/-- A further layer in front. -/
def pushFront (img : LayeredImage) (n : FreshName img) (g : Fitting img) (visible : Bool) :
    LayeredImage where
  extent := img.extent
  layers := ⟨n.name, visible, g.1, n.valid⟩ :: img.layers
  same_extent := by
    intro l hl
    rcases List.mem_cons.1 hl with rfl | hl
    · exact g.2
    · exact img.same_extent l hl
  names_nodup := List.nodup_cons.2 ⟨n.unused, img.names_nodup⟩

def pushBack (img : LayeredImage) (n : FreshName img) (g : Fitting img) (visible : Bool) :
    LayeredImage where
  extent := img.extent
  layers := img.layers ++ [⟨n.name, visible, g.1, n.valid⟩]
  same_extent := by
    intro l hl
    rcases List.mem_append.1 hl with hl | hl
    · exact img.same_extent l hl
    · obtain rfl := List.mem_singleton.1 hl
      exact g.2
  names_nodup := by
    rw [List.map_append, List.nodup_append]
    refine ⟨img.names_nodup, by simp, ?_⟩
    intro a ha b hb
    obtain rfl : b = n.name := by simpa using hb
    rintro rfl
    exact n.unused ha

def filter (img : LayeredImage) (keep : Layer → Bool) : LayeredImage where
  extent := img.extent
  layers := img.layers.filter keep
  same_extent := fun l hl => img.same_extent l (List.mem_filter.1 hl).1
  names_nodup := img.names_nodup.sublist (List.filter_sublist.map _)

def reorder (img : LayeredImage) (layers : List Layer) (h : layers.Perm img.layers) :
    LayeredImage where
  extent := img.extent
  layers := layers
  same_extent := fun l hl => img.same_extent l (h.mem_iff.1 hl)
  names_nodup := (h.map _).nodup_iff.2 img.names_nodup

/-- The image with another picture on the layer of that name. -/
def replaceGrid (img : LayeredImage) (name : String) (g : Fitting img) : LayeredImage where
  extent := img.extent
  layers := img.layers.map fun l => if l.name = name then { l with grid := g.1 } else l
  same_extent := by
    intro l hl
    obtain ⟨k, hk, rfl⟩ := List.mem_map.1 hl
    split
    · exact g.2
    · exact img.same_extent k hk
  names_nodup := by
    rw [List.map_map, List.map_congr_left (g := fun l => l.name)]
    · exact img.names_nodup
    · intro l _
      simp only [Function.comp]
      split <;> rfl

def replaceVisible (img : LayeredImage) (name : String) (visible : Bool) : LayeredImage where
  extent := img.extent
  layers := img.layers.map fun l => if l.name = name then { l with visible := visible } else l
  same_extent := by
    intro l hl
    obtain ⟨k, hk, rfl⟩ := List.mem_map.1 hl
    split <;> exact img.same_extent k hk
  names_nodup := by
    rw [List.map_map, List.map_congr_left (g := fun l => l.name)]
    · exact img.names_nodup
    · intro l _
      simp only [Function.comp]
      split <;> rfl

/-! ## 2. New layers -/

/-- An image from its layers, front to back. -/
def ofLayers (width height : Nat) (layers : List Layer) : Except Refusal LayeredImage := do
  let empty ← new width height
  layers.foldlM (fun img l => do
    return img.pushBack (← img.freshName l.name) (← img.fitting l.grid) l.visible) empty

def addLayer (img : LayeredImage) (name : String) : Except Refusal LayeredImage := do
  let n ← img.freshName name
  return img.pushFront n ⟨.fill img.extent .transparent, rfl⟩ true

/-- A copy of the layer `source` in front, shown or hidden like it. -/
def copyLayer (img : LayeredImage) (name source : String) : Except Refusal LayeredImage := do
  let n ← img.freshName name
  -- the new name is judged first
  match h : img.find? source with
  | none => .error (.missing .layer source)
  | some l => return img.pushFront n ⟨l.grid, extent_of_find? h⟩ l.visible

/-- The picture `g` as a layer in front. -/
def addGrid (img : LayeredImage) (name : String) (g : Grid) : Except Refusal LayeredImage := do
  let n ← img.freshName name
  let g ← img.fitting g
  return img.pushFront n g true

/-! ## 3. The order of the layers -/

/-- Taking an entry out and putting it back elsewhere permutes a list. -/
theorem perm_moved {α : Type} {l : List α} {i j : Nat} (h : i < l.length) :
    ((l.eraseIdx i).take j ++ l[i] :: (l.eraseIdx i).drop j).Perm l := by
  refine List.perm_middle.trans ?_
  rw [List.take_append_drop, List.eraseIdx_eq_take_drop_succ]
  refine List.perm_middle.symm.trans ?_
  rw [List.getElem_cons_drop, List.take_append_drop]

/-- The layer of that name taken out and put back with `index` layers in front of it. -/
def moveLayer (img : LayeredImage) (name : String) (index : Nat) : Except Refusal LayeredImage :=
  match h : img.index? name with
  | none => .error (.missing .layer name)
  | some i =>
    if index < img.layers.length then
      -- the index counts the layers that stay
      let moved := img.layers.get ⟨i, index?_lt h⟩
      let rest := img.layers.eraseIdx i
      .ok <| img.reorder (rest.take index ++ moved :: rest.drop index) (perm_moved (index?_lt h))
    else .error (.outsideLayers index img.layers.length)

def removeLayer (img : LayeredImage) (name : String) : Except Refusal LayeredImage := do
  -- only for the refusal
  let _ ← img.layer name
  return img.filter fun l => l.name ≠ name

def setVisibility (img : LayeredImage) (name : String) (visible : Bool) :
    Except Refusal LayeredImage := do
  let _ ← img.layer name
  return img.replaceVisible name visible

/-! ## 4. Changes inside a layer -/

/-- The layer of that name with another pixel in column `x` and row `y`. -/
def setPixel (img : LayeredImage) (name : String) (x y : Nat) (v : Pixel) :
    Except Refusal LayeredImage :=
  match h : img.find? name with
  | none => .error (.missing .layer name)
  | some l =>
    match h' : l.grid.setPixel x y v with
    | .error c => .error c
    | .ok g =>
      .ok <| img.replaceGrid name ⟨g, (Grid.extent_setPixel h').trans (extent_of_find? h)⟩

/-- The layer of that name painted on: a brush is set down in column `x` and row `y`, moved along
links, and used once.  The result is the brush and the image. -/
def paint (img : LayeredImage) (name : String) (x y : Nat) (path : List Direction)
    (edit : PixelEdit) : Except Refusal (Brush × LayeredImage) :=
  match h : img.find? name with
  | none => .error (.missing .layer name)
  | some l =>
    match h' : Brush.putDown l.grid x y with
    | .error c => .error c
    | .ok b =>
      let b' := (b.travel path).paint edit
      .ok (b', img.replaceGrid name ⟨b'.grid, by
        rw [Brush.extent_paint, Brush.grid_travel, Brush.grid_of_putDown h']
        exact extent_of_find? h⟩)

def mutate (img : LayeredImage) (name : String) (m : Mutator) : Except Refusal LayeredImage :=
  match h : img.find? name with
  | none => .error (.missing .layer name)
  | some l =>
    .ok <| img.replaceGrid name
      ⟨m.apply l.grid, (m.extent_apply l.grid).trans (extent_of_find? h)⟩

end LayeredImage

end RasterScript
