import RasterScript.Command.Execute
import RasterScript.Proofs.Messages.Lines

/-!
# Edits — why pictures and stacks cannot be changed, on one line

A message that refuses a change shows the names in the request and nothing of what is stored, apart
from the names of layers, which hold no blank.
-/

namespace RasterScript

/-! ## 1. Pictures and sizes -/

theorem refusesPlainly_ofSides (w h : Nat) : RefusesPlainly (Extent.ofSides w h) := by
  unfold Extent.ofSides
  split
  · split
    · exact refusesPlainly_ok _
    · exact refusesPlainly_error (plain_of_no_texts rfl)
  · exact refusesPlainly_error (plain_of_no_texts rfl)

theorem refusesPlainly_gridSetPixel (g : Grid) (x y : Nat) (v : Pixel) :
    RefusesPlainly (g.setPixel x y v) := by
  apply refusesPlainly_map
  unfold Position.ofCoordinates
  split
  · exact refusesPlainly_ok _
  · exact refusesPlainly_error (plain_of_no_texts rfl)

theorem refusesPlainly_checkerboard (size count : Nat) (first second : Pixel) :
    RefusesPlainly (Grid.checkerboard size count first second) := by
  unfold Grid.checkerboard
  refine refusesPlainly_bind (refusesPlainly_require (plain_of_no_texts rfl)) fun _ _ => ?_
  refine refusesPlainly_bind (refusesPlainly_require (plain_of_no_texts rfl)) fun _ _ => ?_
  refine refusesPlainly_bind (refusesPlainly_require (plain_of_no_texts rfl)) fun _ _ => ?_
  refine refusesPlainly_bind (refusesPlainly_require (plain_of_no_texts rfl)) fun _ _ => ?_
  exact refusesPlainly_bind (refusesPlainly_ofSides _ _) fun _ _ => refusesPlainly_ok _

theorem refusesPlainly_toGrid (r : Raster) : RefusesPlainly r.toGrid := by
  unfold Raster.toGrid Grid.ofPixels
  refine refusesPlainly_bind (refusesPlainly_ofSides _ _) fun _ _ => ?_
  split
  · exact refusesPlainly_ok _
  · exact refusesPlainly_error (plain_of_no_texts rfl)

/-! ## 2. Stacks and workspaces -/

namespace LayeredImage

variable (img : LayeredImage) {name : String}

theorem refusesPlainly_layer (h : OneLine name) : RefusesPlainly (img.layer name) := by
  unfold layer
  split
  · exact refusesPlainly_ok _
  · exact refusesPlainly_error (plain_of_text rfl h)

theorem refusesPlainly_freshName (h : OneLine name) : RefusesPlainly (img.freshName name) := by
  unfold freshName
  split
  · rename_i c hc
    exact refusesPlainly_error (refusesPlainly_checkLayerName name c hc)
  · split
    · exact refusesPlainly_error (plain_of_text rfl h)
    · exact refusesPlainly_ok _

theorem refusesPlainly_fitting (g : Grid) : RefusesPlainly (img.fitting g) := by
  unfold fitting
  split
  · exact refusesPlainly_ok _
  · exact refusesPlainly_error (plain_of_no_texts rfl)

theorem refusesPlainly_addLayer (h : OneLine name) : RefusesPlainly (img.addLayer name) :=
  refusesPlainly_bind (img.refusesPlainly_freshName h) fun _ _ => refusesPlainly_ok _

theorem refusesPlainly_copyLayer {source : String} (h : OneLine name) (hsource : OneLine source) :
    RefusesPlainly (img.copyLayer name source) := by
  refine refusesPlainly_bind (img.refusesPlainly_freshName h) fun _ _ => ?_
  split
  · exact refusesPlainly_error (plain_of_text rfl hsource)
  · exact refusesPlainly_ok _

theorem refusesPlainly_addGrid (h : OneLine name) (g : Grid) :
    RefusesPlainly (img.addGrid name g) :=
  refusesPlainly_bind (img.refusesPlainly_freshName h) fun _ _ =>
    refusesPlainly_bind (img.refusesPlainly_fitting g) fun _ _ => refusesPlainly_ok _

theorem refusesPlainly_moveLayer (h : OneLine name) (index : Nat) :
    RefusesPlainly (img.moveLayer name index) := by
  unfold moveLayer
  split
  · exact refusesPlainly_error (plain_of_text rfl h)
  · split
    · exact refusesPlainly_ok _
    · exact refusesPlainly_error (plain_of_no_texts rfl)

theorem refusesPlainly_removeLayer (h : OneLine name) : RefusesPlainly (img.removeLayer name) :=
  refusesPlainly_bind (img.refusesPlainly_layer h) fun _ _ => refusesPlainly_ok _

theorem refusesPlainly_setVisibility (h : OneLine name) (visible : Bool) :
    RefusesPlainly (img.setVisibility name visible) :=
  refusesPlainly_bind (img.refusesPlainly_layer h) fun _ _ => refusesPlainly_ok _

theorem refusesPlainly_setPixel (h : OneLine name) (x y : Nat) (v : Pixel) :
    RefusesPlainly (img.setPixel name x y v) := by
  unfold setPixel
  split
  · exact refusesPlainly_error (plain_of_text rfl h)
  · rename_i l _
    split
    · rename_i c hc
      exact refusesPlainly_error (refusesPlainly_gridSetPixel l.grid x y v c hc)
    · exact refusesPlainly_ok _

theorem refusesPlainly_mutate (h : OneLine name) (m : Mutator) :
    RefusesPlainly (img.mutate name m) := by
  unfold mutate
  split
  · exact refusesPlainly_error (plain_of_text rfl h)
  · exact refusesPlainly_ok _

/-- Layers carry names that hold no blank, so none of them is shown with a line break. -/
theorem refusesPlainly_ofLayers (width height : Nat) (layers : List Layer) :
    RefusesPlainly (ofLayers width height layers) := by
  unfold ofLayers
  have hnew : RefusesPlainly (new width height) :=
    refusesPlainly_bind (refusesPlainly_ofSides _ _) fun _ _ => refusesPlainly_ok _
  refine refusesPlainly_bind hnew fun empty hempty => ?_
  clear hempty
  induction layers generalizing empty with
  | nil => exact refusesPlainly_ok _
  | cons l layers ih =>
    have hname := oneLine_of_isLayerName l.name_valid
    rw [List.foldlM_cons]
    refine refusesPlainly_bind ?_ fun img _ => ih img
    refine refusesPlainly_bind (refusesPlainly_freshName _ hname) fun _ _ => ?_
    exact refusesPlainly_bind (refusesPlainly_fitting _ _) fun _ _ => refusesPlainly_ok _

end LayeredImage

namespace Workspace

variable (ws : Workspace) {name : String}

theorem refusesPlainly_image (h : OneLine name) : RefusesPlainly (ws.image name) := by
  unfold image
  split
  · exact refusesPlainly_ok _
  · exact refusesPlainly_error (plain_of_text rfl h)

theorem refusesPlainly_layeredImage (h : OneLine name) :
    RefusesPlainly (ws.layeredImage name) := by
  unfold layeredImage
  split
  · exact refusesPlainly_ok _
  · exact refusesPlainly_error (plain_of_text rfl h)

theorem refusesPlainly_checkSides (w h : Nat) : RefusesPlainly (ws.checkSides w h) :=
  refusesPlainly_require (plain_of_no_texts rfl)

theorem refusesPlainly_checkFreshImage (h : OneLine name) :
    RefusesPlainly (ws.checkFreshImage name) := refusesPlainly_require (plain_of_text rfl h)

theorem refusesPlainly_checkFreshLayered (h : OneLine name) :
    RefusesPlainly (ws.checkFreshLayered name) := refusesPlainly_require (plain_of_text rfl h)

theorem refusesPlainly_addImage (h : OneLine name) (g : Grid) :
    RefusesPlainly (ws.addImage name g) :=
  refusesPlainly_bind (ws.refusesPlainly_checkFreshImage h) fun _ _ =>
    refusesPlainly_bind (ws.refusesPlainly_checkSides _ _) fun _ _ => refusesPlainly_ok _

theorem refusesPlainly_addLayered (h : OneLine name) (img : LayeredImage) :
    RefusesPlainly (ws.addLayered name img) :=
  refusesPlainly_bind (ws.refusesPlainly_checkFreshLayered h) fun _ _ =>
    refusesPlainly_bind (ws.refusesPlainly_checkSides _ _) fun _ _ => refusesPlainly_ok _

theorem refusesPlainly_edit (h : OneLine name) {f : LayeredImage → Except Refusal LayeredImage}
    (hf : ∀ img, RefusesPlainly (f img)) : RefusesPlainly (ws.edit name f) :=
  refusesPlainly_bind (ws.refusesPlainly_layeredImage h) fun img _ =>
    refusesPlainly_bind (hf img) fun _ _ => refusesPlainly_ok _

/-- The names of a target that passes its check hold no line break. -/
theorem oneLine_of_checkTarget {t : Target} (h : t.check = .ok ()) :
    ∀ name ∈ t.tokens, OneLine name := by
  intro name hm
  have hnamed := named_target h [] (.word name) (List.mem_map_of_mem hm)
  rcases hnamed with hname | ⟨-, p, hp, -⟩
  · exact oneLine_of_isName hname
  · cases hp

theorem refusesPlainly_target {t : Target} (h : ∀ name ∈ t.tokens, OneLine name) :
    RefusesPlainly (ws.target t) := by
  cases t with
  | image name =>
    have hname : OneLine name := by simpa [Target.tokens] using h
    exact ws.refusesPlainly_image hname
  | layer stack name =>
    obtain ⟨hstack, hname⟩ : OneLine stack ∧ OneLine name := by simpa [Target.tokens] using h
    refine refusesPlainly_bind (ws.refusesPlainly_layeredImage hstack) fun img _ => ?_
    exact refusesPlainly_bind (img.refusesPlainly_layer hname) fun _ _ => refusesPlainly_ok _

theorem refusesPlainly_setPixel {t : Target} (h : ∀ name ∈ t.tokens, OneLine name) (x y : Nat)
    (v : Pixel) : RefusesPlainly (ws.setPixel x y v t) := by
  cases t with
  | image name =>
    have hname : OneLine name := by simpa [Target.tokens] using h
    refine refusesPlainly_bind (ws.refusesPlainly_image hname) fun g _ => ?_
    exact refusesPlainly_bind (refusesPlainly_gridSetPixel g x y v) fun _ _ => refusesPlainly_ok _
  | layer stack name =>
    obtain ⟨hstack, hname⟩ : OneLine stack ∧ OneLine name := by simpa [Target.tokens] using h
    refine refusesPlainly_bind (ws.refusesPlainly_layeredImage hstack) fun img _ => ?_
    exact refusesPlainly_bind (img.refusesPlainly_setPixel hname x y v) fun _ _ =>
      refusesPlainly_ok _

theorem refusesPlainly_mutate {t : Target} (h : ∀ name ∈ t.tokens, OneLine name) (m : Mutator) :
    RefusesPlainly (ws.mutate m t) := by
  cases t with
  | image name =>
    have hname : OneLine name := by simpa [Target.tokens] using h
    exact refusesPlainly_bind (ws.refusesPlainly_image hname) fun _ _ => refusesPlainly_ok _
  | layer stack name =>
    obtain ⟨hstack, hname⟩ : OneLine stack ∧ OneLine name := by simpa [Target.tokens] using h
    refine refusesPlainly_bind (ws.refusesPlainly_layeredImage hstack) fun img _ => ?_
    exact refusesPlainly_bind (img.refusesPlainly_mutate hname m) fun _ _ => refusesPlainly_ok _

end Workspace

end RasterScript
