import RasterScript.Pixel.Channel
import RasterScript.Proofs.Grid.Cells
import RasterScript.Proofs.Grid.Walking

/-!
# Painting — what a brush changes

A brush that was moved along links is where a walk along the same links ends (`Brush.travel_eq`),
and it paints that one place or, in the void, nothing.  What the place becomes is said by the parts
of a pixel: each one that the edit asks for takes the byte nearest to the number asked, and the
others are kept (`PixelEdit.Makes`).
-/

namespace RasterScript

/-! ## 1. Edits by parts -/

/-- What a pixel is made of. -/
inductive Pixel.Part
  | color (channel : Channel)
  | opacity
  deriving DecidableEq, Repr

def Pixel.part (v : Pixel) : Pixel.Part → UInt8
  | .color c => v.get c
  | .opacity => v.opacity

namespace PixelEdit

/-- What an edit asks of a part, if anything. -/
def asks : PixelEdit → Pixel.Part → Option Int
  | .setOpacity o, .opacity => some o
  | .setOpacity _, .color _ => none
  | .updateColors r _ _ _, .color .red => some r
  | .updateColors _ g _ _, .color .green => some g
  | .updateColors _ _ b _, .color .blue => some b
  | .updateColors _ _ _ o, .opacity => some o
  | .editColors r _ _, .color .red => some r
  | .editColors _ g _, .color .green => some g
  | .editColors _ _ b, .color .blue => some b
  | .editColors _ _ _, .opacity => none

/-- In `new` the parts that the edit asks for are the numbers asked, cut off at 0 and at 255, and
the others are those of `old`. -/
def Makes (edit : PixelEdit) (old new : Pixel) : Prop :=
  ∀ c, ((new.part c).toNat : Int) =
    match edit.asks c with
    | some v => max 0 (min v 255)
    | none => (old.part c).toNat

theorem toNat_saturate_int (v : Int) : ((saturate v).toNat : Int) = max 0 (min v 255) := by
  rw [toNat_saturate]
  omega

theorem makes_apply (edit : PixelEdit) (old : Pixel) : edit.Makes old (edit.apply old) := by
  intro c
  cases edit with
  | setOpacity o =>
    cases c with
    | color channel => rfl
    | opacity => exact toNat_saturate_int o
  | updateColors r g b o =>
    cases c with
    | color channel => cases channel <;> exact toNat_saturate_int _
    | opacity => exact toNat_saturate_int o
  | editColors r g b =>
    cases c with
    | color channel => cases channel <;> exact toNat_saturate_int _
    | opacity => rfl

end PixelEdit

/-! ## 2. Brushes -/

namespace Brush

variable {g : Grid}

/-- Moving a brush and walking are the same way. -/
theorem travel_eq {n m : Node g.extent} {path : List Direction}
    (h : n.walk (path.map .link) = .ok m) : (⟨g, n⟩ : Brush).travel path = ⟨g, m⟩ := by
  induction path generalizing n with
  | nil =>
    cases h
    rfl
  | cons d path ih =>
    rw [List.map_cons, Node.walk_of_step (n.step_link d)] at h
    exact ih h

theorem putDown_position (p : Position g.extent) : putDown g p.x p.y = .ok ⟨g, some p⟩ := by
  rw [putDown, Position.ofCoordinates_coordinates]
  rfl

/-- Putting the pixel that stands at a place there changes nothing. -/
theorem set_get (g : Grid) (p : Position g.extent) :
    (⟨g.set p (g.get p), some p⟩ : Brush) = ⟨g, some p⟩ := by
  obtain ⟨e, pixels, hsize⟩ := g
  simp [Grid.set, Grid.get]

theorem paint_of_apply_eq {p : Position g.extent} {edit : PixelEdit}
    (h : edit.apply (g.get p) = g.get p) : (⟨g, some p⟩ : Brush).paint edit = ⟨g, some p⟩ := by
  show (⟨g.set p (edit.apply (g.get p)), some p⟩ : Brush) = _
  rw [h, set_get]

/-- Painting the same again changes nothing. -/
theorem paint_paint (b : Brush) (edit : PixelEdit) : (b.paint edit).paint edit = b.paint edit := by
  obtain ⟨g, n⟩ := b
  cases n with
  | none => rfl
  | some p =>
    apply paint_of_apply_eq (g := g.set p (edit.apply (g.get p))) (p := p)
    rw [Grid.get_set_self, PixelEdit.apply_apply]

/-- A brush set down on a picture and moved along links is where a walk along them ends.  It paints
this one place as the edit asks, and leaves the picture alone if the way led off it; painting the
same again changes nothing. -/
theorem paint_changes_walk_end (g : Grid) (p : Position g.extent) (path : List Direction)
    (edit : PixelEdit) :
    ∃ b n, putDown g p.x p.y = .ok b ∧
      Node.walk (some p) (path.map .link) = .ok n ∧ b.travel path = ⟨g, n⟩ ∧
      ((b.travel path).paint edit).grid.extent = g.extent ∧
      (∀ q, n = some q → ∃ v, edit.Makes (g.get q) v ∧
        ∀ x y, ((b.travel path).paint edit).grid.at? x y =
          if x = q.x ∧ y = q.y then some v else g.at? x y) ∧
      (¬ p.Stays (path.map .link) → ((b.travel path).paint edit).grid = g) ∧
      ((b.travel path).paint edit).paint edit = (b.travel path).paint edit := by
  obtain ⟨n, hwalk⟩ := Node.exists_walk_links (some p) path
  have htravel : (⟨g, some p⟩ : Brush).travel path = ⟨g, n⟩ := travel_eq hwalk
  refine ⟨⟨g, some p⟩, n, putDown_position p, hwalk, htravel, ?_, ?_, fun hleaves => ?_,
    paint_paint _ _⟩
  · rw [extent_paint, grid_travel]
  · rintro q rfl
    rw [htravel]
    exact ⟨_, edit.makes_apply (g.get q), fun x y => Grid.at?_set q _⟩
  · -- links do not stop, so a way off the picture ends in the void
    have hwords : ¬ p.Overflows (path.map .link) := by
      rw [← Node.walk_eq_error, hwalk]
      simp
    rw [Node.walk_of_not_stays hleaves hwords] at hwalk
    cases hwalk
    rw [htravel]
    rfl

/-- One brush paints the place to the left of the middle with numbers beyond a byte, and another
goes off the board and back. -/
theorem paint_changes_walk_end_whiteBoard :
    let p : Position Node.whiteBoard.extent := ⟨1, 1, by decide, by decide⟩
    let edit : PixelEdit := .updateColors 300 (-4) 17 1000
    (Node.walk (some p) [.link .left] = .ok (some ⟨0, 1, by decide, by decide⟩) ∧
      ∃ b, putDown Node.whiteBoard 1 1 = .ok b ∧ ∃ v, edit.Makes .white v ∧
        ((b.travel [.left]).paint edit).grid.at? 0 1 = some v ∧
        ((b.travel [.left]).paint edit).grid.at? 2 0 = some .white) ∧
    (¬ p.Stays [.link .below, .link .above] ∧
      ∃ b, putDown Node.whiteBoard 1 1 = .ok b ∧
        ((b.travel [.below, .above]).paint edit).grid = Node.whiteBoard) := by
  intro p edit
  have hend : Node.walk (some p) [.link .left] = .ok (some ⟨0, 1, by decide, by decide⟩) :=
    Node.walk_of_step (Node.step_eq_some.2 (by decide))
  have hleaves : ¬ p.Stays [.link .below, .link .above] := by decide
  constructor
  · obtain ⟨b, n, hb, hwalk, -, -, hpainted, -⟩ :=
      paint_changes_walk_end Node.whiteBoard p [.left] edit
    obtain ⟨v, hv, hcells⟩ := hpainted _ (Except.ok.inj (hwalk.symm.trans hend))
    exact ⟨hend, b, hb, v, hv, hcells 0 1, hcells 2 0⟩
  · obtain ⟨b, n, hb, -, -, -, -, haway, -⟩ :=
      paint_changes_walk_end Node.whiteBoard p [.below, .above] edit
    exact ⟨hleaves, b, hb, haway hleaves⟩

end Brush

end RasterScript
