import RasterScript.Proofs.Command.Locality
import RasterScript.Proofs.Grid.Tiles
import RasterScript.Proofs.Session.SoundImages

/-!
# Creation — which new images a session accepts

Without files there are four sources of a new image and one of a new layered image.
`ImageSource.Gives` says what picture each gives; that it gives one at all means that the sides are
those of an `Extent`, so no product of sides has to be computed to state it.

The side of a checkerboard is a product.  It is looked at once cut off at the largest word, and once
whole, when a product that no word holds is refused.  The side of an extent is far below either cut,
so the two agree: `ImageSource.gives_of_build` and `ImageSource.Gives.build`.
-/

namespace RasterScript

/-! ## 1. Sides -/

namespace Extent

theorem exists_iff {width height : Nat} : (∃ e : Extent, e.width = width ∧ e.height = height) ↔
    0 < width ∧ 0 < height ∧ width * height ≤ maxPixels := by
  constructor
  · rintro ⟨e, rfl, rfl⟩
    exact ⟨e.width_pos, e.height_pos, e.area_le⟩
  · rintro ⟨hw, hh, harea⟩
    exact ⟨⟨width, height, hw, hh, harea⟩, rfl, rfl⟩

theorem sides_pos (e : Extent) : (decide (0 < e.width) && decide (0 < e.height)) = true := by
  rw [decide_eq_true e.width_pos, decide_eq_true e.height_pos]
  rfl

end Extent

/-! ## 2. What the sources give -/

/-- The picture that a source other than a file gives. -/
inductive ImageSource.Gives (ws : Workspace) : ImageSource → Grid → Prop
  | checkerboard {s size : Nat} {first second : Pixel} {e : Extent} (hw : e.width = s * size)
      (hh : e.height = s * size) :
      Gives ws (.checkerboard size (s * s) first second) (Grid.tiled e size first second)
  | empty : Gives ws .empty .single
  | transparent (e : Extent) : Gives ws (.transparent e.width e.height) (.fill e .transparent)
  | copy {source : String} {g : Grid} (hname : IsName source)
      (hg : ws.images.find? source = some g) : Gives ws (.copy source) g

variable {ws : Workspace} {source : ImageSource} {g : Grid} {fs fs' : FileStore}

namespace ImageSource

variable [PictureCodec]

theorem gives_of_build (hs : source.usesFiles = false) (hcheck : source.check = .ok ())
    (h : Yields (source.build ws) fs g fs') : source.Gives ws g ∧ fs' = fs := by
  cases source with
  | checkerboard size count first second =>
    obtain ⟨_, -, hbuild⟩ := yields_accept_bind.1 h
    obtain ⟨hboard, hfs⟩ := yields_accept.1 hbuild
    obtain ⟨s, e, rfl, hw, hh, rfl⟩ := Grid.checkerboard_eq_ok.1 hboard
    exact ⟨.checkerboard hw hh, hfs⟩
  | empty =>
    obtain ⟨rfl, hfs⟩ := yields_pure.1 h
    exact ⟨.empty, hfs⟩
  | transparent width height =>
    obtain ⟨_, -, hbuild⟩ := yields_accept_bind.1 h
    obtain ⟨hfill, hfs⟩ := yields_accept.1 hbuild
    obtain ⟨e, he, hgrid⟩ := bind_eq_ok.1 hfill
    obtain ⟨rfl, rfl⟩ := Extent.ofSides_eq_ok.1 he
    rw [pure_eq_ok.1 hgrid]
    exact ⟨.transparent e, hfs⟩
  | copy source =>
    obtain ⟨himage, hfs⟩ := yields_accept.1 h
    exact ⟨.copy (checkImageName_eq_ok.1 hcheck) (Workspace.image_eq_ok.1 himage), hfs⟩
  | file path => cases hs

/-- A source of a picture within bounds passes all checks of its sides. -/
theorem Gives.build (h : source.Gives ws g) (hw : g.width ≤ ws.options.maxDimension)
    (hh : g.height ≤ ws.options.maxDimension) (fs : FileStore) :
    source.check = .ok () ∧ Yields (source.build ws) fs g fs := by
  cases h with
  | @checkerboard s size _ _ e hwidth hheight =>
    obtain ⟨hpos, hsize⟩ := Extent.pos_of_width_eq hwidth
    have hsquare : (decide (0 < s * s) && isSquare (s * s)) = true := by
      rw [isSquare_iff.2 ⟨s, rfl⟩, decide_eq_true (Nat.mul_pos hpos hpos)]
      rfl
    have hcut : min ((s * s).sqrt * size) (wordSize - 1) ≤ ws.options.maxDimension := by
      rw [Nat.sqrt_eq, ← hwidth]
      exact Nat.le_trans (Nat.min_le_left _ _) hw
    constructor
    · exact check_bind_eq_ok.2 ⟨require_eq_ok.2 (decide_eq_true hsize), require_eq_ok.2 hsquare⟩
    · refine yields_accept_bind.2 ⟨(), Workspace.checkSides_eq_ok.2 ⟨hcut, hcut⟩, ?_⟩
      exact yields_accept.2 ⟨Grid.checkerboard_eq_ok.2 ⟨s, e, rfl, hwidth, hheight, rfl⟩, rfl⟩
  | empty => exact ⟨rfl, yields_pure.2 ⟨rfl, rfl⟩⟩
  | transparent e =>
    have hfill : Grid.transparent e.width e.height = .ok (.fill e .transparent) :=
      bind_eq_ok.2 ⟨e, Extent.ofSides_eq_ok.2 ⟨rfl, rfl⟩, rfl⟩
    constructor
    · exact require_eq_ok.2 e.sides_pos
    · refine yields_accept_bind.2 ⟨(), Workspace.checkSides_eq_ok.2 ⟨hw, hh⟩, ?_⟩
      exact yields_accept.2 ⟨hfill, rfl⟩
  | copy hname hg =>
    exact ⟨checkImageName_eq_ok.2 hname, yields_accept.2 ⟨Workspace.image_eq_ok.2 hg, rfl⟩⟩

end ImageSource

/-! ## 3. The commands -/

namespace Workspace

/-- An image can get the name: it is a name, and no image has it. -/
def ImageFree (ws : Workspace) (name : String) : Prop :=
  IsName name ∧ ws.images.find? name = none

def LayeredFree (ws : Workspace) (name : String) : Prop :=
  IsName name ∧ ws.layered.find? name = none

/-- An image with these sides has the name. -/
def HoldsImage (ws : Workspace) (name : String) (width height : Nat) : Prop :=
  ∃ g, ws.images.find? name = some g ∧ g.width = width ∧ g.height = height

def HoldsLayered (ws : Workspace) (name : String) (width height : Nat) : Prop :=
  ∃ img, ws.layered.find? name = some img ∧ img.width = width ∧ img.height = height

end Workspace

namespace Command

variable [PictureCodec] [ManifestFormat]
variable {w w' : World} {name : String} {condition : Prop} {leaves : Workspace → Prop}

/-- A command that uses no files is refused if it fails, and leaves the world as it was. -/
theorem refused_of_fails {c : Command} {f : Failure} (hc : c.usesFiles = false)
    (hf : Fails c.execute w f w') : (∃ r, f = .refused r) ∧ w' = w := by
  obtain ⟨r, hsettle, -⟩ := localTo_execute hc w w (Workspace.AgreeOn.refl _ _)
  have houtcome := hsettle.symm.trans hf
  cases r with
  | ok change => cases houtcome
  | error refusal =>
    cases houtcome
    exact ⟨⟨refusal, rfl⟩, rfl⟩

/-- The command is carried out exactly under the condition and then leaves a workspace as described;
otherwise it is refused, and nothing has changed. -/
structure AcceptedIff (c : Command) (w : World) (condition : Prop) (leaves : Workspace → Prop) :
    Prop where
  accepted : (∃ w', Yields c.execute w () w') ↔ condition
  left : ∀ w', Yields c.execute w () w' → leaves w'.workspace
  refused : ∀ f w', Fails c.execute w f w' → (∃ r, f = .refused r) ∧ w' = w

theorem yields_createImage (hs : source.usesFiles = false) :
    Yields (createImage name source).execute w () w' ↔ w.workspace.ImageFree name ∧
      ∃ g, source.Gives w.workspace g ∧
        (g.width ≤ w.workspace.options.maxDimension ∧
          g.height ≤ w.workspace.options.maxDimension) ∧
        w' = { w with workspace := w.workspace.setImage name g } := by
  rw [yields_execute]
  constructor
  · rintro ⟨hcheck, h⟩
    obtain ⟨hname, hsource⟩ := check_bind_eq_ok.1 hcheck
    obtain ⟨-, g, fs, ws, hbuild, hadd, rfl⟩ := yields_add.1 (yields_workspace_bind.1 h)
    obtain ⟨hfree, hsides, rfl⟩ := Workspace.addImage_eq_ok.1 hadd
    obtain ⟨hgives, rfl⟩ := ImageSource.gives_of_build hs hsource hbuild
    exact ⟨⟨checkImageName_eq_ok.1 hname, hfree⟩, g, hgives, hsides, rfl⟩
  · rintro ⟨⟨hname, hfree⟩, g, hgives, ⟨hw, hh⟩, rfl⟩
    obtain ⟨hsource, hbuild⟩ := hgives.build hw hh w.files
    constructor
    · exact check_bind_eq_ok.2 ⟨checkImageName_eq_ok.2 hname, hsource⟩
    · refine yields_workspace_bind.2 (yields_add.2
        ⟨Workspace.checkFreshImage_eq_ok.2 hfree, g, w.files, _, hbuild, ?_, rfl⟩)
      exact Workspace.addImage_eq_ok.2 ⟨hfree, ⟨hw, hh⟩, rfl⟩

theorem yields_createBlank {width height : Nat} :
    Yields (createLayeredImage name (.blank width height)).execute w () w' ↔
      w.workspace.LayeredFree name ∧ ∃ e : Extent, (e.width = width ∧ e.height = height) ∧
        (width ≤ w.workspace.options.maxDimension ∧
          height ≤ w.workspace.options.maxDimension) ∧
        w' = { w with workspace := w.workspace.setLayered name (.blank e) } := by
  rw [yields_execute]
  constructor
  · rintro ⟨hcheck, h⟩
    obtain ⟨hname, -⟩ := check_bind_eq_ok.1 hcheck
    obtain ⟨-, img, fs, ws, hbuild, hadd, rfl⟩ := yields_add.1 (yields_workspace_bind.1 h)
    obtain ⟨hfree, -, rfl⟩ := Workspace.addLayered_eq_ok.1 hadd
    obtain ⟨_, hsides, hmake⟩ := yields_accept_bind.1 hbuild
    obtain ⟨hnew, rfl⟩ := yields_accept.1 hmake
    obtain ⟨e, he, hblank⟩ := bind_eq_ok.1 hnew
    rw [pure_eq_ok.1 hblank]
    exact ⟨⟨checkImageName_eq_ok.1 hname, hfree⟩, e, Extent.ofSides_eq_ok.1 he,
      Workspace.checkSides_eq_ok.1 hsides, rfl⟩
  · rintro ⟨⟨hname, hfree⟩, e, ⟨rfl, rfl⟩, hsides, rfl⟩
    have hnew : LayeredImage.new e.width e.height = .ok (.blank e) :=
      bind_eq_ok.2 ⟨e, Extent.ofSides_eq_ok.2 ⟨rfl, rfl⟩, rfl⟩
    constructor
    · exact check_bind_eq_ok.2 ⟨checkImageName_eq_ok.2 hname, require_eq_ok.2 e.sides_pos⟩
    · refine yields_workspace_bind.2 (yields_add.2
        ⟨Workspace.checkFreshLayered_eq_ok.2 hfree, .blank e, w.files, _, ?_, ?_, rfl⟩)
      · exact yields_accept_bind.2 ⟨(), Workspace.checkSides_eq_ok.2 hsides,
          yields_accept.2 ⟨hnew, rfl⟩⟩
      · exact Workspace.addLayered_eq_ok.2 ⟨hfree, hsides, rfl⟩

/-- A free name and a picture within bounds are all that a new image needs. -/
theorem acceptedIff_createImage (hs : source.usesFiles = false)
    (hcondition : (∃ g, source.Gives w.workspace g ∧
      g.width ≤ w.workspace.options.maxDimension ∧
        g.height ≤ w.workspace.options.maxDimension) ↔ condition)
    (hleaves : ∀ g ws, source.Gives w.workspace g → ws.images.find? name = some g → leaves ws) :
    (createImage name source).AcceptedIff w (w.workspace.ImageFree name ∧ condition) leaves where
  accepted := by
    simp only [yields_createImage hs, ← hcondition]
    constructor
    · rintro ⟨w', hfree, g, hgives, hsides, -⟩
      exact ⟨hfree, g, hgives, hsides⟩
    · rintro ⟨hfree, g, hgives, hsides⟩
      exact ⟨_, hfree, g, hgives, hsides, rfl⟩
  left := by
    intro w' h
    obtain ⟨-, g, hgives, -, rfl⟩ := (yields_createImage hs).1 h
    refine hleaves g _ hgives ?_
    show (w.workspace.images.insert name g).find? name = some g
    rw [Table.find?_insert, if_pos rfl]
  refused := fun f w' => refused_of_fails (c := createImage name source) hs

theorem acceptedIff_checkerboard {size count : Nat} {first second : Pixel} :
    (createImage name (.checkerboard size count first second)).AcceptedIff w
      (w.workspace.ImageFree name ∧ 0 < size ∧ ∃ s, 0 < s ∧ count = s * s ∧
        s * size ≤ w.workspace.options.maxDimension ∧ (s * size) * (s * size) ≤ maxPixels)
      fun ws => ∃ s, count = s * s ∧ ws.HoldsImage name (s * size) (s * size) := by
  apply acceptedIff_createImage rfl
  · constructor
    · rintro ⟨g, hgives, hw, -⟩
      cases hgives with
      | @checkerboard s _ _ _ e hwidth hheight =>
        obtain ⟨hs, hsize⟩ := Extent.pos_of_width_eq hwidth
        have harea := e.area_le
        rw [hwidth, hheight] at harea
        exact ⟨hsize, s, hs, rfl, hwidth ▸ hw, harea⟩
    · rintro ⟨hsize, s, hs, rfl, hlimit, harea⟩
      have hside := Nat.mul_pos hs hsize
      obtain ⟨e, hwidth, hheight⟩ := Extent.exists_iff.2 ⟨hside, hside, harea⟩
      refine ⟨_, .checkerboard hwidth hheight, ?_, ?_⟩
      · exact Nat.le_trans (Nat.le_of_eq hwidth) hlimit
      · exact Nat.le_trans (Nat.le_of_eq hheight) hlimit
  · intro g ws hgives hfind
    cases hgives with
    | @checkerboard s _ _ _ e hwidth hheight => exact ⟨s, rfl, _, hfind, hwidth, hheight⟩

theorem acceptedIff_transparent {width height : Nat} :
    (createImage name (.transparent width height)).AcceptedIff w
      (w.workspace.ImageFree name ∧ (0 < width ∧ 0 < height) ∧
        (width ≤ w.workspace.options.maxDimension ∧ height ≤ w.workspace.options.maxDimension) ∧
          width * height ≤ maxPixels)
      (·.HoldsImage name width height) := by
  apply acceptedIff_createImage rfl
  · constructor
    · rintro ⟨g, hgives, hsides⟩
      cases hgives with
      | transparent e => exact ⟨⟨e.width_pos, e.height_pos⟩, hsides, e.area_le⟩
    · rintro ⟨⟨hw, hh⟩, hsides, harea⟩
      obtain ⟨e, rfl, rfl⟩ := Extent.exists_iff.2 ⟨hw, hh, harea⟩
      exact ⟨_, .transparent e, hsides⟩
  · intro g ws hgives hfind
    cases hgives with
    | transparent e => exact ⟨_, hfind, rfl, rfl⟩

theorem acceptedIff_blank {width height : Nat} :
    (createLayeredImage name (.blank width height)).AcceptedIff w
      (w.workspace.LayeredFree name ∧ (0 < width ∧ 0 < height) ∧
        (width ≤ w.workspace.options.maxDimension ∧ height ≤ w.workspace.options.maxDimension) ∧
          width * height ≤ maxPixels)
      (·.HoldsLayered name width height) where
  accepted := by
    simp only [yields_createBlank]
    constructor
    · rintro ⟨w', hfree, e, ⟨rfl, rfl⟩, hsides, -⟩
      exact ⟨hfree, ⟨e.width_pos, e.height_pos⟩, hsides, e.area_le⟩
    · rintro ⟨hfree, ⟨hw, hh⟩, hsides, harea⟩
      obtain ⟨e, he⟩ := Extent.exists_iff.2 ⟨hw, hh, harea⟩
      exact ⟨_, hfree, e, he, hsides, rfl⟩
  left := by
    intro w' h
    obtain ⟨-, e, ⟨hw, hh⟩, -, rfl⟩ := yields_createBlank.1 h
    refine ⟨.blank e, ?_, hw, hh⟩
    show (w.workspace.layered.insert name (.blank e)).find? name = some (.blank e)
    rw [Table.find?_insert, if_pos rfl]
  refused := fun f w' => refused_of_fails (c := createLayeredImage name (.blank width height)) rfl

theorem acceptedIff_empty : (createImage name .empty).AcceptedIff w
    (w.workspace.ImageFree name ∧ 1 ≤ w.workspace.options.maxDimension)
    (·.HoldsImage name 1 1) := by
  apply acceptedIff_createImage rfl
  · constructor
    · rintro ⟨g, hgives, hw, -⟩
      cases hgives
      exact hw
    · intro h
      exact ⟨_, .empty, h, h⟩
  · intro g ws hgives hfind
    cases hgives
    exact ⟨_, hfind, rfl, rfl⟩

/-- The stored images are within bounds already, and their names are names. -/
theorem acceptedIff_copy {options : Options} {source : String}
    (hwithin : w.workspace.Within options) :
    (createImage name (.copy source)).AcceptedIff w
      (w.workspace.ImageFree name ∧ ∃ g, w.workspace.images.find? source = some g)
      fun ws => ∃ g, w.workspace.images.find? source = some g ∧ ws.images.find? name = some g := by
  apply acceptedIff_createImage rfl
  · constructor
    · rintro ⟨g, hgives, -⟩
      cases hgives with
      | copy hname hg => exact ⟨g, hg⟩
    · rintro ⟨g, hg⟩
      obtain ⟨hname, hsides⟩ := hwithin.images source g hg
      rw [← hwithin.options_eq] at hsides
      exact ⟨g, .copy hname hg, hsides⟩
  · intro g ws hgives hfind
    cases hgives with
    | copy hname hg => exact ⟨g, hg, hfind⟩

end Command

namespace Session

variable [PictureCodec] [ManifestFormat]

/-- Without files a new image is accepted exactly if its name is free and its sides are within
bounds, as whole numbers of any size; then it has these sides, and otherwise it is refused. -/
theorem creation_accepted_iff (options : Options) (files : FileStore) (calls : List Call) :
    let w := ((new options files).afterAll calls).world
    let limit := options.maxDimension
    (∀ name size count first second,
      (Command.createImage name (.checkerboard size count first second)).AcceptedIff w
        (w.workspace.ImageFree name ∧ 0 < size ∧ ∃ s, 0 < s ∧ count = s * s ∧ s * size ≤ limit ∧
          (s * size) * (s * size) ≤ maxPixels)
        fun ws => ∃ s, count = s * s ∧ ws.HoldsImage name (s * size) (s * size)) ∧
    (∀ name width height, (Command.createImage name (.transparent width height)).AcceptedIff w
      (w.workspace.ImageFree name ∧ (0 < width ∧ 0 < height) ∧ (width ≤ limit ∧ height ≤ limit) ∧
        width * height ≤ maxPixels)
      (·.HoldsImage name width height)) ∧
    (∀ name width height, (Command.createLayeredImage name (.blank width height)).AcceptedIff w
      (w.workspace.LayeredFree name ∧ (0 < width ∧ 0 < height) ∧ (width ≤ limit ∧ height ≤ limit) ∧
        width * height ≤ maxPixels)
      (·.HoldsLayered name width height)) ∧
    (∀ name, (Command.createImage name .empty).AcceptedIff w
      (w.workspace.ImageFree name ∧ 1 ≤ limit) (·.HoldsImage name 1 1)) ∧
    ∀ name source, (Command.createImage name (.copy source)).AcceptedIff w
      (w.workspace.ImageFree name ∧ ∃ g, w.workspace.images.find? source = some g)
      fun ws => ∃ g, w.workspace.images.find? source = some g ∧
        ws.images.find? name = some g := by
  intro w limit
  have hwithin : w.workspace.Within options := within_afterAll calls (Workspace.within_new options)
  have hlimit : limit = w.workspace.options.maxDimension := by rw [hwithin.options_eq]
  rw [hlimit]
  exact ⟨fun _ _ _ _ _ => Command.acceptedIff_checkerboard,
    fun _ _ _ => Command.acceptedIff_transparent, fun _ _ _ => Command.acceptedIff_blank,
    fun _ => Command.acceptedIff_empty, fun _ _ => Command.acceptedIff_copy hwithin⟩

end Session

end RasterScript
