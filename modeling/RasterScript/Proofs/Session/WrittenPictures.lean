import RasterScript.Proofs.Raster.FileRoundTrip
import RasterScript.Proofs.Session.Histories

/-!
# WrittenPictures — a stack that was saved as a PNG file can be had as an image

What a stack looks like is no larger than the stack, and the stack is within the bounds of its
session; so the picture that `save-as-image` has written passes all checks when it is read into an
image with a new name.
-/

namespace RasterScript

variable {w w' : World} {name : String} {p : Path}

section Formats

variable [PictureCodec] [ManifestFormat]

/-! ## 1. Commands -/

/-- A stack that was saved is there, and its file is written. -/
theorem writeFlattened_of_saveAsImage {format : ImageFormat}
    (h : Yields (Command.saveAsImage name format p).execute w () w') :
    p.check = .ok () ∧ ∃ img, w.workspace.layered.find? name = some img ∧
      w'.workspace = w.workspace ∧ Yields (writePicture img.flatten format p
        w.workspace.options.jpegQuality) w.files () w'.files := by
  obtain ⟨hcheck, h⟩ := Command.yields_execute.1 h
  obtain ⟨-, hpath⟩ := check_bind_eq_ok.1 hcheck
  unfold Command.perform at h
  rw [yields_workspace_bind] at h
  obtain ⟨img, himg, h⟩ := yields_action_accept_bind.1 h
  obtain ⟨fs, hwrite, rfl⟩ := yields_onFiles.1 h
  exact ⟨hpath, img, Workspace.layeredImage_eq_ok.1 himg, rfl, hwrite⟩

/-- A picture in a file that is within the bounds becomes an image with a new name. -/
theorem createImage_of_readGrid {g : Grid} (hname : IsName name) (hpath : p.check = .ok ())
    (hfresh : w.workspace.images.find? name = none) (hread : Yields (readGrid p) w.files g w.files)
    (hwidth : g.width ≤ w.workspace.options.maxDimension)
    (hheight : g.height ≤ w.workspace.options.maxDimension) :
    Yields (Command.createImage name (.file p)).execute w ()
      { w with workspace := w.workspace.setImage name g } := by
  have hadd : w.workspace.addImage name g = .ok (w.workspace.setImage name g) :=
    Workspace.addImage_eq_ok.2 ⟨hfresh, ⟨hwidth, hheight⟩, rfl⟩
  refine Command.yields_execute.2 ⟨?_, ?_⟩
  · exact check_bind_eq_ok.2 ⟨checkImageName_eq_ok.2 hname, hpath⟩
  · refine yields_workspace_bind.2 (yields_add.2 ⟨?_, g, w.files, _, hread, hadd, rfl⟩)
    exact Workspace.checkFreshImage_eq_ok.2 hfresh

namespace Session

/-- A line that reads as a command does what the command does. -/
theorem runLine_of_parseLine {s s' : Session} {line : String} {c : Command}
    (hparse : Command.parseLine s.cursor line = .ok c) (hrun : s.run c = (.ok (), s')) :
    s.runLine line = (.ok c, s') := by
  unfold runLine
  rw [hparse]
  dsimp only
  rw [hrun]

/-! ## 2. Sessions -/

/-- In a session, the file of a stack that has just been saved as PNG becomes an image that is what
the stack looks like, and nothing else changes. -/
theorem createImage_of_saveAsImage {options : Options} {files : FileStore} {calls : List Call}
    {call : Call} {key : String} :
    let s := (new options files).afterAll calls
    let s' := s.after call
    s.done call = some (.saveAsImage name .png p) → IsName key →
      s'.world.workspace.images.find? key = none →
        ∃ img, s.world.workspace.layered.find? name = some img ∧
          s'.run (.createImage key (.file p)) = (.ok (), { s' with world :=
            { s'.world with workspace := s'.world.workspace.setImage key img.flatten } }) := by
  intro s s' hdone hkey hfresh
  obtain ⟨hsave, -⟩ := run_ok (run_of_done hdone)
  obtain ⟨hpath, img, himg, hsame, hwrite⟩ := writeFlattened_of_saveAsImage hsave
  refine ⟨img, himg, ?_⟩
  -- the sides of the stack were within bounds when it came in, and are still the same
  have hwithin : s.world.workspace.Within options :=
    within_afterAll calls (Workspace.within_new options)
  obtain ⟨-, hwidth, hheight⟩ := hwithin.layered name img himg
  rw [← hwithin.options_eq, ← hsame] at hwidth hheight
  have hcreate := createImage_of_readGrid (w := s'.world) hkey hpath hfresh
    (readGrid_of_writePng hwrite) hwidth hheight
  obtain ⟨cursor, hrun⟩ := run_of_yields hcreate
  -- a new image leaves the cursor where it is
  obtain ⟨-, hcursor⟩ := run_ok hrun
  cases hcursor
  exact hrun

/-- Whatever is written as PNG is read as it was.  What is written as PPM is read with its colours
and fully visible, and from then on PPM keeps it as it is.  In every session a stack that has been
saved as a PNG file can be made an image of any new name, which is what the stack looks like. -/
theorem written_pictures_are_read :
    (∀ g p quality fs fs', Yields (writePicture g .png p quality) fs () fs' →
      Yields (readGrid p) fs' g fs') ∧
    (∀ g p quality fs fs', Yields (writePicture g .ppm p quality) fs () fs' →
      ∃ g', Yields (readGrid p) fs' g' fs' ∧ g'.width = g.width ∧ g'.height = g.height ∧
        (∀ x y, g'.pixel x y = (g.pixel x y).map fun v => ⟨v.red, v.green, v.blue, 255⟩) ∧
        Yields (writePicture g' .ppm p quality) fs' () fs' ∧
        ∀ p' quality' fs₁ fs₂, Yields (writePicture g' .ppm p' quality') fs₁ () fs₂ →
          Yields (readGrid p') fs₂ g' fs₂) ∧
    ∀ options files calls call name p key,
      let s := (new options files).afterAll calls
      let s' := s.after call
      s.done call = some (.saveAsImage name .png p) → IsName key →
        s'.world.workspace.images.find? key = none →
          ∃ img, s.world.workspace.layered.find? name = some img ∧
            let result : Session := { s' with world :=
              { s'.world with workspace := s'.world.workspace.setImage key img.flatten } }
            s'.run (.createImage key (.file p)) = (.ok (), result) ∧
            ∀ line, Command.parseLine s'.cursor line = .ok (.createImage key (.file p)) →
              s'.runLine line = (.ok (.createImage key (.file p)), result) := by
  refine ⟨?_, ?_, ?_⟩
  · intro g p quality fs fs' h
    exact readGrid_of_writePng h
  · intro g p quality fs fs' h
    refine ⟨g.solid, readGrid_of_writePpm h, rfl, rfl, g.pixel_solid, writePpm_solid h, ?_⟩
    intro p' quality' fs₁ fs₂ hagain
    -- the opacities that get lost are full already
    have hread := readGrid_of_writePpm hagain
    rw [Grid.solid_solid] at hread
    exact hread
  · intro options files calls call name p key s s' hdone hkey hfresh
    obtain ⟨img, himg, hrun⟩ := createImage_of_saveAsImage hdone hkey hfresh
    exact ⟨img, himg, hrun, fun line hparse => runLine_of_parseLine hparse hrun⟩

end Session

end Formats

theorem Session.written_pictures_are_read_one_pixel :
    let files : FileStore := ⟨∅, [], none⟩
    let grey : Grid := .fill .single ⟨7, 7, 7, 100⟩
    let png := (outcome (writePicture grey .png ⟨"a.png"⟩ 90) files).2
    let ppm := (outcome (writePicture grey .ppm ⟨"a.ppm"⟩ 90) files).2
    let s := (new .standard files).afterAll [.line "create-layered-image blank a 1 1"]
    let s' := s.after (.command (.saveAsImage "a" .png ⟨"a.png"⟩))
    Yields (readGrid ⟨"a.png"⟩) png grey png ∧
    (∃ g', Yields (readGrid ⟨"a.ppm"⟩) ppm g' ppm ∧ g'.pixel 0 0 = .ok ⟨7, 7, 7, 255⟩) ∧
    ∃ img : LayeredImage, s.world.workspace.layered.find? "a" = some img ∧
      (s'.runLine "create-image from-file b a.png").2.world.workspace.images.find? "b" =
        some img.flatten := by
  intro files grey png ppm s s'
  obtain ⟨hpng, hppm, hsession⟩ := written_pictures_are_read
  refine ⟨hpng grey ⟨"a.png"⟩ 90 files png (yields_of_outcome rfl), ?_, ?_⟩
  · obtain ⟨g', hread, -, -, hpixel, -⟩ :=
      hppm grey ⟨"a.ppm"⟩ 90 files ppm (yields_of_outcome rfl)
    exact ⟨g', hread, hpixel 0 0⟩
  · have hsaved : s.done (.command (.saveAsImage "a" .png ⟨"a.png"⟩)) =
        some (.saveAsImage "a" .png ⟨"a.png"⟩) := by rfl
    have hfresh : s'.world.workspace.images.find? "b" = none := by rfl
    obtain ⟨img, himg, -, hline⟩ := hsession .standard files _ _ "a" ⟨"a.png"⟩ "b" hsaved
      (by decide) hfresh
    refine ⟨img, himg, ?_⟩
    rw [hline "create-image from-file b a.png" rfl]
    show (Table.insert _ "b" img.flatten).find? "b" = _
    rw [Table.find?_insert, if_pos rfl]

end RasterScript
