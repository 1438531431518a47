import RasterScript.Proofs.Session.FailedCall

/-!
# SoundImages — what the stores hold after any run of calls

Blending, filters and all indexing rely on facts about the stored images that they do not check.
`Workspace.Within` is what the steps of a workspace keep: names that a script can write and sides
within bounds, the same bounds all along.  The rest of `Workspace.Sound` comes with the images
themselves, which carry it.
-/

namespace RasterScript

/-! ## 1. Sound images -/

/-- A picture with sides from 1 to `limit`, not too many pixels, and one buffer entry for each. -/
structure Grid.Sound (limit : Nat) (g : Grid) : Prop where
  width_bounds : 1 ≤ g.width ∧ g.width ≤ limit
  height_bounds : 1 ≤ g.height ∧ g.height ≤ limit
  area_le : g.width * g.height ≤ maxPixels
  buffer : g.pixels.size = g.width * g.height

/-- A stack with sides from 1 to `limit` whose layers have its size, full buffers, and names that
are not empty, hold neither blanks nor separators, and differ from each other. -/
structure LayeredImage.Sound (limit : Nat) (img : LayeredImage) : Prop where
  width_bounds : 1 ≤ img.width ∧ img.width ≤ limit
  height_bounds : 1 ≤ img.height ∧ img.height ≤ limit
  area_le : img.width * img.height ≤ maxPixels
  names_differ : img.names.Nodup
  names_valid : ∀ name ∈ img.names,
    name ≠ "" ∧ ∀ c ∈ name.toList, isBlank c = false ∧ c ≠ '/' ∧ c ≠ '\\'
  layers_fit : ∀ l ∈ img.layers, l.grid.width = img.width ∧ l.grid.height = img.height ∧
    l.grid.pixels.size = img.width * img.height

/-- The options are as given, and both stores hold sound images under names without blanks. -/
structure Workspace.Sound (options : Options) (ws : Workspace) : Prop where
  options_eq : ws.options = options
  images : ∀ name g, ws.images.find? name = some g →
    (name ≠ "" ∧ ∀ c ∈ name.toList, isBlank c = false) ∧ g.Sound options.maxDimension
  layered : ∀ name img, ws.layered.find? name = some img →
    (name ≠ "" ∧ ∀ c ∈ name.toList, isBlank c = false) ∧ img.Sound options.maxDimension

theorem Grid.sound_of_le {limit : Nat} {g : Grid} (hw : g.width ≤ limit) (hh : g.height ≤ limit) :
    g.Sound limit where
  width_bounds := ⟨g.extent.width_pos, hw⟩
  height_bounds := ⟨g.extent.height_pos, hh⟩
  area_le := g.extent.area_le
  buffer := g.size_eq

theorem LayeredImage.sound_of_le {limit : Nat} {img : LayeredImage} (hw : img.width ≤ limit)
    (hh : img.height ≤ limit) : img.Sound limit where
  width_bounds := ⟨img.extent.width_pos, hw⟩
  height_bounds := ⟨img.extent.height_pos, hh⟩
  area_le := img.extent.area_le
  names_differ := img.names_nodup
  names_valid := by
    intro name hname
    unfold names at hname
    obtain ⟨l, -, rfl⟩ := List.mem_map.1 hname
    obtain ⟨⟨hne, hblank⟩, hsep⟩ := l.name_valid
    exact ⟨hne, fun c hc => ⟨hblank c hc, hsep c hc⟩⟩
  layers_fit := by
    intro l hl
    have hextent := img.same_extent l hl
    have hsize := l.grid.size_eq
    rw [hextent] at hsize
    unfold Grid.width Grid.height
    rw [hextent]
    exact ⟨rfl, rfl, hsize⟩

/-! ## 2. The invariant -/

namespace Workspace

/-- What every step keeps. -/
structure Within (options : Options) (ws : Workspace) : Prop where
  options_eq : ws.options = options
  images : ∀ name g, ws.images.find? name = some g →
    IsName name ∧ g.width ≤ options.maxDimension ∧ g.height ≤ options.maxDimension
  layered : ∀ name img, ws.layered.find? name = some img →
    IsName name ∧ img.width ≤ options.maxDimension ∧ img.height ≤ options.maxDimension

theorem within_new (options : Options) : (new options).Within options where
  options_eq := rfl
  images := by
    intro name g h
    cases h
  layered := by
    intro name img h
    cases h

/-- What holds of all entries of a store and of a further one holds of all entries after it has been
put in. -/
theorem forall_find?_insert {α : Type} {t : Table String α} {name : String} {v : α}
    {P : String → α → Prop} (ht : ∀ k x, t.find? k = some x → P k x) (hv : P name v) :
    ∀ k x, (t.insert name v).find? k = some x → P k x := by
  intro k x hfind
  rw [Table.find?_insert] at hfind
  split at hfind
  · rename_i heq
    cases hfind
    exact heq ▸ hv
  · exact ht k x hfind

theorem Within.setImage {options : Options} {ws : Workspace} (h : ws.Within options)
    {name : String} {g : Grid} (hname : IsName name) (hw : g.width ≤ options.maxDimension)
    (hh : g.height ≤ options.maxDimension) : (ws.setImage name g).Within options where
  options_eq := h.options_eq
  images := forall_find?_insert h.images ⟨hname, hw, hh⟩
  layered := h.layered

theorem Within.setLayered {options : Options} {ws : Workspace} (h : ws.Within options)
    {name : String} {img : LayeredImage} (hname : IsName name)
    (hw : img.width ≤ options.maxDimension) (hh : img.height ≤ options.maxDimension) :
    (ws.setLayered name img).Within options where
  options_eq := h.options_eq
  images := h.images
  layered := forall_find?_insert h.layered ⟨hname, hw, hh⟩

/-- A step lemma: an edited image stands under a name that had been accepted, with a size that had
been accepted. -/
theorem Within.step {options : Options} {ws ws' : Workspace} (h : ws.Within options)
    (hs : ws.Step ws') : ws'.Within options := by
  have hoptions := h.options_eq
  cases hs with
  | same => exact h
  | newImage hname hfresh hw hh =>
    rw [hoptions] at hw hh
    exact h.setImage hname hw hh
  | newLayered hname hfresh hw hh =>
    rw [hoptions] at hw hh
    exact h.setLayered hname hw hh
  | editImage hg hsize =>
    obtain ⟨hname, hw, hh⟩ := h.images _ _ hg
    unfold Grid.width at hw
    unfold Grid.height at hh
    rw [← hsize] at hw hh
    exact h.setImage hname hw hh
  | editLayered himg hsize =>
    obtain ⟨hname, hw, hh⟩ := h.layered _ _ himg
    unfold LayeredImage.width at hw
    unfold LayeredImage.height at hh
    rw [← hsize] at hw hh
    exact h.setLayered hname hw hh

theorem Within.sound {options : Options} {ws : Workspace} (h : ws.Within options) :
    ws.Sound options where
  options_eq := h.options_eq
  images := by
    intro name g hg
    obtain ⟨hname, hw, hh⟩ := h.images name g hg
    exact ⟨hname, Grid.sound_of_le hw hh⟩
  layered := by
    intro name img himg
    obtain ⟨hname, hw, hh⟩ := h.layered name img himg
    exact ⟨hname, LayeredImage.sound_of_le hw hh⟩

end Workspace

/-! ## 3. Runs of calls -/

namespace Session

variable [PictureCodec] [ManifestFormat]

/-- What can happen to a session: it is given a line or a command, or other programs leave the
files in another state. -/
inductive Call
  | line (line : String)
  | command (c : Command)
  | files (files : FileStore)

/-- The session after a call, whether the call succeeds or fails. -/
def after (s : Session) : Call → Session
  | .line line => (s.runLine line).2
  | .command c => (s.run c).2
  | .files files => { s with world := { s.world with files := files } }

/-- The session after calls one after the other. -/
def afterAll (s : Session) (calls : List Call) : Session := calls.foldl after s

theorem step_run (s : Session) (c : Command) :
    s.world.workspace.Step (s.run c).2.world.workspace := by
  rcases run_cases s c with ⟨w, cursor, hy, hrun⟩ | ⟨f, w, hf, hrun⟩
  · rw [hrun]
    exact Command.step_of_execute hy
  · -- a failure is a step too: the files may differ, the workspace does not
    have hkeep := c.changesLast_execute _ _ _ hf
    rw [hrun]
    show s.world.workspace.Step w.workspace
    rw [hkeep]
    exact .same

theorem step_after (s : Session) (call : Call) :
    s.world.workspace.Step (s.after call).world.workspace := by
  cases call with
  | line line =>
    show s.world.workspace.Step (s.runLine line).2.world.workspace
    rcases runLine_cases s line with ⟨r, -, hl⟩ | ⟨c, -, hl⟩
    · rw [hl]
      exact .same
    · rw [hl]
      exact step_run s c
  | command c => exact step_run s c
  | files files => exact .same

theorem within_afterAll {options : Options} {s : Session} (calls : List Call)
    (h : s.world.workspace.Within options) :
    (s.afterAll calls).world.workspace.Within options := by
  unfold afterAll
  -- the invariant of one step, call by call
  induction calls generalizing s with
  | nil => exact h
  | cons call calls ih => exact ih (h.step (step_after s call))

/-- Whatever lines and commands a session is given, and whatever becomes of the files meanwhile, its
stores hold sound images only. -/
theorem images_sound (options : Options) (files : FileStore) (calls : List Call) :
    ((new options files).afterAll calls).world.workspace.Sound options := by
  apply Workspace.Within.sound
  apply within_afterAll
  exact Workspace.within_new options

end Session

end RasterScript
