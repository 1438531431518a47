import RasterScript.Command.Execute
import RasterScript.Proofs.Outcome

/-!
# Effect — what one command does to the workspace

A command looks first and changes the workspace last, in one step, so a command that fails has
changed no image.  `Workspace.Step` lists what that one step can be; `step_of_execute` reads it off
a command, and all invariants of a session are proved from it without looking at commands again.
-/

namespace RasterScript

variable {α β : Type}

/-! ## 1. Looking first and changing last -/

/-- The action leaves the workspace as it finds it, whichever way it ends. -/
def KeepsWorkspace (a : Action α) : Prop := ∀ w, (outcome a w).2.workspace = w.workspace

/-- If the action fails, it has not changed the workspace. -/
def ChangesLast (a : Action α) : Prop := ∀ w f w', Fails a w f w' → w'.workspace = w.workspace

theorem keepsWorkspace_accept (r : Except Refusal α) : KeepsWorkspace (Action.accept r) := by
  intro w
  cases r with
  | ok x => rfl
  | error c => rfl

theorem keepsWorkspace_workspace : KeepsWorkspace Action.workspace := fun _ => rfl

theorem keepsWorkspace_onFiles (a : FileAction α) : KeepsWorkspace (Action.onFiles a) := by
  intro w
  rw [outcome_onFiles]

theorem changesLast_of_keeps {a : Action α} (ha : KeepsWorkspace a) : ChangesLast a := by
  intro w f w' hf
  have hw := ha w
  unfold Fails at hf
  rw [hf] at hw
  exact hw

theorem changesLast_setWorkspace (ws : Workspace) : ChangesLast (Action.setWorkspace ws) := by
  intro w f w' hf
  exact absurd hf fails_setWorkspace

theorem changesLast_bind {a : Action α} {g : α → Action β} (ha : KeepsWorkspace a)
    (hg : ∀ x, ChangesLast (g x)) : ChangesLast (a >>= g) := by
  intro w f w'' h
  rcases fails_bind.1 h with hf | ⟨x, w', hx, hf⟩
  · exact changesLast_of_keeps ha w f w'' hf
  · have hw := ha w
    -- what the first step leaves is what the rest begins with
    unfold Yields at hx
    rw [hx] at hw
    exact (hg x w' f w'' hf).trans hw

/-- Setting the workspace to what a request gives is one change, made if the request is granted. -/
theorem changesLast_accept_set (r : Except Refusal Workspace) :
    ChangesLast (Action.accept r >>= Action.setWorkspace) :=
  changesLast_bind (keepsWorkspace_accept r) changesLast_setWorkspace

section Formats

variable [PictureCodec] [ManifestFormat]

theorem Command.changesLast_perform (c : Command) : ChangesLast c.perform := by
  unfold Command.perform
  apply changesLast_bind keepsWorkspace_workspace
  intro ws
  cases c with
  | createImage name source =>
    apply changesLast_bind (keepsWorkspace_accept _)
    intro _
    apply changesLast_bind (keepsWorkspace_onFiles _)
    intro g
    exact changesLast_accept_set _
  | createLayeredImage name source =>
    apply changesLast_bind (keepsWorkspace_accept _)
    intro _
    apply changesLast_bind (keepsWorkspace_onFiles _)
    intro img
    exact changesLast_accept_set _
  | updateColor target x y color => exact changesLast_accept_set _
  | applyMutator target kind => exact changesLast_accept_set _
  -- from here to `setCurrentLayer` no branch sets the workspace
  | save target format path =>
    apply changesLast_bind (keepsWorkspace_accept _)
    intro g
    exact changesLast_of_keeps (keepsWorkspace_onFiles _)
  | saveLayered name directory =>
    apply changesLast_bind (keepsWorkspace_accept _)
    intro img
    exact changesLast_of_keeps (keepsWorkspace_onFiles _)
  | saveAsImage name format path =>
    apply changesLast_bind (keepsWorkspace_accept _)
    intro img
    exact changesLast_of_keeps (keepsWorkspace_onFiles _)
  | load name =>
    apply changesLast_bind (keepsWorkspace_accept _)
    intro img
    exact changesLast_of_keeps fun _ => rfl
  | setCurrentLayer name layer =>
    apply changesLast_bind (keepsWorkspace_accept _)
    intro img
    apply changesLast_bind (keepsWorkspace_accept _)
    intro l
    exact changesLast_of_keeps fun _ => rfl
  | addLayer name layer => exact changesLast_accept_set _
  | copyLayer name layer source => exact changesLast_accept_set _
  | addImageAsLayer name layer path =>
    apply changesLast_bind (keepsWorkspace_accept _)
    intro img
    -- the layer comes out of a file, and nothing can go wrong after it has been read
    exact changesLast_bind (keepsWorkspace_onFiles _) fun _ => changesLast_setWorkspace _
  | moveLayer name layer index => exact changesLast_accept_set _
  | removeLayer name layer => exact changesLast_accept_set _
  | updateVisibility name layer visible => exact changesLast_accept_set _

theorem Command.changesLast_execute (c : Command) : ChangesLast c.execute :=
  changesLast_bind (keepsWorkspace_accept _) fun _ => c.changesLast_perform

end Formats

/-! ## 2. Edits of a stack keep its size -/

namespace LayeredImage

variable {img img' : LayeredImage}

theorem extent_addLayer {name : String} (h : img.addLayer name = .ok img') :
    img'.extent = img.extent := by
  unfold addLayer at h
  obtain ⟨n, -, h⟩ := bind_eq_ok.1 h
  rw [pure_eq_ok.1 h]
  rfl

theorem extent_copyLayer {name source : String} (h : img.copyLayer name source = .ok img') :
    img'.extent = img.extent := by
  unfold copyLayer at h
  obtain ⟨n, -, h⟩ := bind_eq_ok.1 h
  split at h
  · cases h
  · rw [pure_eq_ok.1 h]
    rfl

theorem extent_addGrid {name : String} {g : Grid} (h : img.addGrid name g = .ok img') :
    img'.extent = img.extent := by
  unfold addGrid at h
  obtain ⟨n, -, h⟩ := bind_eq_ok.1 h
  obtain ⟨g', -, h⟩ := bind_eq_ok.1 h
  rw [pure_eq_ok.1 h]
  rfl

theorem extent_moveLayer {name : String} {index : Nat} (h : img.moveLayer name index = .ok img') :
    img'.extent = img.extent := by
  unfold moveLayer at h
  split at h
  · cases h
  · split at h
    · cases h
      rfl
    · cases h

theorem extent_removeLayer {name : String} (h : img.removeLayer name = .ok img') :
    img'.extent = img.extent := by
  unfold removeLayer at h
  obtain ⟨l, -, h⟩ := bind_eq_ok.1 h
  rw [pure_eq_ok.1 h]
  rfl

theorem extent_setVisibility {name : String} {visible : Bool}
    (h : img.setVisibility name visible = .ok img') : img'.extent = img.extent := by
  unfold setVisibility at h
  obtain ⟨l, -, h⟩ := bind_eq_ok.1 h
  rw [pure_eq_ok.1 h]
  rfl

theorem extent_setPixel {name : String} {x y : Nat} {v : Pixel}
    (h : img.setPixel name x y v = .ok img') : img'.extent = img.extent := by
  unfold setPixel at h
  split at h
  · cases h
  · split at h
    · cases h
    · cases h
      rfl

theorem extent_mutate {name : String} {m : Mutator} (h : img.mutate name m = .ok img') :
    img'.extent = img.extent := by
  unfold mutate at h
  split at h
  · cases h
  · cases h
    rfl

end LayeredImage

/-! ## 3. The one step of a command -/

namespace Workspace

/-- What a command that is carried out can do to a workspace.  New images have new names and sides
within bounds; an edited image keeps its name and size. -/
inductive Step (ws : Workspace) : Workspace → Prop
  | same : ws.Step ws
  | newImage {name : String} {g : Grid} (hname : IsName name)
      (hfresh : ws.images.find? name = none)
      (hw : g.width ≤ ws.options.maxDimension) (hh : g.height ≤ ws.options.maxDimension) :
      ws.Step (ws.setImage name g)
  | newLayered {name : String} {img : LayeredImage} (hname : IsName name)
      (hfresh : ws.layered.find? name = none)
      (hw : img.width ≤ ws.options.maxDimension) (hh : img.height ≤ ws.options.maxDimension) :
      ws.Step (ws.setLayered name img)
  | editImage {name : String} {g g' : Grid} (hg : ws.images.find? name = some g)
      (hsize : g'.extent = g.extent) : ws.Step (ws.setImage name g')
  | editLayered {name : String} {img img' : LayeredImage} (himg : ws.layered.find? name = some img)
      (hsize : img'.extent = img.extent) : ws.Step (ws.setLayered name img')

variable {ws ws' : Workspace}

theorem image_eq_ok {name : String} {g : Grid} :
    ws.image name = .ok g ↔ ws.images.find? name = some g := by
  unfold image
  cases h : ws.images.find? name with
  | none => simp
  | some g' => simp

theorem layeredImage_eq_ok {name : String} {img : LayeredImage} :
    ws.layeredImage name = .ok img ↔ ws.layered.find? name = some img := by
  unfold layeredImage
  cases h : ws.layered.find? name with
  | none => simp
  | some img' => simp

theorem checkSides_eq_ok {w h : Nat} : ws.checkSides w h = .ok () ↔
    w ≤ ws.options.maxDimension ∧ h ≤ ws.options.maxDimension := by
  unfold checkSides
  rw [require_eq_ok]
  simp

theorem not_contains_iff {α : Type} {t : Table String α} {name : String} :
    (!t.contains name) = true ↔ t.find? name = none := by
  unfold Table.contains
  cases t.find? name with
  | none => simp
  | some v => simp

theorem checkFreshImage_eq_ok {name : String} :
    ws.checkFreshImage name = .ok () ↔ ws.images.find? name = none := by
  unfold checkFreshImage
  rw [require_eq_ok, not_contains_iff]

theorem checkFreshLayered_eq_ok {name : String} :
    ws.checkFreshLayered name = .ok () ↔ ws.layered.find? name = none := by
  unfold checkFreshLayered
  rw [require_eq_ok, not_contains_iff]

theorem addImage_eq_ok {name : String} {g : Grid} : ws.addImage name g = .ok ws' ↔
    ws.images.find? name = none ∧
      (g.width ≤ ws.options.maxDimension ∧ g.height ≤ ws.options.maxDimension) ∧
        ws' = ws.setImage name g := by
  unfold addImage
  rw [check_bind_eq_ok, check_bind_eq_ok, checkFreshImage_eq_ok, checkSides_eq_ok, pure_eq_ok]

theorem addLayered_eq_ok {name : String} {img : LayeredImage} : ws.addLayered name img = .ok ws' ↔
    ws.layered.find? name = none ∧
      (img.width ≤ ws.options.maxDimension ∧ img.height ≤ ws.options.maxDimension) ∧
        ws' = ws.setLayered name img := by
  unfold addLayered
  rw [check_bind_eq_ok, check_bind_eq_ok, checkFreshLayered_eq_ok, checkSides_eq_ok, pure_eq_ok]

theorem step_of_addImage {name : String} {g : Grid} (hname : IsName name)
    (h : ws.addImage name g = .ok ws') : ws.Step ws' := by
  obtain ⟨hfresh, ⟨hw, hh⟩, rfl⟩ := addImage_eq_ok.1 h
  exact .newImage hname hfresh hw hh

theorem step_of_addLayered {name : String} {img : LayeredImage} (hname : IsName name)
    (h : ws.addLayered name img = .ok ws') : ws.Step ws' := by
  obtain ⟨hfresh, ⟨hw, hh⟩, rfl⟩ := addLayered_eq_ok.1 h
  exact .newLayered hname hfresh hw hh

theorem step_of_setPixel {x y : Nat} {v : Pixel} {target : Target}
    (h : ws.setPixel x y v target = .ok ws') : ws.Step ws' := by
  cases target with
  | image name =>
    obtain ⟨g, hg, h⟩ := bind_eq_ok.1 h
    obtain ⟨g', hset, h⟩ := bind_eq_ok.1 h
    rw [pure_eq_ok.1 h]
    exact .editImage (image_eq_ok.1 hg) (Grid.extent_setPixel hset)
  | layer stack name =>
    obtain ⟨img, himg, h⟩ := bind_eq_ok.1 h
    obtain ⟨img', hset, h⟩ := bind_eq_ok.1 h
    rw [pure_eq_ok.1 h]
    exact .editLayered (layeredImage_eq_ok.1 himg) (LayeredImage.extent_setPixel hset)

theorem step_of_mutate {m : Mutator} {target : Target} (h : ws.mutate m target = .ok ws') :
    ws.Step ws' := by
  cases target with
  | image name =>
    obtain ⟨g, hg, h⟩ := bind_eq_ok.1 h
    rw [pure_eq_ok.1 h]
    exact .editImage (image_eq_ok.1 hg) (m.extent_apply g)
  | layer stack name =>
    obtain ⟨img, himg, h⟩ := bind_eq_ok.1 h
    obtain ⟨img', hm, h⟩ := bind_eq_ok.1 h
    rw [pure_eq_ok.1 h]
    exact .editLayered (layeredImage_eq_ok.1 himg) (LayeredImage.extent_mutate hm)

theorem step_of_edit {name : String} {f : LayeredImage → Except Refusal LayeredImage}
    (hf : ∀ {img img'}, f img = .ok img' → img'.extent = img.extent)
    (h : ws.edit name f = .ok ws') : ws.Step ws' := by
  unfold edit at h
  obtain ⟨img, himg, h⟩ := bind_eq_ok.1 h
  obtain ⟨img', hedit, h⟩ := bind_eq_ok.1 h
  rw [pure_eq_ok.1 h]
  exact .editLayered (layeredImage_eq_ok.1 himg) (hf hedit)

end Workspace

theorem yields_accept_set {r : Except Refusal Workspace} {w w' : World}
    (h : Yields (Action.accept r >>= Action.setWorkspace) w () w') : r = .ok w'.workspace := by
  obtain ⟨ws, hr, hset⟩ := yields_action_accept_bind.1 h
  rw [yields_setWorkspace.1 hset]
  exact hr

/-- Something is put in under a new name: the name is free, what it will stand for can be had, and
the workspace takes it in. -/
theorem yields_add {fresh : Except Refusal Unit} {build : FileAction α}
    {add : α → Except Refusal Workspace} {w w' : World} :
    Yields (Action.accept fresh >>= fun _ => Action.onFiles build >>= fun x =>
        Action.accept (add x) >>= Action.setWorkspace) w () w' ↔
      fresh = .ok () ∧ ∃ x fs ws, Yields build w.files x fs ∧ add x = .ok ws ∧ w' = ⟨ws, fs⟩ := by
  constructor
  · intro h
    obtain ⟨_, hfresh, hbuild⟩ := yields_action_accept_bind.1 h
    obtain ⟨x, w₁, hfiles, hadd⟩ := yields_bind.1 hbuild
    obtain ⟨fs, hx, rfl⟩ := yields_onFiles.1 hfiles
    obtain ⟨ws, hws, hset⟩ := yields_action_accept_bind.1 hadd
    exact ⟨hfresh, x, fs, ws, hx, hws, yields_setWorkspace.1 hset⟩
  · rintro ⟨hfresh, x, fs, ws, hx, hws, rfl⟩
    refine yields_action_accept_bind.2 ⟨(), hfresh, ?_⟩
    refine yields_bind.2 ⟨x, _, yields_onFiles.2 ⟨fs, hx, rfl⟩, ?_⟩
    exact yields_action_accept_bind.2 ⟨ws, hws, yields_setWorkspace.2 rfl⟩

section Formats

variable [PictureCodec]

theorem extent_addPicture {img img' : LayeredImage} {name : String} {p : Path}
    {fs fs' : FileStore} (h : Yields (img.addPicture name p) fs img' fs') :
    img'.extent = img.extent := by
  unfold LayeredImage.addPicture at h
  obtain ⟨n, -, h⟩ := yields_accept_bind.1 h
  obtain ⟨g, fs₁, -, h⟩ := yields_bind.1 h
  exact LayeredImage.extent_addGrid (yields_accept.1 h).1

variable [ManifestFormat]

theorem Command.yields_execute {c : Command} {w w' : World} :
    Yields c.execute w () w' ↔ c.check = .ok () ∧ Yields c.perform w () w' := by
  unfold Command.execute
  rw [yields_action_accept_bind]
  exact ⟨fun ⟨_, h⟩ => h, fun h => ⟨(), h⟩⟩

/-- A command that is carried out takes the workspace one step further. -/
theorem Command.step_of_execute {c : Command} {w w' : World} (h : Yields c.execute w () w') :
    w.workspace.Step w'.workspace := by
  obtain ⟨hcheck, h⟩ := yields_execute.1 h
  unfold Command.perform at h
  rw [yields_workspace_bind] at h
  cases c with
  | createImage name source =>
    obtain ⟨hname, -⟩ := check_bind_eq_ok.1 hcheck
    obtain ⟨-, g, fs, ws, -, hadd, rfl⟩ := yields_add.1 h
    exact Workspace.step_of_addImage (checkImageName_eq_ok.1 hname) hadd
  | createLayeredImage name source =>
    obtain ⟨hname, -⟩ := check_bind_eq_ok.1 hcheck
    obtain ⟨-, img, fs, ws, -, hadd, rfl⟩ := yields_add.1 h
    exact Workspace.step_of_addLayered (checkImageName_eq_ok.1 hname) hadd
  | updateColor target x y color => exact Workspace.step_of_setPixel (yields_accept_set h)
  | applyMutator target kind => exact Workspace.step_of_mutate (yields_accept_set h)
  | save target format path =>
    obtain ⟨g, -, h⟩ := yields_action_accept_bind.1 h
    obtain ⟨fs, -, rfl⟩ := yields_onFiles.1 h
    exact .same
  | saveLayered name directory =>
    obtain ⟨img, -, h⟩ := yields_action_accept_bind.1 h
    obtain ⟨fs, -, rfl⟩ := yields_onFiles.1 h
    exact .same
  | saveAsImage name format path =>
    obtain ⟨img, -, h⟩ := yields_action_accept_bind.1 h
    obtain ⟨fs, -, rfl⟩ := yields_onFiles.1 h
    exact .same
  | load name =>
    obtain ⟨img, -, h⟩ := yields_action_accept_bind.1 h
    rw [(yields_pure.1 h).2]
    exact .same
  | setCurrentLayer name layer =>
    obtain ⟨img, -, h⟩ := yields_action_accept_bind.1 h
    obtain ⟨l, -, h⟩ := yields_action_accept_bind.1 h
    rw [(yields_pure.1 h).2]
    exact .same
  | addLayer name layer =>
    exact Workspace.step_of_edit LayeredImage.extent_addLayer (yields_accept_set h)
  | copyLayer name layer source =>
    exact Workspace.step_of_edit LayeredImage.extent_copyLayer (yields_accept_set h)
  -- the grid comes from a file, so this is not an `edit`
  | addImageAsLayer name layer path =>
    obtain ⟨img, himg, h⟩ := yields_action_accept_bind.1 h
    obtain ⟨img', w₁, hadd, h⟩ := yields_bind.1 h
    obtain ⟨fs, hread, rfl⟩ := yields_onFiles.1 hadd
    rw [yields_setWorkspace.1 h]
    exact .editLayered (Workspace.layeredImage_eq_ok.1 himg) (extent_addPicture hread)
  | moveLayer name layer index =>
    exact Workspace.step_of_edit LayeredImage.extent_moveLayer (yields_accept_set h)
  | removeLayer name layer =>
    exact Workspace.step_of_edit LayeredImage.extent_removeLayer (yields_accept_set h)
  | updateVisibility name layer visible =>
    exact Workspace.step_of_edit LayeredImage.extent_setVisibility (yields_accept_set h)

end Formats

end RasterScript
