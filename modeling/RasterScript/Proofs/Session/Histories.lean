import Mathlib.Data.List.Induction
import RasterScript.Proofs.Session.SoundImages

/-!
# Histories — what stays in a session, and when its cursor moves

A step of a workspace puts an image under a new name or another image of the same size under an old
one, so whatever is stored stays stored and keeps its size (`Workspace.Keeps`).  The cursor moves
only when a `load` or a `set-current-layer` is carried out, and what it then means has just been
looked up.  The image it means is still there later; the layer may be gone by then, but it was there
when the cursor was moved last (`LastMove`).
-/

namespace RasterScript

/-! ## 1. What stays -/

namespace Workspace

/-- Everything that `ws` stores is stored under the same name in `ws'`, in the same size. -/
structure Keeps (ws ws' : Workspace) : Prop where
  images : ∀ name g, ws.images.find? name = some g →
    ∃ g', ws'.images.find? name = some g' ∧ g'.extent = g.extent
  layered : ∀ name img, ws.layered.find? name = some img →
    ∃ img', ws'.layered.find? name = some img' ∧ img'.extent = img.extent

variable {ws ws' ws'' : Workspace}

theorem Keeps.refl (ws : Workspace) : ws.Keeps ws where
  images := fun _ g h => ⟨g, h, rfl⟩
  layered := fun _ img h => ⟨img, h, rfl⟩

theorem Keeps.trans (h : ws.Keeps ws') (h' : ws'.Keeps ws'') : ws.Keeps ws'' where
  images := by
    intro name g hg
    obtain ⟨g', hg', hsize⟩ := h.images name g hg
    obtain ⟨g'', hg'', hsize'⟩ := h'.images name g' hg'
    exact ⟨g'', hg'', hsize'.trans hsize⟩
  layered := by
    intro name img himg
    obtain ⟨img', himg', hsize⟩ := h.layered name img himg
    obtain ⟨img'', himg'', hsize'⟩ := h'.layered name img' himg'
    exact ⟨img'', himg'', hsize'.trans hsize⟩

/-- An entry that is put in replaces at most one of its own name, and that one has the property
that it shall have. -/
theorem exists_find?_insert {α : Type} {t : Table String α} {name key : String} {v x : α}
    {P : α → α → Prop} (hrefl : ∀ a, P a a) (hv : ∀ a, t.find? name = some a → P v a)
    (h : t.find? key = some x) : ∃ x', (t.insert name v).find? key = some x' ∧ P x' x := by
  rw [Table.find?_insert]
  by_cases hkey : key = name
  · exact ⟨v, if_pos hkey, hv x (hkey ▸ h)⟩
  · exact ⟨x, (if_neg hkey).trans h, hrefl x⟩

theorem Keeps.setImage {name : String} {g : Grid}
    (h : ∀ g', ws.images.find? name = some g' → g.extent = g'.extent) :
    ws.Keeps (ws.setImage name g) where
  images := by
    intro key k hk
    show ∃ k', (ws.images.insert name g).find? key = some k' ∧ k'.extent = k.extent
    exact exists_find?_insert (P := fun k' k => k'.extent = k.extent) (fun _ => rfl) h hk
  layered := fun _ img himg => ⟨img, himg, rfl⟩

theorem Keeps.setLayered {name : String} {img : LayeredImage}
    (h : ∀ img', ws.layered.find? name = some img' → img.extent = img'.extent) :
    ws.Keeps (ws.setLayered name img) where
  images := fun _ g hg => ⟨g, hg, rfl⟩
  layered := by
    intro key k hk
    show ∃ k', (ws.layered.insert name img).find? key = some k' ∧ k'.extent = k.extent
    exact exists_find?_insert (P := fun k' k => k'.extent = k.extent) (fun _ => rfl) h hk

/-- A step lemma: a new name replaces nothing, and an edit replaces an image by one of its size. -/
theorem Step.keeps (h : ws.Step ws') : ws.Keeps ws' := by
  cases h with
  | same => exact .refl ws
  | newImage hname hfresh hw hh =>
    refine .setImage fun g' hg' => ?_
    rw [hfresh] at hg'
    cases hg'
  | newLayered hname hfresh hw hh =>
    refine .setLayered fun img' himg' => ?_
    rw [hfresh] at himg'
    cases himg'
  | editImage hg hsize =>
    refine .setImage fun g' hg' => ?_
    rw [hg] at hg'
    cases hg'
    exact hsize
  | editLayered himg hsize =>
    refine .setLayered fun img' himg' => ?_
    rw [himg] at himg'
    cases himg'
    exact hsize

end Workspace

/-! ## 2. What moves the cursor -/

/-- The cursor after a command: `load` sets it to the top layer and `set-current-layer` to the layer
it names, both of an image that is there; no other command moves it. -/
theorem Command.moveCursor_cases {c : Command} {cursor cursor' : Cursor} {ws : Workspace}
    (h : c.moveCursor cursor ws = .ok cursor') :
    (∃ name img, c = .load name ∧ ws.layered.find? name = some img ∧
      cursor' = ⟨some name, img.names.head?⟩) ∨
    (∃ name layer img, c = .setCurrentLayer name layer ∧ ws.layered.find? name = some img ∧
      layer ∈ img.names ∧ cursor' = ⟨some name, some layer⟩) ∨
    (c.keyword ≠ .load ∧ c.keyword ≠ .setCurrentLayer ∧ cursor' = cursor) := by
  cases c with
  | load name =>
    obtain ⟨img, himg, h⟩ := bind_eq_ok.1 h
    refine .inl ⟨name, img, rfl, Workspace.layeredImage_eq_ok.1 himg, ?_⟩
    rw [pure_eq_ok.1 h, LayeredImage.names, List.head?_map]
  | setCurrentLayer name layer =>
    obtain ⟨img, himg, h⟩ := bind_eq_ok.1 h
    obtain ⟨l, hl, h⟩ := bind_eq_ok.1 h
    obtain ⟨hmem, hname⟩ := LayeredImage.mem_of_find? (LayeredImage.layer_eq_ok.1 hl)
    refine .inr (.inl ⟨name, layer, img, rfl, Workspace.layeredImage_eq_ok.1 himg, ?_,
      pure_eq_ok.1 h⟩)
    rw [← hname]
    exact List.mem_map_of_mem hmem
  | _ =>
    cases h
    refine .inr (.inr ⟨?_, ?_, rfl⟩) <;>
    · intro hk
      cases hk

namespace Session

section Formats

variable [PictureCodec] [ManifestFormat]

/-- The command that a call carries out, if it carries out any. -/
def done (s : Session) : Call → Option Command
  | .line line => (s.runLine line).1.toOption
  | .command c => (s.run c).1.toOption.map fun _ => c
  | .files _ => none

/-- The call carries out a `load` or a `set-current-layer`. -/
def MovesCursor (s : Session) (call : Call) : Prop :=
  ∃ c, s.done call = some c ∧ (c.keyword = .load ∨ c.keyword = .setCurrentLayer)

theorem run_ok {s s' : Session} {c : Command} (h : s.run c = (.ok (), s')) :
    Yields c.execute s.world () s'.world ∧
      c.moveCursor s.cursor s'.world.workspace = .ok s'.cursor := by
  unfold run at h
  split at h
  · cases h
  · rename_i w hw
    split at h
    · cases h
    · rename_i cursor hcursor
      cases h
      exact ⟨hw, hcursor⟩

/-- A call carries out a command, or leaves the cursor where it is. -/
theorem done_cases (s : Session) (call : Call) :
    (∃ c, s.done call = some c ∧ s.run c = (.ok (), s.after call)) ∨
      s.done call = none ∧ (s.after call).cursor = s.cursor := by
  have hrun : ∀ c, s.run c = (.ok (), (s.run c).2) ∨
      ∃ f, s.run c = (.error f, (s.run c).2) ∧ (s.run c).2.cursor = s.cursor := by
    intro c
    cases hr : s.run c with
    | mk r s' =>
      cases r with
      | ok u => exact .inl rfl
      | error f => exact .inr ⟨f, rfl, (run_error hr).2⟩
  cases call with
  | line line =>
    show (∃ c, (s.runLine line).1.toOption = some c ∧ s.run c = (.ok (), (s.runLine line).2)) ∨
      (s.runLine line).1.toOption = none ∧ (s.runLine line).2.cursor = s.cursor
    rcases runLine_cases s line with ⟨r, -, hl⟩ | ⟨c, -, hl⟩
    · rw [hl]
      exact .inr ⟨rfl, rfl⟩
    · rw [hl]
      rcases hrun c with hr | ⟨f, hr, hcursor⟩
      · rw [hr]
        exact .inl ⟨c, rfl, hr⟩
      · rw [hr] at hcursor ⊢
        exact .inr ⟨rfl, hcursor⟩
  | command c =>
    show (∃ d, ((s.run c).1.toOption.map fun _ => c) = some d ∧ s.run d = (.ok (), (s.run c).2)) ∨
      ((s.run c).1.toOption.map fun _ => c) = none ∧ (s.run c).2.cursor = s.cursor
    rcases hrun c with hr | ⟨f, hr, hcursor⟩
    · rw [hr]
      exact .inl ⟨c, rfl, hr⟩
    · rw [hr] at hcursor ⊢
      exact .inr ⟨rfl, hcursor⟩
  | files files => exact .inr ⟨rfl, rfl⟩

theorem run_of_done {s : Session} {call : Call} {c : Command} (h : s.done call = some c) :
    s.run c = (.ok (), s.after call) := by
  rcases done_cases s call with ⟨d, hd, hrun⟩ | ⟨hnone, -⟩
  · rw [h] at hd
    cases hd
    exact hrun
  · rw [h] at hnone
    cases hnone

theorem cursor_after_load {s : Session} {call : Call} {name : String}
    (h : s.done call = some (.load name)) :
    ∃ img, (s.after call).world.workspace.layered.find? name = some img ∧
      (s.after call).cursor = ⟨some name, img.names.head?⟩ := by
  obtain ⟨-, hcursor⟩ := run_ok (run_of_done h)
  rcases Command.moveCursor_cases hcursor with
    ⟨name', img, hc, himg, hto⟩ | ⟨_, _, _, hc, -⟩ | ⟨hne, -⟩
  · cases hc
    exact ⟨img, himg, hto⟩
  · cases hc
  · exact absurd rfl hne

theorem cursor_after_setCurrentLayer {s : Session} {call : Call} {name layer : String}
    (h : s.done call = some (.setCurrentLayer name layer)) :
    ∃ img, (s.after call).world.workspace.layered.find? name = some img ∧ layer ∈ img.names ∧
      (s.after call).cursor = ⟨some name, some layer⟩ := by
  obtain ⟨-, hcursor⟩ := run_ok (run_of_done h)
  rcases Command.moveCursor_cases hcursor with
    ⟨_, _, hc, -⟩ | ⟨name', layer', img, hc, himg, hmem, hto⟩ | ⟨-, hne, -⟩
  · cases hc
  · cases hc
    exact ⟨img, himg, hmem, hto⟩
  · exact absurd rfl hne

theorem cursor_after_other {s : Session} {call : Call} (h : ¬ s.MovesCursor call) :
    (s.after call).cursor = s.cursor := by
  rcases done_cases s call with ⟨c, hdone, hrun⟩ | ⟨-, hcursor⟩
  · obtain ⟨-, hcursor⟩ := run_ok hrun
    rcases Command.moveCursor_cases hcursor with
      ⟨_, _, rfl, -⟩ | ⟨_, _, _, rfl, -⟩ | ⟨-, -, hto⟩
    · exact absurd ⟨_, hdone, .inl rfl⟩ h
    · exact absurd ⟨_, hdone, .inr rfl⟩ h
    · exact hto
  · exact hcursor

/-- A cursor that has just been moved means an image that is there, and a layer of it if any. -/
theorem cursor_after_move {s : Session} {call : Call} (h : s.MovesCursor call) :
    ∃ name img, (s.after call).cursor.image = some name ∧
      (s.after call).world.workspace.layered.find? name = some img ∧
      ∀ layer, (s.after call).cursor.layer = some layer → layer ∈ img.names := by
  obtain ⟨c, hdone, hkeyword⟩ := h
  obtain ⟨-, hcursor⟩ := run_ok (run_of_done hdone)
  rcases Command.moveCursor_cases hcursor with
    ⟨name, img, -, himg, hto⟩ | ⟨name, layer, img, -, himg, hmem, hto⟩ | ⟨hload, hset, -⟩
  · rw [hto]
    exact ⟨name, img, rfl, himg, fun layer hl => List.mem_of_head? hl⟩
  · rw [hto]
    refine ⟨name, img, rfl, himg, fun layer' hl => ?_⟩
    cases hl
    exact hmem
  · rcases hkeyword with hkeyword | hkeyword
    · exact absurd hkeyword hload
    · exact absurd hkeyword hset

/-! ## 3. Runs -/

theorem afterAll_append (s : Session) (calls later : List Call) :
    s.afterAll (calls ++ later) = (s.afterAll calls).afterAll later :=
  List.foldl_append

theorem afterAll_concat (s : Session) (calls : List Call) (call : Call) :
    s.afterAll (calls ++ [call]) = (s.afterAll calls).after call :=
  afterAll_append s calls [call]

theorem keeps_afterAll (s : Session) (calls : List Call) :
    s.world.workspace.Keeps (s.afterAll calls).world.workspace := by
  unfold afterAll
  -- one step keeps what is there, and so do steps one after the other
  induction calls generalizing s with
  | nil => exact .refl _
  | cons call calls ih => exact (step_after s call).keeps.trans (ih (s.after call))

/-- Of these calls, `call` is the last that moves the cursor: `before` come before it, and none of
those that come `since` moves it. -/
structure LastMove (start : Session) (calls before : List Call) (call : Call)
    (since : List Call) : Prop where
  calls_eq : calls = before ++ call :: since
  moves : (start.afterAll before).MovesCursor call
  none_since : ∀ others next rest, since = others ++ next :: rest →
    ¬ (start.afterAll (before ++ call :: others)).MovesCursor next

theorem LastMove.concat {start : Session} {calls before since : List Call} {call next : Call}
    (h : LastMove start calls before call since)
    (hnext : ¬ (start.afterAll calls).MovesCursor next) :
    LastMove start (calls ++ [next]) before call (since ++ [next]) where
  calls_eq := by rw [h.calls_eq, List.append_assoc, List.cons_append]
  moves := h.moves
  none_since := by
    intro others other rest heq
    rcases List.eq_nil_or_concat rest with rfl | ⟨rest, last, rfl⟩
    · -- the call just made
      obtain ⟨rfl, hlast⟩ := List.append_inj' heq rfl
      cases hlast
      rw [← h.calls_eq]
      exact hnext
    · rw [List.concat_eq_append, ← List.cons_append, ← List.append_assoc] at heq
      exact h.none_since others other rest (List.append_inj' heq rfl).1

theorem LastMove.afterAll_eq {start : Session} {calls before since : List Call} {call : Call}
    (h : LastMove start calls before call since) :
    start.afterAll calls = ((start.afterAll before).after call).afterAll since := by
  rw [h.calls_eq, afterAll_append]
  rfl

/-- The cursor of a session was moved by one of the calls, and is where that call set it; or it
never was moved. -/
theorem exists_lastMove (start : Session) (calls : List Call) :
    (∃ before call since, LastMove start calls before call since ∧
      ((start.afterAll before).after call).cursor = (start.afterAll calls).cursor) ∨
      (start.afterAll calls).cursor = start.cursor := by
  induction calls using List.reverseRecOn with
  | nil => exact .inr rfl
  | append_singleton calls next ih =>
    rw [afterAll_concat]
    by_cases hnext : (start.afterAll calls).MovesCursor next
    · refine .inl ⟨calls, next, [], ⟨rfl, hnext, ?_⟩, rfl⟩
      intro others other rest heq
      cases others <;> cases heq
    · rw [cursor_after_other hnext]
      rcases ih with ⟨before, call, since, hlast, hcursor⟩ | hcursor
      · exact .inl ⟨before, call, since ++ [next], hlast.concat hnext, hcursor⟩
      · exact .inr hcursor

/-- In a session that began with an unset cursor and without images, whenever the cursor is set it
was moved by one of the calls, and what that call found is what it means. -/
theorem cursor_of_lastMove (options : Options) (files : FileStore) (calls : List Call)
    (h : ((new options files).afterAll calls).cursor ≠ .unset) :
    ∃ before call since name img, LastMove (new options files) calls before call since ∧
      (((new options files).afterAll before).after call).cursor =
        ((new options files).afterAll calls).cursor ∧
      ((new options files).afterAll calls).cursor.image = some name ∧
      (((new options files).afterAll before).after call).world.workspace.layered.find? name =
        some img ∧
      ∀ layer, ((new options files).afterAll calls).cursor.layer = some layer →
        layer ∈ img.names := by
  rcases exists_lastMove (new options files) calls with
    ⟨before, call, since, hlast, hcursor⟩ | hcursor
  · obtain ⟨name, img, hname, himg, hlayer⟩ := cursor_after_move hlast.moves
    rw [hcursor] at hname hlayer
    exact ⟨before, call, since, name, img, hlast, hcursor, hname, himg, hlayer⟩
  · exact absurd hcursor h

theorem exists_image_of_cursor {options : Options} {files : FileStore} {calls : List Call}
    {name : String} (hname : ((new options files).afterAll calls).cursor.image = some name) :
    ∃ img, ((new options files).afterAll calls).world.workspace.layered.find? name = some img := by
  have hset : ((new options files).afterAll calls).cursor ≠ .unset := by
    intro hunset
    rw [hunset] at hname
    cases hname
  obtain ⟨before, call, since, name', img, hlast, -, hname', himg, -⟩ :=
    cursor_of_lastMove options files calls hset
  obtain rfl : name = name' := Option.some.inj (hname.symm.trans hname')
  -- the image was there when the cursor was moved, and has been kept since
  have hkeeps := (((new options files).afterAll before).after call).keeps_afterAll since
  obtain ⟨img', himg', -⟩ := hkeeps.layered name img himg
  rw [hlast.afterAll_eq]
  exact ⟨img', himg'⟩

/-- In every session: what is stored stays stored in its size, whatever comes `later`; the image
that the cursor means is there; the layer that it means was there when the cursor was moved last;
and one further call moves the cursor only if it carries out a `load` or a `set-current-layer`. -/
theorem images_stay_and_cursor_moves (options : Options) (files : FileStore) (calls : List Call) :
    let start := new options files
    let s := start.afterAll calls
    (∀ later name g, s.world.workspace.images.find? name = some g →
      ∃ g', (s.afterAll later).world.workspace.images.find? name = some g' ∧
        g'.width = g.width ∧ g'.height = g.height) ∧
    (∀ later name img, s.world.workspace.layered.find? name = some img →
      ∃ img', (s.afterAll later).world.workspace.layered.find? name = some img' ∧
        img'.width = img.width ∧ img'.height = img.height) ∧
    (∀ name, s.cursor.image = some name → ∃ img, s.world.workspace.layered.find? name = some img) ∧
    (∀ layer, s.cursor.layer = some layer → ∃ name before call since,
      s.cursor.image = some name ∧ LastMove start calls before call since ∧
        ((start.afterAll before).after call).cursor = s.cursor ∧
        ∃ img, ((start.afterAll before).after call).world.workspace.layered.find? name = some img ∧
          layer ∈ img.names) ∧
    ∀ call,
      ((s.after call).cursor ≠ s.cursor → s.MovesCursor call) ∧
      (∀ name, s.done call = some (.load name) →
        ∃ img, (s.after call).world.workspace.layered.find? name = some img ∧
          (s.after call).cursor = ⟨some name, img.names.head?⟩) ∧
      ∀ name layer, s.done call = some (.setCurrentLayer name layer) →
        ∃ img, (s.after call).world.workspace.layered.find? name = some img ∧ layer ∈ img.names ∧
          (s.after call).cursor = ⟨some name, some layer⟩ := by
  intro start s
  refine ⟨?_, ?_, ?_, ?_, fun call => ⟨?_, ?_, ?_⟩⟩
  · intro later name g hg
    obtain ⟨g', hg', hsize⟩ := (s.keeps_afterAll later).images name g hg
    exact ⟨g', hg', congrArg Extent.width hsize, congrArg Extent.height hsize⟩
  · intro later name img himg
    obtain ⟨img', himg', hsize⟩ := (s.keeps_afterAll later).layered name img himg
    exact ⟨img', himg', congrArg Extent.width hsize, congrArg Extent.height hsize⟩
  · intro name hname
    exact exists_image_of_cursor hname
  · intro layer hlayer
    have hset : s.cursor ≠ .unset := by
      intro hunset
      rw [hunset] at hlayer
      cases hlayer
    obtain ⟨before, call, since, name, img, hlast, hcursor, hname, himg, hlayers⟩ :=
      cursor_of_lastMove options files calls hset
    exact ⟨name, before, call, since, hname, hlast, hcursor, img, himg, hlayers layer hlayer⟩
  · intro hne
    by_contra hmoves
    exact hne (cursor_after_other hmoves)
  · intro name hdone
    exact cursor_after_load hdone
  · intro name layer hdone
    exact cursor_after_setCurrentLayer hdone

end Formats

/-- A current layer that is removed stays the current layer, and its image stays there. -/
theorem images_stay_and_cursor_moves_removed_layer :
    let calls : List Call := [.line "create-layered-image blank a 2 1", .line "add-layer a sky",
      .line "load a", .line "remove-layer a sky", .line "remove-layer a sky"]
    let s := (new .standard ⟨∅, [], none⟩).afterAll calls
    s.cursor = ⟨some "a", some "sky"⟩ ∧
    (∃ img, s.world.workspace.layered.find? "a" = some img) ∧
    (∃ before call since, LastMove (new .standard ⟨∅, [], none⟩) calls before call since) ∧
    s.MovesCursor (.command (.load "a")) ∧ (s.after (.command (.load "a"))).cursor ≠ s.cursor := by
  intro calls s
  have hcursor : s.cursor = ⟨some "a", some "sky"⟩ := by rfl
  have hmoved : (s.after (.command (.load "a"))).cursor = ⟨some "a", none⟩ := by rfl
  have hne : (s.after (.command (.load "a"))).cursor ≠ s.cursor := by
    rw [hcursor, hmoved]
    decide
  obtain ⟨-, -, himage, hlayer, hcall⟩ :=
    images_stay_and_cursor_moves .standard ⟨∅, [], none⟩ calls
  obtain ⟨_, before, call, since, -, hlast, -⟩ := hlayer "sky" (congrArg Cursor.layer hcursor)
  exact ⟨hcursor, himage "a" (congrArg Cursor.image hcursor), ⟨before, call, since, hlast⟩,
    (hcall _).1 hne, hne⟩

end Session

end RasterScript
