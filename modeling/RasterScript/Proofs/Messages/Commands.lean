import RasterScript.Proofs.Messages.Files
import RasterScript.Proofs.Session.FailedCall

/-!
# Commands — why a line of a script failed, on one line

Whatever a line asks for, its failure is told on one line, unless it imports a directory and fails
at a layer file for which the manifest there gives a name with a line break.
-/

namespace RasterScript

theorem failsOnly_setWorkspace (ws : Workspace) : FailsOnly P (Action.setWorkspace ws) :=
  fun _ _ _ h => absurd h fails_setWorkspace

/-- Setting the workspace to what a request gives fails only if the request is refused. -/
theorem failsOnly_accept_set {r : Except Refusal Workspace} (h : RefusesPlainly r) :
    FailsOnly Failure.Plain (Action.accept r >>= Action.setWorkspace) :=
  failsOnly_bind (failsOnly_action_accept h) failsOnly_setWorkspace

theorem Command.word_of_paths {c : Command} {p : Path} (h : p ∈ c.paths) :
    Slot.word p.text ∈ c.wording.front ∨ Slot.word p.text ∈ c.wording.back := by
  cases c with
  | createImage name source => cases source <;> simp_all [paths, wording]
  | createLayeredImage name source => cases source <;> simp_all [paths, wording]
  | _ => simp_all [paths, wording]

/-- The paths of a command that is read from a line are words of this line. -/
theorem Command.paths_of_parseLine {cursor : Cursor} {line : String} {c : Command}
    (h : parseLine cursor line = .ok c) : ∀ p ∈ c.paths, p.text ∈ wordsOf line := by
  obtain ⟨-, -, -, args, hargs, front, names, back, rfl, hfront, -, hback⟩ := parse_eq_ok.1 h
  have hmem : ∀ {ss : List Slot} {ts : List String} {text : String},
      List.Forall₂ Slot.Spells ss ts → Slot.word text ∈ ss → text ∈ ts := by
    intro ss ts text hspells hm
    induction hspells with
    | nil => cases hm
    | @cons s t ss ts hs _ ih =>
      rcases List.mem_cons.1 hm with rfl | hm
      · cases hs
        exact List.mem_cons_self
      · exact List.mem_cons_of_mem t (ih hm)
  intro p hp
  rw [hargs]
  rcases word_of_paths hp with hm | hm
  · simp [hmem hfront hm]
  · simp [hmem hback hm]

variable [PictureCodec]

theorem failsOnly_build {source : ImageSource} (ws : Workspace) (hcheck : source.check = .ok ())
    (hpath : ∀ path, source = .file path → OneLine path.text) :
    FailsOnly Failure.Plain (source.build ws) := by
  cases source with
  | checkerboard size count first second =>
    exact failsOnly_bind (failsOnly_accept (ws.refusesPlainly_checkSides _ _)) fun _ =>
      failsOnly_accept (refusesPlainly_checkerboard _ _ _ _)
  | empty => exact failsOnly_pure _
  | transparent w h =>
    refine failsOnly_bind (failsOnly_accept (ws.refusesPlainly_checkSides _ _)) fun _ => ?_
    exact failsOnly_accept
      (refusesPlainly_bind (refusesPlainly_ofSides w h) fun _ _ => refusesPlainly_ok _)
  | copy name =>
    have hname := oneLine_of_isName (checkImageName_eq_ok.1 hcheck)
    exact failsOnly_accept (ws.refusesPlainly_image hname)
  | file path =>
    exact failsOnly_readGrid (plain_of_text rfl (hpath path rfl)) fun _ hf => hf

variable [ManifestFormat]

namespace Command

/-- The command imports a directory, and fails at a layer file for which the manifest there gives a
name with a line break. -/
def FailsAtFile (c : Command) (files : FileStore) (f : Failure) : Prop :=
  ∃ name dir loc m r, c = .createLayeredImage name (.directory dir) ∧ files.DirectoryAt dir loc ∧
    files.HoldsManifest dir loc m ∧ r ∈ m.layers ∧ f.ShowsFile dir r.file

theorem failsOnly_perform {c : Command} (hcheck : c.check = .ok ())
    (hpaths : ∀ p ∈ c.paths, OneLine p.text)
    (hother : ∀ name dir, c ≠ .createLayeredImage name (.directory dir)) :
    FailsOnly Failure.Plain c.perform := by
  have hname : ∀ {name}, checkImageName name = .ok () → OneLine name :=
    fun h => oneLine_of_isName (checkImageName_eq_ok.1 h)
  have hlayer : ∀ {name}, checkLayerName name = .ok () → OneLine name :=
    fun h => oneLine_of_isLayerName (checkLayerName_eq_ok.1 h)
  have hlook : FailsOnly Failure.Plain Action.workspace := fun _ _ _ h => by cases h
  unfold perform
  refine failsOnly_bind hlook fun ws => ?_
  cases c with
  | createImage name source =>
    obtain ⟨h, hsource⟩ := check_bind_eq_ok.1 hcheck
    have hpath : ∀ path, source = .file path → OneLine path.text := by
      rintro path rfl
      exact hpaths path List.mem_cons_self
    refine failsOnly_bind (failsOnly_action_accept (ws.refusesPlainly_checkFreshImage (hname h))) ?_
    intro _
    refine failsOnly_bind (failsOnly_onFiles (failsOnly_build ws hsource hpath)) fun g => ?_
    exact failsOnly_accept_set (ws.refusesPlainly_addImage (hname h) g)
  | createLayeredImage name source =>
    obtain ⟨h, -⟩ := check_bind_eq_ok.1 hcheck
    cases source with
    | directory dir => exact absurd rfl (hother name dir)
    | blank width height =>
      refine failsOnly_bind
        (failsOnly_action_accept (ws.refusesPlainly_checkFreshLayered (hname h))) fun _ => ?_
      refine failsOnly_bind (failsOnly_onFiles ?_) fun img =>
        failsOnly_accept_set (ws.refusesPlainly_addLayered (hname h) img)
      refine failsOnly_bind (failsOnly_accept (ws.refusesPlainly_checkSides _ _)) fun _ => ?_
      exact failsOnly_accept
        (refusesPlainly_bind (refusesPlainly_ofSides width height) fun _ _ => refusesPlainly_ok _)
  | updateColor target x y color =>
    have htarget := Workspace.oneLine_of_checkTarget hcheck
    exact failsOnly_accept_set (ws.refusesPlainly_setPixel htarget x y color)
  | applyMutator target kind =>
    have htarget := Workspace.oneLine_of_checkTarget hcheck
    exact failsOnly_accept_set (ws.refusesPlainly_mutate htarget kind.mutator)
  | save target format path =>
    obtain ⟨h, -⟩ := check_bind_eq_ok.1 hcheck
    have htarget := Workspace.oneLine_of_checkTarget h
    have hpath := hpaths path List.mem_cons_self
    exact failsOnly_bind (failsOnly_action_accept (ws.refusesPlainly_target htarget)) fun g =>
      failsOnly_onFiles (failsOnly_writePicture _ g format hpath _)
  | saveLayered image dir =>
    obtain ⟨h, -⟩ := check_bind_eq_ok.1 hcheck
    have hdir := hpaths dir List.mem_cons_self
    exact failsOnly_bind (failsOnly_action_accept (ws.refusesPlainly_layeredImage (hname h)))
      fun img => failsOnly_onFiles (LayeredImage.failsOnly_save .sound img hdir)
  | saveAsImage image format path =>
    obtain ⟨h, -⟩ := check_bind_eq_ok.1 hcheck
    have hpath := hpaths path List.mem_cons_self
    exact failsOnly_bind (failsOnly_action_accept (ws.refusesPlainly_layeredImage (hname h)))
      fun img => failsOnly_onFiles (failsOnly_writePicture _ img.flatten format hpath _)
  | load image =>
    exact failsOnly_bind (failsOnly_action_accept (ws.refusesPlainly_layeredImage (hname hcheck)))
      fun _ => failsOnly_pure _
  | setCurrentLayer image layer =>
    obtain ⟨h, h'⟩ := check_bind_eq_ok.1 hcheck
    refine failsOnly_bind (failsOnly_action_accept (ws.refusesPlainly_layeredImage (hname h))) ?_
    intro img
    exact failsOnly_bind (failsOnly_action_accept (img.refusesPlainly_layer (hlayer h')))
      fun _ => failsOnly_pure _
  | addLayer image layer =>
    obtain ⟨h, h'⟩ := check_bind_eq_ok.1 hcheck
    exact failsOnly_accept_set
      (ws.refusesPlainly_edit (hname h) fun img => img.refusesPlainly_addLayer (hlayer h'))
  | copyLayer image layer source =>
    obtain ⟨h, hrest⟩ := check_bind_eq_ok.1 hcheck
    obtain ⟨h', hsource⟩ := check_bind_eq_ok.1 hrest
    exact failsOnly_accept_set (ws.refusesPlainly_edit (hname h) fun img =>
      img.refusesPlainly_copyLayer (hlayer h') (hlayer hsource))
  | addImageAsLayer image layer path =>
    obtain ⟨h, hrest⟩ := check_bind_eq_ok.1 hcheck
    obtain ⟨h', -⟩ := check_bind_eq_ok.1 hrest
    have hpath := hpaths path List.mem_cons_self
    refine failsOnly_bind (failsOnly_action_accept (ws.refusesPlainly_layeredImage (hname h))) ?_
    intro img
    exact failsOnly_bind (failsOnly_onFiles (img.failsOnly_addPicture (hlayer h') hpath))
      fun _ => failsOnly_setWorkspace _
  | moveLayer image layer index =>
    obtain ⟨h, h'⟩ := check_bind_eq_ok.1 hcheck
    exact failsOnly_accept_set
      (ws.refusesPlainly_edit (hname h) fun img => img.refusesPlainly_moveLayer (hlayer h') index)
  | removeLayer image layer =>
    obtain ⟨h, h'⟩ := check_bind_eq_ok.1 hcheck
    exact failsOnly_accept_set
      (ws.refusesPlainly_edit (hname h) fun img => img.refusesPlainly_removeLayer (hlayer h'))
  | updateVisibility image layer visible =>
    obtain ⟨h, h'⟩ := check_bind_eq_ok.1 hcheck
    exact failsOnly_accept_set (ws.refusesPlainly_edit (hname h) fun img =>
      img.refusesPlainly_setVisibility (hlayer h') visible)

theorem fails_perform {c : Command} (hcheck : c.check = .ok ())
    (hpaths : ∀ p ∈ c.paths, OneLine p.text) {w w' : World} {f : Failure}
    (hf : Fails c.perform w f w') : f.Plain ∨ c.FailsAtFile w.files f := by
  by_cases himport : ∃ name dir, c = .createLayeredImage name (.directory dir)
  · obtain ⟨name, dir, rfl⟩ := himport
    obtain ⟨h, -⟩ := check_bind_eq_ok.1 hcheck
    have hname := oneLine_of_isName (checkImageName_eq_ok.1 h)
    have hdir := hpaths dir List.mem_cons_self
    unfold perform at hf
    rw [fails_workspace_bind] at hf
    rcases fails_bind.1 hf with hf | ⟨_, w₁, hx, hf⟩
    · exact .inl (failsOnly_action_accept
        (w.workspace.refusesPlainly_checkFreshLayered hname) _ _ _ hf)
    obtain ⟨-, rfl⟩ := yields_action_accept.1 hx
    rcases fails_bind.1 hf with hf | ⟨img, w₂, -, hf⟩
    · unfold Fails at hf
      rw [outcome_onFiles, Prod.mk.injEq] at hf
      rcases LayeredImage.fails_load hdir (fails_of_outcome hf.1) with
        hplain | ⟨loc, m, r, hd, hm, hr, hshows⟩
      · exact .inl hplain
      · exact .inr ⟨name, dir, loc, m, r, rfl, hd, hm, hr, hshows⟩
    · exact .inl (failsOnly_accept_set
        (w₁.workspace.refusesPlainly_addLayered hname img) _ _ _ hf)
  · refine .inl (failsOnly_perform hcheck hpaths ?_ _ _ _ hf)
    intro name dir heq
    exact himport ⟨name, dir, heq⟩

/-- Carried out from a line, a command fails plainly, or at a layer file. -/
theorem fails_runLine {s s' : Session} {line : String} {f : Failure}
    (h : s.runLine line = (.error f, s')) : f.Plain ∨
      ∃ c, parseLine s.cursor line = .ok c ∧ c.FailsAtFile s.world.files f := by
  rcases s.runLine_cases line with ⟨r, hr, hrun⟩ | ⟨c, hc, hrun⟩
  · rw [hrun] at h
    cases h
    exact .inl (refusesPlainly_parseLine _ _ r hr)
  · rw [hrun] at h
    rcases s.run_cases c with ⟨w, cursor, -, hok⟩ | ⟨g, w, hf, herror⟩
    · rw [hok] at h
      cases h
    · rw [herror] at h
      cases h
      obtain ⟨-, -, hcheck, -⟩ := parse_eq_ok.1 hc
      have hpaths : ∀ p ∈ c.paths, OneLine p.text :=
        fun p hp => oneLine_of_mem_wordsOf (paths_of_parseLine hc p hp)
      unfold execute at hf
      rcases fails_bind.1 hf with hf | ⟨_, w₁, hx, hf⟩
      · exact .inl (failsOnly_action_accept (refusesPlainly_check c) _ _ _ hf)
      · obtain ⟨-, rfl⟩ := yields_action_accept.1 hx
        exact (fails_perform hcheck hpaths hf).imp id fun hfile => ⟨c, hc, hfile⟩

end Command

end RasterScript
