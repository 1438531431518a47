import RasterScript.Proofs.Command.Effect
import RasterScript.StandardFormats
import RasterScript.Session

/-!
# FailedCall — a call that fails has changed no image and not moved the cursor

A call fails while its line is read, while its command is carried out, or while the cursor is moved.
In the first case nothing has happened, in the second no image has been changed
(`Command.changesLast_execute`), and the third does not occur: whatever `moveCursor` asks for has
been looked up before, in the same workspace.
-/

namespace RasterScript

section Formats

variable [PictureCodec] [ManifestFormat]

/-! ## 1. Moving the cursor -/

/-- A command that has been carried out can move the cursor. -/
theorem Command.exists_moveCursor {c : Command} {w w' : World} (h : Yields c.execute w () w')
    (cursor : Cursor) : ∃ cursor', c.moveCursor cursor w'.workspace = .ok cursor' := by
  unfold Command.execute at h
  obtain ⟨_, -, h⟩ := yields_action_accept_bind.1 h
  unfold Command.perform at h
  rw [yields_workspace_bind] at h
  cases c with
  | load name =>
    obtain ⟨img, himg, h⟩ := yields_action_accept_bind.1 h
    -- what was looked up before is looked up again in the same world
    have hw : w' = w := (yields_pure.1 h).2
    subst hw
    unfold Command.moveCursor
    exact ⟨_, bind_eq_ok.2 ⟨img, himg, rfl⟩⟩
  | setCurrentLayer name layer =>
    obtain ⟨img, himg, h⟩ := yields_action_accept_bind.1 h
    obtain ⟨l, hl, h⟩ := yields_action_accept_bind.1 h
    have hw : w' = w := (yields_pure.1 h).2
    subst hw
    unfold Command.moveCursor
    exact ⟨_, bind_eq_ok.2 ⟨img, himg, bind_eq_ok.2 ⟨l, hl, rfl⟩⟩⟩
  -- no other command moves it
  | _ => exact ⟨cursor, rfl⟩

namespace Session

/-! ## 2. The two endings of a call -/

theorem run_of_yields {s : Session} {c : Command} {w : World} (h : Yields c.execute s.world () w) :
    ∃ cursor, s.run c = (.ok (), ⟨w, cursor⟩) := by
  obtain ⟨cursor, hcursor⟩ := Command.exists_moveCursor h s.cursor
  have hrun : c.execute.run.run s.world = (.ok (), w) := h
  refine ⟨cursor, ?_⟩
  unfold run
  rw [hrun]
  simp only [hcursor]

theorem run_of_fails {s : Session} {c : Command} {f : Failure} {w : World}
    (h : Fails c.execute s.world f w) : s.run c = (.error f, { s with world := w }) := by
  have hrun : c.execute.run.run s.world = (.error f, w) := h
  unfold run
  rw [hrun]

/-- A call carries its command out, or fails as the command does, and then the cursor stays. -/
theorem run_cases (s : Session) (c : Command) :
    (∃ w cursor, Yields c.execute s.world () w ∧ s.run c = (.ok (), ⟨w, cursor⟩)) ∨
      ∃ f w, Fails c.execute s.world f w ∧ s.run c = (.error f, { s with world := w }) := by
  cases hr : outcome c.execute s.world with
  | mk r w =>
    cases r with
    | ok u =>
      obtain ⟨cursor, hrun⟩ := run_of_yields hr
      exact .inl ⟨w, cursor, hr, hrun⟩
    | error f => exact .inr ⟨f, w, hr, run_of_fails hr⟩

theorem run_error {s s' : Session} {c : Command} {f : Failure} (h : s.run c = (.error f, s')) :
    s'.world.workspace = s.world.workspace ∧ s'.cursor = s.cursor := by
  rcases run_cases s c with ⟨w, cursor, -, hrun⟩ | ⟨g, w, hf, hrun⟩
  · rw [hrun] at h
    cases h
  · rw [hrun] at h
    cases h
    exact ⟨c.changesLast_execute _ _ _ hf, rfl⟩

theorem runLine_cases (s : Session) (line : String) :
    (∃ r, Command.parseLine s.cursor line = .error r ∧ s.runLine line = (.error (.refused r), s)) ∨
      ∃ c, Command.parseLine s.cursor line = .ok c ∧
        s.runLine line = ((s.run c).1.map fun _ => c, (s.run c).2) := by
  unfold runLine
  cases hp : Command.parseLine s.cursor line with
  | error r => exact .inl ⟨r, rfl, rfl⟩
  | ok c =>
    refine .inr ⟨c, rfl, ?_⟩
    cases hr : s.run c with
    | mk r s' =>
      cases r with
      | ok u => simp [hr, Except.map]
      | error f => simp [hr, Except.map]

theorem runLine_error {s s' : Session} {line : String} {f : Failure}
    (h : s.runLine line = (.error f, s')) :
    s'.world.workspace = s.world.workspace ∧ s'.cursor = s.cursor := by
  rcases runLine_cases s line with ⟨r, -, hl⟩ | ⟨c, -, hl⟩
  · rw [hl] at h
    cases h
    exact ⟨rfl, rfl⟩
  · rw [hl] at h
    cases hr : s.run c with
    | mk r s₁ =>
      rw [hr] at h
      cases r with
      | ok u => cases h
      | error g =>
        cases h
        exact run_error hr

/-! ## 3. The two stores and the cursor -/

/-- From whatever state: a call that fails leaves the images, the layered images, the options and
the cursor as they were, and a command that was carried out always gets its cursor. -/
theorem failed_call_changes_nothing (s : Session) :
    (∀ (c : Command) f s', s.run c = (.error f, s') →
      s'.world.workspace = s.world.workspace ∧ s'.cursor = s.cursor) ∧
    (∀ line f s', s.runLine line = (.error f, s') →
      s'.world.workspace = s.world.workspace ∧ s'.cursor = s.cursor) ∧
    ∀ (c : Command) w', Yields c.execute s.world () w' →
      ∃ cursor, c.moveCursor s.cursor w'.workspace = .ok cursor := by
  refine ⟨?_, ?_, ?_⟩
  · intro c f s' h
    exact run_error h
  · intro line f s' h
    exact runLine_error h
  · intro c w' h
    exact Command.exists_moveCursor h s.cursor

end Session

end Formats

theorem Session.failed_call_changes_nothing_one_stack :
    let s : Session := ⟨⟨(Workspace.new .standard).setLayered "a" (.blank .single),
      ⟨∅, ["work"], none⟩⟩, .unset⟩
    (s.run (.removeLayer "a" "b")).1 = .error (.refused (.missing .layer "b")) ∧
    (s.run (.removeLayer "a" "b")).2.world.workspace = s.world.workspace ∧
    (s.runLine "remove-layer a b").1 = .error (.refused (.missing .layer "b")) ∧
    (s.runLine "remove-layer a b").2.world.workspace = s.world.workspace ∧
    ∃ cursor, (Command.load "a").moveCursor s.cursor s.world.workspace = .ok cursor := by
  intro s
  have hrun : (s.run (.removeLayer "a" "b")).1 = .error (.refused (.missing .layer "b")) := by rfl
  have hline : (s.runLine "remove-layer a b").1 = .error (.refused (.missing .layer "b")) := by rfl
  obtain ⟨h₁, h₂, h₃⟩ := failed_call_changes_nothing s
  exact ⟨hrun, (h₁ _ _ _ (Prod.ext hrun rfl)).1, hline, (h₂ _ _ _ (Prod.ext hline rfl)).1,
    h₃ (.load "a") s.world rfl⟩

end RasterScript
