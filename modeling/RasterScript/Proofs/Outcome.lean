import RasterScript.Workspace

/-!
# Outcome — how a computation that can fail ends

An action ends in one of two ways: it yields a value, or it fails for a cause; either way a state is
left behind.  `Yields` and `Fails` say which, and there is one equivalence for each way of putting
actions together, so a run is taken apart step by step without looking inside the monad.
-/

namespace RasterScript

variable {σ α β : Type}

/-! ## 1. Pure steps -/

theorem bind_eq_ok {ε : Type} {x : Except ε α} {g : α → Except ε β} {y : β} :
    x >>= g = .ok y ↔ ∃ a, x = .ok a ∧ g a = .ok y := by
  cases x with
  | error e => simp [bind, Except.bind]
  | ok a => simp [bind, Except.bind]

/-- A check that passes has nothing to hand on. -/
theorem check_bind_eq_ok {x : Except Refusal Unit} {g : Unit → Except Refusal α} {y : α} :
    x >>= g = .ok y ↔ x = .ok () ∧ g () = .ok y := by
  rw [bind_eq_ok]
  constructor
  · rintro ⟨_, hx, hg⟩
    exact ⟨hx, hg⟩
  · rintro ⟨hx, hg⟩
    exact ⟨(), hx, hg⟩

theorem pure_eq_ok {ε : Type} {x y : α} : (pure x : Except ε α) = .ok y ↔ y = x := by
  show Except.ok x = Except.ok y ↔ y = x
  rw [Except.ok.injEq, eq_comm]

/-! ## 2. The two endings -/

/-- What an action begun in `s` ends with, and the state that it leaves. -/
def outcome (a : ExceptT Failure (StateM σ) α) (s : σ) : Except Failure α × σ := a.run.run s

/-- Begun in `s`, the action gives `x` and leaves `s'`. -/
def Yields (a : ExceptT Failure (StateM σ) α) (s : σ) (x : α) (s' : σ) : Prop :=
  outcome a s = (.ok x, s')

/-- Begun in `s`, the action fails for `f` and leaves `s'`. -/
def Fails (a : ExceptT Failure (StateM σ) α) (s : σ) (f : Failure) (s' : σ) : Prop :=
  outcome a s = (.error f, s')

theorem Yields.unique {a : ExceptT Failure (StateM σ) α} {s s₁ s₂ : σ} {x y : α}
    (hx : Yields a s x s₁) (hy : Yields a s y s₂) : x = y ∧ s₁ = s₂ := by
  unfold Yields at hx hy
  rw [hx] at hy
  cases hy
  exact ⟨rfl, rfl⟩

theorem Yields.not_fails {a : ExceptT Failure (StateM σ) α} {s s₁ s₂ : σ} {x : α} {f : Failure}
    (hx : Yields a s x s₁) : ¬ Fails a s f s₂ := by
  intro hf
  unfold Yields at hx
  unfold Fails at hf
  rw [hx] at hf
  cases hf

theorem yields_of_outcome {a : ExceptT Failure (StateM σ) α} {s : σ} {x : α}
    (h : (outcome a s).1 = .ok x) : Yields a s x (outcome a s).2 := Prod.ext h rfl

theorem fails_of_outcome {a : ExceptT Failure (StateM σ) α} {s : σ} {f : Failure}
    (h : (outcome a s).1 = .error f) : Fails a s f (outcome a s).2 := Prod.ext h rfl

/-! ## 3. Steps -/

@[simp] theorem yields_pure {x y : α} {s s' : σ} :
    Yields (pure x) s y s' ↔ y = x ∧ s' = s := by
  constructor
  · intro h
    cases h
    exact ⟨rfl, rfl⟩
  · rintro ⟨rfl, rfl⟩
    rfl

@[simp] theorem fails_pure {x : α} {s s' : σ} {f : Failure} : ¬ Fails (pure x) s f s' := by
  intro h
  cases h

@[simp] theorem yields_throw {x : α} {s s' : σ} {f : Failure} :
    ¬ Yields (throw f : ExceptT Failure (StateM σ) α) s x s' := by
  intro h
  cases h

@[simp] theorem fails_throw {s s' : σ} {f g : Failure} :
    Fails (throw f : ExceptT Failure (StateM σ) α) s g s' ↔ g = f ∧ s' = s := by
  constructor
  · intro h
    cases h
    exact ⟨rfl, rfl⟩
  · rintro ⟨rfl, rfl⟩
    rfl

theorem outcome_bind (a : ExceptT Failure (StateM σ) α) (g : α → ExceptT Failure (StateM σ) β)
    (s : σ) : outcome (a >>= g) s =
      match outcome a s with
      | (.ok x, s') => outcome (g x) s'
      | (.error f, s') => (.error f, s') := by
  unfold outcome
  rw [ExceptT.run_bind, StateT.run_bind]
  cases h : a.run.run s with
  | mk r s' => cases r <;> rfl

theorem yields_bind {a : ExceptT Failure (StateM σ) α} {g : α → ExceptT Failure (StateM σ) β}
    {s s'' : σ} {y : β} :
    Yields (a >>= g) s y s'' ↔ ∃ x s', Yields a s x s' ∧ Yields (g x) s' y s'' := by
  unfold Yields
  rw [outcome_bind]
  cases h : outcome a s with
  | mk r s' =>
    cases r with
    | error e => simp
    | ok x =>
      constructor
      · exact fun hg => ⟨x, s', rfl, hg⟩
      · rintro ⟨_, _, hx, hg⟩
        cases hx
        exact hg

theorem fails_bind {a : ExceptT Failure (StateM σ) α} {g : α → ExceptT Failure (StateM σ) β}
    {s s'' : σ} {f : Failure} :
    Fails (a >>= g) s f s'' ↔
      Fails a s f s'' ∨ ∃ x s', Yields a s x s' ∧ Fails (g x) s' f s'' := by
  unfold Yields Fails
  rw [outcome_bind]
  cases h : outcome a s with
  | mk r s' =>
    cases r with
    | error e => simp
    | ok x =>
      constructor
      · exact fun hg => .inr ⟨x, s', rfl, hg⟩
      · rintro (hx | ⟨_, _, hx, hg⟩)
        · cases hx
        · cases hx
          exact hg

/-- A first step that is known to succeed can be left out. -/
theorem Yields.bind_iff {a : ExceptT Failure (StateM σ) α} {g : α → ExceptT Failure (StateM σ) β}
    {s s₁ s' : σ} {x : α} {y : β} (ha : Yields a s x s₁) :
    Yields (a >>= g) s y s' ↔ Yields (g x) s₁ y s' := by
  rw [yields_bind]
  constructor
  · rintro ⟨x', s₂, hx, hg⟩
    obtain ⟨rfl, rfl⟩ := ha.unique hx
    exact hg
  · intro hg
    exact ⟨x, s₁, ha, hg⟩

theorem Yields.fails_bind_iff {a : ExceptT Failure (StateM σ) α}
    {g : α → ExceptT Failure (StateM σ) β} {s s₁ s' : σ} {x : α} {f : Failure}
    (ha : Yields a s x s₁) : Fails (a >>= g) s f s' ↔ Fails (g x) s₁ f s' := by
  rw [fails_bind]
  constructor
  · rintro (hf | ⟨x', s₂, hx, hg⟩)
    · exact absurd hf ha.not_fails
    · obtain ⟨rfl, rfl⟩ := ha.unique hx
      exact hg
  · intro hg
    exact .inr ⟨x, s₁, ha, hg⟩

/-- A first step that only looks gives a value for which `P` holds, and the rest begins where it
began. -/
theorem yields_bind_of_looks {a : ExceptT Failure (StateM σ) α}
    {g : α → ExceptT Failure (StateM σ) β} {s s' : σ} {y : β} {P : α → Prop}
    (ha : ∀ {x s₁}, Yields a s x s₁ ↔ P x ∧ s₁ = s) :
    Yields (a >>= g) s y s' ↔ ∃ x, P x ∧ Yields (g x) s y s' := by
  rw [yields_bind]
  constructor
  · rintro ⟨x, s₁, hx, hg⟩
    obtain ⟨hP, rfl⟩ := ha.1 hx
    exact ⟨x, hP, hg⟩
  · rintro ⟨x, hP, hg⟩
    exact ⟨x, s, ha.2 ⟨hP, rfl⟩, hg⟩

@[simp] theorem yields_get_bind {g : σ → ExceptT Failure (StateM σ) α} {s s' : σ} {x : α} :
    Yields (get >>= g) s x s' ↔ Yields (g s) s x s' := Iff.rfl

@[simp] theorem fails_get_bind {g : σ → ExceptT Failure (StateM σ) α} {s s' : σ} {f : Failure} :
    Fails (get >>= g) s f s' ↔ Fails (g s) s f s' := Iff.rfl

/-! ## 4. Requests and files -/

@[simp] theorem yields_accept {r : Except Refusal α} {fs fs' : FileStore} {x : α} :
    Yields (FileAction.accept r) fs x fs' ↔ r = .ok x ∧ fs' = fs := by
  cases r with
  | ok y => simp [FileAction.accept, eq_comm]
  | error c => simp [FileAction.accept]

@[simp] theorem fails_accept {r : Except Refusal α} {fs fs' : FileStore} {f : Failure} :
    Fails (FileAction.accept r) fs f fs' ↔ (∃ c, r = .error c ∧ f = .refused c) ∧ fs' = fs := by
  cases r with
  | ok y => simp [FileAction.accept]
  | error c => simp [FileAction.accept]

theorem yields_accept_bind {r : Except Refusal α} {g : α → FileAction β} {fs fs' : FileStore}
    {y : β} : Yields (FileAction.accept r >>= g) fs y fs' ↔
      ∃ x, r = .ok x ∧ Yields (g x) fs y fs' :=
  yields_bind_of_looks yields_accept

theorem fails_accept_bind {r : Except Refusal α} {g : α → FileAction β} {fs fs' : FileStore}
    {f : Failure} : Fails (FileAction.accept r >>= g) fs f fs' ↔
      (∃ c, r = .error c ∧ f = .refused c ∧ fs' = fs) ∨
        ∃ x, r = .ok x ∧ Fails (g x) fs f fs' := by
  rw [fails_bind]
  constructor
  · rintro (hr | ⟨x, fs₁, hr, hg⟩)
    · obtain ⟨⟨c, hr, hf⟩, hfs⟩ := fails_accept.1 hr
      exact .inl ⟨c, hr, hf, hfs⟩
    · obtain ⟨hx, rfl⟩ := yields_accept.1 hr
      exact .inr ⟨x, hx, hg⟩
  · rintro (⟨c, hr, hf, hfs⟩ | ⟨x, hr, hg⟩)
    · exact .inl (fails_accept.2 ⟨⟨c, hr, hf⟩, hfs⟩)
    · exact .inr ⟨x, fs, yields_accept.2 ⟨hr, rfl⟩, hg⟩

theorem yields_ask {q : FileStore → Except FileFault α} {fs fs' : FileStore} {x : α} :
    Yields (FileAction.ask q) fs x fs' ↔ q fs = .ok x ∧ fs' = fs := by
  unfold FileAction.ask
  rw [yields_get_bind]
  cases h : q fs with
  | ok y => simp [eq_comm]
  | error fault => simp

theorem yields_ask_bind {q : FileStore → Except FileFault α} {g : α → FileAction β}
    {fs fs' : FileStore} {y : β} : Yields (FileAction.ask q >>= g) fs y fs' ↔
      ∃ x, q fs = .ok x ∧ Yields (g x) fs y fs' :=
  yields_bind_of_looks yields_ask

theorem yields_change {u : FileStore → Except FileFault FileStore} {fs fs' : FileStore} :
    Yields (FileAction.change u) fs () fs' ↔ u fs = .ok fs' := by
  unfold FileAction.change
  rw [yields_get_bind]
  cases h : u fs with
  | ok fs₁ => exact ⟨fun hs => by cases hs; rfl, fun hs => by cases hs; rfl⟩
  | error fault => simp

theorem fails_change {u : FileStore → Except FileFault FileStore} {fs fs' : FileStore}
    {f : Failure} :
    Fails (FileAction.change u) fs f fs' ↔ (∃ e, u fs = .error e ∧ f = .file e) ∧ fs' = fs := by
  unfold FileAction.change
  rw [fails_get_bind]
  cases h : u fs with
  | ok fs₁ =>
    refine ⟨fun hs => ?_, fun hs => ?_⟩
    · cases hs
    · simp at hs
  | error fault => simp

/-! ## 5. Worlds -/

@[simp] theorem yields_workspace_bind {g : Workspace → Action α} {w w' : World} {x : α} :
    Yields (Action.workspace >>= g) w x w' ↔ Yields (g w.workspace) w x w' := Iff.rfl

@[simp] theorem fails_workspace_bind {g : Workspace → Action α} {w w' : World} {f : Failure} :
    Fails (Action.workspace >>= g) w f w' ↔ Fails (g w.workspace) w f w' := Iff.rfl

@[simp] theorem yields_setWorkspace {ws : Workspace} {w w' : World} :
    Yields (Action.setWorkspace ws) w () w' ↔ w' = { w with workspace := ws } := by
  constructor
  · intro h
    cases h
    rfl
  · rintro rfl
    rfl

@[simp] theorem fails_setWorkspace {ws : Workspace} {w w' : World} {f : Failure} :
    ¬ Fails (Action.setWorkspace ws) w f w' := by
  intro h
  cases h

@[simp] theorem yields_action_accept {r : Except Refusal α} {w w' : World} {x : α} :
    Yields (Action.accept r) w x w' ↔ r = .ok x ∧ w' = w := by
  cases r with
  | ok y => simp [Action.accept, eq_comm]
  | error c => simp [Action.accept]

@[simp] theorem fails_action_accept {r : Except Refusal α} {w w' : World} {f : Failure} :
    Fails (Action.accept r) w f w' ↔ (∃ c, r = .error c ∧ f = .refused c) ∧ w' = w := by
  cases r with
  | ok y => simp [Action.accept]
  | error c => simp [Action.accept]

theorem yields_action_accept_bind {r : Except Refusal α} {g : α → Action β} {w w' : World}
    {y : β} : Yields (Action.accept r >>= g) w y w' ↔ ∃ x, r = .ok x ∧ Yields (g x) w y w' :=
  yields_bind_of_looks yields_action_accept

theorem outcome_onFiles (a : FileAction α) (w : World) :
    outcome (Action.onFiles a) w =
      ((outcome a w.files).1, { w with files := (outcome a w.files).2 }) := rfl

theorem yields_onFiles {a : FileAction α} {w w' : World} {x : α} :
    Yields (Action.onFiles a) w x w' ↔
      ∃ fs, Yields a w.files x fs ∧ w' = { w with files := fs } := by
  unfold Yields
  rw [outcome_onFiles]
  cases h : outcome a w.files with
  | mk r fs => simp [eq_comm, and_assoc]

/-! ## 6. Lists of steps -/

theorem yields_forM_nil {g : α → ExceptT Failure (StateM σ) PUnit} {s s' : σ} :
    Yields (([] : List α).forM g) s ⟨⟩ s' ↔ s' = s := by
  rw [List.forM]
  simp

theorem yields_forM_cons {g : α → ExceptT Failure (StateM σ) PUnit} {x : α} {xs : List α}
    {s s'' : σ} : Yields ((x :: xs).forM g) s ⟨⟩ s'' ↔
      ∃ s', Yields (g x) s ⟨⟩ s' ∧ Yields (xs.forM g) s' ⟨⟩ s'' := by
  rw [List.forM, yields_bind]
  exact ⟨fun ⟨_, s', h⟩ => ⟨s', h⟩, fun ⟨s', h⟩ => ⟨⟨⟩, s', h⟩⟩

theorem fails_forM_cons {g : α → ExceptT Failure (StateM σ) PUnit} {x : α} {xs : List α}
    {s s'' : σ} {f : Failure} : Fails ((x :: xs).forM g) s f s'' ↔
      Fails (g x) s f s'' ∨ ∃ s', Yields (g x) s ⟨⟩ s' ∧ Fails (xs.forM g) s' f s'' := by
  rw [List.forM, fails_bind]
  refine or_congr Iff.rfl ?_
  exact ⟨fun ⟨_, s', h⟩ => ⟨s', h⟩, fun ⟨s', h⟩ => ⟨⟨⟩, s', h⟩⟩

/-- Checks that change nothing all pass if and only if each passes on its own. -/
theorem yields_forM_iff {g : α → ExceptT Failure (StateM σ) PUnit} {xs : List α} {s s' : σ}
    (hg : ∀ x s₁, Yields (g x) s ⟨⟩ s₁ → s₁ = s) :
    Yields (xs.forM g) s ⟨⟩ s' ↔ s' = s ∧ ∀ x ∈ xs, Yields (g x) s ⟨⟩ s := by
  induction xs with
  | nil => simp [List.forM]
  | cons x xs ih =>
    rw [yields_forM_cons]
    constructor
    · rintro ⟨s₁, hx, hxs⟩
      obtain rfl := hg x s₁ hx
      obtain ⟨rfl, hall⟩ := ih.1 hxs
      exact ⟨rfl, List.forall_mem_cons.2 ⟨hx, hall⟩⟩
    · rintro ⟨rfl, hall⟩
      obtain ⟨hx, hxs⟩ := List.forall_mem_cons.1 hall
      exact ⟨_, hx, ih.2 ⟨rfl, hxs⟩⟩

end RasterScript
