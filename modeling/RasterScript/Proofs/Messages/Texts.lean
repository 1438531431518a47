import RasterScript.Proofs.Outcome
import RasterScript.Proofs.Text.OneLine

/-!
# Texts — what messages show as it is

The message of a refusal is fixed words with some texts between them (`Refusal.texts`), so it has a
line break if and only if one of these texts has.  The rules for requests and actions put together
that they are refused, or fail, with a message on one line from their steps.
-/

namespace RasterScript

/-! ## 1. The texts in a message -/

/-- The texts that the message of a refusal shows as they are. -/
def Refusal.texts : Refusal → List String
  | .separatorInName name => [name]
  | .notANumber what token => [what, token]
  | .notAnIndex what token => [what, token]
  | .outsideChannel what _ => [what]
  | .unknownMutator word => [word]
  | .unknownFormat word => [word]
  | .unknownVisibility word => [word]
  | .missing _ name => [name]
  | .taken _ name => [name]
  | .notADirectory path => [path]
  | .foreignFile path => [path]
  | .notAManifest path => [path]
  | .noManifest directory file => [directory, file]
  | .notAPlainFileName file => [file]
  | .layerSize layer _ _ _ _ => [layer]
  | .unknownCommand keyword => [keyword]
  | .argumentCount keyword expected _ => [keyword, expected]
  | .unknownImageSource word => [word]
  | .unknownLayeredSource word => [word]
  | _ => []

/-- The refusal shows no text with a line break. -/
def Refusal.Plain (c : Refusal) : Prop := ∀ t ∈ c.texts, OneLine t

theorem Refusal.oneLine_message {c : Refusal} : OneLine c.message ↔ c.Plain := by
  have hkind : ∀ k : NameKind, OneLine k.text := by
    intro k
    cases k <;> exact oneLine_ofList (by decide)
  have hnamed : ∀ k : Named, OneLine k.text := by
    intro k
    cases k <;> exact oneLine_ofList (by decide)
  have haxis : ∀ k : Axis, OneLine k.text := by
    intro k
    cases k <;> exact oneLine_ofList (by decide)
  unfold Plain message texts
  constructor
  · intro h
    cases c <;> dsimp only at h ⊢
    all_goals try simp only [oneLine_append, oneLine_toString] at h
    all_goals simp [h]
  · intro h
    cases c <;> dsimp only at h ⊢
    all_goals try simp only [List.forall_mem_cons] at h
    all_goals try simp only [oneLine_append, oneLine_toString, oneLine_toString_nat,
      oneLine_toString_int, oneLine_sizeText, oneLine_quoted, hkind, hnamed, haxis, h, true_and,
      and_true]
    -- what is left are the words between the texts
    all_goals repeat' apply And.intro
    all_goals exact oneLine_ofList (by decide)

/-- The failure is none that shows a text with a line break. -/
def Failure.Plain : Failure → Prop
  | .refused c => c.Plain
  | _ => True

theorem Failure.plain_of_ne_refused {f : Failure} (h : ∀ c, f ≠ .refused c) : f.Plain := by
  cases f with
  | refused c => exact absurd rfl (h c)
  | _ => trivial

theorem DiskFault.oneLine_message (fault : DiskFault) : OneLine fault.message := by
  cases fault <;> exact oneLine_ofList (by decide)

theorem FileFault.oneLine_message (fault : FileFault) : OneLine fault.message := by
  cases fault with
  | disk fault => exact fault.oneLine_message
  | _ => exact oneLine_ofList (by decide)

theorem Failure.oneLine_message {f : Failure} : OneLine f.message ↔ f.Plain := by
  cases f with
  | refused c => exact c.oneLine_message
  | file fault =>
    exact iff_of_true
      (oneLine_append.2 ⟨oneLine_ofList (by decide), fault.oneLine_message⟩) trivial
  | codec fault | persistence fault =>
    have hfault : OneLine fault.message := by
      cases fault with
      | disk fault => exact fault.oneLine_message
      | _ => exact oneLine_ofList (by decide)
    exact iff_of_true (oneLine_append.2 ⟨oneLine_ofList (by decide), hfault⟩) trivial

/-! ## 2. Requests that are refused plainly -/

variable {α β σ : Type}

/-- If the request is refused, the message has one line. -/
def RefusesPlainly (r : Except Refusal α) : Prop := ∀ c, r = .error c → c.Plain

theorem plain_of_no_texts {c : Refusal} (h : c.texts = []) : c.Plain := by
  unfold Refusal.Plain
  rw [h]
  exact List.forall_mem_nil _

theorem plain_of_text {c : Refusal} {t : String} (h : c.texts = [t]) (ht : OneLine t) :
    c.Plain := by
  unfold Refusal.Plain
  rw [h]
  exact List.forall_mem_singleton.2 ht

theorem refusesPlainly_ok (x : α) : RefusesPlainly (.ok x) := fun _ h => by cases h

theorem refusesPlainly_error {c : Refusal} (h : c.Plain) :
    RefusesPlainly (.error c : Except Refusal α) := by
  rintro _ ⟨⟩
  exact h

theorem refusesPlainly_require {holds : Bool} {c : Refusal} (h : c.Plain) :
    RefusesPlainly (require holds c) := by
  intro c' hc
  exact (require_eq_error.1 hc).2 ▸ h

theorem refusesPlainly_bind {x : Except Refusal α} {g : α → Except Refusal β}
    (hx : RefusesPlainly x) (hg : ∀ a, x = .ok a → RefusesPlainly (g a)) :
    RefusesPlainly (x >>= g) := by
  cases x with
  | error c =>
    rintro _ ⟨⟩
    exact hx c rfl
  | ok a => exact hg a rfl

theorem refusesPlainly_map {x : Except Refusal α} (hx : RefusesPlainly x) (g : α → β) :
    RefusesPlainly (x.map g) := by
  cases x with
  | error c =>
    rintro _ ⟨⟩
    exact hx c rfl
  | ok a => exact refusesPlainly_ok _

/-! ## 3. Actions -/

/-- If the action fails, then for a reason for which `P` holds. -/
def FailsOnly (P : Failure → Prop) (a : ExceptT Failure (StateM σ) α) : Prop :=
  ∀ s f s', Fails a s f s' → P f

variable {P : Failure → Prop}

theorem failsOnly_pure (x : α) : FailsOnly P (pure x : ExceptT Failure (StateM σ) α) :=
  fun _ _ _ h => absurd h fails_pure

theorem failsOnly_throw {f : Failure} (h : P f) :
    FailsOnly P (throw f : ExceptT Failure (StateM σ) α) := by
  intro s f' s' hf
  obtain ⟨rfl, -⟩ := fails_throw.1 hf
  exact h

theorem failsOnly_bind {a : ExceptT Failure (StateM σ) α} {g : α → ExceptT Failure (StateM σ) β}
    (ha : FailsOnly P a) (hg : ∀ x, FailsOnly P (g x)) : FailsOnly P (a >>= g) := by
  intro s f s'' h
  rcases fails_bind.1 h with hf | ⟨x, s', -, hf⟩
  · exact ha s f s'' hf
  · exact hg x s' f s'' hf

theorem failsOnly_get_bind {g : σ → ExceptT Failure (StateM σ) α} (hg : ∀ s, FailsOnly P (g s)) :
    FailsOnly P (get >>= g) := fun s f s' h => hg s s f s' h

theorem failsOnly_forM {g : α → ExceptT Failure (StateM σ) PUnit} {xs : List α}
    (hg : ∀ x ∈ xs, FailsOnly P (g x)) : FailsOnly P (xs.forM g) := by
  induction xs with
  | nil => exact failsOnly_pure PUnit.unit
  | cons x xs ih =>
    obtain ⟨hx, hxs⟩ := List.forall_mem_cons.1 hg
    rw [List.forM]
    exact failsOnly_bind hx fun _ => ih hxs

theorem failsOnly_mapM {g : α → ExceptT Failure (StateM σ) β} {xs : List α}
    (hg : ∀ x ∈ xs, FailsOnly P (g x)) : FailsOnly P (xs.mapM g) := by
  induction xs with
  | nil =>
    rw [List.mapM_nil]
    exact failsOnly_pure _
  | cons x xs ih =>
    obtain ⟨hx, hxs⟩ := List.forall_mem_cons.1 hg
    rw [List.mapM_cons]
    exact failsOnly_bind hx fun _ => failsOnly_bind (ih hxs) fun _ => failsOnly_pure _

theorem failsOnly_accept {r : Except Refusal α} (h : ∀ c, r = .error c → P (.refused c)) :
    FailsOnly P (FileAction.accept r) := by
  intro fs f fs' hf
  obtain ⟨⟨c, hc, rfl⟩, -⟩ := fails_accept.1 hf
  exact h c hc

theorem failsOnly_accept_bind {r : Except Refusal α} {g : α → FileAction β}
    (h : ∀ c, r = .error c → P (.refused c)) (hg : ∀ x, r = .ok x → FailsOnly P (g x)) :
    FailsOnly P (FileAction.accept r >>= g) := by
  intro fs f fs' hf
  rcases fails_accept_bind.1 hf with ⟨c, hc, rfl, -⟩ | ⟨x, hx, hf⟩
  · exact h c hc
  · exact hg x hx fs f fs' hf

theorem failsOnly_change {u : FileStore → Except FileFault FileStore}
    (h : ∀ fault, P (.file fault)) : FailsOnly P (FileAction.change u) := by
  intro fs f fs' hf
  obtain ⟨⟨fault, -, rfl⟩, -⟩ := fails_change.1 hf
  exact h fault

theorem failsOnly_ask {q : FileStore → Except FileFault α} (h : ∀ fault, P (.file fault)) :
    FailsOnly P (FileAction.ask q) := by
  unfold FileAction.ask
  refine failsOnly_get_bind fun fs => ?_
  split
  · exact failsOnly_pure _
  · exact failsOnly_throw (h _)

theorem failsOnly_action_accept {r : Except Refusal α} (h : RefusesPlainly r) :
    FailsOnly Failure.Plain (Action.accept r) := by
  intro w f w' hf
  obtain ⟨⟨c, hc, rfl⟩, -⟩ := fails_action_accept.1 hf
  exact h c hc

theorem failsOnly_onFiles {a : FileAction α} (ha : FailsOnly P a) :
    FailsOnly P (Action.onFiles a) := by
  intro w f w' hf
  unfold Fails at hf
  rw [outcome_onFiles, Prod.mk.injEq] at hf
  exact ha w.files f _ (fails_of_outcome hf.1)

end RasterScript
