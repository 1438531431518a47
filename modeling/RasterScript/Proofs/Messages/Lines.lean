import RasterScript.Proofs.Command.Parsing
import RasterScript.Proofs.Messages.Texts

/-!
# Lines — why a line is no command, on one line

The words of a line hold no line break, and a message that refuses a line shows nothing but words of
it.  A name is shown as it is only after it has been found to hold no blank.
-/

namespace RasterScript

/-! ## 1. Names -/

/-- A name is shown as it is only after it has been found to hold no blank. -/
theorem refusesPlainly_checkName (kind : NameKind) (s : String) :
    RefusesPlainly (checkName kind s) := by
  unfold checkName
  refine refusesPlainly_bind (refusesPlainly_require (plain_of_no_texts rfl)) fun _ _ => ?_
  exact refusesPlainly_require (plain_of_no_texts rfl)

theorem refusesPlainly_checkLayerName (s : String) : RefusesPlainly (checkLayerName s) := by
  unfold checkLayerName
  refine refusesPlainly_bind (refusesPlainly_checkName _ _) fun _ hname => ?_
  exact refusesPlainly_require (plain_of_text rfl (oneLine_of_isName (checkName_eq_ok.1 hname)))

theorem refusesPlainly_checkPath (p : Path) : RefusesPlainly p.check :=
  refusesPlainly_require (plain_of_no_texts rfl)

theorem refusesPlainly_checkTarget (t : Target) : RefusesPlainly t.check := by
  cases t with
  | image name => exact refusesPlainly_checkName _ _
  | layer stack name =>
    exact refusesPlainly_bind (refusesPlainly_checkName _ _) fun _ _ =>
      refusesPlainly_checkLayerName _

theorem refusesPlainly_checkSource (source : ImageSource) : RefusesPlainly source.check := by
  cases source with
  | checkerboard size count first second =>
    exact refusesPlainly_bind (refusesPlainly_require (plain_of_no_texts rfl)) fun _ _ =>
      refusesPlainly_require (plain_of_no_texts rfl)
  | empty => exact refusesPlainly_ok _
  | transparent w h => exact refusesPlainly_require (plain_of_no_texts rfl)
  | copy name => exact refusesPlainly_checkName _ _
  | file path => exact refusesPlainly_checkPath path

theorem refusesPlainly_checkLayeredSource (source : LayeredSource) :
    RefusesPlainly source.check := by
  cases source with
  | blank w h => exact refusesPlainly_require (plain_of_no_texts rfl)
  | directory path => exact refusesPlainly_checkPath path

/-- No check of a command shows a line break, whatever names the command has. -/
theorem refusesPlainly_check (c : Command) : RefusesPlainly c.check := by
  have hlayer : ∀ {x : Except Refusal Unit} (layer : String), RefusesPlainly x →
      RefusesPlainly (x >>= fun _ => checkLayerName layer) := fun layer hx =>
    refusesPlainly_bind hx fun _ _ => refusesPlainly_checkLayerName layer
  have hpath : ∀ {x : Except Refusal Unit} (path : Path), RefusesPlainly x →
      RefusesPlainly (x >>= fun _ => path.check) := fun path hx =>
    refusesPlainly_bind hx fun _ _ => refusesPlainly_checkPath path
  cases c with
  | createImage name source =>
    exact refusesPlainly_bind (refusesPlainly_checkName _ _) fun _ _ =>
      refusesPlainly_checkSource source
  | createLayeredImage name source =>
    exact refusesPlainly_bind (refusesPlainly_checkName _ _) fun _ _ =>
      refusesPlainly_checkLayeredSource source
  | updateColor target x y color => exact refusesPlainly_checkTarget target
  | applyMutator target mutator => exact refusesPlainly_checkTarget target
  | save target format path => exact hpath path (refusesPlainly_checkTarget target)
  | saveLayered image path => exact hpath path (refusesPlainly_checkName _ _)
  | saveAsImage image format path => exact hpath path (refusesPlainly_checkName _ _)
  | load image => exact refusesPlainly_checkName _ _
  | copyLayer image layer source =>
    exact refusesPlainly_bind (refusesPlainly_checkName _ _) fun _ _ =>
      hlayer source (refusesPlainly_checkLayerName layer)
  | addImageAsLayer image layer path =>
    exact refusesPlainly_bind (refusesPlainly_checkName _ _) fun _ _ =>
      hpath path (refusesPlainly_checkLayerName layer)
  -- the others name an image and a layer
  | setCurrentLayer image layer | addLayer image layer | removeLayer image layer
  | moveLayer image layer _ | updateVisibility image layer _ =>
    exact hlayer layer (refusesPlainly_checkName _ _)

theorem refusesPlainly_checked (c : Command) : RefusesPlainly c.checked :=
  refusesPlainly_bind (refusesPlainly_check c) fun _ _ => refusesPlainly_ok _

/-! ## 2. Words of a line -/

theorem refusesPlainly_readSize {what t : String} (hwhat : OneLine what) (ht : OneLine t) :
    RefusesPlainly (readSize what t) := by
  have hplain : (Refusal.notAnIndex what t).Plain := by
    simp [Refusal.Plain, Refusal.texts, hwhat, ht]
  unfold readSize
  split
  · exact refusesPlainly_ok _
  · exact refusesPlainly_error hplain

theorem refusesPlainly_readInteger {what t : String} (hwhat : OneLine what) (ht : OneLine t) :
    RefusesPlainly (readInteger what t) := by
  have hplain : (Refusal.notANumber what t).Plain := by
    simp [Refusal.Plain, Refusal.texts, hwhat, ht]
  unfold readInteger
  split
  · exact refusesPlainly_ok _
  · exact refusesPlainly_error hplain

theorem refusesPlainly_channel {what : String} (hwhat : OneLine what) (v : Int) :
    RefusesPlainly (channel what v) := by
  unfold channel
  split
  · exact refusesPlainly_ok _
  · exact refusesPlainly_error (plain_of_text rfl hwhat)

theorem refusesPlainly_solidColor (r g b : Int) : RefusesPlainly (Command.solidColor r g b) := by
  unfold Command.solidColor
  refine refusesPlainly_bind (refusesPlainly_channel (by decide) r) fun _ _ => ?_
  refine refusesPlainly_bind (refusesPlainly_channel (by decide) g) fun _ _ => ?_
  exact refusesPlainly_bind (refusesPlainly_channel (by decide) b) fun _ _ => refusesPlainly_ok _

theorem refusesPlainly_fullColor (r g b o : Int) :
    RefusesPlainly (Command.fullColor r g b o) := by
  unfold Command.fullColor
  refine refusesPlainly_bind (refusesPlainly_channel (by decide) r) fun _ _ => ?_
  refine refusesPlainly_bind (refusesPlainly_channel (by decide) g) fun _ _ => ?_
  refine refusesPlainly_bind (refusesPlainly_channel (by decide) b) fun _ _ => ?_
  exact refusesPlainly_bind (refusesPlainly_channel (by decide) o) fun _ _ => refusesPlainly_ok _

theorem refusesPlainly_formatOfText {t : String} (ht : OneLine t) :
    RefusesPlainly (ImageFormat.ofText t) := by
  unfold ImageFormat.ofText
  split
  all_goals first | exact refusesPlainly_ok _ | exact refusesPlainly_error (plain_of_text rfl ht)

theorem refusesPlainly_mutatorOfText {t : String} (ht : OneLine t) :
    RefusesPlainly (MutatorKind.ofText t) := by
  unfold MutatorKind.ofText
  split
  all_goals first | exact refusesPlainly_ok _ | exact refusesPlainly_error (plain_of_text rfl ht)

theorem refusesPlainly_readVisibility {t : String} (ht : OneLine t) :
    RefusesPlainly (readVisibility t) := by
  unfold readVisibility
  split
  all_goals first | exact refusesPlainly_ok _ | exact refusesPlainly_error (plain_of_text rfl ht)

theorem refusesPlainly_requireImage (cursor : Cursor) : RefusesPlainly cursor.requireImage := by
  unfold Cursor.requireImage
  split
  · exact refusesPlainly_ok _
  · exact refusesPlainly_error (plain_of_no_texts rfl)

theorem refusesPlainly_requireLayer (cursor : Cursor) : RefusesPlainly cursor.requireLayer := by
  unfold Cursor.requireLayer
  split
  · exact refusesPlainly_ok _
  · exact refusesPlainly_error (plain_of_no_texts rfl)

theorem refusesPlainly_readTarget (cursor : Cursor) (names : List String) :
    RefusesPlainly (readTarget cursor names) := by
  unfold readTarget
  split
  · refine refusesPlainly_bind (refusesPlainly_requireImage _) fun _ _ => ?_
    exact refusesPlainly_bind (refusesPlainly_requireLayer _) fun _ _ => refusesPlainly_ok _
  · exact refusesPlainly_ok _
  · exact refusesPlainly_ok _
  · exact refusesPlainly_error (plain_of_no_texts rfl)

theorem refusesPlainly_wrongCount (k : Keyword) {expected : String} (h : OneLine expected)
    (args : List String) : RefusesPlainly (wrongCount k expected args : Except Refusal α) := by
  have hkeyword := oneLine_of_isName (isName_keyword k)
  apply refusesPlainly_error
  simp [Refusal.Plain, Refusal.texts, hkeyword, h]

/-! ## 3. Lines -/

namespace Grammar

variable {cursor : Cursor} {args : List String}

theorem refusesPlainly_createImage (h : ∀ t ∈ args, OneLine t) :
    RefusesPlainly (createImage args) := by
  have hsize : ∀ what t, OneLine what → t ∈ args → RefusesPlainly (readSize what t) :=
    fun _ t hwhat ht => refusesPlainly_readSize hwhat (h t ht)
  have hinteger : ∀ what t, OneLine what → t ∈ args → RefusesPlainly (readInteger what t) :=
    fun _ t hwhat ht => refusesPlainly_readInteger hwhat (h t ht)
  unfold createImage
  split
  case h_2 _ name size count r₁ g₁ b₁ r₂ g₂ b₂ =>
    refine refusesPlainly_bind (hsize _ size (by decide) (by simp)) fun _ _ => ?_
    refine refusesPlainly_bind (hsize _ count (by decide) (by simp)) fun _ _ => ?_
    refine refusesPlainly_bind (hinteger _ r₁ (by decide) (by simp)) fun _ _ => ?_
    refine refusesPlainly_bind (hinteger _ g₁ (by decide) (by simp)) fun _ _ => ?_
    refine refusesPlainly_bind (hinteger _ b₁ (by decide) (by simp)) fun _ _ => ?_
    refine refusesPlainly_bind (hinteger _ r₂ (by decide) (by simp)) fun _ _ => ?_
    refine refusesPlainly_bind (hinteger _ g₂ (by decide) (by simp)) fun _ _ => ?_
    refine refusesPlainly_bind (hinteger _ b₂ (by decide) (by simp)) fun _ _ => ?_
    refine refusesPlainly_bind (refusesPlainly_solidColor _ _ _) fun _ _ => ?_
    exact refusesPlainly_bind (refusesPlainly_solidColor _ _ _) fun _ _ => refusesPlainly_checked _
  case h_6 _ name w height =>
    refine refusesPlainly_bind (hsize _ w (by decide) (by simp)) fun _ _ => ?_
    exact refusesPlainly_bind (hsize _ height (by decide) (by simp)) fun _ _ =>
      refusesPlainly_checked _
  case h_12 kind rest _ _ _ _ _ _ _ _ _ _ =>
    exact refusesPlainly_error (plain_of_text rfl (h kind List.mem_cons_self))
  all_goals first
    | exact refusesPlainly_checked _
    | exact refusesPlainly_wrongCount _ (by decide) _

theorem refusesPlainly_createLayeredImage (h : ∀ t ∈ args, OneLine t) :
    RefusesPlainly (createLayeredImage args) := by
  unfold createLayeredImage
  split
  case h_1 _ name w height =>
    have hw := refusesPlainly_readSize (by decide : OneLine "width") (h w (by simp))
    have hheight := refusesPlainly_readSize (by decide : OneLine "height") (h height (by simp))
    refine refusesPlainly_bind hw fun _ _ => ?_
    exact refusesPlainly_bind hheight fun _ _ => refusesPlainly_checked _
  case h_5 kind rest _ _ _ _ =>
    exact refusesPlainly_error (plain_of_text rfl (h kind List.mem_cons_self))
  all_goals first
    | exact refusesPlainly_checked _
    | exact refusesPlainly_wrongCount _ (by decide) _

theorem refusesPlainly_updateColor (h : ∀ t ∈ args, OneLine t) :
    RefusesPlainly (updateColor cursor args) := by
  unfold updateColor
  dsimp only
  split
  · rename_i x y r g b o hback
    have hwords : ∀ t ∈ [x, y, r, g, b, o], OneLine t := by
      intro t ht
      rw [← hback] at ht
      exact h t (List.mem_of_mem_drop ht)
    have hsize : ∀ what t, OneLine what → t ∈ [x, y, r, g, b, o] →
        RefusesPlainly (readSize what t) :=
      fun _ t hwhat ht => refusesPlainly_readSize hwhat (hwords t ht)
    have hinteger : ∀ what t, OneLine what → t ∈ [x, y, r, g, b, o] →
        RefusesPlainly (readInteger what t) :=
      fun _ t hwhat ht => refusesPlainly_readInteger hwhat (hwords t ht)
    split
    · refine refusesPlainly_bind (refusesPlainly_readTarget _ _) fun _ _ => ?_
      refine refusesPlainly_bind (hsize _ x (by decide) (by simp)) fun _ _ => ?_
      refine refusesPlainly_bind (hsize _ y (by decide) (by simp)) fun _ _ => ?_
      refine refusesPlainly_bind (hinteger _ r (by decide) (by simp)) fun _ _ => ?_
      refine refusesPlainly_bind (hinteger _ g (by decide) (by simp)) fun _ _ => ?_
      refine refusesPlainly_bind (hinteger _ b (by decide) (by simp)) fun _ _ => ?_
      refine refusesPlainly_bind (hinteger _ o (by decide) (by simp)) fun _ _ => ?_
      exact refusesPlainly_bind (refusesPlainly_fullColor _ _ _ _) fun _ _ =>
        refusesPlainly_checked _
    · exact refusesPlainly_wrongCount _ (by decide) _
  · exact refusesPlainly_wrongCount _ (by decide) _

theorem refusesPlainly_applyMutator (h : ∀ t ∈ args, OneLine t) :
    RefusesPlainly (applyMutator cursor args) := by
  unfold applyMutator
  split
  · exact refusesPlainly_wrongCount _ (by decide) _
  · rename_i kind names
    split
    · refine refusesPlainly_bind (refusesPlainly_mutatorOfText (h kind List.mem_cons_self)) ?_
      intro _ _
      exact refusesPlainly_bind (refusesPlainly_readTarget _ _) fun _ _ => refusesPlainly_checked _
    · exact refusesPlainly_wrongCount _ (by decide) _

theorem refusesPlainly_save (h : ∀ t ∈ args, OneLine t) : RefusesPlainly (save cursor args) := by
  unfold save
  dsimp only
  split
  · rename_i format path hback
    have hformat : OneLine format := by
      apply h format
      apply List.mem_of_mem_drop
      rw [hback]
      exact List.mem_cons_self
    split
    · refine refusesPlainly_bind (refusesPlainly_formatOfText hformat) fun _ _ => ?_
      exact refusesPlainly_bind (refusesPlainly_readTarget _ _) fun _ _ => refusesPlainly_checked _
    · exact refusesPlainly_wrongCount _ (by decide) _
  · exact refusesPlainly_wrongCount _ (by decide) _

theorem refusesPlainly_readImage (k : Keyword) (fixed : Nat) :
    RefusesPlainly (readImage k fixed cursor args) := by
  have hexpected : OneLine s!"{fixed} or {fixed + 1}" := by simp +decide
  unfold readImage
  split
  · exact refusesPlainly_bind (refusesPlainly_requireImage _) fun _ _ => refusesPlainly_ok _
  · split
    · split
      · exact refusesPlainly_ok _
      · exact refusesPlainly_wrongCount _ hexpected _
    · exact refusesPlainly_wrongCount _ hexpected _

theorem refusesPlainly_withOne (k : Keyword) {make : String → String → Except Refusal Command}
    (hmake : ∀ image a, RefusesPlainly (make image a)) :
    RefusesPlainly (withOne k make cursor args) := by
  unfold withOne
  refine refusesPlainly_bind (refusesPlainly_readImage _ _) fun _ _ => ?_
  split
  · exact hmake _ _
  · exact refusesPlainly_wrongCount _ (by decide) _

theorem refusesPlainly_withTwo (k : Keyword)
    {make : String → String → String → Except Refusal Command}
    (hmake : ∀ image a b, a ∈ args → b ∈ args → RefusesPlainly (make image a b)) :
    RefusesPlainly (withTwo k make cursor args) := by
  unfold withTwo
  refine refusesPlainly_bind (refusesPlainly_readImage _ _) fun read hread => ?_
  split
  · rename_i image a b
    obtain ⟨-, names, hargs, -⟩ := readImage_eq_ok.1 hread
    exact hmake image a b (by simp [hargs]) (by simp [hargs])
  · exact refusesPlainly_wrongCount _ (by decide) _

theorem refusesPlainly_updateVisibility (h : ∀ t ∈ args, OneLine t) :
    RefusesPlainly (updateVisibility cursor args) := by
  have hflag : ∀ t ∈ args, RefusesPlainly (readVisibility t) :=
    fun t ht => refusesPlainly_readVisibility (h t ht)
  unfold updateVisibility
  split
  · refine refusesPlainly_bind (refusesPlainly_requireImage _) fun _ _ => ?_
    refine refusesPlainly_bind (refusesPlainly_requireLayer _) fun _ _ => ?_
    exact refusesPlainly_bind (hflag _ (by simp)) fun _ _ => refusesPlainly_checked _
  · refine refusesPlainly_bind (refusesPlainly_requireImage _) fun _ _ => ?_
    exact refusesPlainly_bind (hflag _ (by simp)) fun _ _ => refusesPlainly_checked _
  · exact refusesPlainly_bind (hflag _ (by simp)) fun _ _ => refusesPlainly_checked _
  · exact refusesPlainly_wrongCount _ (by decide) _

theorem refusesPlainly_rule (h : ∀ t ∈ args, OneLine t) (k : Keyword) :
    RefusesPlainly (rule cursor args k) := by
  cases k with
  | createImage => exact refusesPlainly_createImage h
  | createLayeredImage => exact refusesPlainly_createLayeredImage h
  | updateColor => exact refusesPlainly_updateColor h
  | applyMutator => exact refusesPlainly_applyMutator h
  | save => exact refusesPlainly_save h
  | load =>
    unfold rule load
    dsimp only
    split
    · exact refusesPlainly_checked _
    · exact refusesPlainly_wrongCount _ (by decide) _
  | saveAsImage =>
    refine refusesPlainly_withTwo _ fun image a b ha _ => ?_
    exact refusesPlainly_bind (refusesPlainly_formatOfText (h a ha)) fun _ _ =>
      refusesPlainly_checked _
  | moveLayer =>
    refine refusesPlainly_withTwo _ fun image a b _ hb => ?_
    exact refusesPlainly_bind (refusesPlainly_readSize (by decide) (h b hb)) fun _ _ =>
      refusesPlainly_checked _
  | copyLayer | addImageAsLayer =>
    exact refusesPlainly_withTwo _ fun _ _ _ _ _ => refusesPlainly_checked _
  | updateVisibility => exact refusesPlainly_updateVisibility h
  -- the others have one word behind the image
  | saveLayered | setCurrentLayer | addLayer | removeLayer =>
    exact refusesPlainly_withOne _ fun _ _ => refusesPlainly_checked _

end Grammar

theorem oneLine_of_mem_wordsOf {line t : String} (h : t ∈ wordsOf line) : OneLine t := by
  obtain ⟨w, hw, rfl⟩ := List.mem_map.1 h
  apply oneLine_of_blank_free
  rw [String.toList_ofList]
  exact (mem_words hw).2

/-- The words of a line hold no line break, so neither does the reason why it is no command. -/
theorem refusesPlainly_parseLine (cursor : Cursor) (line : String) :
    RefusesPlainly (Command.parseLine cursor line) := by
  have hwords : ∀ t ∈ wordsOf line, OneLine t := fun _ => oneLine_of_mem_wordsOf
  unfold Command.parseLine Command.parse
  split
  · exact refusesPlainly_error (plain_of_no_texts rfl)
  · rename_i word args heq
    rw [heq] at hwords
    obtain ⟨hword, hargs⟩ := List.forall_mem_cons.1 hwords
    refine refusesPlainly_bind (refusesPlainly_require (plain_of_no_texts rfl)) fun _ _ => ?_
    split
    · exact refusesPlainly_error (plain_of_text rfl hword)
    · exact Grammar.refusesPlainly_rule hargs _

end RasterScript
