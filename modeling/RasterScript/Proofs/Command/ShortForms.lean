import RasterScript.Proofs.Command.Reading

/-!
# ShortForms — lines that leave names out

A keyword may have forms that leave the image out, or the image and the layer, and the cursor stands
in for them.  Such a form and the one with the names written out mean the same, down to the reason
why they are refused, and `Keyword.shortForms` lists all of them: with any other number of words the
cursor does not matter.
-/

namespace RasterScript

/-! ## 1. Forms -/

/-- The names that a form leaves out. -/
inductive Omission
  | image
  | imageAndLayer
  deriving DecidableEq, Repr

/-- The names that the cursor has for those left out, if all of them are set. -/
def Omission.names? (cursor : Cursor) : Omission → Option (List String)
  | .image => do return [← cursor.image]
  | .imageAndLayer => do return [← cursor.image, ← cursor.layer]

/-- A form that leaves names out: so many words come before the place of the names, and so many
after it. -/
structure ShortForm where
  front : Nat
  omitted : Omission
  back : Nat
  deriving DecidableEq, Repr

/-- The forms of a keyword that leave names out. -/
def Keyword.shortForms : Keyword → List ShortForm
  | .createImage | .createLayeredImage | .load => []
  | .updateColor => [⟨0, .imageAndLayer, 6⟩]
  | .applyMutator => [⟨1, .imageAndLayer, 0⟩]
  | .save => [⟨0, .imageAndLayer, 2⟩]
  | .saveLayered | .setCurrentLayer | .addLayer | .removeLayer => [⟨0, .image, 1⟩]
  | .saveAsImage | .copyLayer | .addImageAsLayer | .moveLayer => [⟨0, .image, 2⟩]
  | .updateVisibility => [⟨0, .imageAndLayer, 1⟩, ⟨0, .image, 2⟩]

theorem Omission.names?_image {cursor : Cursor} {names : List String} :
    names? cursor .image = some names ↔ ∃ i, cursor.image = some i ∧ names = [i] := by
  cases h : cursor.image <;> simp [names?, h, eq_comm]

theorem Omission.names?_imageAndLayer {cursor : Cursor} {names : List String} :
    names? cursor .imageAndLayer = some names ↔
      ∃ i l, cursor = ⟨some i, some l⟩ ∧ names = [i, l] := by
  obtain ⟨image, layer⟩ := cursor
  cases image <;> cases layer <;> simp [names?, eq_comm]

/-! ## 2. Reading the names -/

variable {cursor other : Cursor} {args names names' back : List String} {k : Keyword} {fixed : Nat}

/-- The request is refused for some reason. -/
def Refused {α : Type} (x : Except Refusal α) : Prop := ∃ r, x = .error r

theorem refused_bind {α β : Type} {x : Except Refusal α} {g : α → Except Refusal β}
    (h : Refused x ∨ ∀ a, Refused (g a)) : Refused (x >>= g) := by
  cases x with
  | error r => exact ⟨r, rfl⟩
  | ok a =>
    rcases h with ⟨r, hr⟩ | h
    · cases hr
    · exact h a

theorem readTarget_of_ne_nil (other : Cursor) (h : names ≠ []) :
    readTarget cursor names = readTarget other names := by
  match names with
  | [] => exact absurd rfl h
  | [_] => rfl
  | [_, _] => rfl
  | _ :: _ :: _ :: _ => rfl

theorem refused_requireImage (h : cursor.image = none) : Refused cursor.requireImage := by
  refine ⟨.noCurrentImage, ?_⟩
  unfold Cursor.requireImage
  rw [h]

theorem refused_requireLayer (h : cursor.layer = none) : Refused cursor.requireLayer := by
  refine ⟨.noCurrentLayer, ?_⟩
  unfold Cursor.requireLayer
  rw [h]

theorem refused_require (h : Omission.names? cursor .imageAndLayer = none) :
    Refused cursor.requireImage ∨ Refused cursor.requireLayer := by
  cases hi : cursor.image with
  | none => exact .inl (refused_requireImage hi)
  | some i =>
    refine .inr (refused_requireLayer ?_)
    cases hl : cursor.layer with
    | none => rfl
    | some l => simp [Omission.names?, hi, hl] at h

theorem refused_readTarget (h : Omission.names? cursor .imageAndLayer = none) :
    Refused (readTarget cursor []) :=
  refused_bind ((refused_require h).imp_right fun hlayer _ => refused_bind (.inl hlayer))

theorem readImage_of_length_ne (other : Cursor) (h : args.length ≠ fixed) :
    readImage k fixed cursor args = readImage k fixed other args := by
  unfold readImage
  rw [if_neg h, if_neg h]

theorem refused_readImage (h : cursor.image = none) (hargs : args.length = fixed) :
    Refused (readImage k fixed cursor args) := by
  unfold readImage
  rw [if_pos hargs]
  exact refused_bind (.inl (refused_requireImage h))

theorem Omission.image_eq_none (h : names? cursor .image = none) : cursor.image = none := by
  cases hi : cursor.image with
  | none => rfl
  | some i => simp [names?, hi] at h

/-! ## 3. Rules -/

namespace Grammar

/-- The rule reads the form like the one with the names of the cursor written out, under whatever
cursor that is read, and refuses it if the cursor lacks a name. -/
structure Omits (rule : Cursor → List String → Except Refusal Command) (form : ShortForm) :
    Prop where
  written_out : ∀ {cursor other : Cursor} {front back names : List String},
    front.length = form.front → back.length = form.back →
      form.omitted.names? cursor = some names →
        rule cursor (front ++ back) = rule other (front ++ names ++ back)
  refused : ∀ {cursor : Cursor} {front back : List String},
    front.length = form.front → back.length = form.back →
      form.omitted.names? cursor = none → Refused (rule cursor (front ++ back))

theorem omits_updateColor : Omits updateColor ⟨0, .imageAndLayer, 6⟩ where
  written_out := by
    intro cursor other front back names hfront hback hnames
    obtain ⟨i, l, rfl, rfl⟩ := Omission.names?_imageAndLayer.1 hnames
    match front, back with
    | [], [x, y, r, g, b, o] => rfl
  refused := by
    intro cursor front back hfront hback hnone
    match front, back with
    | [], [x, y, r, g, b, o] => exact refused_bind (.inl (refused_readTarget hnone))

theorem omits_applyMutator : Omits applyMutator ⟨1, .imageAndLayer, 0⟩ where
  written_out := by
    intro cursor other front back names hfront hback hnames
    obtain ⟨i, l, rfl, rfl⟩ := Omission.names?_imageAndLayer.1 hnames
    match front, back with
    | [kind], [] => rfl
  refused := by
    intro cursor front back hfront hback hnone
    match front, back with
    | [kind], [] =>
      -- an unknown mutator is found first
      exact refused_bind (.inr fun m => refused_bind (.inl (refused_readTarget hnone)))

theorem omits_save : Omits save ⟨0, .imageAndLayer, 2⟩ where
  written_out := by
    intro cursor other front back names hfront hback hnames
    obtain ⟨i, l, rfl, rfl⟩ := Omission.names?_imageAndLayer.1 hnames
    match front, back with
    | [], [format, path] => rfl
  refused := by
    intro cursor front back hfront hback hnone
    match front, back with
    | [], [format, path] =>
      -- an unknown format is found first
      exact refused_bind (.inr fun f => refused_bind (.inl (refused_readTarget hnone)))

theorem omits_withOne {make : String → String → Except Refusal Command} :
    Omits (withOne k make) ⟨0, .image, 1⟩ where
  written_out := by
    intro cursor other front back names hfront hback hnames
    obtain ⟨i, hi, rfl⟩ := Omission.names?_image.1 hnames
    match front, back with
    | [], [a] =>
      have hshort : readImage k 1 cursor [a] = .ok (i, [a]) :=
        readImage_eq_ok.2 ⟨rfl, [], rfl, .inr ⟨rfl, hi⟩⟩
      show withOne k make cursor [a] = withOne k make other [i, a]
      unfold withOne
      rw [hshort]
      rfl
  refused := by
    intro cursor front back hfront hback hnone
    obtain rfl := List.length_eq_zero_iff.1 hfront
    exact refused_bind (.inl (refused_readImage (Omission.image_eq_none hnone) hback))

theorem omits_withTwo {make : String → String → String → Except Refusal Command} :
    Omits (withTwo k make) ⟨0, .image, 2⟩ where
  written_out := by
    intro cursor other front back names hfront hback hnames
    obtain ⟨i, hi, rfl⟩ := Omission.names?_image.1 hnames
    match front, back with
    | [], [a, b] =>
      have hshort : readImage k 2 cursor [a, b] = .ok (i, [a, b]) :=
        readImage_eq_ok.2 ⟨rfl, [], rfl, .inr ⟨rfl, hi⟩⟩
      show withTwo k make cursor [a, b] = withTwo k make other [i, a, b]
      unfold withTwo
      rw [hshort]
      rfl
  refused := by
    intro cursor front back hfront hback hnone
    obtain rfl := List.length_eq_zero_iff.1 hfront
    exact refused_bind (.inl (refused_readImage (Omission.image_eq_none hnone) hback))

theorem omits_updateVisibility_both : Omits updateVisibility ⟨0, .imageAndLayer, 1⟩ where
  written_out := by
    intro cursor other front back names hfront hback hnames
    obtain ⟨i, l, rfl, rfl⟩ := Omission.names?_imageAndLayer.1 hnames
    match front, back with
    | [], [flag] => rfl
  refused := by
    intro cursor front back hfront hback hnone
    match front, back with
    | [], [flag] =>
      exact refused_bind ((refused_require hnone).imp_right fun hl _ => refused_bind (.inl hl))

theorem omits_updateVisibility_image : Omits updateVisibility ⟨0, .image, 2⟩ where
  written_out := by
    intro cursor other front back names hfront hback hnames
    obtain ⟨i, hi, rfl⟩ := Omission.names?_image.1 hnames
    match front, back with
    | [], [layer, flag] =>
      show (cursor.requireImage >>= _) = _
      rw [requireImage_eq_ok.2 hi]
      rfl
  refused := by
    intro cursor front back hfront hback hnone
    match front, back with
    | [], [layer, flag] =>
      exact refused_bind (.inl (refused_requireImage (Omission.image_eq_none hnone)))

/-- Every form that leaves names out is read so. -/
theorem omits_rule (k : Keyword) :
    ∀ form ∈ k.shortForms, Omits (fun c args => rule c args k) form := by
  cases k with
  | createImage | createLayeredImage | load => nofun
  | updateColor => exact List.forall_mem_singleton.2 omits_updateColor
  | applyMutator => exact List.forall_mem_singleton.2 omits_applyMutator
  | save => exact List.forall_mem_singleton.2 omits_save
  | saveLayered | setCurrentLayer | addLayer | removeLayer =>
    exact List.forall_mem_singleton.2 omits_withOne
  | saveAsImage | copyLayer | addImageAsLayer | moveLayer =>
    exact List.forall_mem_singleton.2 omits_withTwo
  | updateVisibility =>
    exact List.forall_mem_cons.2 ⟨omits_updateVisibility_both,
      List.forall_mem_singleton.2 omits_updateVisibility_image⟩

/-! ## 4. All other forms -/

/-- Where the last words are not all words, the words before them are names. -/
theorem take_ne_nil_of_drop {n : Nat} (h : args.length ≠ n)
    (hback : (args.drop (args.length - n)).length = n) : args.take (args.length - n) ≠ [] := by
  intro hnil
  have hall := List.take_append_drop (args.length - n) args
  rw [hnil, List.nil_append] at hall
  rw [hall] at hback
  exact h hback

theorem updateColor_of_length_ne (h : args.length ≠ 6) :
    updateColor cursor args = updateColor other args := by
  unfold updateColor
  dsimp only
  split
  · rename_i x y r g b o hback
    rw [readTarget_of_ne_nil other (take_ne_nil_of_drop h (by rw [hback]; rfl))]
  · rfl

theorem applyMutator_of_length_ne (h : args.length ≠ 1) :
    applyMutator cursor args = applyMutator other args := by
  match args with
  | [] => rfl
  | [_] => exact absurd rfl h
  | kind :: name :: names =>
    unfold applyMutator
    dsimp only
    rw [readTarget_of_ne_nil other (List.cons_ne_nil name names)]

theorem save_of_length_ne (h : args.length ≠ 2) : save cursor args = save other args := by
  unfold save
  dsimp only
  split
  · rename_i format path hback
    rw [readTarget_of_ne_nil other (take_ne_nil_of_drop h (by rw [hback]; rfl))]
  · rfl

theorem withOne_of_length_ne {make : String → String → Except Refusal Command}
    (h : args.length ≠ 1) : withOne k make cursor args = withOne k make other args := by
  unfold withOne
  rw [readImage_of_length_ne other h]

theorem withTwo_of_length_ne {make : String → String → String → Except Refusal Command}
    (h : args.length ≠ 2) : withTwo k make cursor args = withTwo k make other args := by
  unfold withTwo
  rw [readImage_of_length_ne other h]

theorem updateVisibility_of_length_ne (h₁ : args.length ≠ 1) (h₂ : args.length ≠ 2) :
    updateVisibility cursor args = updateVisibility other args := by
  match args with
  | [] => rfl
  | [_] => exact absurd rfl h₁
  | [_, _] => exact absurd rfl h₂
  | [_, _, _] => rfl
  | _ :: _ :: _ :: _ :: _ => rfl

/-- With another number of words the cursor does not matter. -/
theorem rule_of_no_shortForm (other : Cursor)
    (h : ∀ form ∈ k.shortForms, args.length ≠ form.front + form.back) :
    rule cursor args k = rule other args k := by
  cases k with
  | createImage | createLayeredImage | load => rfl
  | updateColor => exact updateColor_of_length_ne (h _ List.mem_cons_self)
  | applyMutator => exact applyMutator_of_length_ne (h _ List.mem_cons_self)
  | save => exact save_of_length_ne (h _ List.mem_cons_self)
  | saveLayered | setCurrentLayer | addLayer | removeLayer =>
    exact withOne_of_length_ne (h _ List.mem_cons_self)
  | saveAsImage | copyLayer | addImageAsLayer | moveLayer =>
    exact withTwo_of_length_ne (h _ List.mem_cons_self)
  | updateVisibility =>
    obtain ⟨hboth, hrest⟩ := List.forall_mem_cons.1 h
    exact updateVisibility_of_length_ne hboth (hrest _ List.mem_cons_self)

end Grammar

/-! ## 5. Lines -/

namespace Command

/-- Words behind a keyword are read by its rule, unless one of them is empty. -/
theorem parse_keyword (cursor : Cursor) (k : Keyword) (args : List String) :
    parse cursor (k.text :: args) =
      if ∀ t ∈ args, t ≠ "" then Grammar.rule cursor args k else .error .emptyToken := by
  have hkeyword : k.text ≠ "" := by cases k <;> decide
  have hall : ((k.text :: args).all fun t => t ≠ "") = decide (∀ t ∈ args, t ≠ "") := by
    rw [List.all_cons, decide_eq_true hkeyword, Bool.true_and, List.all_eq]
    simp only [decide_eq_true_eq]
  unfold parse
  dsimp only
  rw [Keyword.ofText?_eq_some.2 rfl, hall]
  by_cases h : ∀ t ∈ args, t ≠ ""
  · rw [if_pos h, decide_eq_true h]
    rfl
  · rw [if_neg h, decide_eq_false h]
    rfl

/-- A form that leaves names out is read like the one with the names of the cursor written out,
under whatever cursor that is read: as the same command, or refused for the same reason.  Where the
cursor lacks a name, the form is refused.  With any other number of words the cursor does not
matter. -/
theorem parse_shortForm (k : Keyword) (cursor other : Cursor) :
    (∀ form ∈ k.shortForms, ∀ front back : List String,
      front.length = form.front → back.length = form.back →
      (∀ names, form.omitted.names? cursor = some names → (∀ n ∈ names, n ≠ "") →
        parse cursor (k.text :: (front ++ back)) =
          parse other (k.text :: (front ++ names ++ back))) ∧
      (form.omitted.names? cursor = none →
        ∃ r, parse cursor (k.text :: (front ++ back)) = .error r)) ∧
    ∀ args : List String, (∀ form ∈ k.shortForms, args.length ≠ form.front + form.back) →
      parse cursor (k.text :: args) = parse other (k.text :: args) := by
  refine ⟨?_, ?_⟩
  · intro form hform front back hfront hback
    have homits := Grammar.omits_rule k form hform
    refine ⟨?_, ?_⟩
    · intro names hnames hne
      -- the names are not empty, so an empty word is among the others
      have hwords : (∀ t ∈ front ++ names ++ back, t ≠ "") ↔ ∀ t ∈ front ++ back, t ≠ "" := by
        simp only [List.forall_mem_append]
        exact and_congr_left fun _ => and_iff_left hne
      have hrule : Grammar.rule cursor (front ++ back) k =
          Grammar.rule other (front ++ names ++ back) k := homits.written_out hfront hback hnames
      rw [parse_keyword, parse_keyword, if_congr hwords hrule.symm rfl]
    · intro hnone
      rw [parse_keyword]
      split
      · exact homits.refused hfront hback hnone
      · exact ⟨.emptyToken, rfl⟩
  · intro args hargs
    rw [parse_keyword, parse_keyword, Grammar.rule_of_no_shortForm other hargs]

/-- A flag behind a layer, one that is no flag, and one with no layer to go with. -/
theorem parse_shortForm_updateVisibility :
    parse ⟨some "a", none⟩ ["update-visibility", "c", "TRUE"] =
        .ok (.updateVisibility "a" "c" true) ∧
      parse .unset ["update-visibility", "a", "c", "TRUE"] =
        .ok (.updateVisibility "a" "c" true) ∧
      parse ⟨some "a", some "b c"⟩ ["update-visibility", "no"] =
        .error (.unknownVisibility "no") ∧
      parse .unset ["update-visibility", "a", "b c", "no"] = .error (.unknownVisibility "no") ∧
      ∃ r, parse ⟨some "a", none⟩ ["update-visibility", "true"] = .error r := by
  have hlayer := (parse_shortForm .updateVisibility ⟨some "a", none⟩ .unset).1 ⟨0, .image, 2⟩
    (by decide) [] ["c", "TRUE"] rfl rfl
  have hboth := (parse_shortForm .updateVisibility ⟨some "a", some "b c"⟩ .unset).1
    ⟨0, .imageAndLayer, 1⟩ (by decide) [] ["no"] rfl rfl
  have hnone := (parse_shortForm .updateVisibility ⟨some "a", none⟩ .unset).1
    ⟨0, .imageAndLayer, 1⟩ (by decide) [] ["true"] rfl rfl
  have hread : parse ⟨some "a", none⟩ ["update-visibility", "c", "TRUE"] =
      .ok (.updateVisibility "a" "c" true) := by decide +kernel
  have hrefused : parse ⟨some "a", some "b c"⟩ ["update-visibility", "no"] =
      .error (.unknownVisibility "no") := by decide +kernel
  exact ⟨hread, (hlayer.1 ["a"] rfl (by decide)).symm.trans hread, hrefused,
    (hboth.1 ["a", "b c"] rfl (by decide)).symm.trans hrefused, hnone.2 rfl⟩

end Command

end RasterScript
