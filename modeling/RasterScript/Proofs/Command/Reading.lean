import RasterScript.Command.Grammar
import RasterScript.Proofs.Command.Wording
import RasterScript.Proofs.Outcome

/-!
# Reading — which lines stand for which commands

A list of words is read as a command exactly if it spells the command out and the command passes
its check: `parse_eq_ok`.  There is one lemma for every reader of a single word and one for every
way of leaving names out; the rules of the keywords are put together from these.
-/

namespace RasterScript

/-! ## 1. Single words -/

theorem readSize_eq_ok {what t : String} {n : Nat} :
    readSize what t = .ok n ↔ (Slot.size n).Spells t := by
  show _ ↔ IsNumeral n t ∧ n < wordSize
  rw [← size?_eq_some]
  unfold readSize
  cases size? t with
  | none => simp
  | some m => simp

theorem channel_eq_ok {what : String} {v : Int} {b : UInt8} :
    channel what v = .ok b ↔ v = b.toNat := by
  unfold channel
  have hb := b.toNat_lt
  by_cases h : 0 ≤ v ∧ v ≤ 255
  · rw [if_pos h, Except.ok.injEq, ← UInt8.toNat_inj, UInt8.toNat_ofNat']
    omega
  · rw [if_neg h]
    constructor
    · intro heq
      cases heq
    · intro heq
      omega

/-- A channel is read in two steps, a number and then a byte. -/
theorem readChannel_eq_ok {what t : String} {b : UInt8} :
    readInteger what t = .ok (b.toNat : Int) ↔ (Slot.channel b).Spells t := by
  have hb := b.toNat_lt
  have hread : readInteger what t = .ok (b.toNat : Int) ↔ integer? t = some (b.toNat : Int) := by
    unfold readInteger
    cases integer? t with
    | none => simp
    | some m => simp
  rw [hread, integer?_eq_some]
  show _ ↔ IsSignedNumeral b.toNat t
  refine and_iff_left ?_
  unfold signedLimit
  omega

theorem solidColor_eq_ok {r g b : Int} {p : Pixel} : Command.solidColor r g b = .ok p ↔
    r = p.red.toNat ∧ g = p.green.toNat ∧ b = p.blue.toNat ∧ p.opacity = 255 := by
  unfold Command.solidColor
  simp only [bind_eq_ok, pure_eq_ok, channel_eq_ok]
  constructor
  · rintro ⟨r', hr, g', hg, b', hb, rfl⟩
    exact ⟨hr, hg, hb, rfl⟩
  · rintro ⟨hr, hg, hb, ho⟩
    refine ⟨p.red, hr, p.green, hg, p.blue, hb, ?_⟩
    cases p
    cases ho
    rfl

theorem fullColor_eq_ok {r g b o : Int} {p : Pixel} : Command.fullColor r g b o = .ok p ↔
    r = p.red.toNat ∧ g = p.green.toNat ∧ b = p.blue.toNat ∧ o = p.opacity.toNat := by
  unfold Command.fullColor
  simp only [bind_eq_ok, pure_eq_ok, channel_eq_ok]
  constructor
  · rintro ⟨r', hr, g', hg, b', hb, o', ho, rfl⟩
    exact ⟨hr, hg, hb, ho⟩
  · rintro ⟨hr, hg, hb, ho⟩
    exact ⟨p.red, hr, p.green, hg, p.blue, hb, p.opacity, ho, rfl⟩

theorem formatOfText_eq_ok {t : String} {f : ImageFormat} :
    ImageFormat.ofText t = .ok f ↔ (Slot.format f).Spells t := by
  show _ ↔ t.toLower ∈ f.spellings
  unfold ImageFormat.ofText
  split <;> cases f <;> simp_all [ImageFormat.spellings]

theorem mutatorOfText_eq_ok {t : String} {m : MutatorKind} :
    MutatorKind.ofText t = .ok m ↔ (Slot.mutator m).Spells t := by
  show _ ↔ t.toLower ∈ m.spellings
  unfold MutatorKind.ofText
  split <;> cases m <;> simp_all [MutatorKind.spellings]

theorem readVisibility_eq_ok {t : String} {visible : Bool} :
    readVisibility t = .ok visible ↔ (Slot.visibility visible).Spells t := by
  show _ ↔ t.toLower ∈ visibilitySpellings visible
  unfold readVisibility
  split <;> cases visible <;> simp_all [visibilitySpellings]

/-! ## 2. Names that may be left out -/

theorem requireImage_eq_ok {cursor : Cursor} {image : String} :
    cursor.requireImage = .ok image ↔ cursor.image = some image := by
  unfold Cursor.requireImage
  cases cursor.image with
  | none => simp
  | some i => simp

theorem requireLayer_eq_ok {cursor : Cursor} {layer : String} :
    cursor.requireLayer = .ok layer ↔ cursor.layer = some layer := by
  unfold Cursor.requireLayer
  cases cursor.layer with
  | none => simp
  | some l => simp

theorem cursor_eq_iff {cursor : Cursor} {image layer : String} :
    cursor = ⟨some image, some layer⟩ ↔ cursor.image = some image ∧ cursor.layer = some layer := by
  cases cursor
  rw [Cursor.mk.injEq]

theorem readTarget_eq_ok {cursor : Cursor} {names : List String} {t : Target} :
    readTarget cursor names = .ok t ↔ (Naming.target t).Written cursor names := by
  show _ ↔ names = t.tokens ∨ names = [] ∧ ∃ i l, t = .layer i l ∧ cursor = ⟨some i, some l⟩
  match names with
  | [] =>
    have hnames : ([] : List String) ≠ t.tokens := by cases t <;> simp [Target.tokens]
    simp only [readTarget, bind_eq_ok, pure_eq_ok, requireImage_eq_ok, requireLayer_eq_ok,
      cursor_eq_iff, hnames, false_or, true_and]
    constructor
    · rintro ⟨i, hi, l, hl, rfl⟩
      exact ⟨i, l, rfl, hi, hl⟩
    · rintro ⟨i, l, rfl, hi, hl⟩
      exact ⟨i, hi, l, hl, rfl⟩
  | [name] => cases t <;> simp [readTarget, Target.tokens]
  | [image, layer] => cases t <;> simp [readTarget, Target.tokens]
  | _ :: _ :: _ :: _ => cases t <;> simp [readTarget, Target.tokens]

theorem length_written_target {cursor : Cursor} {names : List String} {t : Target}
    (h : (Naming.target t).Written cursor names) : names.length ≤ 2 := by
  rcases h with rfl | ⟨rfl, -⟩
  · cases t <;> simp [Target.tokens]
  · simp

theorem readImage_eq_ok {k : Keyword} {fixed : Nat} {cursor : Cursor} {args rest : List String}
    {image : String} : readImage k fixed cursor args = .ok (image, rest) ↔
      rest.length = fixed ∧
        ∃ names, args = names ++ rest ∧ (Naming.image image).Written cursor names := by
  show _ ↔ _ ∧ ∃ names, _ ∧ (names = [image] ∨ names = [] ∧ cursor.image = some image)
  unfold readImage
  by_cases hall : args.length = fixed
  · -- all words are taken, so no name is among them
    rw [if_pos hall]
    simp only [bind_eq_ok, pure_eq_ok, requireImage_eq_ok, Prod.mk.injEq]
    constructor
    · rintro ⟨i, hi, rfl, rfl⟩
      exact ⟨hall, [], rfl, .inr ⟨rfl, hi⟩⟩
    · rintro ⟨hrest, names, rfl, rfl | ⟨rfl, hi⟩⟩
      · rw [List.length_append, List.length_singleton] at hall
        omega
      · exact ⟨image, hi, rfl, rfl⟩
  · rw [if_neg hall]
    have hsome : ∀ names, args = names ++ rest → rest.length = fixed → names ≠ [] := by
      rintro names rfl hrest rfl
      exact hall hrest
    match args with
    | [] =>
      constructor
      · intro h
        cases h
      · rintro ⟨hrest, names, heq, -⟩
        have hnil := List.append_eq_nil_iff.1 heq.symm
        exact absurd hnil.1 (hsome names heq hrest)
    | first :: others =>
      dsimp only
      by_cases hone : others.length = fixed
      · rw [if_pos hone, Except.ok.injEq, Prod.mk.injEq]
        constructor
        · rintro ⟨rfl, rfl⟩
          exact ⟨hone, [first], rfl, .inl rfl⟩
        · rintro ⟨hrest, names, heq, rfl | ⟨rfl, -⟩⟩
          · cases heq
            exact ⟨rfl, rfl⟩
          · exact absurd rfl (hsome [] heq hrest)
      · rw [if_neg hone]
        constructor
        · intro h
          cases h
        · rintro ⟨hrest, names, heq, rfl | ⟨rfl, -⟩⟩
          · cases heq
            exact absurd hrest hone
          · exact absurd rfl (hsome [] heq hrest)

namespace Grammar

variable {cursor : Cursor} {args : List String} {c : Command}

/-- A command on an image with one more word. -/
theorem withOne_eq_ok {k : Keyword} {make : String → String → Except Refusal Command} :
    withOne k make cursor args = .ok c ↔ ∃ image names a,
      args = names ++ [a] ∧ (Naming.image image).Written cursor names ∧ make image a = .ok c := by
  unfold withOne
  rw [bind_eq_ok]
  constructor
  · rintro ⟨⟨image, rest⟩, himage, h⟩
    obtain ⟨hlength, names, hargs, hnames⟩ := readImage_eq_ok.1 himage
    obtain ⟨a, rfl⟩ := List.length_eq_one_iff.1 hlength
    exact ⟨image, names, a, hargs, hnames, h⟩
  · rintro ⟨image, names, a, hargs, hnames, h⟩
    exact ⟨(image, [a]), readImage_eq_ok.2 ⟨rfl, names, hargs, hnames⟩, h⟩

/-- A command on an image with two more words. -/
theorem withTwo_eq_ok {k : Keyword} {make : String → String → String → Except Refusal Command} :
    withTwo k make cursor args = .ok c ↔ ∃ image names a b,
      args = names ++ [a, b] ∧ (Naming.image image).Written cursor names ∧
        make image a b = .ok c := by
  unfold withTwo
  rw [bind_eq_ok]
  constructor
  · rintro ⟨⟨image, rest⟩, himage, h⟩
    obtain ⟨hlength, names, hargs, hnames⟩ := readImage_eq_ok.1 himage
    obtain ⟨a, b, rfl⟩ := List.length_eq_two.1 hlength
    exact ⟨image, names, a, b, hargs, hnames, h⟩
  · rintro ⟨image, names, a, b, hargs, hnames, h⟩
    exact ⟨(image, [a, b]), readImage_eq_ok.2 ⟨rfl, names, hargs, hnames⟩, h⟩

/-! ## 3. The words of a command are read as the command -/

theorem createImage_of_spelled {name : String} {source : ImageSource}
    (h : (Command.createImage name source).wording.Spelled cursor args)
    (hsolid : (Command.createImage name source).SolidTiles)
    (hcheck : (Command.createImage name source).check = .ok ()) :
    createImage args = .ok (Command.createImage name source) := by
  have hdone : (Command.createImage name source).checked = .ok (.createImage name source) :=
    Command.checked_eq_ok.2 ⟨rfl, hcheck⟩
  cases source with
  | checkerboard size count first second =>
    obtain ⟨hfirst, hsecond⟩ := hsolid
    match args, Wording.spelled_front.1 h with
    | [_, _, tsize, tcount, r₁, g₁, b₁, r₂, g₂, b₂],
      .cons hkind (.cons hname (.cons hsize (.cons hcount (.cons hr₁ (.cons hg₁ (.cons hb₁
        (.cons hr₂ (.cons hg₂ (.cons hb₂ .nil))))))))) =>
      cases hkind
      cases hname
      refine bind_eq_ok.2 ⟨size, readSize_eq_ok.2 hsize, ?_⟩
      refine bind_eq_ok.2 ⟨count, readSize_eq_ok.2 hcount, ?_⟩
      refine bind_eq_ok.2 ⟨_, readChannel_eq_ok.2 hr₁, ?_⟩
      refine bind_eq_ok.2 ⟨_, readChannel_eq_ok.2 hg₁, ?_⟩
      refine bind_eq_ok.2 ⟨_, readChannel_eq_ok.2 hb₁, ?_⟩
      refine bind_eq_ok.2 ⟨_, readChannel_eq_ok.2 hr₂, ?_⟩
      refine bind_eq_ok.2 ⟨_, readChannel_eq_ok.2 hg₂, ?_⟩
      refine bind_eq_ok.2 ⟨_, readChannel_eq_ok.2 hb₂, ?_⟩
      refine bind_eq_ok.2 ⟨first, solidColor_eq_ok.2 ⟨rfl, rfl, rfl, hfirst⟩, ?_⟩
      exact bind_eq_ok.2 ⟨second, solidColor_eq_ok.2 ⟨rfl, rfl, rfl, hsecond⟩, hdone⟩
  | empty =>
    match args, Wording.spelled_front.1 h with
    | [_, _], .cons hkind (.cons hname .nil) =>
      cases hkind
      cases hname
      exact hdone
  | transparent w h' =>
    match args, Wording.spelled_front.1 h with
    | [_, _, _, _], .cons hkind (.cons hname (.cons hw (.cons hh .nil))) =>
      cases hkind
      cases hname
      refine bind_eq_ok.2 ⟨w, readSize_eq_ok.2 hw, ?_⟩
      exact bind_eq_ok.2 ⟨h', readSize_eq_ok.2 hh, hdone⟩
  | copy source =>
    match args, Wording.spelled_front.1 h with
    | [_, _, _], .cons hkind (.cons hname (.cons hsource .nil)) =>
      cases hkind
      cases hname
      cases hsource
      exact hdone
  | file path =>
    match args, Wording.spelled_front.1 h with
    | [_, _, _], .cons hkind (.cons hname (.cons hpath .nil)) =>
      cases hkind
      cases hname
      cases hpath
      exact hdone

theorem createLayeredImage_of_spelled {name : String} {source : LayeredSource}
    (h : (Command.createLayeredImage name source).wording.Spelled cursor args)
    (hcheck : (Command.createLayeredImage name source).check = .ok ()) :
    createLayeredImage args = .ok (Command.createLayeredImage name source) := by
  have hdone : (Command.createLayeredImage name source).checked =
      .ok (.createLayeredImage name source) := Command.checked_eq_ok.2 ⟨rfl, hcheck⟩
  cases source with
  | blank w h' =>
    match args, Wording.spelled_front.1 h with
    | [_, _, _, _], .cons hkind (.cons hname (.cons hw (.cons hh .nil))) =>
      cases hkind
      cases hname
      refine bind_eq_ok.2 ⟨w, readSize_eq_ok.2 hw, ?_⟩
      exact bind_eq_ok.2 ⟨h', readSize_eq_ok.2 hh, hdone⟩
  | directory path =>
    match args, Wording.spelled_front.1 h with
    | [_, _, _], .cons hkind (.cons hname (.cons hpath .nil)) =>
      cases hkind
      cases hname
      cases hpath
      exact hdone

theorem updateColor_of_spelled {target : Target} {x y : Nat} {color : Pixel}
    (h : (Command.updateColor target x y color).wording.Spelled cursor args)
    (hcheck : (Command.updateColor target x y color).check = .ok ()) :
    updateColor cursor args = .ok (Command.updateColor target x y color) := by
  obtain ⟨names, back, rfl, hnames, hback⟩ := Wording.spelled_back.1 h
  match back, hback with
  | [tx, ty, tr, tg, tb, topacity],
    .cons hx (.cons hy (.cons hr (.cons hg (.cons hb (.cons ho .nil))))) =>
    have hlength : (names ++ [tx, ty, tr, tg, tb, topacity]).length - 6 = names.length := by simp
    unfold updateColor
    rw [hlength, List.take_left, List.drop_left]
    show (if names.length ≤ 2 then _ else _) = _
    rw [if_pos (length_written_target hnames)]
    refine bind_eq_ok.2 ⟨target, readTarget_eq_ok.2 hnames, ?_⟩
    refine bind_eq_ok.2 ⟨x, readSize_eq_ok.2 hx, ?_⟩
    refine bind_eq_ok.2 ⟨y, readSize_eq_ok.2 hy, ?_⟩
    refine bind_eq_ok.2 ⟨_, readChannel_eq_ok.2 hr, ?_⟩
    refine bind_eq_ok.2 ⟨_, readChannel_eq_ok.2 hg, ?_⟩
    refine bind_eq_ok.2 ⟨_, readChannel_eq_ok.2 hb, ?_⟩
    refine bind_eq_ok.2 ⟨_, readChannel_eq_ok.2 ho, ?_⟩
    refine bind_eq_ok.2 ⟨color, fullColor_eq_ok.2 ⟨rfl, rfl, rfl, rfl⟩, ?_⟩
    exact Command.checked_eq_ok.2 ⟨rfl, hcheck⟩

theorem applyMutator_of_spelled {target : Target} {mutator : MutatorKind}
    (h : (Command.applyMutator target mutator).wording.Spelled cursor args)
    (hcheck : (Command.applyMutator target mutator).check = .ok ()) :
    applyMutator cursor args = .ok (Command.applyMutator target mutator) := by
  obtain ⟨front, names, back, rfl, hfront, hnames, hback⟩ := h
  match front, back, hfront, hback with
  | [kind], [], .cons hkind .nil, .nil =>
    rw [List.append_nil]
    show (if names.length ≤ 2 then _ else _) = _
    rw [if_pos (length_written_target hnames)]
    refine bind_eq_ok.2 ⟨mutator, mutatorOfText_eq_ok.2 hkind, ?_⟩
    refine bind_eq_ok.2 ⟨target, readTarget_eq_ok.2 hnames, ?_⟩
    exact Command.checked_eq_ok.2 ⟨rfl, hcheck⟩

theorem save_of_spelled {target : Target} {format : ImageFormat} {path : Path}
    (h : (Command.save target format path).wording.Spelled cursor args)
    (hcheck : (Command.save target format path).check = .ok ()) :
    save cursor args = .ok (Command.save target format path) := by
  obtain ⟨names, back, rfl, hnames, hback⟩ := Wording.spelled_back.1 h
  match back, hback with
  | [tformat, tpath], .cons hformat (.cons hpath .nil) =>
    cases hpath
    have hlength : (names ++ [tformat, path.text]).length - 2 = names.length := by simp
    unfold save
    rw [hlength, List.take_left, List.drop_left]
    show (if names.length ≤ 2 then _ else _) = _
    rw [if_pos (length_written_target hnames)]
    refine bind_eq_ok.2 ⟨format, formatOfText_eq_ok.2 hformat, ?_⟩
    refine bind_eq_ok.2 ⟨target, readTarget_eq_ok.2 hnames, ?_⟩
    exact Command.checked_eq_ok.2 ⟨rfl, hcheck⟩

theorem updateVisibility_of_spelled {image layer : String} {visible : Bool}
    (h : (Command.updateVisibility image layer visible).wording.Spelled cursor args)
    (hcheck : (Command.updateVisibility image layer visible).check = .ok ()) :
    updateVisibility cursor args = .ok (Command.updateVisibility image layer visible) := by
  have hdone : (Command.updateVisibility image layer visible).checked =
      .ok (.updateVisibility image layer visible) := Command.checked_eq_ok.2 ⟨rfl, hcheck⟩
  obtain ⟨names, back, rfl, hnames, hback⟩ := Wording.spelled_back.1 h
  match back, hback with
  | [_], .cons hflag .nil =>
    have hvisible := readVisibility_eq_ok.2 hflag
    rcases hnames with rfl | ⟨rfl, himage⟩ | ⟨rfl, hcursor⟩
    · exact bind_eq_ok.2 ⟨visible, hvisible, hdone⟩
    · refine bind_eq_ok.2 ⟨image, requireImage_eq_ok.2 himage, ?_⟩
      exact bind_eq_ok.2 ⟨visible, hvisible, hdone⟩
    · obtain ⟨himage, hlayer⟩ := cursor_eq_iff.1 hcursor
      refine bind_eq_ok.2 ⟨image, requireImage_eq_ok.2 himage, ?_⟩
      refine bind_eq_ok.2 ⟨layer, requireLayer_eq_ok.2 hlayer, ?_⟩
      exact bind_eq_ok.2 ⟨visible, hvisible, hdone⟩

theorem withOne_of_spelled {k : Keyword} {make : String → String → Except Refusal Command}
    {image : String} {s : Slot} (h : (⟨[], .image image, [s]⟩ : Wording).Spelled cursor args)
    (hmake : ∀ a, s.Spells a → make image a = .ok c) : withOne k make cursor args = .ok c := by
  obtain ⟨names, back, rfl, hnames, hback⟩ := Wording.spelled_back.1 h
  match back, hback with
  | [a], .cons ha .nil => exact withOne_eq_ok.2 ⟨image, names, a, rfl, hnames, hmake a ha⟩

theorem withTwo_of_spelled {k : Keyword} {make : String → String → String → Except Refusal Command}
    {image : String} {s₁ s₂ : Slot}
    (h : (⟨[], .image image, [s₁, s₂]⟩ : Wording).Spelled cursor args)
    (hmake : ∀ a b, s₁.Spells a → s₂.Spells b → make image a b = .ok c) :
    withTwo k make cursor args = .ok c := by
  obtain ⟨names, back, rfl, hnames, hback⟩ := Wording.spelled_back.1 h
  match back, hback with
  | [a, b], .cons ha (.cons hb .nil) =>
    exact withTwo_eq_ok.2 ⟨image, names, a, b, rfl, hnames, hmake a b ha hb⟩

/-- Words that spell a command are read as it. -/
theorem rule_of_spelled (h : c.wording.Spelled cursor args) (hsolid : c.SolidTiles)
    (hcheck : c.check = .ok ()) : rule cursor args c.keyword = .ok c := by
  have hdone : c.checked = .ok c := Command.checked_eq_ok.2 ⟨rfl, hcheck⟩
  cases c with
  | createImage name source => exact createImage_of_spelled h hsolid hcheck
  | createLayeredImage name source => exact createLayeredImage_of_spelled h hcheck
  | updateColor target x y color => exact updateColor_of_spelled h hcheck
  | applyMutator target mutator => exact applyMutator_of_spelled h hcheck
  | save target format path => exact save_of_spelled h hcheck
  | saveLayered image path =>
    apply withOne_of_spelled h
    rintro _ rfl
    exact hdone
  | saveAsImage image format path =>
    apply withTwo_of_spelled h
    rintro a _ hformat rfl
    exact bind_eq_ok.2 ⟨format, formatOfText_eq_ok.2 hformat, hdone⟩
  | load image =>
    match args, Wording.spelled_front.1 h with
    | [_], .cons himage .nil =>
      cases himage
      exact hdone
  | copyLayer image layer source =>
    apply withTwo_of_spelled h
    rintro _ _ rfl rfl
    exact hdone
  | addImageAsLayer image layer path =>
    apply withTwo_of_spelled h
    rintro _ _ rfl rfl
    exact hdone
  | moveLayer image layer index =>
    apply withTwo_of_spelled h
    rintro _ b rfl hindex
    exact bind_eq_ok.2 ⟨index, readSize_eq_ok.2 hindex, hdone⟩
  | updateVisibility image layer visible => exact updateVisibility_of_spelled h hcheck
  -- the others name an image and a layer
  | setCurrentLayer image layer | addLayer image layer | removeLayer image layer =>
    apply withOne_of_spelled h
    rintro _ rfl
    exact hdone

/-! ## 4. What is read as a command spells it -/

/-- The words behind the keyword `k` spell the command, which has passed its check. -/
structure Meant (cursor : Cursor) (k : Keyword) (args : List String) (c : Command) : Prop where
  keyword : c.keyword = k
  spelled : c.wording.Spelled cursor args
  solid : c.SolidTiles
  checked : c.check = .ok ()

theorem meant_of_createImage (h : createImage args = .ok c) :
    Meant cursor .createImage args c := by
  unfold createImage at h
  split at h
  case h_2 _ name tsize tcount tr₁ tg₁ tb₁ tr₂ tg₂ tb₂ =>
    obtain ⟨size, hsize, h⟩ := bind_eq_ok.1 h
    obtain ⟨count, hcount, h⟩ := bind_eq_ok.1 h
    obtain ⟨r₁, hr₁, h⟩ := bind_eq_ok.1 h
    obtain ⟨g₁, hg₁, h⟩ := bind_eq_ok.1 h
    obtain ⟨b₁, hb₁, h⟩ := bind_eq_ok.1 h
    obtain ⟨r₂, hr₂, h⟩ := bind_eq_ok.1 h
    obtain ⟨g₂, hg₂, h⟩ := bind_eq_ok.1 h
    obtain ⟨b₂, hb₂, h⟩ := bind_eq_ok.1 h
    obtain ⟨first, hfirst, h⟩ := bind_eq_ok.1 h
    obtain ⟨second, hsecond, hdone⟩ := bind_eq_ok.1 h
    obtain ⟨rfl, rfl, rfl, ho₁⟩ := solidColor_eq_ok.1 hfirst
    obtain ⟨rfl, rfl, rfl, ho₂⟩ := solidColor_eq_ok.1 hsecond
    obtain ⟨rfl, hcheck⟩ := Command.checked_eq_ok.1 hdone
    refine ⟨rfl, Wording.spelled_front.2 ?_, ⟨ho₁, ho₂⟩, hcheck⟩
    refine .cons rfl (.cons rfl ?_)
    refine .cons (readSize_eq_ok.1 hsize) (.cons (readSize_eq_ok.1 hcount) ?_)
    refine .cons (readChannel_eq_ok.1 hr₁) (.cons (readChannel_eq_ok.1 hg₁) ?_)
    refine .cons (readChannel_eq_ok.1 hb₁) (.cons (readChannel_eq_ok.1 hr₂) ?_)
    exact .cons (readChannel_eq_ok.1 hg₂) (.cons (readChannel_eq_ok.1 hb₂) .nil)
  case h_4 name =>
    obtain ⟨rfl, hcheck⟩ := Command.checked_eq_ok.1 h
    exact ⟨rfl, Wording.spelled_front.2 (.cons rfl (.cons rfl .nil)), trivial, hcheck⟩
  case h_6 _ name tw th =>
    obtain ⟨w, hw, h⟩ := bind_eq_ok.1 h
    obtain ⟨h', hh, hdone⟩ := bind_eq_ok.1 h
    obtain ⟨rfl, hcheck⟩ := Command.checked_eq_ok.1 hdone
    refine ⟨rfl, Wording.spelled_front.2 ?_, trivial, hcheck⟩
    exact .cons rfl (.cons rfl (.cons (readSize_eq_ok.1 hw) (.cons (readSize_eq_ok.1 hh) .nil)))
  case h_8 _ name source =>
    obtain ⟨rfl, hcheck⟩ := Command.checked_eq_ok.1 h
    exact ⟨rfl, Wording.spelled_front.2 (.cons rfl (.cons rfl (.cons rfl .nil))), trivial, hcheck⟩
  case h_10 _ name path =>
    obtain ⟨rfl, hcheck⟩ := Command.checked_eq_ok.1 h
    exact ⟨rfl, Wording.spelled_front.2 (.cons rfl (.cons rfl (.cons rfl .nil))), trivial, hcheck⟩
  -- every other number of words is refused
  all_goals cases h

theorem meant_of_createLayeredImage (h : createLayeredImage args = .ok c) :
    Meant cursor .createLayeredImage args c := by
  unfold createLayeredImage at h
  split at h
  case h_1 _ name tw th =>
    obtain ⟨w, hw, h⟩ := bind_eq_ok.1 h
    obtain ⟨h', hh, hdone⟩ := bind_eq_ok.1 h
    obtain ⟨rfl, hcheck⟩ := Command.checked_eq_ok.1 hdone
    refine ⟨rfl, Wording.spelled_front.2 ?_, trivial, hcheck⟩
    exact .cons rfl (.cons rfl (.cons (readSize_eq_ok.1 hw) (.cons (readSize_eq_ok.1 hh) .nil)))
  case h_2 _ name path =>
    obtain ⟨rfl, hcheck⟩ := Command.checked_eq_ok.1 h
    exact ⟨rfl, Wording.spelled_front.2 (.cons rfl (.cons rfl (.cons rfl .nil))), trivial, hcheck⟩
  all_goals cases h

theorem meant_of_updateColor (h : updateColor cursor args = .ok c) :
    Meant cursor .updateColor args c := by
  unfold updateColor at h
  dsimp only at h
  split at h
  · rename_i tx ty tr tg tb topacity hback
    split at h
    · obtain ⟨target, htarget, h⟩ := bind_eq_ok.1 h
      obtain ⟨x, hx, h⟩ := bind_eq_ok.1 h
      obtain ⟨y, hy, h⟩ := bind_eq_ok.1 h
      obtain ⟨r, hr, h⟩ := bind_eq_ok.1 h
      obtain ⟨g, hg, h⟩ := bind_eq_ok.1 h
      obtain ⟨b, hb, h⟩ := bind_eq_ok.1 h
      obtain ⟨o, ho, h⟩ := bind_eq_ok.1 h
      obtain ⟨color, hcolor, hdone⟩ := bind_eq_ok.1 h
      obtain ⟨rfl, rfl, rfl, rfl⟩ := fullColor_eq_ok.1 hcolor
      obtain ⟨rfl, hcheck⟩ := Command.checked_eq_ok.1 hdone
      have hargs := (List.take_append_drop (args.length - 6) args).symm
      refine ⟨rfl, Wording.spelled_back.2 ⟨_, _, hargs, readTarget_eq_ok.1 htarget, ?_⟩, trivial,
        hcheck⟩
      rw [hback]
      refine .cons (readSize_eq_ok.1 hx) (.cons (readSize_eq_ok.1 hy) ?_)
      refine .cons (readChannel_eq_ok.1 hr) (.cons (readChannel_eq_ok.1 hg) ?_)
      exact .cons (readChannel_eq_ok.1 hb) (.cons (readChannel_eq_ok.1 ho) .nil)
    · cases h
  · cases h

theorem meant_of_applyMutator (h : applyMutator cursor args = .ok c) :
    Meant cursor .applyMutator args c := by
  unfold applyMutator at h
  split at h
  · cases h
  · rename_i kind names
    split at h
    · obtain ⟨mutator, hmutator, h⟩ := bind_eq_ok.1 h
      obtain ⟨target, htarget, hdone⟩ := bind_eq_ok.1 h
      obtain ⟨rfl, hcheck⟩ := Command.checked_eq_ok.1 hdone
      exact ⟨rfl, ⟨[kind], names, [], (List.append_nil _).symm,
        .cons (mutatorOfText_eq_ok.1 hmutator) .nil, readTarget_eq_ok.1 htarget, .nil⟩,
        trivial, hcheck⟩
    · cases h

theorem meant_of_save (h : save cursor args = .ok c) : Meant cursor .save args c := by
  unfold save at h
  dsimp only at h
  split at h
  · rename_i tformat tpath hback
    split at h
    · obtain ⟨format, hformat, h⟩ := bind_eq_ok.1 h
      obtain ⟨target, htarget, hdone⟩ := bind_eq_ok.1 h
      obtain ⟨rfl, hcheck⟩ := Command.checked_eq_ok.1 hdone
      have hargs := (List.take_append_drop (args.length - 2) args).symm
      refine ⟨rfl, Wording.spelled_back.2 ⟨_, _, hargs, readTarget_eq_ok.1 htarget, ?_⟩, trivial,
        hcheck⟩
      rw [hback]
      exact .cons (formatOfText_eq_ok.1 hformat) (.cons rfl .nil)
    · cases h
  · cases h

theorem meant_of_updateVisibility (h : updateVisibility cursor args = .ok c) :
    Meant cursor .updateVisibility args c := by
  unfold updateVisibility at h
  split at h
  · rename_i flag
    obtain ⟨image, himage, h⟩ := bind_eq_ok.1 h
    obtain ⟨layer, hlayer, h⟩ := bind_eq_ok.1 h
    obtain ⟨visible, hvisible, hdone⟩ := bind_eq_ok.1 h
    obtain ⟨rfl, hcheck⟩ := Command.checked_eq_ok.1 hdone
    have hcursor := cursor_eq_iff.2 ⟨requireImage_eq_ok.1 himage, requireLayer_eq_ok.1 hlayer⟩
    exact ⟨rfl, Wording.spelled_back.2 ⟨[], [flag], rfl, .inr (.inr ⟨rfl, hcursor⟩),
      .cons (readVisibility_eq_ok.1 hvisible) .nil⟩, trivial, hcheck⟩
  · rename_i layer flag
    obtain ⟨image, himage, h⟩ := bind_eq_ok.1 h
    obtain ⟨visible, hvisible, hdone⟩ := bind_eq_ok.1 h
    obtain ⟨rfl, hcheck⟩ := Command.checked_eq_ok.1 hdone
    exact ⟨rfl, Wording.spelled_back.2 ⟨[layer], [flag], rfl,
      .inr (.inl ⟨rfl, requireImage_eq_ok.1 himage⟩),
      .cons (readVisibility_eq_ok.1 hvisible) .nil⟩, trivial, hcheck⟩
  · rename_i image layer flag
    obtain ⟨visible, hvisible, hdone⟩ := bind_eq_ok.1 h
    obtain ⟨rfl, hcheck⟩ := Command.checked_eq_ok.1 hdone
    exact ⟨rfl, Wording.spelled_back.2 ⟨[image, layer], [flag], rfl, .inl rfl,
      .cons (readVisibility_eq_ok.1 hvisible) .nil⟩, trivial, hcheck⟩
  · cases h

/-- A command with one word behind the image: it is enough that each such word is read so. -/
theorem meant_of_withOne {k : Keyword} {make : String → String → Except Refusal Command}
    (hmake : ∀ image a, make image a = .ok c → c.keyword = k ∧ c.SolidTiles ∧ c.check = .ok () ∧
      ∃ s, c.wording = ⟨[], .image image, [s]⟩ ∧ s.Spells a)
    (h : withOne k make cursor args = .ok c) : Meant cursor k args c := by
  obtain ⟨image, names, a, hargs, hnames, ha⟩ := withOne_eq_ok.1 h
  obtain ⟨hkeyword, hsolid, hcheck, s, hwording, hs⟩ := hmake image a ha
  refine ⟨hkeyword, ?_, hsolid, hcheck⟩
  rw [hwording]
  exact Wording.spelled_back.2 ⟨names, [a], hargs, hnames, .cons hs .nil⟩

theorem meant_of_withTwo {k : Keyword} {make : String → String → String → Except Refusal Command}
    (hmake : ∀ image a b, make image a b = .ok c → c.keyword = k ∧ c.SolidTiles ∧
      c.check = .ok () ∧ ∃ s₁ s₂, c.wording = ⟨[], .image image, [s₁, s₂]⟩ ∧ s₁.Spells a ∧
        s₂.Spells b) (h : withTwo k make cursor args = .ok c) : Meant cursor k args c := by
  obtain ⟨image, names, a, b, hargs, hnames, hab⟩ := withTwo_eq_ok.1 h
  obtain ⟨hkeyword, hsolid, hcheck, s₁, s₂, hwording, hs₁, hs₂⟩ := hmake image a b hab
  refine ⟨hkeyword, ?_, hsolid, hcheck⟩
  rw [hwording]
  exact Wording.spelled_back.2 ⟨names, [a, b], hargs, hnames, .cons hs₁ (.cons hs₂ .nil)⟩

/-- Whatever is read as a command spells it. -/
theorem meant_of_rule {k : Keyword} (h : rule cursor args k = .ok c) : Meant cursor k args c := by
  cases k with
  | createImage => exact meant_of_createImage h
  | createLayeredImage => exact meant_of_createLayeredImage h
  | updateColor => exact meant_of_updateColor h
  | applyMutator => exact meant_of_applyMutator h
  | save => exact meant_of_save h
  | load =>
    unfold rule load at h
    dsimp only at h
    split at h
    · obtain ⟨rfl, hcheck⟩ := Command.checked_eq_ok.1 h
      exact ⟨rfl, Wording.spelled_front.2 (.cons rfl .nil), trivial, hcheck⟩
    · cases h
  | saveAsImage =>
    refine meant_of_withTwo ?_ h
    intro image a b hab
    obtain ⟨format, hformat, hdone⟩ := bind_eq_ok.1 hab
    obtain ⟨rfl, hcheck⟩ := Command.checked_eq_ok.1 hdone
    exact ⟨rfl, trivial, hcheck, _, _, rfl, formatOfText_eq_ok.1 hformat, rfl⟩
  | moveLayer =>
    refine meant_of_withTwo ?_ h
    intro image a b hab
    obtain ⟨index, hindex, hdone⟩ := bind_eq_ok.1 hab
    obtain ⟨rfl, hcheck⟩ := Command.checked_eq_ok.1 hdone
    exact ⟨rfl, trivial, hcheck, _, _, rfl, rfl, readSize_eq_ok.1 hindex⟩
  | copyLayer | addImageAsLayer =>
    refine meant_of_withTwo ?_ h
    intro image a b hab
    obtain ⟨rfl, hcheck⟩ := Command.checked_eq_ok.1 hab
    exact ⟨rfl, trivial, hcheck, _, _, rfl, rfl, rfl⟩
  | updateVisibility => exact meant_of_updateVisibility h
  -- the others have one word behind the image
  | saveLayered | setCurrentLayer | addLayer | removeLayer =>
    refine meant_of_withOne ?_ h
    intro image a ha
    obtain ⟨rfl, hcheck⟩ := Command.checked_eq_ok.1 ha
    exact ⟨rfl, trivial, hcheck, _, rfl, rfl⟩

end Grammar

/-! ## 5. Lines -/

theorem Keyword.ofText?_eq_some {word : String} {k : Keyword} :
    ofText? word = some k ↔ word = k.text := by
  constructor
  · intro h
    have hfound := List.find?_some h
    exact (beq_iff_eq.1 hfound).symm
  · rintro rfl
    cases k <;> rfl

/-- Words are read as a command exactly if they spell it, none of them is empty, and the command
passes its check. -/
theorem parse_eq_ok {cursor : Cursor} {tokens : List String} {c : Command} :
    Command.parse cursor tokens = .ok c ↔ (∀ t ∈ tokens, t ≠ "") ∧ c.SolidTiles ∧
      c.check = .ok () ∧
        ∃ args, tokens = c.keyword.text :: args ∧ c.wording.Spelled cursor args := by
  unfold Command.parse
  match tokens with
  | [] => simp
  | word :: args =>
    have hall : ((word :: args).all fun t => t ≠ "") = true ↔ ∀ t ∈ word :: args, t ≠ "" := by
      rw [List.all_eq_true]
      simp only [decide_eq_true_eq]
    dsimp only
    rw [bind_eq_ok]
    constructor
    · rintro ⟨_, hnonempty, h⟩
      cases hword : Keyword.ofText? word with
      | none =>
        rw [hword] at h
        cases h
      | some k =>
        rw [hword] at h
        obtain ⟨rfl, hspelled, hsolid, hcheck⟩ := Grammar.meant_of_rule h
        refine ⟨hall.1 (require_eq_ok.1 hnonempty), hsolid, hcheck, args, ?_, hspelled⟩
        rw [Keyword.ofText?_eq_some.1 hword]
    · rintro ⟨hnonempty, hsolid, hcheck, args', heq, hspelled⟩
      obtain ⟨rfl, rfl⟩ := List.cons.inj heq
      refine ⟨(), require_eq_ok.2 (hall.2 hnonempty), ?_⟩
      rw [Keyword.ofText?_eq_some.2 rfl]
      exact Grammar.rule_of_spelled hspelled hsolid hcheck

end RasterScript
