import RasterScript.Proofs.Command.Reading
import RasterScript.Proofs.Session.FailedCall
import RasterScript.Proofs.Text.Layout

/-!
# Parsing — commands and their words

Both directions of the grammar.  A command that passes its check is what its words are read as,
under any cursor and however they are laid out on a line (`parse_tokens`); and whatever is read as a
command is its words, up to other spellings and names that the cursor says (`words_of_parse`).
-/

namespace RasterScript

/-! ## 1. The words of a command that passes its check -/

theorem Path.check_eq_ok {p : Path} : p.check = .ok () ↔ p.text ≠ "" := by
  unfold Path.check
  rw [require_eq_ok, decide_eq_true_eq]

/-- The files and directories that a command names. -/
def Command.paths : Command → List Path
  | .createImage _ (.file path) => [path]
  | .createLayeredImage _ (.directory path) => [path]
  | .save _ _ path => [path]
  | .saveLayered _ path => [path]
  | .saveAsImage _ _ path => [path]
  | .addImageAsLayer _ _ path => [path]
  | _ => []

/-- The text of a slot is a name, or one of the paths and not empty. -/
def Slot.Named (paths : List Path) : Slot → Prop
  | .word text => IsName text ∨ text ≠ "" ∧ ∃ p ∈ paths, text = p.text
  | _ => True

theorem named_target {t : Target} (h : t.check = .ok ()) (paths : List Path) :
    ∀ s ∈ t.tokens.map Slot.word, s.Named paths := by
  cases t with
  | image name => simpa [Target.tokens, Slot.Named] using .inl (checkImageName_eq_ok.1 h)
  | layer stack name =>
    obtain ⟨hstack, hname⟩ := check_bind_eq_ok.1 h
    have hstack := checkImageName_eq_ok.1 hstack
    have hname := (checkLayerName_eq_ok.1 hname).1
    simp [Target.tokens, Slot.Named, hstack, hname]

theorem named_image {image : String} (h : checkImageName image = .ok ()) (paths : List Path) :
    ∀ s ∈ [Slot.word image], s.Named paths := by
  have hname := checkImageName_eq_ok.1 h
  simp [Slot.Named, hname]

theorem isName_keyword (k : Keyword) : IsName k.text := by
  cases k <;> decide

theorem isName_sizeToken (n : Nat) : IsName (sizeToken n) := by
  have hchars : (sizeToken n).toList = Nat.toDigits 10 n := by
    unfold sizeToken
    rw [Nat.toString_eq_repr, Nat.toList_repr]
  obtain ⟨hne, hdigits, -⟩ := digitsOf_toDigits n
  rw [← hchars] at hne hdigits
  exact ⟨fun he => hne (by rw [he]; rfl), fun c hc => isBlank_of_isDigit (hdigits c hc)⟩

namespace Command

theorem forall_slots {c : Command} {P : Slot → Prop} (hkeyword : P (.word c.keyword.text))
    (hfront : ∀ s ∈ c.wording.front, P s)
    (hnames : ∀ s ∈ c.wording.names.tokens.map Slot.word, P s)
    (hback : ∀ s ∈ c.wording.back, P s) : ∀ s ∈ c.slots, P s := by
  unfold slots Wording.slots
  intro s hs
  simp only [List.mem_cons, List.mem_append] at hs
  rcases hs with rfl | (hs | hs) | hs
  · exact hkeyword
  · exact hfront s hs
  · exact hnames s hs
  · exact hback s hs

/-- The words of a command that passes its check are names and paths. -/
theorem named_of_check {c : Command} (h : c.check = .ok ()) : ∀ s ∈ c.slots, s.Named c.paths := by
  have hkeyword : Slot.Named c.paths (.word c.keyword.text) := .inl (isName_keyword _)
  have hkinds : IsName "checkerboard" ∧ IsName "empty" ∧ IsName "transparent" ∧ IsName "copy" ∧
      IsName "from-file" ∧ IsName "blank" ∧ IsName "import" := by decide
  cases c with
  | createImage name source =>
    obtain ⟨hname, hsource⟩ := check_bind_eq_ok.1 h
    have hname := checkImageName_eq_ok.1 hname
    refine forall_slots hkeyword ?_ (by cases source <;> nofun) (by cases source <;> nofun)
    cases source with
    | copy source =>
      have hsource := checkImageName_eq_ok.1 hsource
      simp [wording, Slot.Named, hname, hsource, hkinds]
    | file path =>
      have hpath := Path.check_eq_ok.1 hsource
      simp [wording, Slot.Named, paths, hname, hpath, hkinds]
    | _ => simp [wording, Slot.Named, hname, hkinds, Pixel.colorSlots]
  | createLayeredImage name source =>
    obtain ⟨hname, hsource⟩ := check_bind_eq_ok.1 h
    have hname := checkImageName_eq_ok.1 hname
    refine forall_slots hkeyword ?_ (by cases source <;> nofun) (by cases source <;> nofun)
    cases source with
    | blank w h => simp [wording, Slot.Named, hname, hkinds]
    | directory path =>
      have hpath := Path.check_eq_ok.1 hsource
      simp [wording, Slot.Named, paths, hname, hpath, hkinds]
  | updateColor target x y color =>
    refine forall_slots hkeyword nofun (named_target h _) ?_
    simp [wording, Slot.Named, Pixel.colorSlots]
  | applyMutator target mutator =>
    refine forall_slots hkeyword ?_ (named_target h _) nofun
    simp [wording, Slot.Named]
  | save target format path =>
    obtain ⟨htarget, hpath⟩ := check_bind_eq_ok.1 h
    have hpath := Path.check_eq_ok.1 hpath
    refine forall_slots hkeyword nofun (named_target htarget _) ?_
    simp [wording, Slot.Named, paths, hpath]
  | load image =>
    have himage := checkImageName_eq_ok.1 h
    refine forall_slots hkeyword ?_ nofun nofun
    simp [wording, Slot.Named, himage]
  | saveLayered image path | saveAsImage image format path =>
    obtain ⟨himage, hpath⟩ := check_bind_eq_ok.1 h
    have hpath := Path.check_eq_ok.1 hpath
    refine forall_slots hkeyword nofun (named_image himage _) ?_
    simp [wording, Slot.Named, paths, hpath]
  | addImageAsLayer image layer path =>
    obtain ⟨himage, h⟩ := check_bind_eq_ok.1 h
    obtain ⟨hlayer, hpath⟩ := check_bind_eq_ok.1 h
    have hlayer := (checkLayerName_eq_ok.1 hlayer).1
    have hpath := Path.check_eq_ok.1 hpath
    refine forall_slots hkeyword nofun (named_image himage _) ?_
    simp [wording, Slot.Named, paths, hlayer, hpath]
  | copyLayer image layer source =>
    obtain ⟨himage, h⟩ := check_bind_eq_ok.1 h
    obtain ⟨hlayer, hsource⟩ := check_bind_eq_ok.1 h
    have hlayer := (checkLayerName_eq_ok.1 hlayer).1
    have hsource := (checkLayerName_eq_ok.1 hsource).1
    refine forall_slots hkeyword nofun (named_image himage _) ?_
    simp [wording, Slot.Named, hlayer, hsource]
  | updateVisibility image layer visible =>
    refine forall_slots hkeyword nofun (named_target (t := .layer image layer) h _) ?_
    simp [wording, Slot.Named]
  -- the others name an image and a layer
  | _ =>
    obtain ⟨himage, hlayer⟩ := check_bind_eq_ok.1 h
    have hlayer := (checkLayerName_eq_ok.1 hlayer).1
    refine forall_slots hkeyword nofun (named_image himage _) ?_
    simp [wording, Slot.Named, hlayer]

theorem mem_tokens_of_check {c : Command} (h : c.check = .ok ()) {t : String}
    (ht : t ∈ c.tokens) : IsName t ∨ t ≠ "" ∧ ∃ p ∈ c.paths, t = p.text := by
  rw [tokens_eq_map_slots] at ht
  obtain ⟨s, hs, rfl⟩ := List.mem_map.1 ht
  have hnamed := named_of_check h s hs
  cases s with
  | word text => exact hnamed
  | size n => exact .inl (isName_sizeToken n)
  | channel b => exact .inl (isName_sizeToken b.toNat)
  | format f => exact .inl (by cases f <;> decide)
  | mutator m => exact .inl (by cases m <;> decide)
  | visibility visible => exact .inl (by cases visible <;> decide)

end Command

/-! ## 2. From commands to words and back -/

namespace Command

/-- A command that passes its check, and has numbers and colours that a line can give, is what its
words are read as, whatever the cursor is; where its paths hold no blank, so is every line with
these words and any blanks between and around them. -/
theorem parse_tokens {c : Command} (hcheck : c.check = .ok ()) (hfits : ∀ s ∈ c.slots, s.Fits)
    (hsolid : c.SolidTiles) (cursor : Cursor) : parse cursor c.tokens = .ok c ∧
      ((∀ p ∈ c.paths, ∀ ch ∈ p.text.toList, isBlank ch = false) →
        ∀ line : String, LaidOut c.tokens line.toList → parseLine cursor line = .ok c) := by
  have hne : ∀ t ∈ c.tokens, t ≠ "" := by
    intro t ht
    rcases mem_tokens_of_check hcheck ht with hname | ⟨hne, -⟩
    · exact hname.1
    · exact hne
  have hparse : parse cursor c.tokens = .ok c :=
    parse_eq_ok.2 ⟨hne, hsolid, hcheck, c.arguments, rfl, spelled_arguments hfits cursor⟩
  refine ⟨hparse, fun hpaths line hline => ?_⟩
  have hwords : wordsOf line = c.tokens := by
    apply wordsOf_of_laidOut hline
    intro t ht
    refine ⟨hne t ht, ?_⟩
    rcases mem_tokens_of_check hcheck ht with hname | ⟨-, p, hp, rfl⟩
    · exact hname.2
    · exact hpaths p hp
  unfold parseLine
  rw [hwords]
  exact hparse

/-- Names that are keywords or numbers, and blanks of other scripts. -/
theorem parse_tokens_odd_names : parse .unset ["save", "save", "png", "jpeg", "7"] =
      .ok (.save (.layer "save" "png") .jpeg ⟨"7"⟩) ∧
    parseLine ⟨some "png", none⟩ "\u3000save save\u2003\tpng jpeg\u00a07\n" =
      .ok (.save (.layer "save" "png") .jpeg ⟨"7"⟩) := by
  have hline : LaidOut ["save", "save", "png", "jpeg", "7"]
      "\u3000save save\u2003\tpng jpeg\u00a07\n".toList := by
    have hchars : "\u3000save save\u2003\tpng jpeg\u00a07\n".toList =
        ['\u3000'] ++ "save".toList ++ ([' '] ++ "save".toList ++ (['\u2003', '\t'] ++
          "png".toList ++ ([' '] ++ "jpeg".toList ++ (['\u00a0'] ++ "7".toList ++ ['\n'])))) := by
      decide +kernel
    rw [hchars]
    refine .cons (by decide) (by rintro _ ⟨⟩; decide) ?_
    refine .cons (by decide) (by rintro _ ⟨⟩; decide) ?_
    refine .cons (by decide) (by rintro _ ⟨⟩; decide) ?_
    refine .cons (by decide) (by rintro _ ⟨⟩; decide) ?_
    exact .cons (by decide) (by rintro _ ⟨⟩; decide) (.nil (by decide))
  have hcheck : (Command.save (.layer "save" "png") .jpeg ⟨"7"⟩).check = .ok () := by decide
  have hfits : ∀ s ∈ (Command.save (.layer "save" "png") .jpeg ⟨"7"⟩).slots, s.Fits := by
    simp [slots, Wording.slots, wording, Naming.tokens, Target.tokens, Slot.Fits]
  have hpath : ∀ c ∈ "7".toList, isBlank c = false := (by decide : IsName "7").2
  exact ⟨(parse_tokens hcheck hfits trivial .unset).1,
    (parse_tokens hcheck hfits trivial _).2 (List.forall_mem_singleton.2 hpath) _ hline⟩

end Command

/-- What may stand for names is all of them but a beginning, which the cursor says. -/
theorem Naming.omitted_of_written {cursor : Cursor} {n : Naming} {written : List String}
    (h : n.Written cursor written) : ∃ omitted, n.tokens = omitted ++ written ∧
      omitted.map some <+: [cursor.image, cursor.layer] := by
  cases n with
  | nothing =>
    cases h
    exact ⟨[], rfl, List.nil_prefix⟩
  | target t =>
    rcases h with rfl | ⟨rfl, i, l, rfl, rfl⟩
    · exact ⟨[], rfl, List.nil_prefix⟩
    · exact ⟨[i, l], rfl, List.prefix_rfl⟩
  | image i =>
    rcases h with rfl | ⟨rfl, himage⟩
    · exact ⟨[], rfl, List.nil_prefix⟩
    · exact ⟨[i], rfl, by rw [himage]; exact ⟨[cursor.layer], rfl⟩⟩
  | layer i l =>
    rcases h with rfl | ⟨rfl, himage⟩ | ⟨rfl, rfl⟩
    · exact ⟨[], rfl, List.nil_prefix⟩
    · exact ⟨[i], rfl, by rw [himage]; exact ⟨[cursor.layer], rfl⟩⟩
    · exact ⟨[i, l], rfl, List.prefix_rfl⟩

/-- Words that spell what stands around the names spell everything with the names put back. -/
theorem Wording.spells_slots {w : Wording} {front back : List String}
    (hfront : List.Forall₂ Slot.Spells w.front front)
    (hback : List.Forall₂ Slot.Spells w.back back) :
    List.Forall₂ Slot.Spells w.slots (front ++ w.names.tokens ++ back) := by
  have hnames : List.Forall₂ Slot.Spells (w.names.tokens.map .word) w.names.tokens := by
    rw [List.forall₂_map_left_iff, List.forall₂_same]
    exact fun name _ => rfl
  exact List.rel_append (List.rel_append hfront hnames) hback

namespace Command

/-- Whatever is read as a command begins with its keyword, and the command has passed its check.
Put back what the cursor said for the words `front ++ written ++ back`, and there is one word for
every slot of the command, in order: for a text this very text, and for the others one of the
spellings that mean the same.  Whatever is not read is refused and the session stays as it was. -/
theorem words_of_parse [PictureCodec] [ManifestFormat] {cursor : Cursor} {tokens : List String} :
    (∀ c, parse cursor tokens = .ok c →
      tokens.head? = some c.keyword.text ∧ c.check = .ok () ∧
      c.tokens = c.slots.map Slot.token ∧
      ∃ front omitted written back, tokens = front ++ written ++ back ∧
        c.wording.names.Written cursor written ∧ c.wording.names.tokens = omitted ++ written ∧
        omitted.map some <+: [cursor.image, cursor.layer] ∧
        (front ++ omitted ++ written ++ back).length = c.tokens.length ∧
        List.Forall₂ Slot.Spells c.slots (front ++ omitted ++ written ++ back)) ∧
    ∀ r, parse cursor tokens = .error r → ∀ (s : Session) line, s.cursor = cursor →
      wordsOf line = tokens → s.runLine line = (.error (.refused r), s) := by
  constructor
  · intro c h
    obtain ⟨-, -, hcheck, args, rfl, front, written, back, rfl, hfront, hwritten, hback⟩ :=
      parse_eq_ok.1 h
    obtain ⟨omitted, homitted, hcursor⟩ := Naming.omitted_of_written hwritten
    have hspells : List.Forall₂ Slot.Spells c.slots
        (c.keyword.text :: front ++ omitted ++ written ++ back) := by
      have hslots := Wording.spells_slots hfront hback
      rw [homitted, ← List.append_assoc front] at hslots
      exact .cons rfl hslots
    refine ⟨rfl, hcheck, c.tokens_eq_map_slots, c.keyword.text :: front, omitted, written, back,
      rfl, hwritten, homitted, hcursor, ?_, hspells⟩
    rw [tokens_eq_map_slots, List.length_map, hspells.length_eq]
  · rintro r h s line rfl rfl
    unfold Session.runLine parseLine
    rw [h]

theorem words_of_parse_short_forms :
    let s : Session := ⟨⟨.new .standard, ⟨∅, ["work"], none⟩⟩, ⟨some "a", some "b"⟩⟩
    let c := Command.updateColor (.layer "a" "b") 1 7 ⟨0, 255, 0, 10⟩
    parse s.cursor ["update-color", "+1", "007", "-0", "+255", "0", "010"] = .ok c ∧
    (∃ words, words.length = c.tokens.length ∧ List.Forall₂ Slot.Spells c.slots words) ∧
    s.runLine "\tload " = (.error (.refused (.argumentCount "load" "1" 0)), s) := by
  intro s c
  have hread : parse s.cursor ["update-color", "+1", "007", "-0", "+255", "0", "010"] = .ok c := by
    rfl
  obtain ⟨-, -, -, front, omitted, written, back, -, -, -, -, hlength, hspells⟩ :=
    words_of_parse.1 c hread
  have hrefused : parse s.cursor ["load"] = .error (.argumentCount "load" "1" 0) := by rfl
  have hline := words_of_parse.2 _ hrefused s "\tload " rfl (by decide +kernel)
  exact ⟨hread, ⟨_, hlength, hspells⟩, hline⟩

end Command

end RasterScript
