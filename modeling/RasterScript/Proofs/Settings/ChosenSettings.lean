import RasterScript.Proofs.Raster.FileRoundTrip
import RasterScript.Proofs.Settings.CommandLine

/-!
# ChosenSettings — the settings that hold for a run

A settings file can only be read as settings in range, because an assignment has no other values to
assign: `Settings.inRange_parse`.  Settings in range are read back from the text that they are
written as (`Settings.parse_text`), and so from the file that holds it.

A command line names the file, and overrides what it says: the quality by a quality in range, and
the two switches by turning them off.
-/

namespace RasterScript

/-! ## 1. Range -/

/-- Settings that a run can have. -/
structure Settings.InRange (s : Settings) : Prop where
  quality : 1 ≤ s.jpegQuality ∧ s.jpegQuality ≤ 100
  side : 1 ≤ s.maxDimension ∧ s.maxDimension < wordSize

theorem Assignment.exists_spelledBy {line : List Char} {a : Assignment}
    (h : ofLine? line = some a) : ∃ t, a.SpelledBy t := by
  rcases ofLine?_eq_some.1 h with ⟨value, t, -, hspelled, -⟩ | ⟨s, -, rfl⟩
  · exact ⟨t, hspelled⟩
  · exact ⟨Settings.switchText false, spelledBy_turned.2 rfl⟩

namespace Settings

variable {s : Settings} {p : Path} {fs fs' : FileStore}

theorem inRange_standard : standard.InRange := ⟨by decide, by decide⟩

/-- A step lemma: what a line assigns is in range. -/
theorem InRange.assign {a : Assignment} (h : s.InRange) (ha : ∃ t, a.SpelledBy t) :
    (s.assign a).InRange := by
  obtain ⟨t, ht⟩ := ha
  cases a with
  | jpegQuality q => exact ⟨ht.2, h.side⟩
  | maxDimension d => exact ⟨h.quality, ht.2⟩
  | sessionLog on | echoSuccess on => exact ⟨h.quality, h.side⟩

/-- A run lemma, by induction on the assignments. -/
theorem InRange.foldl_assign {as : List Assignment} (h : s.InRange)
    (has : ∀ a ∈ as, ∃ t, a.SpelledBy t) : (as.foldl Settings.assign s).InRange := by
  induction as generalizing s with
  | nil => exact h
  | cons a as ih =>
    obtain ⟨ha, has⟩ := List.forall_mem_cons.1 has
    exact ih (h.assign ha) has

theorem inRange_parse (text : String) : (parse text).InRange := by
  refine inRange_standard.foldl_assign fun a ha => ?_
  obtain ⟨line, -, hline⟩ := List.mem_filterMap.1 ha
  exact Assignment.exists_spelledBy hline

theorem inRange_loadFrom (fs : FileStore) (p : Path) : (loadFrom fs p).InRange := by
  unfold loadFrom
  split
  · exact inRange_standard
  · split
    · exact inRange_standard
    · exact inRange_parse _

end Settings

/-! ## 2. Files -/

namespace Assignment

def valueText : Assignment → String
  | .jpegQuality q => toString q
  | .maxDimension d => toString d
  | .sessionLog on => Settings.switchText on
  | .echoSuccess on => Settings.switchText on

def line (a : Assignment) : List Char := a.key.text.toList ++ '=' :: a.valueText.toList

end Assignment

namespace Settings

/-- The assignments that a settings file of `s` has. -/
def written (s : Settings) : List Assignment :=
  [.jpegQuality s.jpegQuality, .maxDimension s.maxDimension, .sessionLog s.sessionLog,
    .echoSuccess s.echoSuccess]

theorem toList_text (s : Settings) :
    s.text.toList = joined '\n' (s.written.map Assignment.line ++ [[]]) := by
  have hquality : "jpeg_quality=".toList = SettingKey.jpegQuality.text.toList ++ ['='] := by decide
  have hside : "max_dimension=".toList = SettingKey.maxDimension.text.toList ++ ['='] := by decide
  have hlog : "session_log=".toList = (SettingKey.switch .sessionLog).text.toList ++ ['='] := by
    decide
  have hecho : "echo_success=".toList = (SettingKey.switch .echoSuccess).text.toList ++ ['='] := by
    decide
  have hend : "\n".toList = ['\n'] := by decide
  have htext : s.text = "jpeg_quality=" ++ toString s.jpegQuality ++ "\n" ++
      ("max_dimension=" ++ toString s.maxDimension ++ "\n") ++
      ("session_log=" ++ switchText s.sessionLog ++ "\n") ++
      ("echo_success=" ++ switchText s.echoSuccess ++ "\n") := rfl
  simp only [htext, String.toList_append, hquality, hside, hlog, hecho, hend, written,
    List.map_cons, List.map_nil, Assignment.line, Assignment.key, Assignment.valueText, joined,
    List.append_assoc, List.cons_append, List.nil_append]

/-- One assignment for each setting leaves nothing of what was there before. -/
theorem foldl_written (s held : Settings) : s.written.foldl assign held = s := rfl

variable {s : Settings} {p : Path} {fs fs' : FileStore}

theorem InRange.spelledBy (h : s.InRange) : ∀ a ∈ s.written, a.SpelledBy a.valueText := by
  simp only [written, List.forall_mem_cons]
  refine ⟨⟨isNumeral_toString _, h.quality⟩, ⟨isNumeral_toString _, h.side⟩, rfl, rfl, ?_⟩
  exact fun _ ha => absurd ha List.not_mem_nil

end Settings

namespace Assignment

variable {a : Assignment}

theorem ofLine?_line (h : a.SpelledBy a.valueText) : ofLine? a.line = some a :=
  ofLine?_eq_some.2 (.inl ⟨a.valueText.toList, a.valueText,
    ⟨a.key.text.toList, padded_self _, rfl⟩, h, padded_self _⟩)

theorem newline_not_mem_line (h : a.SpelledBy a.valueText) : '\n' ∉ a.line := by
  have hkey := a.key.text_plain.1.2
  intro hmem
  rcases List.mem_append.1 hmem with hmem | hmem
  · cases (hkey '\n' hmem).symm.trans (by decide : isBlank '\n' = true)
  · rcases List.mem_cons.1 hmem with heq | hmem
    · cases heq
    · cases (h.plain '\n' hmem).symm.trans (by decide : isBlank '\n' = true)

end Assignment

namespace Settings

variable {s : Settings} {p : Path} {fs fs' : FileStore}

/-- Settings in range are read back from their text. -/
theorem parse_text (h : s.InRange) : parse s.text = s := by
  have hpieces : pieces '\n' s.text.toList = s.written.map Assignment.line ++ [[]] := by
    rw [toList_text]
    refine pieces_joined (List.append_ne_nil_of_right_ne_nil _ (List.cons_ne_nil _ _)) ?_
    intro l hl
    rcases List.mem_append.1 hl with hl | hl
    · obtain ⟨a, ha, rfl⟩ := List.mem_map.1 hl
      exact Assignment.newline_not_mem_line (h.spelledBy a ha)
    · rw [List.mem_singleton.1 hl]
      exact List.not_mem_nil
  have hlines : s.written.filterMap (Assignment.ofLine? ∘ Assignment.line) = s.written :=
    calc
      _ = s.written.filterMap some :=
        List.filterMap_congr fun a ha => Assignment.ofLine?_line (h.spelledBy a ha)
      _ = s.written := List.filterMap_some
  unfold parse assignments
  rw [hpieces, List.filterMap_append, List.filterMap_map, hlines]
  -- nothing is read behind the last line break
  show (s.written ++ []).foldl assign standard = s
  rw [List.append_nil, foldl_written]

/-- The last step of saving is a write, whatever came before it. -/
theorem exists_write_of_saveTo (h : Yields (s.saveTo p) fs () fs') :
    ∃ fs₁ : FileStore, fs₁.write p (encodeUtf8 s.text) = .ok fs' := by
  unfold saveTo at h
  dsimp only at h
  split at h
  · exact ⟨fs, yields_change.1 h⟩
  · rename_i dir hdir
    split at h
    · rw [yields_get_bind] at h
      obtain ⟨_, fs₁, -, h⟩ := yields_bind.1 h
      split at h
      · exact ⟨fs₁, yields_change.1 h⟩
      · obtain ⟨_, _, hthrow, -⟩ := yields_bind.1 h
        exact absurd hthrow yields_throw
    · exact ⟨fs, yields_change.1 h⟩

/-- A settings file that was written is read as the settings, whatever was in its place before. -/
theorem loadFrom_of_saveTo (h : s.InRange) (hsave : Yields (s.saveTo p) fs () fs') :
    loadFrom fs' p = s := by
  obtain ⟨fs₁, hwrite⟩ := exists_write_of_saveTo hsave
  unfold loadFrom
  rw [(FileStore.holds_of_write hwrite).2.read]
  dsimp only
  rw [decodeUtf8?_encodeUtf8]
  exact parse_text h

end Settings

/-! ## 3. Command lines -/

/-- The path is the one that the words give for the settings file, or else the standard one. -/
structure IsConfigPath (words : List String) (configHome p : Path) : Prop where
  given : ∀ v, ValueOption.config.GivenIn words v → p = ⟨v⟩
  otherwise : (∀ v, ¬ ValueOption.config.GivenIn words v) → p = Settings.defaultPath configHome

/-- `s` is `held` with what the words of a command line override. -/
structure Settings.OverriddenBy (held : Settings) (words : List String) (s : Settings) : Prop where
  quality_given : ∀ v, ValueOption.jpegQuality.GivenIn words v → IsSignedNumeral s.jpegQuality v
  quality_kept : (∀ v, ¬ ValueOption.jpegQuality.GivenIn words v) →
    s.jpegQuality = held.jpegQuality
  side_kept : s.maxDimension = held.maxDimension
  echo : s.echoSuccess = true ↔
    held.echoSuccess = true ∧ ∀ w ∈ words, ¬ Flag.quiet.RaisedBy w
  log : s.sessionLog = true ↔ held.sessionLog = true ∧ ∀ w ∈ words, ¬ Flag.noLog.RaisedBy w

namespace Arguments

variable {a : Arguments} {words : List String}

theorem quality?_eq_some {v : String} {q : Nat} :
    quality? v = some q ↔ IsSignedNumeral q v ∧ 1 ≤ q ∧ q ≤ 100 := by
  unfold quality?
  simp only [Option.map_eq_some_iff, Option.filter_eq_some_iff, integer?_eq_some, Bool.and_eq_true,
    decide_eq_true_eq]
  constructor
  · rintro ⟨value, ⟨⟨hnumeral, -⟩, hlow, hhigh⟩, rfl⟩
    refine ⟨?_, by omega⟩
    rw [Int.toNat_of_nonneg (by omega)]
    exact hnumeral
  · rintro ⟨hnumeral, hlow, hhigh⟩
    have hlimit : -signedLimit ≤ (q : Int) ∧ (q : Int) < signedLimit := by
      unfold signedLimit
      omega
    exact ⟨q, ⟨⟨hnumeral, hlimit⟩, by omega⟩, rfl⟩

theorem quality_iff (h : ofWords words = .ok a) {q : Nat} : a.jpegQuality = some q ↔
    ∃ v, ValueOption.jpegQuality.GivenIn words v ∧ IsSignedNumeral q v ∧ 1 ≤ q ∧ q ≤ 100 := by
  rw [show a.jpegQuality = some q ↔ _ from makes_iff_standsIn h (.quality q),
    Choice.quality_standsIn]
  simp only [quality?_eq_some]

theorem config_iff (h : ofWords words = .ok a) {p : Path} :
    a.config = some p ↔ ∃ v, ValueOption.config.GivenIn words v ∧ p = ⟨v⟩ :=
  (makes_iff_standsIn h (.config p)).trans Choice.config_standsIn

theorem has_iff (h : ofWords words = .ok a) {f : Flag} :
    a.has f = true ↔ ∃ w ∈ words, f.RaisedBy w :=
  (makes_iff_standsIn h (.flag f)).trans Choice.flag_standsIn

theorem inRange_override (h : ofWords words = .ok a) {held : Settings} (hheld : held.InRange) :
    (a.override held).InRange := by
  refine ⟨?_, hheld.side⟩
  unfold override
  cases hq : a.jpegQuality with
  | none => exact hheld.quality
  | some q =>
    obtain ⟨v, -, -, hrange⟩ := (quality_iff h).1 hq
    exact hrange

theorem isConfigPath (h : ofWords words = .ok a) (configHome : Path) :
    IsConfigPath words configHome (a.config.getD (Settings.defaultPath configHome)) := by
  constructor
  · intro v hv
    rw [(config_iff h).2 ⟨v, hv, rfl⟩, Option.getD_some]
  · intro hnone
    cases hc : a.config with
    | none => rfl
    | some p =>
      obtain ⟨v, hv, -⟩ := (config_iff h).1 hc
      exact absurd hv (hnone v)

theorem overriddenBy (h : ofWords words = .ok a) (held : Settings) :
    held.OverriddenBy words (a.override held) := by
  -- a switch that is on stays on without the flag that turns it off
  have hoff {on : Bool} {f : Flag} : (on && !a.has f) = true ↔
      on = true ∧ ∀ w ∈ words, ¬ f.RaisedBy w := by
    rw [Bool.and_eq_true, Bool.not_eq_true', ← Bool.not_eq_true, has_iff h]
    refine and_congr_right fun _ => ⟨fun hnone w hw hf => hnone ⟨w, hw, hf⟩, ?_⟩
    rintro hnone ⟨w, hw, hf⟩
    exact hnone w hw hf
  refine ⟨?_, ?_, rfl, hoff (f := .quiet), hoff (f := .noLog)⟩
  · intro v hv
    obtain ⟨c, hc⟩ := (adds_of_ofWords h).readable _ v (by decide) hv
    obtain ⟨q, hq, -⟩ := Option.map_eq_some_iff.1 hc
    obtain ⟨hnumeral, hrange⟩ := quality?_eq_some.1 hq
    show IsSignedNumeral ((a.jpegQuality.getD held.jpegQuality : Nat) : Int) v
    rw [(quality_iff h).2 ⟨v, hv, hnumeral, hrange⟩]
    exact hnumeral
  · intro hnone
    show a.jpegQuality.getD held.jpegQuality = held.jpegQuality
    cases hq : a.jpegQuality with
    | none => rfl
    | some q =>
      obtain ⟨v, hv, -⟩ := (quality_iff h).1 hq
      exact absurd hv (hnone v)

end Arguments

namespace Settings

/-- All settings that are read from a text, or hold for a command line that is accepted, are in
range.  Settings in range are read back from their text, and from a file that they were saved to.  A
command line overrides the quality, the lines for what succeeded and the log of the session, each by
its own option only. -/
theorem chosen_settings :
    (∀ text, (parse text).InRange) ∧
    (∀ s : Settings, s.InRange → parse s.text = s) ∧
    (∀ (s : Settings) (p : Path) (fs fs' : FileStore), s.InRange →
      Yields (s.saveTo p) fs () fs' → loadFrom fs' p = s) ∧
    ∀ (words : List String) (a : Arguments), Arguments.ofWords words = .ok a →
      ∀ (fs : FileStore) (configHome : Path),
        (a.settings fs configHome).InRange ∧
        ∃ p, IsConfigPath words configHome p ∧
          (loadFrom fs p).OverriddenBy words (a.settings fs configHome) := by
  refine ⟨inRange_parse, fun s => parse_text, fun s p fs fs' => loadFrom_of_saveTo, ?_⟩
  intro words a h fs configHome
  exact ⟨Arguments.inRange_override h (inRange_loadFrom _ _), _,
    Arguments.isConfigPath h configHome, Arguments.overriddenBy h _⟩

/-- A settings file with a low quality and no log. -/
def silentStore : FileStore where
  entries := Table.empty.insert ["c.cfg"] (.file (encodeUtf8 "jpeg_quality=3\nsession_log=no"))
  workingDirectory := []
  opened := none

theorem chosen_settings_silentStore :
    let s : Settings := ⟨60, wordSize - 1, true, true⟩
    let fs := (outcome (s.saveTo ⟨"c.cfg"⟩) silentStore).2
    let words := ["--config", "c.cfg", "-vq", "--jpeg-quality=70"]
    loadFrom silentStore ⟨"c.cfg"⟩ ≠ s ∧ loadFrom fs ⟨"c.cfg"⟩ = s ∧
      ∃ a, Arguments.ofWords words = .ok a ∧
        IsSignedNumeral (a.settings fs ⟨"/home"⟩).jpegQuality "70" ∧
        (a.settings fs ⟨"/home"⟩).maxDimension = wordSize - 1 ∧
        ¬ (a.settings fs ⟨"/home"⟩).echoSuccess = true := by
  intro s fs words
  obtain ⟨-, -, hsaved, hwords⟩ := chosen_settings
  have hload : loadFrom fs ⟨"c.cfg"⟩ = s := by
    refine hsaved s ⟨"c.cfg"⟩ silentStore fs ⟨by decide, by decide⟩ (yields_of_outcome ?_)
    decide
  have hread : Arguments.ofWords words = .ok ⟨[], some 70, true, true, false, some ⟨"c.cfg"⟩⟩ := by
    decide
  obtain ⟨-, p, hpath, hover⟩ := hwords words _ hread fs ⟨"/home"⟩
  obtain rfl : p = ⟨"c.cfg"⟩ := hpath.given "c.cfg" (.inr (by decide))
  rw [hload] at hover
  refine ⟨by decide, hload, _, hread, hover.quality_given "70" (.inl (by decide)),
    hover.side_kept, fun hecho => ?_⟩
  refine (hover.echo.1 hecho).2 "-vq" (by decide) (.inr ⟨['v', 'q'], by decide, ?_⟩)
  exact ⟨['v'], 'q', [], rfl, rfl, List.forall_mem_singleton.2 ⟨.verbose, rfl⟩⟩

end Settings

end RasterScript
