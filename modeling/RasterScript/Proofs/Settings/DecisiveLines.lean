import Mathlib.Data.List.Induction
import RasterScript.Proofs.Files.Paths
import RasterScript.Proofs.Text.Numerals
import RasterScript.Proofs.Text.Padding
import RasterScript.Settings

/-!
# DecisiveLines — which lines of a settings text count

A line is a well-formed assignment if it names one of four keys and has a value that the key can
have.  Well-formed assignments are read as what they say, and the last one to a key decides.

Of the other lines those without a known key, and those with a number that is none or out of range,
mean nothing.  But a line that names a switch turns it off, whatever else than `true` stands there:
`ofLine?_eq_some`.  So a text can lose its other lines without a change only as long as no misspelt
switch was the last word on it, or the switch is off without it.
-/

namespace RasterScript

/-! ## 1. Well-formed assignments -/

/-- A setting that is on or off. -/
inductive Switch
  | sessionLog
  | echoSuccess
  deriving DecidableEq, Repr

/-- What a line of a settings text can assign to. -/
inductive SettingKey
  | jpegQuality
  | maxDimension
  | switch (s : Switch)
  deriving DecidableEq, Repr

def SettingKey.text : SettingKey → String
  | .jpegQuality => "jpeg_quality"
  | .maxDimension => "max_dimension"
  | .switch .sessionLog => "session_log"
  | .switch .echoSuccess => "echo_success"

/-- The assignment that turns a switch on or off. -/
def Switch.turned (on : Bool) : Switch → Assignment
  | .sessionLog => .sessionLog on
  | .echoSuccess => .echoSuccess on

def Settings.isOn (s : Settings) : Switch → Bool
  | .sessionLog => s.sessionLog
  | .echoSuccess => s.echoSuccess

/-- The line has the key, with blanks around it or without, an equals sign, and then a value. -/
def SettingKey.Names (k : SettingKey) (line value : List Char) : Prop :=
  ∃ before, Padded k.text.toList before ∧ line = before ++ '=' :: value

/-- The line has the key and some value. -/
def SettingKey.NamedOn (k : SettingKey) (line : List Char) : Prop := ∃ value, k.Names line value

namespace Assignment

def key : Assignment → SettingKey
  | .jpegQuality _ => .jpegQuality
  | .maxDimension _ => .maxDimension
  | .sessionLog _ => .switch .sessionLog
  | .echoSuccess _ => .switch .echoSuccess

/-- The text is a value that the key of the assignment can have, and the one that is assigned. -/
def SpelledBy : Assignment → String → Prop
  | .jpegQuality q, t => IsNumeral q t ∧ 1 ≤ q ∧ q ≤ 100
  | .maxDimension d, t => IsNumeral d t ∧ 1 ≤ d ∧ d < wordSize
  | .sessionLog on, t => t = Settings.switchText on
  | .echoSuccess on, t => t = Settings.switchText on

/-- The line is the assignment as it should be written; blanks around key and value do not
matter. -/
def WrittenOn (a : Assignment) (line : List Char) : Prop :=
  ∃ value t, a.key.Names line value ∧ a.SpelledBy t ∧ Padded t.toList value

end Assignment

/-- The line is an assignment as it should be written. -/
def WellFormed (line : List Char) : Prop := ∃ a : Assignment, a.WrittenOn line

/-- The line names the switch, but its value is neither `true` nor `false`. -/
def Switch.MisspeltOn (s : Switch) (line : List Char) : Prop :=
  (SettingKey.switch s).NamedOn line ∧ ¬ WellFormed line

/-! ## 2. Reading a line -/

theorem splitAssignment?_eq_some {line before value : List Char} :
    splitAssignment? line = some (before, value) ↔
      line = before ++ '=' :: value ∧ '=' ∉ before := by
  unfold splitAssignment?
  constructor
  · intro h
    have hwhole := List.takeWhile_append_dropWhile (p := (· ≠ '=')) (l := line)
    cases hdrop : line.dropWhile (· ≠ '=') with
    | nil =>
      rw [hdrop] at h
      cases h
    | cons c rest =>
      rw [hdrop] at h hwhole
      cases h
      have hc : c = '=' := by
        have hhead := List.head?_dropWhile_not (· ≠ '=') line
        rw [hdrop] at hhead
        simpa using hhead
      subst hc
      refine ⟨hwhole.symm, ?_⟩
      intro hmem
      simpa using List.mem_takeWhile_imp hmem
  · rintro ⟨rfl, hbefore⟩
    have hall : ∀ c ∈ before, decide (c ≠ '=') = true := by
      intro c hc
      exact decide_eq_true fun heq => hbefore (heq ▸ hc)
    rw [List.dropWhile_append_of_pos hall, List.takeWhile_append_of_pos hall]
    simp

theorem SettingKey.text_injective {k k' : SettingKey} (h : k.text = k'.text) : k = k' := by
  rcases k with _ | _ | (_ | _) <;> rcases k' with _ | _ | (_ | _) <;>
    first | rfl | exact absurd h (by decide)

theorem SettingKey.text_plain (k : SettingKey) : IsName k.text ∧ '=' ∉ k.text.toList := by
  rcases k with _ | _ | (_ | _) <;> decide

theorem SettingKey.names_iff {k : SettingKey} {line value : List Char} : k.Names line value ↔
    ∃ before, splitAssignment? line = some (before, value) ∧ trim before = k.text.toList := by
  obtain ⟨⟨-, hblank⟩, hsign⟩ := k.text_plain
  constructor
  · rintro ⟨before, hpadded, rfl⟩
    have hbefore : '=' ∉ before := by
      rw [hpadded.mem_iff (by decide)]
      exact hsign
    exact ⟨before, splitAssignment?_eq_some.2 ⟨rfl, hbefore⟩, trim_of_padded hblank hpadded⟩
  · rintro ⟨before, hsplit, htrim⟩
    exact ⟨before, (padded_iff_trim hblank).2 htrim, (splitAssignment?_eq_some.1 hsplit).1⟩

theorem SettingKey.Names.unique {k k' : SettingKey} {line value value' : List Char}
    (h : k.Names line value) (h' : k'.Names line value') : k' = k ∧ value' = value := by
  obtain ⟨before, hsplit, htrim⟩ := names_iff.1 h
  obtain ⟨before', hsplit', htrim'⟩ := names_iff.1 h'
  rw [hsplit] at hsplit'
  cases hsplit'
  exact ⟨text_injective (String.toList_inj.1 (htrim'.symm.trans htrim)), rfl⟩

namespace Assignment

theorem quality?_eq_some {t : String} {q : Nat} :
    quality? t = some q ↔ IsNumeral q t ∧ 1 ≤ q ∧ q ≤ 100 := by
  unfold quality?
  rw [Option.filter_eq_some_iff, unsigned?_eq_some, Bool.and_eq_true, decide_eq_true_eq,
    decide_eq_true_eq, and_assoc]
  refine and_congr_right fun _ => ⟨fun h => h.2, fun h => ⟨?_, h⟩⟩
  omega

theorem side?_eq_some {t : String} {d : Nat} :
    side? t = some d ↔ IsNumeral d t ∧ 1 ≤ d ∧ d < wordSize := by
  unfold side?
  rw [Option.filter_eq_some_iff, size?_eq_some, decide_eq_true_eq, and_assoc]
  exact and_congr_right fun _ => and_comm

theorem key_turned (s : Switch) (on : Bool) : (s.turned on).key = .switch s := by
  cases s <;> rfl

theorem spelledBy_turned {s : Switch} {on : Bool} {t : String} :
    (s.turned on).SpelledBy t ↔ t = Settings.switchText on := by
  cases s <;> exact Iff.rfl

theorem exists_jpegQuality {a : Assignment} (h : a.key = .jpegQuality) :
    ∃ q, a = .jpegQuality q := by
  cases a <;> first | exact ⟨_, rfl⟩ | cases h

theorem exists_maxDimension {a : Assignment} (h : a.key = .maxDimension) :
    ∃ d, a = .maxDimension d := by
  cases a <;> first | exact ⟨_, rfl⟩ | cases h

theorem exists_turned {a : Assignment} {s : Switch} (h : a.key = .switch s) :
    ∃ on, a = s.turned on := by
  cases a <;> cases h <;> exact ⟨_, rfl⟩

/-- A key with a value is read as what it says, and a switch with any other value as off. -/
theorem ofKey?_text {k : SettingKey} {t : String} {a : Assignment} : ofKey? k.text t = some a ↔
    a.key = k ∧ a.SpelledBy t ∨
      ∃ s, k = .switch s ∧ a = s.turned false ∧ t ≠ "true" ∧ t ≠ "false" := by
  cases k with
  | jpegQuality =>
    show (quality? t).map jpegQuality = some a ↔ _
    rw [Option.map_eq_some_iff]
    constructor
    · rintro ⟨q, hq, rfl⟩
      exact .inl ⟨rfl, quality?_eq_some.1 hq⟩
    · rintro (⟨hkey, hspelled⟩ | ⟨s, hkey, -⟩)
      · obtain ⟨q, rfl⟩ := exists_jpegQuality hkey
        exact ⟨q, quality?_eq_some.2 hspelled, rfl⟩
      · cases hkey
  | maxDimension =>
    show (side? t).map maxDimension = some a ↔ _
    rw [Option.map_eq_some_iff]
    constructor
    · rintro ⟨d, hd, rfl⟩
      exact .inl ⟨rfl, side?_eq_some.1 hd⟩
    · rintro (⟨hkey, hspelled⟩ | ⟨s, hkey, -⟩)
      · obtain ⟨d, rfl⟩ := exists_maxDimension hkey
        exact ⟨d, side?_eq_some.2 hspelled, rfl⟩
      · cases hkey
  | switch s =>
    have hread : ofKey? (SettingKey.switch s).text t = some (s.turned (t = "true")) := by
      cases s <;> rfl
    rw [hread, Option.some.injEq]
    constructor
    · rintro rfl
      by_cases htrue : t = "true"
      · rw [decide_eq_true htrue]
        exact .inl ⟨key_turned s true, spelledBy_turned.2 htrue⟩
      · rw [decide_eq_false htrue]
        by_cases hfalse : t = "false"
        · exact .inl ⟨key_turned s false, spelledBy_turned.2 hfalse⟩
        · exact .inr ⟨s, rfl, rfl, htrue, hfalse⟩
    · rintro (⟨hkey, hspelled⟩ | ⟨s', hkey, rfl, htrue, -⟩)
      · obtain ⟨on, rfl⟩ := exists_turned hkey
        obtain rfl := spelledBy_turned.1 hspelled
        cases on <;> rfl
      · cases hkey
        rw [decide_eq_false htrue]

theorem ofKey?_of_unknown {key t : String} (h : ∀ k : SettingKey, key ≠ k.text) :
    ofKey? key t = none := by
  unfold ofKey?
  split
  · exact absurd rfl (h .jpegQuality)
  · exact absurd rfl (h .maxDimension)
  · exact absurd rfl (h (.switch .sessionLog))
  · exact absurd rfl (h (.switch .echoSuccess))
  · rfl

theorem ofLine?_of_names {k : SettingKey} {line value : List Char} (h : k.Names line value) :
    ofLine? line = ofKey? k.text (String.ofList (trim value)) := by
  obtain ⟨before, hsplit, htrim⟩ := SettingKey.names_iff.1 h
  unfold ofLine?
  rw [hsplit]
  show ofKey? (String.ofList (trim before)) _ = _
  rw [htrim, String.ofList_toList]

theorem exists_names_of_ofLine? {line : List Char} {a : Assignment} (h : ofLine? line = some a) :
    ∃ k value, SettingKey.Names k line value := by
  unfold ofLine? at h
  obtain ⟨⟨before, value⟩, hsplit, hread⟩ := Option.bind_eq_some_iff.1 h
  by_cases hknown : ∃ k : SettingKey, String.ofList (trim before) = k.text
  · obtain ⟨k, hk⟩ := hknown
    refine ⟨k, value, SettingKey.names_iff.2 ⟨before, hsplit, ?_⟩⟩
    rw [← hk, String.toList_ofList]
  · have hnone : ofKey? (String.ofList (trim before)) (String.ofList (trim value)) = none :=
      ofKey?_of_unknown fun k hk => hknown ⟨k, hk⟩
    cases hnone.symm.trans hread

theorem SpelledBy.plain {a : Assignment} {t : String} (h : a.SpelledBy t) :
    ∀ c ∈ t.toList, isBlank c = false := by
  have hnumeral : ∀ {n : Nat}, IsNumeral n t → ∀ c ∈ t.toList, isBlank c = false := by
    rintro n ⟨digits, ⟨-, hdigits, -⟩, ht | ht⟩ c hc
    · rw [ht] at hc
      exact isBlank_of_isDigit (hdigits c hc)
    · rw [ht] at hc
      rcases List.mem_cons.1 hc with rfl | hc
      · decide
      · exact isBlank_of_isDigit (hdigits c hc)
  have hswitch : ∀ {on : Bool}, t = Settings.switchText on → ∀ c ∈ t.toList, isBlank c = false := by
    rintro on rfl
    have hname : IsName (Settings.switchText on) := by cases on <;> decide
    exact hname.2
  cases a with
  | jpegQuality q => exact hnumeral h.1
  | maxDimension d => exact hnumeral h.1
  | sessionLog on => exact hswitch h
  | echoSuccess on => exact hswitch h

theorem writtenOn_iff {a : Assignment} {line : List Char} : a.WrittenOn line ↔
    ∃ value, a.key.Names line value ∧ a.SpelledBy (String.ofList (trim value)) := by
  constructor
  · rintro ⟨value, t, hnames, hspelled, hpadded⟩
    refine ⟨value, hnames, ?_⟩
    rw [trim_of_padded hspelled.plain hpadded, String.ofList_toList]
    exact hspelled
  · rintro ⟨value, hnames, hspelled⟩
    refine ⟨value, _, hnames, hspelled, ?_⟩
    rw [String.toList_ofList]
    exact padded_trim value

end Assignment

theorem Switch.misspeltOn_iff {s : Switch} {line : List Char} : s.MisspeltOn line ↔
    ∃ value, (SettingKey.switch s).Names line value ∧
      String.ofList (trim value) ≠ "true" ∧ String.ofList (trim value) ≠ "false" := by
  constructor
  · rintro ⟨⟨value, hnames⟩, hnot⟩
    have hother : ∀ on, String.ofList (trim value) ≠ Settings.switchText on := by
      intro on heq
      refine hnot ⟨s.turned on, Assignment.writtenOn_iff.2 ⟨value, ?_, ?_⟩⟩
      · rw [Assignment.key_turned]
        exact hnames
      · exact Assignment.spelledBy_turned.2 heq
    exact ⟨value, hnames, hother true, hother false⟩
  · rintro ⟨value, hnames, htrue, hfalse⟩
    refine ⟨⟨value, hnames⟩, ?_⟩
    rintro ⟨a, ha⟩
    obtain ⟨value', hnames', hspelled⟩ := Assignment.writtenOn_iff.1 ha
    obtain ⟨hkey, rfl⟩ := hnames.unique hnames'
    obtain ⟨on, rfl⟩ := Assignment.exists_turned hkey
    have htext := Assignment.spelledBy_turned.1 hspelled
    cases on with
    | true => exact htrue htext
    | false => exact hfalse htext

/-- What is read from a line is what it should say, or a misspelt switch, which counts as off. -/
theorem Assignment.ofLine?_eq_some {line : List Char} {a : Assignment} : ofLine? line = some a ↔
    a.WrittenOn line ∨ ∃ s : Switch, s.MisspeltOn line ∧ a = s.turned false := by
  constructor
  · intro h
    obtain ⟨k, value, hnames⟩ := exists_names_of_ofLine? h
    rw [ofLine?_of_names hnames, ofKey?_text] at h
    rcases h with ⟨rfl, hspelled⟩ | ⟨s, rfl, rfl, hother⟩
    · exact .inl (writtenOn_iff.2 ⟨value, hnames, hspelled⟩)
    · exact .inr ⟨s, Switch.misspeltOn_iff.2 ⟨value, hnames, hother⟩, rfl⟩
  · rintro (h | ⟨s, h, rfl⟩)
    · obtain ⟨value, hnames, hspelled⟩ := writtenOn_iff.1 h
      rw [ofLine?_of_names hnames, ofKey?_text]
      exact .inl ⟨rfl, hspelled⟩
    · obtain ⟨value, hnames, hother⟩ := Switch.misspeltOn_iff.1 h
      rw [ofLine?_of_names hnames, ofKey?_text]
      exact .inr ⟨s, rfl, rfl, hother⟩

theorem Assignment.WrittenOn.named {a : Assignment} {line : List Char} (h : a.WrittenOn line) :
    a.key.NamedOn line := by
  obtain ⟨value, -, hnames, -⟩ := h
  exact ⟨value, hnames⟩

theorem SettingKey.NamedOn.unique {k k' : SettingKey} {line : List Char} (h : k.NamedOn line)
    (h' : k'.NamedOn line) : k' = k := by
  obtain ⟨value, hnames⟩ := h
  obtain ⟨value', hnames'⟩ := h'
  exact (hnames.unique hnames').1

/-! ## 3. What a line says about a key -/

/-- The value that is assigned. -/
def Assignment.value : Assignment → Nat ⊕ Bool
  | .jpegQuality q => .inl q
  | .maxDimension d => .inl d
  | .sessionLog on => .inr on
  | .echoSuccess on => .inr on

def Settings.value (s : Settings) : SettingKey → Nat ⊕ Bool
  | .jpegQuality => .inl s.jpegQuality
  | .maxDimension => .inl s.maxDimension
  | .switch w => .inr (s.isOn w)

theorem Assignment.value_turned (s : Switch) (on : Bool) : (s.turned on).value = .inr on := by
  cases s <;> rfl

/-- An assignment changes the value of its key and no other. -/
theorem Settings.value_assign (s : Settings) (a : Assignment) (k : SettingKey) :
    (s.assign a).value k = if a.key = k then a.value else s.value k := by
  rcases k with _ | _ | (_ | _) <;> cases a <;> rfl

/-- What a line says about a key, if it says something. -/
def SettingKey.valueOn? (k : SettingKey) (line : List Char) : Option (Nat ⊕ Bool) :=
  ((Assignment.ofLine? line).filter (·.key = k)).map (·.value)

namespace SettingKey

variable {k : SettingKey} {line : List Char}

theorem valueOn?_of_written {a : Assignment} (h : a.WrittenOn line) :
    a.key.valueOn? line = some a.value := by
  unfold valueOn?
  rw [Assignment.ofLine?_eq_some.2 (.inl h), Option.filter_some, if_pos (decide_eq_true rfl)]
  rfl

theorem valueOn?_of_misspelt {s : Switch} (h : s.MisspeltOn line) :
    (SettingKey.switch s).valueOn? line = some (.inr false) := by
  unfold valueOn?
  rw [Assignment.ofLine?_eq_some.2 (.inr ⟨s, h, rfl⟩)]
  cases s <;> rfl

/-- A line says nothing about a key exactly if it neither assigns to the key nor misspells it. -/
theorem valueOn?_eq_none : k.valueOn? line = none ↔
    (∀ a : Assignment, a.WrittenOn line → a.key ≠ k) ∧
      ∀ s, k = .switch s → ¬ s.MisspeltOn line := by
  constructor
  · intro hnone
    constructor
    · rintro a hwritten rfl
      cases hnone.symm.trans (valueOn?_of_written hwritten)
    · rintro s rfl hmisspelt
      cases hnone.symm.trans (valueOn?_of_misspelt hmisspelt)
  · rintro ⟨hwritten, hmisspelt⟩
    rw [Option.eq_none_iff_forall_ne_some]
    intro v hv
    obtain ⟨a, ha, -⟩ := Option.map_eq_some_iff.1 hv
    obtain ⟨hread, hkey⟩ := Option.filter_eq_some_iff.1 ha
    have hkey := of_decide_eq_true hkey
    rcases Assignment.ofLine?_eq_some.1 hread with hline | ⟨s, hline, rfl⟩
    · exact hwritten a hline hkey
    · rw [Assignment.key_turned] at hkey
      exact hmisspelt s hkey.symm hline

theorem valueOn?_of_not_named (h : ¬ k.NamedOn line) : k.valueOn? line = none := by
  refine valueOn?_eq_none.2 ⟨?_, ?_⟩
  · rintro a hwritten rfl
    exact h hwritten.named
  · rintro s rfl hmisspelt
    exact h hmisspelt.1

end SettingKey

/-! ## 4. Lines one after the other -/

section Last

variable {α : Type} {P : α → Prop} {xs : List α} {x y : α}

/-- `x` is the last of the list for which `P` holds. -/
def IsLast (P : α → Prop) (xs : List α) (x : α) : Prop :=
  ∃ before after, xs = before ++ x :: after ∧ P x ∧ ∀ y ∈ after, ¬ P y

theorem isLast_concat_self (h : P x) : IsLast P (xs ++ [x]) x :=
  ⟨xs, [], rfl, h, fun _ hy => absurd hy List.not_mem_nil⟩

theorem IsLast.concat (h : IsLast P xs x) (hy : ¬ P y) : IsLast P (xs ++ [y]) x := by
  obtain ⟨before, after, rfl, hx, hafter⟩ := h
  refine ⟨before, after ++ [y], by rw [List.append_assoc]; rfl, hx, ?_⟩
  intro z hz
  rcases List.mem_append.1 hz with hz | hz
  · exact hafter z hz
  · rw [List.mem_singleton.1 hz]
    exact hy

theorem IsLast.append_left (h : IsLast P xs x) (ys : List α) : IsLast P (ys ++ xs) x := by
  obtain ⟨before, after, rfl, hx, hafter⟩ := h
  exact ⟨ys ++ before, after, by rw [List.append_assoc], hx, hafter⟩

theorem exists_isLast (h : ∃ x ∈ xs, P x) : ∃ x, IsLast P xs x := by
  induction xs using List.reverseRecOn with
  | nil =>
    obtain ⟨x, hx, -⟩ := h
    cases hx
  | append_singleton xs y ih =>
    by_cases hy : P y
    · exact ⟨y, isLast_concat_self hy⟩
    · obtain ⟨x, hx, hP⟩ := h
      rcases List.mem_append.1 hx with hx | hx
      · obtain ⟨z, hz⟩ := ih ⟨x, hx, hP⟩
        exact ⟨z, hz.concat hy⟩
      · rw [List.mem_singleton.1 hx] at hP
        exact absurd hP hy

/-- The second list is what is left of the first when some members for which `P` holds are
deleted. -/
inductive Deleted (P : α → Prop) : List α → List α → Prop
  | nil : Deleted P [] []
  | keep {xs ys : List α} (h : Deleted P xs ys) (x : α) : Deleted P (xs ++ [x]) (ys ++ [x])
  | delete {xs ys : List α} (h : Deleted P xs ys) {x : α} (hx : P x) : Deleted P (xs ++ [x]) ys

end Last

/-- The last line for the switch does not say how it should be set. -/
def Switch.LastMisspelt (s : Switch) (ls : List (List Char)) : Prop :=
  ∃ line, IsLast (SettingKey.switch s).NamedOn ls line ∧ s.MisspeltOn line

theorem Switch.lastMisspelt_concat_self {s : Switch} {line : List Char} (h : s.MisspeltOn line)
    (ls : List (List Char)) : s.LastMisspelt (ls ++ [line]) :=
  ⟨line, isLast_concat_self h.1, h⟩

theorem Switch.LastMisspelt.concat {s : Switch} {ls : List (List Char)} {line : List Char}
    (h : s.LastMisspelt ls) (hline : ¬ (SettingKey.switch s).NamedOn line) :
    s.LastMisspelt (ls ++ [line]) := by
  obtain ⟨last, hlast, hmisspelt⟩ := h
  exact ⟨last, hlast.concat hline, hmisspelt⟩

namespace Settings

/-- The lines of a settings text: each ends at a line break or at the end of the text. -/
def lines (text : String) : List (List Char) :=
  let ps := pieces '\n' text.toList
  if ps.getLast? = some [] then ps.dropLast else ps

/-- The settings after some lines. -/
def ofLines (ls : List (List Char)) : Settings :=
  (ls.filterMap Assignment.ofLine?).foldl assign standard

theorem parse_eq_ofLines (text : String) : parse text = ofLines (lines text) := by
  show ofLines (pieces '\n' text.toList) = _
  unfold lines
  dsimp only
  split
  · -- nothing follows the last line break, and nothing is read there
    rename_i hlast
    obtain ⟨ls, hls⟩ := List.getLast?_eq_some_iff.1 hlast
    rw [hls, List.dropLast_concat]
    unfold ofLines
    rw [List.filterMap_append]
    exact congrArg (List.foldl assign standard) (List.append_nil _)
  · rfl

/-- A step lemma: one more line changes what it says something about. -/
theorem value_ofLines_concat (ls : List (List Char)) (line : List Char) (k : SettingKey) :
    (ofLines (ls ++ [line])).value k = (k.valueOn? line).getD ((ofLines ls).value k) := by
  unfold ofLines SettingKey.valueOn?
  rw [List.filterMap_append, List.foldl_append]
  cases hread : Assignment.ofLine? line with
  | none => simp [hread]
  | some a =>
    simp only [List.filterMap_cons, hread, List.filterMap_nil, List.foldl_cons, List.foldl_nil,
      value_assign, Option.filter_some, decide_eq_true_eq]
    split <;> rfl

/-- Lines that say nothing about a key leave its value. -/
theorem value_ofLines_append {before after : List (List Char)} {k : SettingKey}
    (h : ∀ l ∈ after, k.valueOn? l = none) :
    (ofLines (before ++ after)).value k = (ofLines before).value k := by
  induction after using List.reverseRecOn with
  | nil => rw [List.append_nil]
  | append_singleton ls l ih =>
    obtain ⟨hls, hl⟩ := List.forall_mem_append.1 h
    rw [← List.append_assoc, value_ofLines_concat, hl l List.mem_cons_self, ih hls]
    rfl

theorem value_ofLines_of_last {before after : List (List Char)} {line : List Char}
    {k : SettingKey} {v : Nat ⊕ Bool} (hline : k.valueOn? line = some v)
    (hafter : ∀ l ∈ after, k.valueOn? l = none) :
    (ofLines (before ++ line :: after)).value k = v := by
  rw [← List.singleton_append, ← List.append_assoc, value_ofLines_append hafter,
    value_ofLines_concat, hline]
  rfl

theorem isOn_of_lastMisspelt {s : Switch} {ls : List (List Char)} (h : s.LastMisspelt ls) :
    (ofLines ls).isOn s = false := by
  obtain ⟨line, ⟨before, after, rfl, -, hafter⟩, hmisspelt⟩ := h
  have hvalue := @value_ofLines_of_last before after line (.switch s) _
    (SettingKey.valueOn?_of_misspelt hmisspelt)
    fun l hl => SettingKey.valueOn?_of_not_named (hafter l hl)
  exact Sum.inr.inj hvalue

theorem value_of_last_assignment {ls : List (List Char)} {line : List Char} {a : Assignment}
    (hlast : IsLast (fun l => ∃ b : Assignment, b.WrittenOn l ∧ b.key = a.key) ls line)
    (ha : a.WrittenOn line) (hswitch : ∀ s, a.key = .switch s → ¬ s.LastMisspelt ls) :
    (ofLines ls).value a.key = a.value := by
  obtain ⟨before, after, rfl, -, hafter⟩ := hlast
  apply value_ofLines_of_last (SettingKey.valueOn?_of_written ha)
  intro l hl
  refine SettingKey.valueOn?_eq_none.2 ⟨fun b hb hkey => hafter l hl ⟨b, hb, hkey⟩, ?_⟩
  intro s hkey hmisspelt
  -- then there is a last line for the switch, and it is no well-formed assignment either
  obtain ⟨x, hx⟩ := exists_isLast ⟨l, hl, hmisspelt.1⟩
  have hparts := hx
  obtain ⟨front, back, rfl, hnamed, -⟩ := hparts
  refine hswitch s hkey ⟨x, ?_, hnamed, ?_⟩
  · exact (hx.append_left [line]).append_left before
  · rintro ⟨b, hb⟩
    refine hafter x (List.mem_append_right _ List.mem_cons_self) ⟨b, hb, ?_⟩
    rw [hkey]
    exact hnamed.unique hb.named

/-- Of the well-formed assignments to a key the last one decides, unless it turns a switch on and a
misspelt line for the switch is the last. -/
theorem value_of_last_assignment_iff {ls : List (List Char)} {line : List Char} {a : Assignment}
    (hlast : IsLast (fun l => ∃ b : Assignment, b.WrittenOn l ∧ b.key = a.key) ls line)
    (ha : a.WrittenOn line) : (ofLines ls).value a.key = a.value ↔
      ¬ ∃ s : Switch, a = s.turned true ∧ s.LastMisspelt ls := by
  by_cases hmisspelt : ∃ s, a.key = .switch s ∧ s.LastMisspelt ls
  · obtain ⟨s, hkey, hmisspelt⟩ := hmisspelt
    obtain ⟨on, rfl⟩ := Assignment.exists_turned hkey
    have hoff : (ofLines ls).value (s.turned on).key = .inr false := by
      rw [hkey]
      exact congrArg Sum.inr (isOn_of_lastMisspelt hmisspelt)
    rw [hoff, Assignment.value_turned, Sum.inr.injEq]
    constructor
    · rintro rfl ⟨s', heq, -⟩
      have hvalue := congrArg Assignment.value heq
      rw [Assignment.value_turned, Assignment.value_turned] at hvalue
      cases hvalue
    · intro hnot
      cases on with
      | false => rfl
      | true => exact absurd ⟨s, rfl, hmisspelt⟩ hnot
  · have hvalue := value_of_last_assignment hlast ha fun s hkey h => hmisspelt ⟨s, hkey, h⟩
    refine iff_of_true hvalue ?_
    rintro ⟨s, rfl, h⟩
    exact hmisspelt ⟨s, Assignment.key_turned s true, h⟩

/-- A run lemma: without lines that are not well-formed, a key has the value that it has with them,
or it is a switch and the last line for it is misspelt. -/
theorem value_of_deleted {ls kept : List (List Char)} (h : Deleted (¬ WellFormed ·) ls kept)
    (k : SettingKey) : (ofLines kept).value k = (ofLines ls).value k ∨
      ∃ s, k = .switch s ∧ s.LastMisspelt ls := by
  induction h with
  | nil => exact .inl rfl
  | @keep ls kept _ x ih =>
    rw [value_ofLines_concat, value_ofLines_concat]
    cases hx : k.valueOn? x with
    | some v => exact .inl rfl
    | none =>
      obtain ⟨hwritten, hmisspelt⟩ := SettingKey.valueOn?_eq_none.1 hx
      refine ih.imp id ?_
      rintro ⟨s, rfl, hlast⟩
      refine ⟨s, rfl, hlast.concat fun hnamed => hmisspelt s rfl ⟨hnamed, ?_⟩⟩
      rintro ⟨a, ha⟩
      exact hwritten a ha (hnamed.unique ha.named)
  | @delete ls kept _ x hx ih =>
    rw [value_ofLines_concat]
    by_cases hnamed : ∃ s, k = .switch s ∧ k.NamedOn x
    · obtain ⟨s, rfl, hnamed⟩ := hnamed
      exact .inr ⟨s, rfl, Switch.lastMisspelt_concat_self ⟨hnamed, hx⟩ ls⟩
    · have hnone : k.valueOn? x = none := by
        refine SettingKey.valueOn?_eq_none.2 ⟨fun a ha _ => hx ⟨a, ha⟩, ?_⟩
        rintro s rfl hmisspelt
        exact hnamed ⟨s, rfl, hmisspelt.1⟩
      rw [hnone]
      refine ih.imp id ?_
      rintro ⟨s, rfl, hlast⟩
      exact ⟨s, rfl, hlast.concat fun hx => hnamed ⟨s, rfl, hx⟩⟩

/-- What is read of a text without some of its lines, none of them a well-formed assignment, differs
from what is read of the whole text only in a switch that was misspelt in the last line for it and
is on without the deleted lines.  And the last well-formed assignment to a key decides, unless it
turns a switch on that is misspelt in the last line for it: that one is off. -/
theorem deleted_lines_and_last_assignments (text : String) :
    (∀ text', Deleted (¬ WellFormed ·) (lines text) (lines text') →
      (parse text').jpegQuality = (parse text).jpegQuality ∧
      (parse text').maxDimension = (parse text).maxDimension ∧
      ∀ s, (parse text').isOn s = (parse text).isOn s ↔
        (s.LastMisspelt (lines text) → (parse text').isOn s = false)) ∧
    (∀ line a, IsLast (fun l => ∃ b : Assignment, b.WrittenOn l ∧ b.key = a.key) (lines text) line →
      a.WrittenOn line →
      ((parse text).value a.key = a.value ↔
        ¬ ∃ s : Switch, a = s.turned true ∧ s.LastMisspelt (lines text))) ∧
    ∀ s : Switch, s.LastMisspelt (lines text) → (parse text).isOn s = false := by
  simp only [parse_eq_ofLines]
  refine ⟨?_, ?_, fun s => isOn_of_lastMisspelt⟩
  · intro text' hdeleted
    have hvalue := value_of_deleted hdeleted
    refine ⟨?_, ?_, ?_⟩
    · rcases hvalue .jpegQuality with h | ⟨s, hs, -⟩
      · exact Sum.inl.inj h
      · cases hs
    · rcases hvalue .maxDimension with h | ⟨s, hs, -⟩
      · exact Sum.inl.inj h
      · cases hs
    · intro s
      constructor
      · intro h hmisspelt
        exact h.trans (isOn_of_lastMisspelt hmisspelt)
      · intro hoff
        rcases hvalue (.switch s) with h | ⟨s', hs, hmisspelt⟩
        · exact Sum.inr.inj h
        · cases hs
          rw [hoff hmisspelt, isOn_of_lastMisspelt hmisspelt]
  · intro line a hlast ha
    exact value_of_last_assignment_iff hlast ha

theorem misspeltOn_yes : Switch.sessionLog.MisspeltOn "session_log=yes".toList :=
  Switch.misspeltOn_iff.2 ⟨"yes".toList,
    SettingKey.names_iff.2 ⟨"session_log".toList, by decide, by decide⟩,
    by decide, by decide⟩

theorem deleted_lines_and_last_assignments_yes :
    let text := "jpeg_quality=75\nsession_log=yes\n"
    let text' := "jpeg_quality=75\n"
    (parse text').jpegQuality = (parse text).jpegQuality ∧
      (parse text).value .jpegQuality = .inl 75 ∧ (parse text).isOn .sessionLog = false ∧
      ¬ (parse text').isOn .sessionLog = (parse text).isOn .sessionLog := by
  intro text text'
  have hlines : lines text = ["jpeg_quality=75".toList] ++ ["session_log=yes".toList] := by
    decide +kernel
  have hlines' : lines text' = ["jpeg_quality=75".toList] := by decide +kernel
  have hquality : (Assignment.jpegQuality 75).WrittenOn "jpeg_quality=75".toList :=
    Assignment.writtenOn_iff.2 ⟨"75".toList,
      SettingKey.names_iff.2 ⟨"jpeg_quality".toList, by decide +kernel, by decide +kernel⟩,
      Assignment.quality?_eq_some.1 (by decide +kernel)⟩
  have hdeleted : Deleted (¬ WellFormed ·) (lines text) (lines text') := by
    rw [hlines, hlines']
    have hkept := Deleted.keep (Deleted.nil (P := (¬ WellFormed ·))) "jpeg_quality=75".toList
    exact hkept.delete misspeltOn_yes.2
  have hmisspelt : Switch.sessionLog.LastMisspelt (lines text) := by
    rw [hlines]
    exact Switch.lastMisspelt_concat_self misspeltOn_yes _
  have hlast : IsLast (fun l => ∃ b : Assignment, b.WrittenOn l ∧ b.key = .jpegQuality)
      (lines text) "jpeg_quality=75".toList := by
    rw [hlines]
    have hfirst : ∃ b : Assignment, b.WrittenOn "jpeg_quality=75".toList ∧ b.key = .jpegQuality :=
      ⟨_, hquality, rfl⟩
    refine IsLast.concat (@isLast_concat_self _ _ [] _ hfirst) ?_
    rintro ⟨b, hb, -⟩
    exact misspeltOn_yes.2 ⟨b, hb⟩
  obtain ⟨hdelete, hdecides, hoff⟩ := deleted_lines_and_last_assignments text
  obtain ⟨hsame, -, hswitch⟩ := hdelete text' hdeleted
  refine ⟨hsame, (hdecides _ (.jpegQuality 75) hlast hquality).2 ?_, hoff _ hmisspelt, ?_⟩
  · rintro ⟨s, heq, -⟩
    cases s <;> cases heq
  · intro heq
    exact absurd ((hswitch _).1 heq hmisspelt) (by decide +kernel)

/-- The line `session_log=yes` is no well-formed assignment, and a text is read differently without
it. -/
theorem misspelt_switch_counts :
    Deleted (¬ WellFormed ·) (lines "session_log=yes\n") (lines "") ∧
      parse "" ≠ parse "session_log=yes\n" := by
  have hlines : lines "session_log=yes\n" = [] ++ ["session_log=yes".toList] := by decide +kernel
  refine ⟨?_, by decide +kernel⟩
  rw [hlines]
  exact Deleted.nil.delete misspeltOn_yes.2

end Settings

end RasterScript
