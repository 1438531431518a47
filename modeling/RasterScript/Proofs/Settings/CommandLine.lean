import RasterScript.Arguments
import RasterScript.Proofs.Outcome
import RasterScript.Proofs.Settings.DecisiveLines

/-!
# CommandLine — what the words of a command line choose

The arguments that are read from words hold the choices that stand in the words, and no others:
`Arguments.makes_iff_standsIn`.  A flag stands in a word of its own or among the letters of a word,
and the value of an option behind an equals sign or in the word after the option.

The words are looked at one by one.  An option that waits for its values counts as not yet read, and
so does what it has been given up to then: `ArgumentReading.unread`.
-/

namespace RasterScript

/-! ## 1. Options by name -/

def ValueOption.name : ValueOption → String
  | .script => "script"
  | .jpegQuality => "jpeg-quality"
  | .config => "config"

def Flag.name : Flag → String
  | .quiet => "quiet"
  | .verbose => "verbose"
  | .noLog => "no-log"
  | .help => "help"
  | .version => "version"

def Flag.letter? : Flag → Option Char
  | .quiet => some 'q'
  | .verbose => some 'v'
  | .noLog => none
  | .help => some 'h'
  | .version => some 'V'

namespace Parameter

def name : Parameter → String
  | .value o => o.name
  | .flag f => f.name

theorem ofLong?_eq_some {s : String} {p : Parameter} : ofLong? s = some p ↔ s = p.name := by
  constructor
  · intro h
    unfold ofLong? at h
    split at h <;> cases h <;> rfl
  · rintro rfl
    rcases p with o | f
    · cases o <;> rfl
    · cases f <;> rfl

theorem name_injective {p p' : Parameter} (h : p.name = p'.name) : p = p' := by
  have hlong := ofLong?_eq_some.2 h
  rw [ofLong?_eq_some.2 rfl] at hlong
  exact Option.some.inj hlong

theorem sign_not_mem_name (p : Parameter) : '=' ∉ p.name.toList := by
  rcases p with o | f
  · cases o <;> decide
  · cases f <;> decide

theorem ofShort?_eq_flag {c : Char} {f : Flag} :
    ofShort? c = some (.flag f) ↔ f.letter? = some c := by
  constructor
  · intro h
    unfold ofShort? at h
    split at h <;> cases h <;> rfl
  · intro h
    cases f <;> cases h <;> rfl

theorem eq_script_of_ofShort? {c : Char} {o : ValueOption} (h : ofShort? c = some (.value o)) :
    o = .script := by
  unfold ofShort? at h
  split at h <;> cases h
  rfl

end Parameter

/-! ## 2. Choices in words -/

/-- What a command line can choose, apart from the scripts. -/
inductive Choice
  | flag (f : Flag)
  | quality (q : Nat)
  | config (p : Path)
  deriving DecidableEq, Repr

/-- The choice of an option with a value, if the value is one that it can have. -/
def ValueOption.choice? : ValueOption → String → Option Choice
  | .script, _ => none
  | .jpegQuality, v => (Arguments.quality? v).map .quality
  | .config, v => some (.config ⟨v⟩)

/-- The word for a flag, or for an option whose value is in the words behind it. -/
def Parameter.word (p : Parameter) : String := "--" ++ p.name

/-- The option with its value in one word. -/
def ValueOption.wordWith (o : ValueOption) (v : String) : String := "--" ++ o.name ++ "=" ++ v

/-- The value `v` is given to the option somewhere in the words. -/
def ValueOption.GivenIn (o : ValueOption) (words : List String) (v : String) : Prop :=
  o.wordWith v ∈ words ∨ [(Parameter.value o).word, v] <:+: words

/-- The flag stands among the letters, and all letters before it are flags. -/
def Flag.Among (f : Flag) (letters : List Char) : Prop :=
  ∃ before c after, letters = before ++ c :: after ∧ f.letter? = some c ∧
    ∀ d ∈ before, ∃ g : Flag, g.letter? = some d

/-- The word is the flag in full or has it among its letters. -/
def Flag.RaisedBy (f : Flag) (w : String) : Prop :=
  w = (Parameter.flag f).word ∨ ∃ letters, w.toList = '-' :: letters ∧ f.Among letters

namespace Choice

/-- The word makes the choice by itself. -/
def SaidBy (c : Choice) (w : String) : Prop :=
  (∃ f : Flag, c = .flag f ∧ f.RaisedBy w) ∨ ∃ (o : ValueOption) (v : String),
    w = o.wordWith v ∧ o.choice? v = some c

/-- The words make the choice somewhere. -/
def StandsIn (c : Choice) (words : List String) : Prop :=
  (∃ f : Flag, c = .flag f ∧ ∃ w ∈ words, f.RaisedBy w) ∨
    ∃ (o : ValueOption) (v : String), o.GivenIn words v ∧ o.choice? v = some c

end Choice

/-- The word is no option; a dash alone is none. -/
def IsPlain (w : String) : Prop := ∀ c rest, w.toList ≠ '-' :: c :: rest

section Words

variable {p : Parameter} {o : ValueOption} {f : Flag} {c : Choice} {w v : String}
  {ws ws' : List String}

theorem Parameter.toList_word (p : Parameter) : p.word.toList = '-' :: '-' :: p.name.toList := by
  rw [word, String.toList_append]
  rfl

theorem Parameter.word_injective {p p' : Parameter} (h : p.word = p'.word) : p = p' := by
  have hname := congrArg String.toList h
  rw [p.toList_word, p'.toList_word, List.cons_inj_right, List.cons_inj_right,
    String.toList_inj] at hname
  exact name_injective hname

theorem ValueOption.toList_wordWith (o : ValueOption) (v : String) :
    (o.wordWith v).toList = '-' :: '-' :: (o.name.toList ++ '=' :: v.toList) := by
  simp only [wordWith, String.toList_append, List.append_assoc]
  rfl

theorem Parameter.word_ne_wordWith : p.word ≠ o.wordWith v := by
  intro h
  have hsign := congrArg ('=' ∈ String.toList ·) h
  simp [p.toList_word, ValueOption.toList_wordWith, p.sign_not_mem_name] at hsign

/-- An option is told from its value by the first equals sign. -/
theorem ValueOption.wordWith_injective {o' : ValueOption} {v' : String}
    (h : o.wordWith v = o'.wordWith v') : o = o' ∧ v = v' := by
  have hparts (o : ValueOption) (v : String) : splitAssignment? (o.name.toList ++ '=' :: v.toList) =
      some (o.name.toList, v.toList) :=
    splitAssignment?_eq_some.2 ⟨rfl, Parameter.sign_not_mem_name (.value o)⟩
  have htext := congrArg String.toList h
  rw [toList_wordWith, toList_wordWith, List.cons_inj_right, List.cons_inj_right] at htext
  have hsplit := hparts o v
  rw [htext, hparts o' v', Option.some.injEq, Prod.mk.injEq, String.toList_inj,
    String.toList_inj] at hsplit
  cases @Parameter.name_injective (.value o') (.value o) hsplit.1
  exact ⟨rfl, hsplit.2.symm⟩

theorem Flag.among_cons {d : Char} {letters : List Char} : f.Among (d :: letters) ↔
    f.letter? = some d ∨ (∃ g : Flag, g.letter? = some d) ∧ f.Among letters := by
  constructor
  · rintro ⟨_ | ⟨e, before⟩, c, after, hletters, hc, hbefore⟩
    · cases hletters
      exact .inl hc
    · cases hletters
      obtain ⟨hd, hbefore⟩ := List.forall_mem_cons.1 hbefore
      exact .inr ⟨hd, before, c, after, rfl, hc, hbefore⟩
  · rintro (hd | ⟨hd, before, c, after, rfl, hc, hbefore⟩)
    · exact ⟨[], d, letters, rfl, hd, fun _ h => absurd h List.not_mem_nil⟩
    · exact ⟨d :: before, c, after, rfl, hc, List.forall_mem_cons.2 ⟨hd, hbefore⟩⟩

theorem exists_among_cons_of_flag {g : Flag} {d : Char} {letters : List Char}
    (hd : g.letter? = some d) : (∃ f : Flag, c = .flag f ∧ f.Among (d :: letters)) ↔
      c = .flag g ∨ ∃ f : Flag, c = .flag f ∧ f.Among letters := by
  constructor
  · rintro ⟨f, rfl, hf⟩
    rcases Flag.among_cons.1 hf with hletter | ⟨-, hf⟩
    · have hshort := Parameter.ofShort?_eq_flag.2 hletter
      rw [Parameter.ofShort?_eq_flag.2 hd] at hshort
      cases hshort
      exact .inl rfl
    · exact .inr ⟨f, rfl, hf⟩
  · rintro (rfl | ⟨f, rfl, hf⟩)
    · exact ⟨g, rfl, Flag.among_cons.2 (.inl hd)⟩
    · exact ⟨f, rfl, Flag.among_cons.2 (.inr ⟨⟨g, hd⟩, hf⟩)⟩

theorem Flag.not_among_cons {d : Char} {letters : List Char} (hd : ∀ g : Flag, g.letter? ≠ some d) :
    ¬ f.Among (d :: letters) := by
  rw [among_cons]
  rintro (hf | ⟨⟨g, hg⟩, -⟩)
  · exact hd f hf
  · exact hd g hg

theorem Flag.letter?_ne_of_value {d : Char} (hd : Parameter.ofShort? d = some (.value o))
    (g : Flag) : g.letter? ≠ some d := by
  intro hg
  cases (Parameter.ofShort?_eq_flag.2 hg).symm.trans hd

theorem Flag.raisedBy_of_long {body : List Char} (hw : w.toList = '-' :: '-' :: body) :
    f.RaisedBy w ↔ w = (Parameter.flag f).word := by
  refine ⟨?_, .inl⟩
  rintro (h | ⟨letters, h, hamong⟩)
  · exact h
  · rw [hw] at h
    cases h
    have hdash (g : Flag) : g.letter? ≠ some '-' := by cases g <;> decide
    exact absurd hamong (Flag.not_among_cons hdash)

theorem Choice.not_saidBy_word (o : ValueOption) : ¬ c.SaidBy (Parameter.value o).word := by
  rintro (⟨f, rfl, hf⟩ | ⟨o', v, hw, -⟩)
  · rw [Flag.raisedBy_of_long (Parameter.value o).toList_word] at hf
    cases Parameter.word_injective hf
  · exact Parameter.word_ne_wordWith hw

theorem Choice.saidBy_flag_word : c.SaidBy (Parameter.flag f).word ↔ c = .flag f := by
  constructor
  · rintro (⟨g, rfl, hg⟩ | ⟨o', v, hw, -⟩)
    · rw [Flag.raisedBy_of_long (Parameter.flag f).toList_word] at hg
      cases Parameter.word_injective hg
      rfl
    · exact absurd hw Parameter.word_ne_wordWith
  · rintro rfl
    exact .inl ⟨f, rfl, .inl rfl⟩

theorem Choice.saidBy_wordWith : c.SaidBy (o.wordWith v) ↔ o.choice? v = some c := by
  constructor
  · rintro (⟨f, rfl, hf⟩ | ⟨o', v', hw, hc⟩)
    · rw [Flag.raisedBy_of_long (o.toList_wordWith v)] at hf
      exact absurd hf.symm Parameter.word_ne_wordWith
    · obtain ⟨rfl, rfl⟩ := ValueOption.wordWith_injective hw
      exact hc
  · intro hc
    exact .inr ⟨o, v, rfl, hc⟩

theorem IsPlain.ne_word (h : IsPlain w) : w ≠ p.word := by
  rintro rfl
  exact h _ _ p.toList_word

theorem IsPlain.ne_wordWith (h : IsPlain w) : w ≠ o.wordWith v := by
  rintro rfl
  exact h _ _ (o.toList_wordWith v)

theorem IsPlain.not_saidBy (h : IsPlain w) : ¬ c.SaidBy w := by
  rintro (⟨f, -, hf | ⟨letters, hw, before, d, after, rfl, -⟩⟩ | ⟨o, v, hw, -⟩)
  · exact h.ne_word hf
  · cases before with
    | nil => exact h d after hw
    | cons e before => exact h e (before ++ d :: after) hw
  · exact h.ne_wordWith hw

theorem givenIn_cons : o.GivenIn (w :: ws) v ↔ w = o.wordWith v ∨
    (w = (Parameter.value o).word ∧ ws.head? = some v) ∨ o.GivenIn ws v := by
  have hhead : [(Parameter.value o).word, v] <+: w :: ws ↔
      w = (Parameter.value o).word ∧ ws.head? = some v := by
    rw [List.cons_prefix_cons, eq_comm]
    refine and_congr_right fun _ => ?_
    cases ws with
    | nil => simp
    | cons x ws => simp [eq_comm]
  unfold ValueOption.GivenIn
  rw [List.mem_cons, List.infix_cons_iff, hhead, eq_comm]
  tauto

theorem Choice.standsIn_cons : c.StandsIn (w :: ws) ↔ c.SaidBy w ∨
    (∃ (o : ValueOption) (v : String),
      w = (Parameter.value o).word ∧ ws.head? = some v ∧ o.choice? v = some c) ∨
    c.StandsIn ws := by
  constructor
  · rintro (⟨f, rfl, x, hx, hf⟩ | ⟨o, v, hgiven, hc⟩)
    · rcases List.mem_cons.1 hx with rfl | hx
      · exact .inl (.inl ⟨f, rfl, hf⟩)
      · exact .inr (.inr (.inl ⟨f, rfl, x, hx, hf⟩))
    · rcases givenIn_cons.1 hgiven with hw | ⟨hw, hv⟩ | hgiven
      · exact .inl (.inr ⟨o, v, hw, hc⟩)
      · exact .inr (.inl ⟨o, v, hw, hv, hc⟩)
      · exact .inr (.inr (.inr ⟨o, v, hgiven, hc⟩))
  · rintro ((⟨f, rfl, hf⟩ | ⟨o, v, hw, hc⟩) | ⟨o, v, hw, hv, hc⟩ |
      (⟨f, rfl, x, hx, hf⟩ | ⟨o, v, hgiven, hc⟩))
    · exact .inl ⟨f, rfl, w, List.mem_cons_self, hf⟩
    · exact .inr ⟨o, v, givenIn_cons.2 (.inl hw), hc⟩
    · exact .inr ⟨o, v, givenIn_cons.2 (.inr (.inl ⟨hw, hv⟩)), hc⟩
    · exact .inl ⟨f, rfl, x, List.mem_cons_of_mem _ hx, hf⟩
    · exact .inr ⟨o, v, givenIn_cons.2 (.inr (.inr hgiven)), hc⟩

namespace Choice

theorem standsIn_cons_of_ne (h : ∀ o, w ≠ (Parameter.value o).word) :
    c.StandsIn (w :: ws) ↔ c.SaidBy w ∨ c.StandsIn ws := by
  rw [standsIn_cons]
  refine or_congr_right (or_iff_right ?_)
  rintro ⟨o, v, hw, -⟩
  exact h o hw

theorem standsIn_cons_word : c.StandsIn ((Parameter.value o).word :: ws) ↔
    (∃ v, ws.head? = some v ∧ o.choice? v = some c) ∨ c.StandsIn ws := by
  rw [standsIn_cons, or_iff_right (not_saidBy_word o)]
  refine or_congr_left ⟨?_, ?_⟩
  · rintro ⟨o', v, hw, hv, hc⟩
    cases Parameter.word_injective hw
    exact ⟨v, hv, hc⟩
  · rintro ⟨v, hv, hc⟩
    exact ⟨o, v, rfl, hv, hc⟩

theorem flag_standsIn : (flag f).StandsIn ws ↔ ∃ w ∈ ws, f.RaisedBy w := by
  constructor
  · rintro (⟨g, heq, hg⟩ | ⟨o, v, -, hc⟩)
    · cases heq
      exact hg
    · cases o <;> simp [ValueOption.choice?] at hc
  · intro hf
    exact .inl ⟨f, rfl, hf⟩

theorem quality_standsIn {q : Nat} : (quality q).StandsIn ws ↔
    ∃ v, ValueOption.jpegQuality.GivenIn ws v ∧ Arguments.quality? v = some q := by
  constructor
  · rintro (⟨g, heq, -⟩ | ⟨o, v, hv, hc⟩)
    · cases heq
    · cases o with
      | jpegQuality => exact ⟨v, hv, by simpa [ValueOption.choice?] using hc⟩
      | script | config => cases hc
  · rintro ⟨v, hv, hq⟩
    exact .inr ⟨_, v, hv, by simp [ValueOption.choice?, hq]⟩

theorem config_standsIn {p : Path} :
    (config p).StandsIn ws ↔ ∃ v, ValueOption.config.GivenIn ws v ∧ p = ⟨v⟩ := by
  constructor
  · rintro (⟨g, heq, -⟩ | ⟨o, v, hv, hc⟩)
    · cases heq
    · cases o with
      | config =>
        cases hc
        exact ⟨v, hv, rfl⟩
      | script => cases hc
      | jpegQuality => simp [ValueOption.choice?] at hc
  · rintro ⟨v, hv, rfl⟩
    exact .inr ⟨_, v, hv, rfl⟩

end Choice

theorem givenIn_plain_append (h : ∀ x ∈ ws, IsPlain x) :
    o.GivenIn (ws ++ ws') v ↔ o.GivenIn ws' v := by
  induction ws with
  | nil => rfl
  | cons x ws ih =>
    obtain ⟨hx, hws⟩ := List.forall_mem_cons.1 h
    rw [List.cons_append, givenIn_cons, ih hws]
    refine ⟨?_, fun h => .inr (.inr h)⟩
    rintro (h | ⟨h, -⟩ | h)
    · exact absurd h hx.ne_wordWith
    · exact absurd h hx.ne_word
    · exact h

theorem Choice.standsIn_plain_append (h : ∀ x ∈ ws, IsPlain x) :
    c.StandsIn (ws ++ ws') ↔ c.StandsIn ws' := by
  induction ws with
  | nil => rfl
  | cons x ws ih =>
    obtain ⟨hx, hws⟩ := List.forall_mem_cons.1 h
    rw [List.cons_append, standsIn_cons_of_ne fun _ => hx.ne_word, ih hws,
      or_iff_right hx.not_saidBy]

end Words

/-! ## 3. Choices of arguments -/

namespace Arguments

def has (a : Arguments) : Flag → Bool
  | .quiet => a.quiet
  | .verbose => a.verbose
  | .noLog => a.noLog
  -- nothing is run with these
  | .help | .version => false

/-- The choice holds for a run with the arguments. -/
def Makes (a : Arguments) : Choice → Prop
  | .flag f => a.has f = true
  | .quality q => a.jpegQuality = some q
  | .config p => a.config = some p

/-- `b` makes the choices of `a` and those in the words, where every option can have the value that
it is given. -/
structure Adds (a b : Arguments) (words : List String) : Prop where
  makes_iff : ∀ c, b.Makes c ↔ a.Makes c ∨ c.StandsIn words
  readable : ∀ (o : ValueOption) (v : String),
    o ≠ .script → o.GivenIn words v → ∃ c, o.choice? v = some c

variable {a a' b : Arguments} {c : Choice} {w v : String} {ws vs : List String}

theorem not_makes_blank (c : Choice) : ¬ blank.Makes c := by
  rintro h
  rcases c with f | q | p
  · cases f <;> cases h
  · cases h
  · cases h

theorem makes_of_raise {f : Flag} (h : a.raise f = .ok a') :
    a'.Makes c ↔ a.Makes c ∨ c = .flag f := by
  unfold raise at h
  cases f with
  | quiet | verbose | noLog =>
    simp only at h
    split at h
    · cases h
    · cases h
      rcases c with g | q | p
      · cases g <;> simp [Makes, has]
      · simp [Makes]
      · simp [Makes]
  | help | version => cases h

theorem makes_of_give {o : ValueOption} (h : a.give o (v :: vs) = .ok a') :
    (∀ c, a'.Makes c ↔ a.Makes c ∨ o.choice? v = some c) ∧
      (o ≠ .script → ∃ c, o.choice? v = some c) := by
  cases o with
  | script =>
    cases h
    refine ⟨fun c => ?_, fun hne => absurd rfl hne⟩
    rcases c with f | q | p
    · cases f <;> simp [Makes, has, ValueOption.choice?]
    · simp [Makes, ValueOption.choice?]
    · simp [Makes, ValueOption.choice?]
  | jpegQuality =>
    simp only [give] at h
    split at h
    · cases h
    · rename_i hfirst
      have hnone : a.jpegQuality = none := by simpa using hfirst
      split at h
      · rename_i q hq
        cases h
        refine ⟨fun c => ?_, fun _ => ⟨.quality q, by simp [ValueOption.choice?, hq]⟩⟩
        rcases c with f | q' | p
        · cases f <;> simp [Makes, has, ValueOption.choice?]
        · simp [Makes, ValueOption.choice?, hnone, hq]
        · simp [Makes, ValueOption.choice?]
      · cases h
  | config =>
    simp only [give] at h
    split at h
    · cases h
    · rename_i hfirst
      have hnone : a.config = none := by simpa using hfirst
      split at h
      · cases h
      · cases h
        refine ⟨fun c => ?_, fun _ => ⟨.config ⟨v⟩, rfl⟩⟩
        rcases c with f | q | p
        · cases f <;> simp [Makes, has, ValueOption.choice?]
        · simp [Makes, ValueOption.choice?]
        · simp [Makes, ValueOption.choice?, hnone]

theorem Adds.after_word (h : a'.Adds b ws) (hawaits : ∀ o, w ≠ (Parameter.value o).word)
    (hmakes : ∀ c, a'.Makes c ↔ a.Makes c ∨ c.SaidBy w)
    (hreadable : ∀ (o : ValueOption) (v : String),
      o ≠ .script → w = o.wordWith v → ∃ c, o.choice? v = some c) : a.Adds b (w :: ws) where
  makes_iff c := by
    rw [h.makes_iff, hmakes, Choice.standsIn_cons_of_ne hawaits, or_assoc]
  readable o v ho hgiven := by
    rcases givenIn_cons.1 hgiven with hw | ⟨hw, -⟩ | hgiven
    · exact hreadable o v ho hw
    · exact absurd hw (hawaits o)
    · exact h.readable o v ho hgiven

/-- An option with its values in the words behind it. -/
theorem Adds.after_given {o : ValueOption} (h : a'.Adds b ws)
    (hgive : a.give o (v :: vs) = .ok a') (hplain : ∀ x ∈ v :: vs, IsPlain x) :
    a.Adds b ((Parameter.value o).word :: (v :: vs ++ ws)) := by
  obtain ⟨hmakes, hreadable⟩ := makes_of_give hgive
  constructor
  · intro c
    have hnext : (∃ x, (v :: vs ++ ws).head? = some x ∧ o.choice? x = some c) ↔
        o.choice? v = some c := by simp
    rw [h.makes_iff, hmakes, Choice.standsIn_cons_word, hnext,
      Choice.standsIn_plain_append hplain, or_assoc]
  · intro o' v' ho hgiven
    rcases givenIn_cons.1 hgiven with hw | ⟨hw, hv⟩ | hgiven
    · exact absurd hw Parameter.word_ne_wordWith
    · cases Parameter.word_injective hw
      cases hv
      exact hreadable ho
    · exact h.readable o' v' ho ((givenIn_plain_append hplain).1 hgiven)

/-- The scripts are no choice. -/
theorem Adds.of_script (h : a.Adds b ((Parameter.value .script).word :: ws)) : a.Adds b ws where
  makes_iff c := by
    have hnext : ¬ ∃ v, ws.head? = some v ∧ ValueOption.script.choice? v = some c := by
      rintro ⟨v, -, hc⟩
      cases hc
    rw [h.makes_iff, Choice.standsIn_cons_word, or_iff_right hnext]
  readable o v ho hgiven := h.readable o v ho (givenIn_cons.2 (.inr (.inr hgiven)))

end Arguments

/-! ## 4. One word -/

namespace ArgumentReading

variable {r r' : ArgumentReading} {a b : Arguments} {w : String} {ws : List String}

/-- The words that are taken but not yet looked at. -/
def unread (r : ArgumentReading) : List String :=
  match r.pending with
  | none => []
  | some (o, values) => (Parameter.value o).word :: values

theorem flag_eq_ok {f : Flag} : r.flag f = .ok r' ↔
    ∃ a a', r.settle = .ok a ∧ a.raise f = .ok a' ∧ r' = ⟨a', none⟩ := by
  simp only [flag, bind_eq_ok, pure_eq_ok, exists_and_left]

theorem attached_eq_ok {o : ValueOption} {v : String} : r.attached o v = .ok r' ↔
    ∃ a a', r.settle = .ok a ∧ a.give o [v] = .ok a' ∧ r' = ⟨a', none⟩ := by
  simp only [attached, bind_eq_ok, pure_eq_ok, exists_and_left]

theorem expectValue_eq_ok {o : ValueOption} : r.expectValue o = .ok r' ↔
    ∃ a, r.settle = .ok a ∧ r' = ⟨a, some (o, [])⟩ := by
  simp only [expectValue, bind_eq_ok, pure_eq_ok]

/-- The letters of a word raise the flags among them; a value can only be for the scripts. -/
theorem makes_of_short {letters : List Char} (hne : letters ≠ [])
    (h : r.short letters = .ok r') :
    ∃ a, r.settle = .ok a ∧
      (r'.unread = [] ∨ r'.unread = [(Parameter.value .script).word]) ∧
      ∀ c, r'.arguments.Makes c ↔ a.Makes c ∨ ∃ f : Flag, c = .flag f ∧ f.Among letters := by
  fun_induction ArgumentReading.short r letters with
  | case1 r => exact absurd rfl hne
  | case2 r d rest hd => cases h
  | case3 r d rest f hd ih =>
    obtain ⟨r₁, hflag, h⟩ := bind_eq_ok.1 h
    obtain ⟨a, a₁, hsettle, hraise, rfl⟩ := flag_eq_ok.1 hflag
    have hletter := Parameter.ofShort?_eq_flag.1 hd
    refine ⟨a, hsettle, ?_⟩
    by_cases hrest : rest = []
    · subst hrest
      cases h
      refine ⟨.inl rfl, fun c => ?_⟩
      rw [exists_among_cons_of_flag hletter, Arguments.makes_of_raise hraise]
      simp [Flag.Among]
    · obtain ⟨_, hsettle₁, hunread, hmakes⟩ := ih ⟨a₁, none⟩ hrest h
      cases hsettle₁
      refine ⟨hunread, fun c => ?_⟩
      rw [hmakes, Arguments.makes_of_raise hraise, exists_among_cons_of_flag hletter, or_assoc]
  | case4 r d o hd =>
    obtain ⟨a, hsettle, rfl⟩ := expectValue_eq_ok.1 h
    obtain rfl := Parameter.eq_script_of_ofShort? hd
    refine ⟨a, hsettle, .inr rfl, fun c => (or_iff_left ?_).symm⟩
    rintro ⟨f, -, hf⟩
    exact Flag.not_among_cons (Flag.letter?_ne_of_value hd) hf
  | case5 r d o hd value | case6 r d o hd value =>
    obtain ⟨a, a', hsettle, hgive, rfl⟩ := attached_eq_ok.1 h
    obtain rfl := Parameter.eq_script_of_ofShort? hd
    refine ⟨a, hsettle, .inl rfl, fun c => ?_⟩
    rw [(Arguments.makes_of_give hgive).1]
    refine or_congr_right (iff_of_false nofun ?_)
    rintro ⟨f, -, hf⟩
    exact Flag.not_among_cons (Flag.letter?_ne_of_value hd) hf

/-- After the option `w` no value of it is read yet, and what is added from then on to `r` is added
to `a` by the words from `w` on. -/
structure Follows (a : Arguments) (w : String) (r : ArgumentReading) : Prop where
  no_values : r.unread.tail = []
  adds : ∀ {b ws}, r.arguments.Adds b (r.unread ++ ws) → a.Adds b (w :: ws)

theorem follows_of_long {body : List Char} (hw : w.toList = '-' :: '-' :: body)
    (h : r.word w = .ok r') : ∃ a, r.settle = .ok a ∧ Follows a w r' := by
  simp only [word, hw] at h
  split at h
  · rename_i name value hsplit
    cases hname : Parameter.ofLong? (String.ofList name) with
    | none => simp [long, hname] at h
    | some p =>
      rcases p with o | f
      · simp only [long, hname] at h
        obtain ⟨a, a', hsettle, hgive, rfl⟩ := attached_eq_ok.1 h
        obtain ⟨hmakes, hreadable⟩ := Arguments.makes_of_give hgive
        obtain rfl : w = o.wordWith (String.ofList value) := by
          rw [← String.toList_inj, hw, o.toList_wordWith, String.toList_ofList,
            (splitAssignment?_eq_some.1 hsplit).1, ← String.toList_ofList (l := name),
            Parameter.ofLong?_eq_some.1 hname]
          rfl
        refine ⟨a, hsettle, rfl, fun hrest => ?_⟩
        refine hrest.after_word (fun o' => Parameter.word_ne_wordWith.symm) ?_ ?_
        · intro c
          rw [hmakes, Choice.saidBy_wordWith]
        · rintro o' v' ho hv'
          obtain ⟨rfl, rfl⟩ := ValueOption.wordWith_injective hv'
          exact hreadable ho
      · simp [long, hname] at h
  · cases hname : Parameter.ofLong? (String.ofList body) with
    | none => simp [long, hname] at h
    | some p =>
      obtain rfl : w = p.word := by
        rw [← String.toList_inj, hw, p.toList_word, ← Parameter.ofLong?_eq_some.1 hname,
          String.toList_ofList]
      rcases p with o | f
      · simp only [long, hname] at h
        obtain ⟨a, hsettle, rfl⟩ := expectValue_eq_ok.1 h
        exact ⟨a, hsettle, rfl, fun hrest => hrest⟩
      · simp only [long, hname] at h
        obtain ⟨a, a', hsettle, hraise, rfl⟩ := flag_eq_ok.1 h
        refine ⟨a, hsettle, rfl, fun hrest => ?_⟩
        refine hrest.after_word ?_ ?_ fun o v _ hv => absurd hv Parameter.word_ne_wordWith
        · intro o ho
          cases Parameter.word_injective ho
        · intro c
          rw [Arguments.makes_of_raise hraise, Choice.saidBy_flag_word]

theorem follows_of_letters {d : Char} {rest : List Char} (hw : w.toList = '-' :: d :: rest)
    (hd : d ≠ '-') (h : r.word w = .ok r') : ∃ a, r.settle = .ok a ∧ Follows a w r' := by
  have hlong {body : List Char} {x : String} (hx : x.toList = '-' :: '-' :: body) : w ≠ x := by
    rintro rfl
    rw [hw] at hx
    cases hx
    exact hd rfl
  have hshort : r.word w = r.short (d :: rest) := by
    unfold word
    split
    · rename_i body hbody
      exact absurd rfl (hlong hbody)
    · rename_i d' rest' _ hletters
      rw [hw] at hletters
      cases hletters
      rfl
    · rename_i hplain
      exact absurd hw (hplain d rest)
  obtain ⟨a, hsettle, hunread, hmakes⟩ :=
    makes_of_short (List.cons_ne_nil d rest) (hshort.symm.trans h)
  have hsaid (c : Choice) : r'.arguments.Makes c ↔ a.Makes c ∨ c.SaidBy w := by
    rw [hmakes]
    refine or_congr_right ⟨?_, ?_⟩
    · rintro ⟨f, rfl, hf⟩
      exact .inl ⟨f, rfl, .inr ⟨_, hw, hf⟩⟩
    · rintro (⟨f, rfl, hf | ⟨letters, hletters, hf⟩⟩ | ⟨o, v, hv, -⟩)
      · exact absurd hf (hlong (Parameter.flag f).toList_word)
      · rw [hw] at hletters
        cases hletters
        exact ⟨f, rfl, hf⟩
      · exact absurd hv (hlong (o.toList_wordWith v))
  have hafter {b : Arguments} {ws : List String} (hrest : r'.arguments.Adds b ws) :
      a.Adds b (w :: ws) :=
    hrest.after_word (fun o => hlong (Parameter.value o).toList_word) hsaid
      fun o v _ hv => absurd hv (hlong (o.toList_wordWith v))
  rcases hunread with hunread | hunread
  · refine ⟨a, hsettle, by rw [hunread]; rfl, fun hrest => ?_⟩
    rw [hunread] at hrest
    exact hafter hrest
  · refine ⟨a, hsettle, by rw [hunread]; rfl, fun hrest => ?_⟩
    rw [hunread] at hrest
    exact hafter hrest.of_script

theorem exists_follows (hoption : ¬ IsPlain w) (h : r.word w = .ok r') :
    ∃ a, r.settle = .ok a ∧ Follows a w r' := by
  simp only [IsPlain, ne_eq, not_forall, not_not] at hoption
  obtain ⟨d, rest, hw⟩ := hoption
  by_cases hd : d = '-'
  · subst hd
    exact follows_of_long hw h
  · exact follows_of_letters hw hd h

theorem word_of_plain (hw : IsPlain w) : r.word w = r.plain w := by
  unfold word
  split
  · rename_i body hbody
    exact absurd hbody (hw '-' body)
  · rename_i d rest _ hletters
    exact absurd hletters (hw d rest)
  · rfl

theorem unread_of_plain (h : r.plain w = .ok r') : r'.arguments = r.arguments ∧
    r'.unread = r.unread ++ [w] ∧ r.unread ≠ [] := by
  unfold plain at h
  split at h
  · rename_i o vs hpending
    split at h
    · cases h
      simp [unread, hpending]
    · cases h
  · cases h

/-- The values that are pending get looked at. -/
theorem adds_of_settle (h : r.settle = .ok a) (hplain : ∀ v ∈ r.unread.tail, IsPlain v)
    (hrest : a.Adds b ws) : r.arguments.Adds b (r.unread ++ ws) := by
  unfold settle at h
  split at h
  · rename_i hpending
    cases h
    simpa [unread, hpending] using hrest
  · rename_i o vs hpending
    simp only [unread, hpending, List.tail_cons] at hplain ⊢
    cases vs with
    | nil => cases o <;> cases h
    | cons v vs => exact hrest.after_given h hplain

/-! ## 5. All words -/

theorem adds_nil (a : Arguments) : a.Adds a [] where
  makes_iff c := by
    refine (or_iff_left ?_).symm
    rintro (⟨f, -, w, hw, -⟩ | ⟨o, v, hw | hw, -⟩)
    · cases hw
    · cases hw
    · cases List.infix_nil.1 hw
  readable o v _ hgiven := by
    rcases hgiven with hw | hw
    · cases hw
    · cases List.infix_nil.1 hw

/-- The word that ends the options makes no choice. -/
theorem adds_dashes (a : Arguments) : a.Adds a ["--"] := by
  have hword (p : Parameter) : "--" ≠ p.word := by
    rcases p with o | f
    · cases o <;> decide
    · cases f <;> decide
  have hwith (o : ValueOption) (v : String) : "--" ≠ o.wordWith v := by
    intro h
    have hname := congrArg String.toList h
    rw [o.toList_wordWith] at hname
    simp at hname
  refine (adds_nil a).after_word (fun o => hword _) ?_ fun o v _ h => absurd h (hwith o v)
  intro c
  refine (or_iff_left ?_).symm
  rintro (⟨f, rfl, hf⟩ | ⟨o, v, h, -⟩)
  · rw [Flag.raisedBy_of_long rfl] at hf
    exact hword _ hf
  · exact hwith o v h

/-- A run lemma: the arguments read in the end have the choices of all words that were not yet
looked at. -/
theorem adds_of_words (h : r.words ws = .ok b) (hplain : ∀ v ∈ r.unread.tail, IsPlain v) :
    r.arguments.Adds b (r.unread ++ ws) := by
  induction ws generalizing r with
  | nil => exact adds_of_settle h hplain (adds_nil b)
  | cons w ws ih =>
    unfold words at h
    split at h
    · rename_i hw
      split at h
      · rename_i hws
        rw [hw, hws]
        exact adds_of_settle h hplain (adds_dashes b)
      · cases h
    · obtain ⟨r', hword, h⟩ := bind_eq_ok.1 h
      by_cases hw : IsPlain w
      -- one more value for what is pending
      · rw [word_of_plain hw] at hword
        obtain ⟨harguments, hunread, hne⟩ := unread_of_plain hword
        have hrest := ih h (by
          rw [hunread, List.tail_append_of_ne_nil hne]
          exact List.forall_mem_append.2 ⟨hplain, List.forall_mem_singleton.2 hw⟩)
        rw [harguments, hunread, List.append_assoc] at hrest
        exact hrest
      -- an option, and so the last of the values before it have been seen
      · obtain ⟨a, hsettle, hfollows⟩ := exists_follows hw hword
        have hrest := ih h (by simp [hfollows.no_values])
        exact adds_of_settle hsettle hplain (hfollows.adds hrest)

end ArgumentReading

namespace Arguments

variable {a : Arguments} {words : List String}

theorem adds_of_ofWords (h : ofWords words = .ok a) : blank.Adds a words :=
  ArgumentReading.adds_of_words h fun _ hv => absurd hv List.not_mem_nil

/-- The arguments make exactly the choices that stand in the words. -/
theorem makes_iff_standsIn (h : ofWords words = .ok a) (c : Choice) :
    a.Makes c ↔ c.StandsIn words := by
  rw [(adds_of_ofWords h).makes_iff, or_iff_right (not_makes_blank c)]

end Arguments

end RasterScript
