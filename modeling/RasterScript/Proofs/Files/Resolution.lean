import Mathlib.Data.List.Induction
import RasterScript.Program

/-!
# Resolution — which files a list of patterns stands for

Every pattern contributes itself if it leads to something, and what it matches otherwise.  Of all
contributions laid end to end the first written-out form of each path is kept, where it stands
(`resolve_eq_firstForms`), whatever it is that matches patterns.

So what later patterns add does not depend on how the earlier ones are written: it is what they
stand for by themselves, without the paths that are there already (`resolve_append`).
-/

namespace RasterScript

/-! ## 1. First written-out forms -/

/-- The list has a written-out form of the path. -/
def Listed (ps : List Path) (p : Path) : Prop := ∃ q ∈ ps, q.components = p.components

instance (ps : List Path) (p : Path) : Decidable (Listed ps p) :=
  inferInstanceAs (Decidable (∃ q ∈ ps, q.components = p.components))

/-- The paths of a list that have no other form of theirs in front of them, each where it stands. -/
def firstForms (ps : List Path) : List Path :=
  (ps.zipIdx.filter fun (p, i) => ¬ Listed (ps.take i) p).map Prod.fst

/-- No two paths are forms of one. -/
def Apart (ps : List Path) : Prop := ps.Pairwise fun p q => p.components ≠ q.components

variable {ps qs found : List Path} {p q : Path}

theorem listed_append : Listed (ps ++ qs) p ↔ Listed ps p ∨ Listed qs p := by
  unfold Listed
  simp only [List.mem_append, or_and_right, exists_or]

theorem listed_of_mem (h : p ∈ ps) : Listed ps p := ⟨p, h, rfl⟩

theorem Listed.trans (h : Listed qs p) (hqs : ∀ q ∈ qs, Listed ps q) : Listed ps p := by
  obtain ⟨q, hq, heq⟩ := h
  obtain ⟨r, hr, heq'⟩ := hqs q hq
  exact ⟨r, hr, heq'.trans heq⟩

theorem firstForms_concat (ps : List Path) (p : Path) :
    firstForms (ps ++ [p]) = if Listed ps p then firstForms ps else firstForms ps ++ [p] := by
  have hfront : ps.zipIdx.filter (fun (q, i) => ¬ Listed ((ps ++ [p]).take i) q) =
      ps.zipIdx.filter fun (q, i) => ¬ Listed (ps.take i) q := by
    apply List.filter_congr
    rintro ⟨q, i⟩ hm
    have hi : i ≤ ps.length := Nat.le_of_lt (List.snd_lt_of_mem_zipIdx hm)
    dsimp only
    rw [List.take_append_of_le_length hi]
  have hlast : (ps ++ [p]).take ps.length = ps := List.take_left
  unfold firstForms
  rw [List.zipIdx_append, List.filter_append, List.map_append, hfront, List.zipIdx_singleton,
    Nat.zero_add]
  split
  · rename_i hlisted
    rw [List.filter_cons_of_neg (by simpa [hlast] using hlisted)]
    exact List.append_nil _
  · rename_i hnew
    rw [List.filter_cons_of_pos (by simpa [hlast] using hnew)]
    rfl

/-! ## 2. Adding paths -/

/-- A step lemma: a path is added unless the list has a form of it. -/
theorem addPath_eq (found : List Path) (p : Path) :
    addPath found p = if Listed found p then found else found ++ [p] := by
  have hany : found.any p.same = true ↔ Listed found p := by
    rw [List.any_eq_true]
    refine exists_congr fun q => and_congr_right fun _ => ?_
    rw [Path.same, beq_iff_eq, eq_comm]
  unfold addPath
  by_cases h : Listed found p
  · rw [if_pos h, if_pos (hany.2 h)]
  · rw [if_neg h, if_neg (mt hany.1 h)]

theorem listed_addPath : Listed (addPath found p) q ↔ Listed found q ∨ Listed [p] q := by
  rw [addPath_eq]
  split
  · rename_i hlisted
    refine ⟨.inl, ?_⟩
    rintro (h | h)
    · exact h
    · -- the path that is added is there in another form
      exact h.trans fun r hr => List.mem_singleton.1 hr ▸ hlisted
  · exact listed_append

theorem Apart.addPath (h : Apart found) (p : Path) : Apart (addPath found p) := by
  rw [addPath_eq]
  split
  · exact h
  · rename_i hnew
    refine List.pairwise_append.2 ⟨h, List.pairwise_singleton _ _, ?_⟩
    intro q hq r hr heq
    rw [List.mem_singleton.1 hr] at heq
    exact hnew ⟨q, hq, heq⟩

/-- A run lemma: nothing is lost but further forms of what is there. -/
theorem listed_foldl : Listed (ps.foldl addPath found) q ↔ Listed found q ∨ Listed ps q := by
  induction ps generalizing found with
  | nil => simp [Listed]
  | cons p ps ih =>
    rw [List.foldl_cons, ih, listed_addPath, or_assoc, ← listed_append, List.singleton_append]

theorem apart_foldl (h : Apart found) (ps : List Path) : Apart (ps.foldl addPath found) := by
  induction ps generalizing found with
  | nil => exact h
  | cons p ps ih => exact ih (h.addPath p)

theorem foldl_addPath_eq_firstForms (ps : List Path) : ps.foldl addPath [] = firstForms ps := by
  induction ps using List.reverseRecOn with
  | nil => rfl
  | append_singleton ps p ih =>
    have hlisted : Listed (ps.foldl addPath []) p ↔ Listed ps p := by
      rw [listed_foldl]
      exact or_iff_right fun ⟨_, hq, _⟩ => List.not_mem_nil hq
    rw [List.foldl_append, firstForms_concat, ← ih]
    exact (addPath_eq _ p).trans (if_congr hlisted rfl rfl)

/-- What is added to some paths is what the others come to by themselves, without forms of the
first. -/
theorem foldl_addPath_append (ps found : List Path) : ps.foldl addPath found =
    found ++ (ps.foldl addPath []).filter fun p => ¬ Listed found p := by
  induction ps using List.reverseRecOn with
  | nil => exact (List.append_nil found).symm
  | append_singleton ps p ih =>
    have hboth : Listed (ps.foldl addPath found) p ↔
        Listed found p ∨ Listed (ps.foldl addPath []) p := by
      rw [listed_foldl, listed_foldl]
      simp [Listed]
    rw [List.foldl_append, List.foldl_append]
    show addPath _ p = found ++ (addPath _ p).filter _
    rw [addPath_eq, addPath_eq, if_congr hboth rfl rfl]
    by_cases hold : Listed (ps.foldl addPath []) p
    · rw [if_pos (.inr hold), if_pos hold]
      exact ih
    · rw [if_neg hold, List.filter_append]
      by_cases hfound : Listed found p
      · rw [if_pos (.inl hfound), List.filter_cons_of_neg (by simpa using hfound), ih]
        exact congrArg (found ++ ·) (List.append_nil _).symm
      · rw [if_neg (not_or.2 ⟨hfound, hold⟩), List.filter_cons_of_pos (by simpa using hfound), ih,
          List.append_assoc]
        rfl

/-! ## 3. Resolving patterns -/

namespace FileStore

section Search

variable [PatternSearch] (fs : FileStore) (patterns : List String)

theorem resolve_eq_firstForms :
    fs.resolve patterns = firstForms (patterns.flatMap fs.contribution) :=
  foldl_addPath_eq_firstForms _

theorem apart_resolve : Apart (fs.resolve patterns) := apart_foldl List.Pairwise.nil _

theorem listed_resolve : Listed (fs.resolve patterns) p ↔
    ∃ t ∈ patterns, Listed (fs.contribution t) p := by
  unfold resolve
  rw [listed_foldl]
  unfold Listed
  simp only [List.not_mem_nil, false_and, exists_false, false_or, List.mem_flatMap]
  constructor
  · rintro ⟨q, ⟨t, ht, hq⟩, heq⟩
    exact ⟨t, ht, q, hq, heq⟩
  · rintro ⟨t, ht, q, hq, heq⟩
    exact ⟨q, ⟨t, ht, hq⟩, heq⟩

theorem resolve_append (more : List String) : fs.resolve (patterns ++ more) =
    fs.resolve patterns ++ (fs.resolve more).filter fun p => ¬ Listed (fs.resolve patterns) p := by
  unfold resolve
  rw [List.flatMap_append, List.foldl_append]
  exact foldl_addPath_append _ _

/-- Patterns add nothing if all that they contribute is there. -/
theorem resolve_append_of_listed {again : List String}
    (h : ∀ t ∈ again, ∀ p ∈ fs.contribution t, Listed (fs.resolve patterns) p) :
    fs.resolve (patterns ++ again) = fs.resolve patterns := by
  rw [resolve_append, List.filter_eq_nil_iff.2, List.append_nil]
  intro p hp
  obtain ⟨t, ht, hlisted⟩ := (fs.listed_resolve again).1 (listed_of_mem hp)
  simpa using hlisted.trans (h t ht)

/-- The files that some patterns stand for are those that the patterns lead to or, where they lead
to nothing, match, one pattern after the other, each at its first written-out form; no two of them
are forms of one path.  More patterns add what they stand for by themselves and is not there yet.
So patterns that have been there, or contribute only what is there, can stand between others without
a change. -/
theorem resolve_first_forms :
    Apart (fs.resolve patterns) ∧
    fs.resolve patterns = firstForms (patterns.flatMap fun t =>
      if fs.pathExists ⟨t⟩ then [⟨t⟩] else PatternSearch.expand fs t) ∧
    (∀ more, fs.resolve (patterns ++ more) = fs.resolve patterns ++
      (fs.resolve more).filter fun p => ¬ Listed (fs.resolve patterns) p) ∧
    ∀ again behind, (∀ t ∈ again, t ∈ patterns ∨
        ∀ p ∈ fs.contribution t, Listed (fs.resolve patterns) p) →
      fs.resolve (patterns ++ again ++ behind) = fs.resolve (patterns ++ behind) := by
  refine ⟨fs.apart_resolve patterns, fs.resolve_eq_firstForms patterns, fs.resolve_append patterns,
    ?_⟩
  intro again behind hagain
  have hlisted : ∀ t ∈ again, ∀ p ∈ fs.contribution t, Listed (fs.resolve patterns) p := by
    intro t ht p hp
    rcases hagain t ht with hold | hall
    · exact (fs.listed_resolve patterns).2 ⟨t, hold, listed_of_mem hp⟩
    · exact hall p hp
  rw [fs.resolve_append (patterns ++ again), fs.resolve_append patterns behind,
    fs.resolve_append_of_listed patterns hlisted]

end Search

/-- A settings file, and a directory with two scripts. -/
def scriptStore : FileStore where
  entries := (((Table.empty.insert ["c.cfg"] (.file [])).insert ["d"] .directory).insert
    ["d", "b.txt"] (.file [])).insert ["d", "a.txt"] (.file [])
  workingDirectory := []
  opened := none

theorem resolve_first_forms_scriptStore :
    let patterns := ["c.cfg", "d/*.txt"]
    let again := ["d/*.txt", "d//a.txt"]
    (∀ t ∈ again, t ∈ patterns ∨
      ∀ p ∈ scriptStore.contribution t, Listed (scriptStore.resolve patterns) p) ∧
    scriptStore.resolve (patterns ++ again ++ ["*"]) =
      [⟨"c.cfg"⟩, ⟨"d/a.txt"⟩, ⟨"d/b.txt"⟩, ⟨"d"⟩] := by
  intro patterns again
  have hagain : ∀ t ∈ again, t ∈ patterns ∨
      ∀ p ∈ scriptStore.contribution t, Listed (scriptStore.resolve patterns) p := by
    decide +kernel
  obtain ⟨-, -, -, hadd⟩ := scriptStore.resolve_first_forms patterns
  refine ⟨hagain, ?_⟩
  rw [hadd again ["*"] hagain]
  decide +kernel

end FileStore

end RasterScript
