import RasterScript.Files.Path

/-!
# Paths — files directly inside a directory

The path of a plain name seen from a directory has the segments of the directory and one more, and
its parent is the directory again, up to separators and dots at the end that mean nothing.
-/

namespace RasterScript

/-! ## 1. Pieces -/

section Pieces

variable {α : Type} [DecidableEq α]

theorem pieces_of_not_mem {sep : α} {s : List α} (h : sep ∉ s) : pieces sep s = [s] := by
  induction s with
  | nil => rfl
  | cons c cs ih =>
    rw [List.mem_cons, not_or] at h
    rw [pieces_cons, ih h.2, consPiece, if_neg (Ne.symm h.1)]

theorem pieces_append_sep (sep : α) (s t : List α) :
    pieces sep (s ++ sep :: t) = pieces sep s ++ pieces sep t := by
  induction s with
  | nil => simp [consPiece]
  | cons c cs ih =>
    rw [List.cons_append, pieces_cons, pieces_cons, ih]
    cases hp : pieces sep cs with
    | nil => exact absurd hp (pieces_ne_nil sep cs)
    | cons p ps =>
      unfold consPiece
      by_cases hc : c = sep
      · rw [if_pos hc, if_pos hc]
        rfl
      · rw [if_neg hc, if_neg hc]
        rfl

/-- Pieces without the separator come back out of the list that they are joined to. -/
theorem pieces_joined {sep : α} {ps : List (List α)} (hne : ps ≠ []) (h : ∀ p ∈ ps, sep ∉ p) :
    pieces sep (joined sep ps) = ps := by
  induction ps with
  | nil => exact absurd rfl hne
  | cons p ps ih =>
    have hp : pieces sep p = [p] := pieces_of_not_mem (h p List.mem_cons_self)
    cases ps with
    | nil => exact hp
    | cons q qs =>
      have htail := ih (List.cons_ne_nil q qs) fun r hr => h r (List.mem_cons_of_mem p hr)
      rw [joined, pieces_append_sep, hp, htail]
      rfl

omit [DecidableEq α] in
theorem joined_append {sep : α} {ps qs : List (List α)} (hps : ps ≠ []) (hqs : qs ≠ []) :
    joined sep (ps ++ qs) = joined sep ps ++ sep :: joined sep qs := by
  induction ps with
  | nil => exact absurd rfl hps
  | cons p ps ih =>
    cases ps with
    | nil =>
      cases qs with
      | nil => exact absurd rfl hqs
      | cons q qs => rfl
    | cons r rs =>
      have htail := ih (List.cons_ne_nil r rs)
      rw [List.cons_append, List.cons_append, joined, ← List.cons_append, htail, joined,
        List.append_assoc, List.cons_append]

omit [DecidableEq α] in
theorem joined_front (sep : α) (ps qs : List (List α)) :
    joined sep ps <+: joined sep (ps ++ qs) := by
  by_cases hps : ps = []
  · rw [hps]
    exact List.nil_prefix
  · by_cases hqs : qs = []
    · simp only [hqs, List.append_nil, List.prefix_rfl]
    · rw [joined_append hps hqs]
      exact List.prefix_append _ _

end Pieces

namespace Path

/-! ## 2. Idle pieces -/

/-- A piece that is no component of a path that goes on before it. -/
def Idle (p : List Char) : Prop := p = [] ∨ p = ['.']

instance (p : List Char) : Decidable (Idle p) := inferInstanceAs (Decidable (_ ∨ _))

theorem dropIdle_cons_cons (absolute : Bool) (p q : List Char) (rest : List (List Char)) :
    dropIdle absolute (p :: q :: rest) =
      if Idle p then dropIdle absolute (q :: rest) else p :: q :: rest := rfl

/-- Only idle pieces are dropped, and only from the front. -/
theorem dropIdle_spec (absolute : Bool) (ps : List (List Char)) :
    ∃ idle, ps = idle ++ dropIdle absolute ps ∧ ∀ p ∈ idle, Idle p := by
  induction ps with
  | nil => exact ⟨[], rfl, by simp⟩
  | cons p ps ih =>
    cases ps with
    | nil =>
      unfold dropIdle
      by_cases h : p = [] ∨ (p = ['.'] ∧ absolute)
      · rw [if_pos h]
        refine ⟨[p], rfl, ?_⟩
        intro q hq
        rw [List.mem_singleton] at hq
        rw [hq]
        exact h.imp_right And.left
      · rw [if_neg h]
        exact ⟨[], rfl, by simp⟩
    | cons q rest =>
      rw [dropIdle_cons_cons]
      by_cases h : Idle p
      · rw [if_pos h]
        obtain ⟨idle, heq, hidle⟩ := ih
        refine ⟨p :: idle, ?_, List.forall_mem_cons.2 ⟨h, hidle⟩⟩
        rw [List.cons_append, ← heq]
      · rw [if_neg h]
        exact ⟨[], rfl, by simp⟩

theorem mem_of_mem_dropIdle {absolute : Bool} {ps : List (List Char)} {p : List Char}
    (h : p ∈ dropIdle absolute ps) : p ∈ ps := by
  obtain ⟨idle, heq, -⟩ := dropIdle_spec absolute ps
  rw [heq]
  exact List.mem_append_right idle h

/-- The text behind the root. -/
def body (p : Path) : List Char := if p.isAbsolute then p.text.toList.drop 1 else p.text.toList

theorem reversedPieces_eq (p : Path) :
    p.reversedPieces = dropIdle p.isAbsolute (pieces '/' p.body).reverse := rfl

theorem text_eq_body (p : Path) :
    p.text.toList = if p.isAbsolute then '/' :: p.body else p.body := by
  unfold body
  cases h : p.isAbsolute with
  | false => rfl
  | true =>
    unfold isAbsolute at h
    rw [if_pos rfl, if_pos rfl]
    cases ht : p.text.toList with
    | nil =>
      rw [ht] at h
      cases h
    | cons c cs =>
      rw [ht] at h
      have hc : c = '/' := by simpa using h
      rw [hc]
      rfl

theorem segments_eq_body (p : Path) :
    p.segments = ((pieces '/' p.body).filter (· ≠ [])).map String.ofList := by
  unfold segments
  rw [text_eq_body]
  cases p.isAbsolute with
  | false => rfl
  | true =>
    rw [if_pos rfl, pieces_cons]
    unfold consPiece
    rw [if_pos rfl, List.filter_cons_of_neg (by simp)]

/-! ## 3. Plain names -/

end Path

theorem toList_ne_nil_iff {s : String} : s.toList ≠ [] ↔ s ≠ "" := by
  rw [ne_eq, String.toList_eq_nil_iff]

theorem toList_eq_iff {s t : String} : s.toList = t.toList ↔ s = t := String.toList_inj

/-- A plain name is one piece that is not idle and does not lead upwards. -/
theorem isPlainFileName_iff {s : String} : isPlainFileName s = true ↔
    s ≠ "" ∧ s ≠ "." ∧ s ≠ ".." ∧ '/' ∉ s.toList := by
  have hdot : s.toList = ['.'] ↔ s = "." := @toList_eq_iff s "."
  have hup : s.toList = ['.', '.'] ↔ s = ".." := @toList_eq_iff s ".."
  unfold isPlainFileName Path.fileName?
  rw [beq_iff_eq, Path.reversedPieces_eq]
  constructor
  · intro h
    split at h
    · cases h
    · rename_i last rest hlast
      split at h
      · cases h
      · rename_i hnot
        rw [not_or] at hnot
        have hs : last = s.toList := by
          rw [← Option.some.inj h, String.toList_ofList]
        rw [hs] at hlast hnot
        have hmem : s.toList ∈ pieces '/' (Path.mk s).body := by
          apply List.mem_reverse.1
          apply Path.mem_of_mem_dropIdle
          rw [hlast]
          exact List.mem_cons_self
        have hslash : '/' ∉ s.toList := not_mem_of_mem_pieces hmem
        have hempty : s ≠ "" := by
          intro he
          rw [he] at hlast
          simp [Path.body, Path.isAbsolute, Path.dropIdle] at hlast
        exact ⟨hempty, fun hd => hnot.1 (hdot.2 hd), fun hd => hnot.2 (hup.2 hd), hslash⟩
  · rintro ⟨hempty, hd, hu, hslash⟩
    have habs : (Path.mk s).isAbsolute = false := by
      unfold Path.isAbsolute
      rw [beq_eq_false_iff_ne]
      intro hhead
      exact hslash (List.mem_of_mem_head? hhead)
    have hbody : (Path.mk s).body = s.toList := by
      unfold Path.body
      rw [habs]
      rfl
    have hne : s.toList ≠ [] := toList_ne_nil_iff.2 hempty
    rw [hbody, pieces_of_not_mem hslash, habs]
    simp [Path.dropIdle, hempty, hdot, hup, hd, hu]

/-! ## 4. Joining a plain name -/

namespace Path

variable {p : Path} {name : String}

/-- A path and a plain name meet at one separator, given by the path or put between them. -/
theorem text_join (hp : p.text ≠ "") (hn : isPlainFileName name = true) :
    ∃ front, (p.join name).text.toList = front ++ '/' :: name.toList ∧
      (p.text.toList = front ++ ['/'] ∨ (p.text.toList = front ∧ front ≠ [])) := by
  obtain ⟨-, -, -, hslash⟩ := isPlainFileName_iff.1 hn
  have hhead : ¬ (name.toList.head? == some '/') = true := by
    rw [beq_iff_eq]
    intro hhead
    exact hslash (List.mem_of_mem_head? hhead)
  unfold join
  rw [if_neg hhead]
  by_cases hend : p.endsInSlash = true
  · rw [if_pos (.inr hend)]
    unfold endsInSlash at hend
    rw [beq_iff_eq] at hend
    obtain ⟨front, hfront⟩ := List.getLast?_eq_some_iff.1 hend
    refine ⟨front, ?_, .inl hfront⟩
    rw [String.toList_append, hfront, List.append_assoc]
    rfl
  · rw [if_neg (not_or.2 ⟨hp, hend⟩)]
    refine ⟨p.text.toList, ?_, .inr ⟨rfl, toList_ne_nil_iff.2 hp⟩⟩
    rw [String.toList_append, String.toList_append, List.append_assoc]
    rfl

theorem isAbsolute_join (hp : p.text ≠ "") (hn : isPlainFileName name = true) :
    (p.join name).isAbsolute = p.isAbsolute := by
  obtain ⟨front, hjoin, hfront⟩ := text_join hp hn
  unfold isAbsolute
  rw [hjoin]
  cases front with
  | nil =>
    rcases hfront with h | ⟨-, h⟩
    · rw [h]
      rfl
    · exact absurd rfl h
  | cons c cs =>
    rcases hfront with h | ⟨h, -⟩
    · rw [h]
      rfl
    · rw [h]
      rfl

theorem endsInSlash_join (hp : p.text ≠ "") (hn : isPlainFileName name = true) :
    (p.join name).endsInSlash = false := by
  obtain ⟨hne, -, -, hslash⟩ := isPlainFileName_iff.1 hn
  obtain ⟨front, hjoin, -⟩ := text_join hp hn
  unfold endsInSlash
  rw [hjoin, beq_eq_false_iff_ne]
  intro hlast
  obtain ⟨rest, hrest⟩ := List.getLast?_eq_some_iff.1 hlast
  cases hname : name.toList.reverse with
  | nil => exact toList_ne_nil_iff.2 hne (List.reverse_eq_nil_iff.1 hname)
  | cons c cs =>
    rw [List.reverse_eq_cons_iff] at hname
    rw [hname, ← List.cons_append, ← List.append_assoc] at hrest
    have hc : c = '/' := (List.append_singleton_inj.1 hrest).2
    apply hslash
    rw [hname, hc]
    exact List.mem_append_right _ List.mem_cons_self

theorem segments_join (hp : p.text ≠ "") (hn : isPlainFileName name = true) :
    (p.join name).segments = p.segments ++ [name] := by
  obtain ⟨hne, -, -, hslash⟩ := isPlainFileName_iff.1 hn
  obtain ⟨front, hjoin, hfront⟩ := text_join hp hn
  have hsegments : p.segments = ((pieces '/' front).filter (· ≠ [])).map String.ofList := by
    unfold segments
    rcases hfront with h | ⟨h, -⟩
    · rw [h, pieces_append_sep, List.filter_append]
      simp
    · rw [h]
  rw [hsegments]
  unfold segments
  rw [hjoin, pieces_append_sep, pieces_of_not_mem hslash, List.filter_append, List.map_append]
  simp [hne]

theorem body_join (hp : p.text ≠ "") (hn : isPlainFileName name = true) :
    (p.isAbsolute = true ∧ p.body = [] ∧ (p.join name).body = name.toList) ∨
      ∃ front, (p.join name).body = front ++ '/' :: name.toList ∧
        (p.body = front ++ ['/'] ∨ p.body = front) := by
  have habs := isAbsolute_join hp hn
  obtain ⟨front, hjoin, hfront⟩ := text_join hp hn
  unfold body
  rw [habs, hjoin]
  cases ha : p.isAbsolute with
  | false =>
    refine .inr ⟨front, rfl, ?_⟩
    exact hfront.imp id And.left
  | true =>
    cases front with
    | nil =>
      rcases hfront with h | ⟨-, h⟩
      · rw [h]
        exact .inl ⟨rfl, rfl, rfl⟩
      · exact absurd rfl h
    | cons c cs =>
      refine .inr ⟨cs, rfl, ?_⟩
      rcases hfront with h | ⟨h, -⟩
      · rw [h]
        exact .inl rfl
      · rw [h]
        exact .inr rfl

/-- The path with this text behind the root, or behind nothing. -/
def ofBody (absolute : Bool) (b : List Char) : Path :=
  ⟨String.ofList (if absolute then '/' :: b else b)⟩

theorem ofBody_body (p : Path) : ofBody p.isAbsolute p.body = p := by
  unfold ofBody
  rw [← text_eq_body, String.ofList_toList]

theorem segments_ofBody (absolute : Bool) (b : List Char) :
    (ofBody absolute b).segments = ((pieces '/' b).filter (· ≠ [])).map String.ofList := by
  unfold segments ofBody
  rw [String.toList_ofList]
  cases absolute with
  | false => rfl
  | true =>
    rw [if_pos rfl, pieces_cons]
    unfold consPiece
    rw [if_pos rfl, List.filter_cons_of_neg (by simp)]

theorem parent?_of_reversedPieces {last : List Char} {rest : List (List Char)}
    (h : p.reversedPieces = last :: rest) : p.parent? =
      some (ofBody p.isAbsolute (joined '/' (dropIdle p.isAbsolute rest).reverse)) := by
  unfold parent?
  rw [h]
  rfl

/-- The parent of a file in a directory is the directory, without idle pieces at its end. -/
theorem parent?_join (hp : p.text ≠ "") (hn : isPlainFileName name = true) :
    ∃ q, (p.join name).parent? = some q ∧ q.text.toList <+: p.text.toList ∧
      ∃ dots, p.segments = q.segments ++ dots ∧ ∀ s ∈ dots, s = "." := by
  obtain ⟨hne, hdot, -, hslash⟩ := isPlainFileName_iff.1 hn
  have hname : ¬ Idle name.toList := by
    rintro (h | h)
    · exact toList_ne_nil_iff.2 hne h
    · exact hdot (toList_eq_iff.1 h)
  have habs := isAbsolute_join hp hn
  rcases body_join hp hn with ⟨ha, hbody, hjoin⟩ | ⟨front, hjoin, hfront⟩
  · -- a name at the root
    have hreversed : (p.join name).reversedPieces = [name.toList] := by
      rw [reversedPieces_eq, hjoin, pieces_of_not_mem hslash, List.reverse_singleton]
      unfold dropIdle
      exact if_neg fun h => hname (h.imp id And.left)
    refine ⟨p, ?_, List.prefix_rfl, [], (List.append_nil _).symm, by simp⟩
    rw [parent?_of_reversedPieces hreversed, habs]
    have hself := ofBody_body p
    rw [hbody] at hself
    exact congrArg some hself
  · have hreversed : (p.join name).reversedPieces = name.toList :: (pieces '/' front).reverse := by
      rw [reversedPieces_eq, hjoin, pieces_append_sep, pieces_of_not_mem hslash,
        List.reverse_append]
      show dropIdle _ (name.toList :: (pieces '/' front).reverse) = _
      cases hr : (pieces '/' front).reverse with
      | nil => exact absurd (List.reverse_eq_nil_iff.1 hr) (pieces_ne_nil '/' front)
      | cons q qs => rw [dropIdle_cons_cons, if_neg hname]
    rw [parent?_of_reversedPieces hreversed, habs]
    obtain ⟨idle, hsplit, hidle⟩ := dropIdle_spec p.isAbsolute (pieces '/' front).reverse
    generalize hkeep : (dropIdle p.isAbsolute (pieces '/' front).reverse).reverse = keep
    have hpieces : pieces '/' front = keep ++ idle.reverse := by
      rw [← hkeep, ← List.reverse_append, ← hsplit, List.reverse_reverse]
    have hclean : ∀ q ∈ keep, '/' ∉ q := by
      intro q hq
      apply not_mem_of_mem_pieces
      rw [hpieces]
      exact List.mem_append_left _ hq
    refine ⟨_, rfl, ?_, (idle.reverse.filter (· ≠ [])).map String.ofList, ?_, ?_⟩
    · -- the text
      have hstart : joined '/' keep <+: front := by
        have h := joined_front '/' keep idle.reverse
        rw [← hpieces, joined_pieces] at h
        exact h
      have hbody : joined '/' keep <+: p.body := by
        rcases hfront with h | h
        · rw [h]
          exact hstart.trans (List.prefix_append front ['/'])
        · rw [h]
          exact hstart
      unfold ofBody
      rw [String.toList_ofList, text_eq_body]
      cases p.isAbsolute with
      | false => exact hbody
      | true => exact (List.prefix_cons_inj '/').2 hbody
    · -- the segments
      have hsegments : p.segments = ((pieces '/' front).filter (· ≠ [])).map String.ofList := by
        rw [segments_eq_body]
        rcases hfront with h | h
        · rw [h, pieces_append_sep, List.filter_append]
          simp
        · rw [h]
      rw [hsegments, hpieces, List.filter_append, List.map_append, segments_ofBody]
      congr 2
      cases keep with
      | nil => rfl
      | cons q qs => rw [pieces_joined (List.cons_ne_nil q qs) hclean]
    · intro s hs
      obtain ⟨q, hq, rfl⟩ := List.mem_map.1 hs
      obtain ⟨hq, hne⟩ := List.mem_filter.1 hq
      rcases hidle q (List.mem_reverse.1 hq) with h | h
      · simp [h] at hne
      · rw [h]

end Path

end RasterScript
