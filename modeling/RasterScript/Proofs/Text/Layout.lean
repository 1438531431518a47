import RasterScript.Text.Words

/-!
# Layout — words on a line

Between two words of a line there is at least one blank; before the first and after the last there
may be any.  However a line is laid out, its words are read back: `wordsOf_of_laidOut`.
-/

namespace RasterScript

def IsGap (s : List Char) : Prop := ∀ c ∈ s, isBlank c = true

instance (s : List Char) : Decidable (IsGap s) := List.decidableBAll (isBlank · = true) s

theorem isBlank_of_isDigit {c : Char} (h : c.isDigit = true) : isBlank c = false := by
  have hdigit : 48 ≤ c.toNat ∧ c.toNat ≤ 57 := by
    simpa [Char.isDigit, UInt32.le_iff_toNat_le] using h
  simp [isBlank]
  omega

/-- The characters `s` are the words `ts` in order, with blanks between any two of them. -/
inductive LaidOut : List String → List Char → Prop
  | nil {gap : List Char} (hgap : IsGap gap) : LaidOut [] gap
  | cons {gap rest : List Char} {t : String} {ts : List String} (hgap : IsGap gap)
      (hrest : ∀ c ∈ rest.head?, isBlank c = true) (h : LaidOut ts rest) :
      LaidOut (t :: ts) (gap ++ t.toList ++ rest)

theorem words_append_of_gap {gap : List Char} (h : IsGap gap) (s : List Char) :
    words (gap ++ s) = words s := by
  induction gap with
  | nil => rfl
  | cons c gap ih =>
    have hc : isBlank c = true := h c List.mem_cons_self
    rw [List.cons_append, words_cons_of_blank hc]
    exact ih fun d hd => h d (List.mem_cons_of_mem c hd)

theorem leadingWord_append {w : List Char} (h : ∀ c ∈ w, isBlank c = false) (s : List Char) :
    leadingWord (w ++ s) = (w ++ (leadingWord s).1, (leadingWord s).2) := by
  induction w with
  | nil => rfl
  | cons c w ih =>
    have hc : isBlank c = false := h c List.mem_cons_self
    rw [List.cons_append, leadingWord_cons, ih fun d hd => h d (List.mem_cons_of_mem c hd)]
    unfold consChar
    rw [hc, if_neg Bool.false_ne_true]
    rfl

theorem leadingWord_of_blank {s : List Char} (h : ∀ c ∈ s.head?, isBlank c = true) :
    leadingWord s = ([], words s) := by
  cases s with
  | nil => rfl
  | cons c s =>
    have hc : isBlank c = true := h c rfl
    rw [leadingWord_cons, words_cons_of_blank hc]
    unfold consChar
    rw [hc, if_pos rfl]
    rfl

/-- A word before a blank, or at the end, is read as it is. -/
theorem words_append {w s : List Char} (hne : w ≠ []) (hw : ∀ c ∈ w, isBlank c = false)
    (hs : ∀ c ∈ s.head?, isBlank c = true) : words (w ++ s) = w :: words s := by
  have hlead : leadingWord (w ++ s) = (w, words s) := by
    rw [leadingWord_append hw, leadingWord_of_blank hs, List.append_nil]
  show consWord (leadingWord (w ++ s)).1 (leadingWord (w ++ s)).2 = w :: words s
  rw [hlead]
  exact if_neg hne

theorem wordsOf_of_laidOut {ts : List String} {line : String} (h : LaidOut ts line.toList)
    (hts : ∀ t ∈ ts, t ≠ "" ∧ ∀ c ∈ t.toList, isBlank c = false) : wordsOf line = ts := by
  unfold wordsOf
  generalize line.toList = s at h
  induction h with
  | nil hgap =>
    have hwords := words_append_of_gap hgap []
    rw [List.append_nil] at hwords
    rw [hwords]
    rfl
  | @cons gap rest t ts hgap hrest _ ih =>
    obtain ⟨⟨hne, hblank⟩, hts⟩ := List.forall_mem_cons.1 hts
    have hchars : t.toList ≠ [] := fun he => hne (String.toList_eq_nil_iff.1 he)
    rw [List.append_assoc, words_append_of_gap hgap, words_append hchars hblank hrest,
      List.map_cons, ih hts, String.ofList_toList]

end RasterScript
