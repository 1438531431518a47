import Mathlib.Data.List.TakeWhile
import RasterScript.Proofs.Text.Layout

/-!
# Padding — a text with blanks around it

Trimming takes away the blanks at both ends and nothing else: what it leaves is the text that the
characters are with blanks around it, as long as that text has no blanks of its own.
-/

namespace RasterScript

/-- The characters `s` are those of `w` with blanks before and after, or without. -/
def Padded (w s : List Char) : Prop :=
  ∃ front behind, IsGap front ∧ IsGap behind ∧ s = front ++ w ++ behind

theorem padded_self (w : List Char) : Padded w w :=
  ⟨[], [], fun _ hc => absurd hc List.not_mem_nil, fun _ hc => absurd hc List.not_mem_nil,
    (List.append_nil w).symm⟩

theorem isGap_reverse {gap : List Char} (h : IsGap gap) : IsGap gap.reverse :=
  fun c hc => h c (List.mem_reverse.1 hc)

theorem dropWhile_blank_append {gap w s : List Char} (hgap : IsGap gap) (hne : w ≠ [])
    (hw : ∀ c ∈ w, isBlank c = false) : (gap ++ (w ++ s)).dropWhile isBlank = w ++ s := by
  rw [List.dropWhile_append_of_pos hgap]
  cases w with
  | nil => exact absurd rfl hne
  | cons c w =>
    have hc : isBlank c = false := hw c List.mem_cons_self
    rw [List.cons_append, List.dropWhile_cons_of_neg (by rw [hc]; exact Bool.false_ne_true)]

theorem trim_gap {gap : List Char} (h : IsGap gap) : trim gap = [] := by
  have hnil : gap.dropWhile isBlank = [] := List.dropWhile_eq_nil_iff.2 h
  unfold trim
  rw [hnil]
  rfl

theorem trim_of_padded {w s : List Char} (hw : ∀ c ∈ w, isBlank c = false) (h : Padded w s) :
    trim s = w := by
  obtain ⟨front, behind, hfront, hbehind, rfl⟩ := h
  by_cases hne : w = []
  · subst hne
    apply trim_gap
    rw [List.append_nil]
    exact fun c hc => (List.mem_append.1 hc).elim (hfront c) (hbehind c)
  · have hreversed : w.reverse ≠ [] := fun he => hne (List.reverse_eq_nil_iff.1 he)
    have hblank : ∀ c ∈ w.reverse, isBlank c = false := fun c hc => hw c (List.mem_reverse.1 hc)
    -- the same step from either end
    have hend := @dropWhile_blank_append _ _ [] (isGap_reverse hbehind) hreversed hblank
    rw [List.append_nil] at hend
    unfold trim
    rw [List.append_assoc, dropWhile_blank_append hfront hne hw, List.reverse_append, hend,
      List.reverse_reverse]

theorem padded_trim (s : List Char) : Padded (trim s) s := by
  have htake : ∀ t : List Char, IsGap (t.takeWhile isBlank) :=
    fun t c hc => List.mem_takeWhile_imp hc
  refine ⟨s.takeWhile isBlank, ((s.dropWhile isBlank).reverse.takeWhile isBlank).reverse,
    htake s, isGap_reverse (htake _), ?_⟩
  unfold trim
  rw [List.append_assoc, ← List.reverse_append, List.takeWhile_append_dropWhile,
    List.reverse_reverse, List.takeWhile_append_dropWhile]

theorem padded_iff_trim {w s : List Char} (hw : ∀ c ∈ w, isBlank c = false) :
    Padded w s ↔ trim s = w :=
  ⟨trim_of_padded hw, fun h => h ▸ padded_trim s⟩

/-- A character that is no blank is in the text if it is in the padded text. -/
theorem Padded.mem_iff {w s : List Char} (h : Padded w s) {c : Char} (hc : isBlank c = false) :
    c ∈ s ↔ c ∈ w := by
  obtain ⟨front, behind, hfront, hbehind, rfl⟩ := h
  have hnot : ∀ gap, IsGap gap → c ∉ gap := by
    intro gap hgap hmem
    rw [hgap c hmem] at hc
    cases hc
  simp only [List.mem_append, hnot front hfront, hnot behind hbehind, false_or, or_false]

end RasterScript
