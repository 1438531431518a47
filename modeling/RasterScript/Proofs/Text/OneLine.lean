import RasterScript.Failure
import RasterScript.Text.Name

/-!
# OneLine — texts without a line break

Words, names and numbers hold no line break, and neither does a text shown with its invisible
characters spelled out.
-/

namespace RasterScript

def OneLine (s : String) : Prop := '\n' ∉ s.toList

instance (s : String) : Decidable (OneLine s) := inferInstanceAs (Decidable (¬ _))

@[simp] theorem oneLine_append {s t : String} : OneLine (s ++ t) ↔ OneLine s ∧ OneLine t := by
  unfold OneLine
  rw [String.toList_append, List.mem_append, not_or]

@[simp] theorem oneLine_toString {s : String} : OneLine (toString s) ↔ OneLine s := Iff.rfl

/-- For a text that is written out, this takes less time than `decide`. -/
theorem oneLine_ofList {cs : List Char} (h : cs.all (· ≠ '\n') = true) :
    OneLine (String.ofList cs) := by
  unfold OneLine
  rw [String.toList_ofList]
  intro hm
  have hne := List.all_eq_true.1 h _ hm
  exact of_decide_eq_true hne rfl

/-- A line break is a blank. -/
theorem oneLine_of_blank_free {s : String} (h : ∀ c ∈ s.toList, isBlank c = false) :
    OneLine s := by
  intro hm
  have hblank := h '\n' hm
  revert hblank
  decide

theorem oneLine_of_isName {s : String} (h : IsName s) : OneLine s := oneLine_of_blank_free h.2

theorem oneLine_of_isLayerName {s : String} (h : IsLayerName s) : OneLine s :=
  oneLine_of_isName h.1

/-! ## 1. Numbers -/

theorem digitChar_ne_newline {n : Nat} (h : n < 16) : Nat.digitChar n ≠ '\n' := by
  decide +revert

theorem newline_not_mem_toDigits {b : Nat} (hpos : 0 < b) (hb : b ≤ 16) (n : Nat) :
    '\n' ∉ Nat.toDigits b n := by
  have hcore : ∀ fuel n (ds : List Char), '\n' ∉ ds → '\n' ∉ Nat.toDigitsCore b fuel n ds := by
    intro fuel
    induction fuel with
    | zero =>
      intro n ds h
      exact h
    | succ fuel ih =>
      intro n ds h
      have hdigit : n % b < 16 := Nat.lt_of_lt_of_le (Nat.mod_lt n hpos) hb
      have hcons : '\n' ∉ Nat.digitChar (n % b) :: ds :=
        List.not_mem_cons_of_ne_of_not_mem (digitChar_ne_newline hdigit).symm h
      unfold Nat.toDigitsCore
      dsimp only
      split
      · exact hcons
      · exact ih _ _ hcons
  exact hcore _ _ _ List.not_mem_nil

@[simp] theorem oneLine_repr (n : Nat) : OneLine n.repr := by
  unfold OneLine
  rw [Nat.toList_repr]
  exact newline_not_mem_toDigits (by decide) (by decide) n

@[simp] theorem oneLine_repr_int (v : Int) : OneLine v.repr := by
  cases v with
  | ofNat n => exact oneLine_repr n
  | negSucc n =>
    have hsign : OneLine "-" := by decide
    exact oneLine_append.2 ⟨hsign, oneLine_repr (n + 1)⟩

theorem oneLine_toString_nat (n : Nat) : OneLine (toString n) := oneLine_repr n

theorem oneLine_toString_int (v : Int) : OneLine (toString v) := oneLine_repr_int v

@[simp] theorem oneLine_sizeText (w h : Nat) : OneLine (sizeText w h) := by
  unfold sizeText
  simp +decide

/-! ## 2. Texts with their invisible characters spelled out -/

theorem newline_not_mem_quoteChar (atStart : Bool) (c : Char) : '\n' ∉ quoteChar atStart c := by
  have hescape : '\n' ∉ codePointEscape c := by
    have hdigits := newline_not_mem_toDigits (by decide) (Nat.le_refl 16) c.toNat
    unfold codePointEscape
    simp [hdigits]
  unfold quoteChar
  split
  · decide
  split
  · decide
  split
  · decide
  split
  · decide
  · rename_i hnewline
    split
    · rename_i h
      rcases h with rfl | rfl | rfl <;> decide
    split
    · exact hescape
    split
    · exact hescape
    · simpa using Ne.symm hnewline

@[simp] theorem oneLine_quoted (s : String) : OneLine (quoted s) := by
  unfold OneLine quoted
  rw [String.toList_ofList]
  cases s.toList with
  | nil => decide
  | cons c cs =>
    unfold quoteChars
    rw [List.mem_append, List.mem_flatMap]
    rintro (hm | ⟨d, -, hm⟩)
    · exact newline_not_mem_quoteChar true c hm
    · exact newline_not_mem_quoteChar false d hm

end RasterScript
