/-!
# Words — blank characters, trimming and splitting a line

A script line is read as a list of words: maximal runs of characters that are not blank.  Blank
means the Unicode property `White_Space`, so a no-break space separates words and a zero-width
space does not.

`words` is a fold over the characters, so every fact about it is one induction; the `String` forms
`wordsOf` and `trimmed` are what the rest of the library calls.
-/

namespace RasterScript

/-! ## 1. Blank characters -/

/-- The characters with the Unicode property `White_Space`. -/
def isBlank (c : Char) : Bool :=
  let n := c.toNat
  (9 ≤ n && n ≤ 13) || n == 0x20 || n == 0x85 || n == 0xA0 || n == 0x1680 ||
    (0x2000 ≤ n && n ≤ 0x200A) || n == 0x2028 || n == 0x2029 || n == 0x202F || n == 0x205F ||
    n == 0x3000

/-! ## 2. Trimming -/

/-- `s` without the blanks at its two ends. -/
def trim (s : List Char) : List Char :=
  ((s.dropWhile isBlank).reverse.dropWhile isBlank).reverse

/-- The text `s` without the blanks at its two ends. -/
def trimmed (s : String) : String :=
  String.ofList (trim s.toList)

/-! ## 3. Words -/

/-- Puts the word `w` in front of `ws`, unless `w` is empty. -/
def consWord (w : List Char) (ws : List (List Char)) : List (List Char) :=
  if w = [] then ws else w :: ws

/-- Puts `c` in front of a leading word and the words after it; a blank ends the leading word. -/
def consChar (c : Char) (ws : List Char × List (List Char)) : List Char × List (List Char) :=
  if isBlank c then ([], consWord ws.1 ws.2) else (c :: ws.1, ws.2)

/-- The word that `s` begins with (empty if `s` begins with a blank), and the words after it. -/
def leadingWord (s : List Char) : List Char × List (List Char) :=
  s.foldr consChar ([], [])

@[simp] theorem leadingWord_nil : leadingWord [] = ([], []) := rfl

@[simp] theorem leadingWord_cons (c : Char) (s : List Char) :
    leadingWord (c :: s) = consChar c (leadingWord s) := List.foldr_cons ..

/-- The maximal runs of characters of `s` that are not blank. -/
def words (s : List Char) : List (List Char) :=
  let (w, ws) := leadingWord s
  consWord w ws

def wordsOf (line : String) : List String :=
  (words line.toList).map String.ofList

@[simp] theorem words_nil : words [] = [] := rfl

theorem words_cons_of_blank {c : Char} (h : isBlank c = true) (s : List Char) :
    words (c :: s) = words s := by
  simp [words, consChar, h, consWord]

theorem mem_consWord {w v : List Char} {ws : List (List Char)} :
    v ∈ consWord w ws ↔ (v = w ∧ w ≠ []) ∨ v ∈ ws := by
  by_cases h : w = [] <;> simp [consWord, h]

/-- The leading word holds no blank, and the words after it are not empty and hold none. -/
theorem leadingWord_blank_free (s : List Char) :
    (∀ c ∈ (leadingWord s).1, isBlank c = false) ∧
      ∀ w ∈ (leadingWord s).2, w ≠ [] ∧ ∀ c ∈ w, isBlank c = false := by
  induction s with
  | nil => simp
  | cons c s ih =>
    obtain ⟨ih₁, ih₂⟩ := ih
    cases hc : isBlank c with
    | true =>
      refine ⟨by simp [consChar, hc], fun w hw => ?_⟩
      simp only [leadingWord_cons, consChar, hc, ↓reduceIte, mem_consWord] at hw
      rcases hw with ⟨rfl, hne⟩ | hw
      · exact ⟨hne, ih₁⟩
      · exact ih₂ w hw
    | false =>
      simp only [leadingWord_cons, consChar, hc, Bool.false_eq_true, ↓reduceIte]
      exact ⟨by simpa [hc] using ih₁, ih₂⟩

/-- Words are not empty and hold no blank. -/
theorem mem_words {s w : List Char} (h : w ∈ words s) : w ≠ [] ∧ ∀ c ∈ w, isBlank c = false := by
  obtain ⟨h₁, h₂⟩ := leadingWord_blank_free s
  rcases mem_consWord.1 h with ⟨rfl, hne⟩ | hw
  · exact ⟨hne, h₁⟩
  · exact h₂ w hw

end RasterScript
