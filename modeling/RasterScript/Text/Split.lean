/-!
# Split — cutting a list at every separator

`pieces sep s` are the stretches of `s` between the occurrences of `sep`, empty ones included, so
there is always one more piece than separators.  `joined` puts the pieces together again:
`joined_pieces`.
-/

namespace RasterScript

variable {α : Type} [DecidableEq α]

/-- Puts `c` in front of the first piece, or, if it is the separator, begins a new one. -/
def consPiece (sep c : α) (ps : List (List α)) : List (List α) :=
  if c = sep then [] :: ps
  else match ps with
    | [] => [[c]]
    | p :: ps => (c :: p) :: ps

/-- The stretches of a list between the occurrences of `sep`. -/
def pieces (sep : α) (s : List α) : List (List α) :=
  s.foldr (consPiece sep) [[]]

@[simp] theorem pieces_nil (sep : α) : pieces sep [] = [[]] := rfl

@[simp] theorem pieces_cons (sep c : α) (s : List α) :
    pieces sep (c :: s) = consPiece sep c (pieces sep s) := rfl

omit [DecidableEq α] in
/-- Lists laid end to end with `sep` between them. -/
def joined (sep : α) : List (List α) → List α
  | [] => []
  | [p] => p
  | p :: q :: ps => p ++ sep :: joined sep (q :: ps)

theorem pieces_ne_nil (sep : α) (s : List α) : pieces sep s ≠ [] := by
  cases s with
  | nil => simp
  | cons c cs =>
    simp only [pieces_cons, consPiece]
    split
    · simp
    · split <;> simp

/-- Joining the pieces of a list gives the list. -/
theorem joined_pieces (sep : α) (s : List α) : joined sep (pieces sep s) = s := by
  induction s with
  | nil => rfl
  | cons c cs ih =>
    cases hp : pieces sep cs with
    | nil => exact absurd hp (pieces_ne_nil sep cs)
    | cons p ps =>
      rw [hp] at ih
      by_cases hc : c = sep
      · subst hc
        simp only [pieces_cons, consPiece, ↓reduceIte, hp]
        rw [joined, List.nil_append, ih]
      · simp only [pieces_cons, consPiece, hc, ↓reduceIte, hp]
        cases ps with
        | nil => simpa [joined] using ih
        | cons q qs => simpa [joined] using ih

/-- No piece holds the separator. -/
theorem not_mem_of_mem_pieces {sep : α} {s p : List α} (h : p ∈ pieces sep s) : sep ∉ p := by
  induction s generalizing p with
  | nil => obtain rfl : p = [] := by simpa using h
           simp
  | cons c cs ih =>
    simp only [pieces_cons, consPiece] at h
    split at h
    · rcases List.mem_cons.1 h with rfl | h
      · simp
      · exact ih h
    · rename_i hc
      cases hp : pieces sep cs with
      | nil => exact absurd hp (pieces_ne_nil sep cs)
      | cons q qs =>
        rw [hp] at h ih
        rcases List.mem_cons.1 h with rfl | h
        · simp only [List.mem_cons, not_or]
          exact ⟨Ne.symm hc, ih List.mem_cons_self⟩
        · exact ih (List.mem_cons_of_mem _ h)

end RasterScript
