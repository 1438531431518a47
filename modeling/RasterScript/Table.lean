/-!
# Table — finite maps kept in key order

The image stores and the file store are finite maps.  A `Table` keeps its entries strictly
increasing by key, so it has one representation: two tables that answer every lookup alike are
equal (`Table.ext_find?`), whatever the order of the insertions that made them.

One equation per operation through the view `find?` is all that the rest of the library uses:
`find?_empty`, `find?_insert`, `find?_erase`.
-/

namespace RasterScript

/-! ## 1. Entry lists -/

namespace EntryList

variable {κ α : Type} [Ord κ] [DecidableEq κ]

def find? (k : κ) : List (κ × α) → Option α
  | [] => none
  | (k', v) :: rest => if k = k' then some v else find? k rest

def insert (k : κ) (v : α) : List (κ × α) → List (κ × α)
  | [] => [(k, v)]
  | (k', v') :: rest =>
    match compare k k' with
    | .lt => (k, v) :: (k', v') :: rest
    | .eq => (k, v) :: rest
    | .gt => (k', v') :: insert k v rest

/-- Strictly increasing keys. -/
abbrev Sorted (entries : List (κ × α)) : Prop :=
  entries.Pairwise fun a b => compare a.1 b.1 = .lt

omit [DecidableEq κ] in
theorem key_of_mem_insert {k : κ} {v : α} {a : κ × α} {entries : List (κ × α)}
    (h : a ∈ insert k v entries) : a = (k, v) ∨ a ∈ entries := by
  induction entries with
  | nil => simpa [insert] using h
  | cons e rest ih =>
    simp only [insert] at h
    split at h
    · simpa using h
    · rcases List.mem_cons.1 h with h | h
      · exact .inl h
      · exact .inr (List.mem_cons_of_mem _ h)
    · rcases List.mem_cons.1 h with h | h
      · exact .inr (h ▸ List.mem_cons_self)
      · exact (ih h).imp_right (List.mem_cons_of_mem _)

variable [Std.TransOrd κ] [Std.LawfulEqOrd κ]

omit [DecidableEq κ] in
theorem sorted_insert {k : κ} {v : α} {entries : List (κ × α)} (h : Sorted entries) :
    Sorted (insert k v entries) := by
  induction entries with
  | nil => simp [insert, Sorted]
  | cons e rest ih =>
    obtain ⟨hhead, htail⟩ := List.pairwise_cons.1 h
    simp only [insert]
    split
    · rename_i hlt
      refine List.pairwise_cons.2 ⟨fun a ha => ?_, h⟩
      rcases List.mem_cons.1 ha with rfl | ha
      · exact hlt
      · exact Std.TransCmp.lt_trans hlt (hhead a ha)
    · rename_i heq
      have hk : k = e.1 := Std.LawfulEqCmp.eq_of_compare heq
      exact List.pairwise_cons.2 ⟨fun a ha => hk ▸ hhead a ha, htail⟩
    · rename_i hgt
      refine List.pairwise_cons.2 ⟨fun a ha => ?_, ih htail⟩
      rcases key_of_mem_insert ha with rfl | ha
      · exact Std.OrientedCmp.lt_of_gt hgt
      · exact hhead a ha

omit [Std.TransOrd κ] in
theorem find?_insert (k k' : κ) (v : α) (entries : List (κ × α)) :
    find? k' (insert k v entries) = if k' = k then some v else find? k' entries := by
  induction entries with
  | nil => simp [insert, find?]
  | cons e rest ih =>
    obtain ⟨key, val⟩ := e
    simp only [insert]
    split
    · simp [find?]
    · rename_i heq
      obtain rfl : k = key := Std.LawfulEqCmp.eq_of_compare heq
      by_cases h : k' = k <;> simp [find?, h]
    · rename_i hgt
      have hne : k ≠ key := by
        rintro rfl
        simp [Std.ReflCmp.compare_self] at hgt
      by_cases h : k' = key
      · simp [find?, h, Ne.symm hne]
      · simp [find?, h, ih]

omit [Ord κ] [Std.TransOrd κ] [Std.LawfulEqOrd κ] in
theorem find?_filter_ne (k k' : κ) (entries : List (κ × α)) :
    find? k' (entries.filter fun e => decide (e.1 ≠ k)) =
      if k' = k then none else find? k' entries := by
  induction entries with
  | nil => simp [find?]
  | cons e rest ih =>
    obtain ⟨key, val⟩ := e
    by_cases hk : key = k
    · subst hk
      by_cases h : k' = key <;> simp_all [find?]
    · by_cases h : k' = key
      · subst h; simp [find?, hk]
      · simp_all [find?]

omit [Ord κ] [Std.TransOrd κ] [Std.LawfulEqOrd κ] in
theorem mem_of_find? {k : κ} {v : α} {entries : List (κ × α)} (h : find? k entries = some v) :
    (k, v) ∈ entries := by
  induction entries with
  | nil => simp [find?] at h
  | cons e rest ih =>
    obtain ⟨key, val⟩ := e
    by_cases hk : k = key
    · subst hk; simp_all [find?]
    · exact List.mem_cons_of_mem _ (ih (by simpa [find?, hk] using h))

/-- Two sorted entry lists that answer every lookup alike are the same list. -/
theorem ext_find? {s t : List (κ × α)} (hs : Sorted s) (ht : Sorted t)
    (h : ∀ k, find? k s = find? k t) : s = t := by
  induction s generalizing t with
  | nil =>
    cases t with
    | nil => rfl
    | cons e t => have := h e.1; simp [find?] at this
  | cons a s ih =>
    cases t with
    | nil => have := h a.1; simp [find?] at this
    | cons b t =>
      obtain ⟨ha, hs'⟩ := List.pairwise_cons.1 hs
      obtain ⟨hb, ht'⟩ := List.pairwise_cons.1 ht
      have hab : a = b := by
        have h₁ : a ∈ b :: t := mem_of_find? ((h a.1).symm.trans (by simp [find?]))
        have h₂ : b ∈ a :: s := mem_of_find? ((h b.1).trans (by simp [find?]))
        rcases List.mem_cons.1 h₁ with h₁ | h₁
        · exact h₁
        · rcases List.mem_cons.1 h₂ with h₂ | h₂
          · exact h₂.symm
          · have := Std.TransCmp.lt_trans (ha _ h₂) (hb _ h₁)
            simp [Std.ReflCmp.compare_self] at this
      subst hab
      congr 1
      refine ih hs' ht' fun k => ?_
      by_cases hk : k = a.1
      · subst hk
        have none_of : ∀ l : List (κ × α), (∀ e ∈ l, compare a.1 e.1 = .lt) →
            find? a.1 l = none := by
          intro l hl
          cases hf : find? a.1 l with
          | none => rfl
          | some v =>
            have := hl _ (mem_of_find? hf)
            simp [Std.ReflCmp.compare_self] at this
        rw [none_of s ha, none_of t hb]
      · simpa [find?, hk] using h k

end EntryList

/-! ## 2. Tables -/

/-- A finite map from `κ` to `α`. -/
structure Table (κ α : Type) [Ord κ] where
  entries : List (κ × α)
  sorted : EntryList.Sorted entries

namespace Table

variable {κ α : Type} [Ord κ]

def empty : Table κ α := ⟨[], List.Pairwise.nil⟩

instance : EmptyCollection (Table κ α) := ⟨empty⟩
instance : Inhabited (Table κ α) := ⟨empty⟩

def keys (t : Table κ α) : List κ := t.entries.map (·.1)

variable [DecidableEq κ]

def find? (t : Table κ α) (k : κ) : Option α := EntryList.find? k t.entries

def contains (t : Table κ α) (k : κ) : Bool := (t.find? k).isSome

def erase (t : Table κ α) (k : κ) : Table κ α where
  entries := t.entries.filter fun e => decide (e.1 ≠ k)
  sorted := t.sorted.filter _

@[simp] theorem find?_empty (k : κ) : (∅ : Table κ α).find? k = none := rfl

@[simp] theorem find?_erase (t : Table κ α) (k k' : κ) :
    (t.erase k).find? k' = if k' = k then none else t.find? k' :=
  EntryList.find?_filter_ne k k' t.entries

variable [Std.TransOrd κ] [Std.LawfulEqOrd κ]

def insert (t : Table κ α) (k : κ) (v : α) : Table κ α where
  entries := EntryList.insert k v t.entries
  sorted := EntryList.sorted_insert t.sorted

@[simp] theorem find?_insert (t : Table κ α) (k k' : κ) (v : α) :
    (t.insert k v).find? k' = if k' = k then some v else t.find? k' :=
  EntryList.find?_insert k k' v t.entries

/-- A table is what it answers. -/
theorem ext_find? {s t : Table κ α} (h : ∀ k, s.find? k = t.find? k) : s = t := by
  cases s with
  | mk se hs =>
    cases t with
    | mk te ht =>
      obtain rfl : se = te := EntryList.ext_find? hs ht h
      rfl

end Table

end RasterScript
