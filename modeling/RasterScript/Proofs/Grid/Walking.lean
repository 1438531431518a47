import RasterScript.Grid.Walk

/-!
# Walking — where a walk ends

A walk ends where its steps lead together, if none of the places on the way lies off the picture.
Otherwise it ends in the void, whatever steps come after, or it stops in the middle of a step: a
step that was still begun on the picture may lead so far that a coordinate is no word
(`Position.Overflows`).  `Node.walk_ends` says which of the three it is.

What a single step can do is said by `Node.step_cases`, and what a walk can do by `Node.walk_cases`.
-/

namespace RasterScript

/-- Column `x` and row `y`, whole numbers of any size, are those of a place. -/
def Extent.Covers (e : Extent) (x y : Int) : Prop :=
  (0 ≤ x ∧ x < e.width) ∧ (0 ≤ y ∧ y < e.height)

instance (e : Extent) (x y : Int) : Decidable (e.Covers x y) :=
  inferInstanceAs (Decidable (_ ∧ _))

variable {e : Extent}

/-! ## 1. Steps in whole numbers -/

namespace Step

/-- How many columns to the right some steps lead together. -/
def columns : List Step → Int
  | [] => 0
  | s :: rest => s.offset.1.toInt + columns rest

/-- How many rows down some steps lead together. -/
def rows : List Step → Int
  | [] => 0
  | s :: rest => s.offset.2.toInt + rows rest

@[simp] theorem columns_nil : columns [] = 0 := rfl

@[simp] theorem rows_nil : rows [] = 0 := rfl

@[simp] theorem columns_cons (s : Step) (rest : List Step) :
    columns (s :: rest) = s.offset.1.toInt + columns rest := rfl

@[simp] theorem rows_cons (s : Step) (rest : List Step) :
    rows (s :: rest) = s.offset.2.toInt + rows rest := rfl

end Step

theorem Position.covers (p : Position e) : e.Covers p.x p.y := by
  have hx := p.x_lt
  have hy := p.y_lt
  unfold Extent.Covers
  omega

theorem Extent.Covers.exists_position {x y : Int} (h : e.Covers x y) :
    ∃ p : Position e, (p.x : Int) = x ∧ (p.y : Int) = y := by
  obtain ⟨⟨hx, hx'⟩, ⟨hy, hy'⟩⟩ := h
  exact ⟨⟨x.toNat, y.toNat, by omega, by omega⟩, Int.toNat_of_nonneg hx, Int.toNat_of_nonneg hy⟩

namespace Node

variable {p q : Position e} {s : Step} {steps rest : List Step}

/-- The place that a step leads to is the one that whole numbers lead to. -/
theorem step_eq_some : step (some p) s = .ok (some q) ↔
    (q.x : Int) = p.x + s.offset.1.toInt ∧ (q.y : Int) = p.y + s.offset.2.toInt := by
  show p.step s.offset.1 s.offset.2 = .ok (some q) ↔ _
  rw [Position.step_eq, ← Position.offset?_eq_some]
  split
  · simp
  · rename_i hlarge
    simp only [reduceCtorEq, false_iff, Position.offset?_eq_some]
    rintro ⟨hx, hy⟩
    rw [← hx, ← hy] at hlarge
    -- the sides of a picture are far from the limits of words
    have hqx := q.x_le
    have hqy := q.y_le
    unfold maxPixels at hqx hqy
    apply hlarge
    unfold IsWord
    rw [Int64.toInt_minValue, Int64.toInt_maxValue]
    omega

theorem exists_step (h : e.Covers (p.x + s.offset.1.toInt) (p.y + s.offset.2.toInt)) :
    ∃ q, step (some p) s = .ok (some q) := by
  obtain ⟨q, hx, hy⟩ := h.exists_position
  exact ⟨q, step_eq_some.2 ⟨hx, hy⟩⟩

/-- A step leads to a place, or off the picture into the void, or so far that it stops. -/
theorem step_cases (p : Position e) (s : Step) :
    (e.Covers (p.x + s.offset.1.toInt) (p.y + s.offset.2.toInt) ∧
      ∃ q, step (some p) s = .ok (some q)) ∨
    (¬ e.Covers (p.x + s.offset.1.toInt) (p.y + s.offset.2.toInt) ∧
      (IsWord (p.x + s.offset.1.toInt) ∧ IsWord (p.y + s.offset.2.toInt)) ∧
      step (some p) s = .ok none) ∨
    (¬ e.Covers (p.x + s.offset.1.toInt) (p.y + s.offset.2.toInt) ∧
      ¬ (IsWord (p.x + s.offset.1.toInt) ∧ IsWord (p.y + s.offset.2.toInt)) ∧
      step (some p) s = .error .sum) := by
  by_cases hcovers : e.Covers (p.x + s.offset.1.toInt) (p.y + s.offset.2.toInt)
  · exact .inl ⟨hcovers, exists_step hcovers⟩
  · have hnone : p.offset? s.offset.1.toInt s.offset.2.toInt = none := by
      refine Option.eq_none_iff_forall_ne_some.2 fun q hq => hcovers ?_
      obtain ⟨hx, hy⟩ := Position.offset?_eq_some.1 hq
      rw [← hx, ← hy]
      exact q.covers
    have hstep : step (some p) s = _ := p.step_eq s.offset.1 s.offset.2
    rw [hnone] at hstep
    split at hstep
    · rename_i hwords
      exact .inr (.inl ⟨hcovers, hwords, hstep⟩)
    · rename_i hlarge
      exact .inr (.inr ⟨hcovers, hlarge, hstep⟩)

/-- The step stops the walk just if a coordinate is no word. -/
theorem step_eq_error : step (some p) s = .error .sum ↔
    ¬ (IsWord (p.x + s.offset.1.toInt) ∧ IsWord (p.y + s.offset.2.toInt)) := by
  show p.step s.offset.1 s.offset.2 = .error .sum ↔ _
  rw [Position.step_eq]
  split
  · rename_i hwords
    simp [hwords]
  · rename_i hlarge
    simp only [hlarge, not_false_eq_true]

theorem walk_of_step {n m : Node e} (h : n.step s = .ok m) : n.walk (s :: rest) = m.walk rest := by
  rw [walk_cons, h]
  rfl

theorem walk_append (n : Node e) (first later : List Step) :
    n.walk (first ++ later) = n.walk first >>= fun m => m.walk later :=
  List.foldlM_append

end Node

/-! ## 2. Walks that stay on the picture -/

/-- None of the places that a walk leads over, the last one included, lies off the picture. -/
def Position.Stays (p : Position e) (steps : List Step) : Prop :=
  ∀ n ≤ steps.length,
    e.Covers (p.x + Step.columns (steps.take n)) (p.y + Step.rows (steps.take n))

instance (p : Position e) (steps : List Step) : Decidable (p.Stays steps) :=
  inferInstanceAs (Decidable (∀ n ≤ steps.length, _))

/-- The walk stays on the picture up to a step that leads to a coordinate which is no word. -/
def Position.Overflows (p : Position e) (steps : List Step) : Prop :=
  ∃ n < steps.length, p.Stays (steps.take n) ∧
    ¬ (IsWord (p.x + Step.columns (steps.take (n + 1))) ∧
      IsWord (p.y + Step.rows (steps.take (n + 1))))

instance (p : Position e) (steps : List Step) : Decidable (p.Overflows steps) :=
  inferInstanceAs (Decidable (∃ n < steps.length, _))

namespace Node

variable {p q : Position e} {s : Step} {steps rest : List Step}

theorem stays_nil : p.Stays [] := by
  intro n _
  simpa using p.covers

/-- A walk stays on the picture if its first step does and the rest does from there. -/
theorem stays_cons : p.Stays (s :: rest) ↔ ∃ q, step (some p) s = .ok (some q) ∧ q.Stays rest := by
  constructor
  · intro h
    have hfirst := h 1 (by simp)
    simp only [List.take_succ_cons, List.take_zero, Step.columns_cons, Step.rows_cons,
      Step.columns_nil, Step.rows_nil, Int.add_zero] at hfirst
    obtain ⟨q, hq⟩ := exists_step hfirst
    obtain ⟨hx, hy⟩ := step_eq_some.1 hq
    -- what the rest leads over begins with the second place of the walk
    refine ⟨q, hq, fun n hn => ?_⟩
    have hnext := h (n + 1) (by simpa using hn)
    simp only [List.take_succ_cons, Step.columns_cons, Step.rows_cons] at hnext
    rw [hx, hy, Int.add_assoc, Int.add_assoc]
    exact hnext
  · rintro ⟨q, hq, h⟩ n hn
    obtain ⟨hx, hy⟩ := step_eq_some.1 hq
    cases n with
    | zero => simpa using p.covers
    | succ n =>
      have hnext := h n (by simpa using hn)
      rw [hx, hy, Int.add_assoc, Int.add_assoc] at hnext
      simpa using hnext

/-- A walk stops in its first step, or in the rest from where that leads to. -/
theorem overflows_cons : p.Overflows (s :: rest) ↔
    step (some p) s = .error .sum ∨ ∃ q, step (some p) s = .ok (some q) ∧ q.Overflows rest := by
  constructor
  · rintro ⟨n, hn, hstays, hlarge⟩
    cases n with
    | zero =>
      refine .inl (step_eq_error.2 ?_)
      simpa using hlarge
    | succ n =>
      rw [List.take_succ_cons] at hstays hlarge
      obtain ⟨q, hq, hrest⟩ := stays_cons.1 hstays
      obtain ⟨hx, hy⟩ := step_eq_some.1 hq
      refine .inr ⟨q, hq, n, by simpa using hn, hrest, ?_⟩
      rw [hx, hy, Int.add_assoc, Int.add_assoc]
      exact hlarge
  · rintro (hstop | ⟨q, hq, n, hn, hstays, hlarge⟩)
    · refine ⟨0, by simp, stays_nil, ?_⟩
      simpa using step_eq_error.1 hstop
    · obtain ⟨hx, hy⟩ := step_eq_some.1 hq
      refine ⟨n + 1, by simpa using hn, ?_, ?_⟩
      · rw [List.take_succ_cons]
        exact stays_cons.2 ⟨q, hq, hstays⟩
      · rw [hx, hy, Int.add_assoc, Int.add_assoc] at hlarge
        rw [List.take_succ_cons]
        exact hlarge

/-- Where a walk ends, by what it does on the way. -/
theorem walk_cases (p : Position e) (steps : List Step) :
    (p.Stays steps ∧ ¬ p.Overflows steps ∧ ∃ q, walk (some p) steps = .ok (some q) ∧
      (q.x : Int) = p.x + Step.columns steps ∧ (q.y : Int) = p.y + Step.rows steps) ∨
    (¬ p.Stays steps ∧ ¬ p.Overflows steps ∧ walk (some p) steps = .ok none) ∨
    (¬ p.Stays steps ∧ p.Overflows steps ∧ walk (some p) steps = .error .sum) := by
  -- the rest of a walk begins where its first step leads, so the start is left open
  induction steps generalizing p with
  | nil =>
    refine .inl ⟨stays_nil, ?_, p, rfl, by simp, by simp⟩
    rintro ⟨n, hn, -⟩
    exact absurd hn (Nat.not_lt_zero n)
  | cons s rest ih =>
    rw [stays_cons, overflows_cons]
    rcases step_cases p s with ⟨-, q, hq⟩ | ⟨-, -, hnone⟩ | ⟨-, -, hstop⟩
    · obtain ⟨hx, hy⟩ := step_eq_some.1 hq
      rw [walk_of_step hq, hq, Step.columns_cons, Step.rows_cons, ← Int.add_assoc, ← Int.add_assoc,
        ← hx, ← hy]
      simpa using ih q
    · rw [walk_of_step hnone, hnone]
      exact .inr (.inl ⟨by simp, by simp, walk_none rest⟩)
    · rw [walk_cons, hstop]
      exact .inr (.inr ⟨by simp, .inl rfl, rfl⟩)

theorem walk_of_not_stays (hleaves : ¬ p.Stays steps) (hwords : ¬ p.Overflows steps) :
    walk (some p) steps = .ok none := by
  rcases walk_cases p steps with ⟨hstays, -⟩ | ⟨-, -, hend⟩ | ⟨-, hoverflows, -⟩
  · exact absurd hstays hleaves
  · exact hend
  · exact absurd hoverflows hwords

theorem walk_eq_error : walk (some p) steps = .error .sum ↔ p.Overflows steps := by
  rcases walk_cases p steps with ⟨-, hnot, q, hend, -⟩ | ⟨-, hnot, hend⟩ | ⟨-, hoverflows, hend⟩
  · rw [hend]
    simp [hnot]
  · rw [hend]
    simp [hnot]
  · rw [hend]
    simp [hoverflows]

/-! ## 3. Links -/

/-- The nodes reached by links alone, which never stop. -/
theorem exists_walk_links (n : Node e) (path : List Direction) :
    ∃ m, n.walk (path.map .link) = .ok m := by
  induction path generalizing n with
  | nil => exact ⟨n, rfl⟩
  | cons d path ih =>
    obtain ⟨m, hm⟩ := ih (n.neighbor d)
    refine ⟨m, ?_⟩
    rw [List.map_cons, walk_of_step (step_link n d)]
    exact hm

theorem neighbor_eq_some {d : Direction} : neighbor (some p) d = some q ↔
    (q.x : Int) = p.x + d.offset.1.toInt ∧ (q.y : Int) = p.y + d.offset.2.toInt :=
  Position.offset?_eq_some

theorem neighbor_opposite {d : Direction} (h : neighbor (some p) d = some q) :
    neighbor (some q) d.opposite = some p := by
  obtain ⟨hx, hy⟩ := neighbor_eq_some.1 h
  obtain ⟨hcolumns, hrows⟩ := d.toInt_offset_opposite
  rw [neighbor_eq_some, hx, hy, hcolumns, hrows]
  exact ⟨(Int.add_neg_cancel_right _ _).symm, (Int.add_neg_cancel_right _ _).symm⟩

/-! ## 4. Walks -/

/-- A walk that stays on the picture ends where its steps lead together.  One that leaves it ends in
the void, which no step leaves and which reads as transparent, unless it stops: it stops just if a
step from a place on the picture leads to a coordinate that is no word.  However far a step jumps, a
place that it leads to is the one that whole numbers lead to; steps along links never stop, and a
link to a place leads back from there. -/
theorem walk_ends (g : Grid) (p : Position g.extent) (steps : List Step) :
    (p.Stays steps → ∃ q, walk (some p) steps = .ok (some q) ∧
      (q.x : Int) = p.x + Step.columns steps ∧ (q.y : Int) = p.y + Step.rows steps) ∧
    (¬ p.Stays steps → ¬ p.Overflows steps → walk (some p) steps = .ok none ∧
      ∀ later, walk (some p) (steps ++ later) = .ok none ∧
        (walk (some p) (steps ++ later)).map (color g) = .ok .transparent) ∧
    (walk (some p) steps = .error .sum ↔ p.Overflows steps) ∧
    (∀ dx dy q, step (some p) (.jump dx dy) = .ok (some q) ↔
      (q.x : Int) = p.x + dx.toInt ∧ (q.y : Int) = p.y + dy.toInt) ∧
    (∀ d, step (some p) (.link d) = .ok (neighbor (some p) d)) ∧
    ∀ d, neighbor (some p) d ≠ none → (neighbor (some p) d).neighbor d.opposite = some p := by
  refine ⟨fun hstays => ?_, fun hleaves hwords => ?_, walk_eq_error, fun dx dy q => step_eq_some,
    fun d => step_link _ d, fun d hd => ?_⟩
  · rcases walk_cases p steps with ⟨-, -, hend⟩ | ⟨hleaves, -⟩ | ⟨hleaves, -⟩
    · exact hend
    · exact absurd hstays hleaves
    · exact absurd hstays hleaves
  · have hnone := walk_of_not_stays hleaves hwords
    refine ⟨hnone, fun later => ?_⟩
    have hlater : walk (some p) (steps ++ later) = .ok none := by
      rw [walk_append, hnone]
      exact walk_none later
    rw [hlater]
    exact ⟨rfl, rfl⟩
  · obtain ⟨q, hq⟩ := Option.ne_none_iff_exists'.1 hd
    rw [hq]
    exact neighbor_opposite hq

/-- Three columns and two rows, all white. -/
def whiteBoard : Grid := .fill ⟨3, 2, by decide, by decide, by decide⟩ .white

/-- From the middle of the lower row one walk ends in the upper right corner, one jumps as far to
the left as words reach, one leaves at the bottom and would come back, and one stops. -/
theorem walk_ends_whiteBoard :
    let p : Position whiteBoard.extent := ⟨1, 1, by decide, by decide⟩
    (p.Stays [.link .left, .jump 2 (-1)] ∧ ∃ q,
      walk (some p) [.link .left, .jump 2 (-1)] = .ok (some q) ∧ (q.x : Int) = 2 ∧
        (q.y : Int) = 0) ∧
    (¬ p.Stays [.jump Int64.minValue 0] ∧ walk (some p) [.jump Int64.minValue 0] = .ok none) ∧
    (¬ p.Stays [.link .below] ∧ walk (some p) [.link .below, .link .above] = .ok none) ∧
    (p.Overflows [.link .left, .jump 0 Int64.maxValue] ∧
      walk (some p) [.link .left, .jump 0 Int64.maxValue] = .error .sum) ∧
    neighbor (some p) .right ≠ none ∧ (neighbor (some p) .right).neighbor .left = some p := by
  intro p
  have hstays : p.Stays [.link .left, .jump 2 (-1)] := by decide
  have hfar : ¬ p.Stays [.jump Int64.minValue 0] := by decide
  have hleaves : ¬ p.Stays [.link .below] := by decide
  have hstops : p.Overflows [.link .left, .jump 0 Int64.maxValue] := by decide
  have hright : neighbor (some p) .right ≠ none := by decide
  exact ⟨⟨hstays, (walk_ends whiteBoard p _).1 hstays⟩,
    ⟨hfar, ((walk_ends whiteBoard p _).2.1 hfar (by decide)).1⟩,
    ⟨hleaves, (((walk_ends whiteBoard p _).2.1 hleaves (by decide)).2 [.link .above]).1⟩,
    ⟨hstops, (walk_ends whiteBoard p _).2.2.1.2 hstops⟩,
    hright, (walk_ends whiteBoard p []).2.2.2.2.2 .right hright⟩

/-- A jump to the right stops the walk, although it leads off the picture and so into the void. -/
theorem exists_walk_that_stops : ∃ (g : Grid) (p : Position g.extent) (steps : List Step),
    ¬ p.Stays steps ∧ walk (some p) steps = .error .sum :=
  ⟨whiteBoard, ⟨1, 1, by decide, by decide⟩, [.jump Int64.maxValue 0], by decide,
    walk_eq_error.2 (by decide)⟩

end Node

end RasterScript
