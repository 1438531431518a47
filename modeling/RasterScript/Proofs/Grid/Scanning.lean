import Mathlib.Data.List.Count
import Mathlib.Data.List.Nodup
import Mathlib.Logic.Function.Iterate
import RasterScript.Grid.Rows
import RasterScript.Grid.Walk

/-!
# Scanning — all places of a picture in their order

`Extent.rowMajor` writes down the columns and rows of an extent as two loops do, the one over the
rows outside.  A scan is that list, of which a part is done: what lies ahead of it loses its first
place with each call (`Scan.next?_cases`), and a call with nothing ahead changes nothing.  So `n`
calls yield the first `n` places of the list and leave the others ahead (`Scan.take_eq`).

The list is written without arithmetic and a scan divides; a place stands in the list at the index
that it has in the pixels (`Extent.getElem?_rowMajor`), so the two agree because `Position.index`
and `Position.ofIndex` are inverse to each other.
-/

namespace RasterScript

variable {e : Extent}

/-! ## 1. Places row by row -/

namespace Position

/-- Column and row. -/
def coordinates (p : Position e) : Nat × Nat := (p.x, p.y)

theorem coordinates_injective :
    Function.Injective (coordinates : Position e → Nat × Nat) := by
  intro p q h
  exact ext (congrArg Prod.fst h) (congrArg Prod.snd h)

end Position

namespace Extent

/-- The columns and rows of all places, from the top row to the bottom row and in each row from left
to right. -/
def rowMajor (e : Extent) : List (Nat × Nat) :=
  (List.range e.height).flatMap fun y => (List.range e.width).map fun x => (x, y)

theorem rowMajor_eq_flatten (e : Extent) : e.rowMajor =
    ((List.range e.height).map fun y => (List.range e.width).map fun x => (x, y)).flatten :=
  List.flatMap_def

theorem length_of_mem_rowLists {row : List (Nat × Nat)}
    (h : row ∈ (List.range e.height).map fun y => (List.range e.width).map fun x => (x, y)) :
    row.length = e.width := by
  obtain ⟨y, -, rfl⟩ := List.mem_map.1 h
  rw [List.length_map, List.length_range]

@[simp] theorem length_rowMajor (e : Extent) : e.rowMajor.length = e.area := by
  rw [rowMajor_eq_flatten, length_flatten_of_length _ fun _ => length_of_mem_rowLists,
    List.length_map, List.length_range, area]

/-- A place stands in the list at its index. -/
theorem getElem?_rowMajor (p : Position e) : e.rowMajor[p.index]? = some p.coordinates := by
  rw [rowMajor_eq_flatten, Position.index,
    getElem?_flatten_of_length _ (fun _ => length_of_mem_rowLists) p.x_lt]
  simp [p.x_lt, p.y_lt, Position.coordinates]

theorem getElem?_rowMajor_ofIndex {i : Nat} (h : i < e.area) :
    e.rowMajor[i]? = some (Position.ofIndex e i h).coordinates := by
  have hplace := getElem?_rowMajor (Position.ofIndex e i h)
  rwa [Position.index_ofIndex] at hplace

theorem nodup_rowMajor (e : Extent) : e.rowMajor.Nodup := by
  refine List.nodup_flatMap.2 ⟨fun y _ => ?_, ?_⟩
  · exact List.nodup_range.map fun x x' h => congrArg Prod.fst h
  · -- places of different rows differ in the row
    refine List.nodup_range.imp fun {y y'} hne => ?_
    rintro _ h h'
    obtain ⟨x, -, rfl⟩ := List.mem_map.1 h
    obtain ⟨x', -, hx'⟩ := List.mem_map.1 h'
    exact hne (congrArg Prod.snd hx').symm

theorem getElem?_rowMajor_eq_some {p : Position e} {k : Nat} :
    e.rowMajor[k]? = some p.coordinates ↔ k = p.index := by
  constructor
  · intro hk
    have hin := (List.getElem?_eq_some_iff.1 hk).1
    exact (List.getElem?_inj hin e.nodup_rowMajor).1 (hk.trans (getElem?_rowMajor p).symm)
  · rintro rfl
    exact getElem?_rowMajor p

end Extent

namespace Scan

/-! ## 2. One call -/

/-- The places that a scan has not come to yet. -/
def ahead (s : Scan e) : List (Nat × Nat) := e.rowMajor.drop s.seen

theorem ahead_start : (start e).ahead = e.rowMajor := rfl

theorem remaining_eq_length (s : Scan e) : s.remaining = s.ahead.length := by
  rw [remaining, ahead, List.length_drop, Extent.length_rowMajor]

/-- The scan after a call, whether or not the call yielded a place. -/
def advance (s : Scan e) : Scan e :=
  match s.next? with
  | some (_, s') => s'
  | none => s

/-- A call yields the place that comes first ahead and leaves the others ahead; if there is none it
changes nothing. -/
theorem next?_cases (s : Scan e) :
    (∃ p, s.next? = some (p, s.advance) ∧ s.ahead = p.coordinates :: s.advance.ahead) ∨
      s.next? = none ∧ s.advance = s ∧ s.ahead = [] := by
  by_cases h : s.seen < e.area
  · have hnext : s.next? = some (.ofIndex e s.seen h, ⟨s.seen + 1⟩) := dif_pos h
    have hadvance : s.advance = ⟨s.seen + 1⟩ := by rw [advance, hnext]
    obtain ⟨hin, hplace⟩ := List.getElem?_eq_some_iff.1 (Extent.getElem?_rowMajor_ofIndex h)
    refine .inl ⟨.ofIndex e s.seen h, hadvance ▸ hnext, ?_⟩
    rw [hadvance, ahead, ahead, List.drop_eq_getElem_cons hin, hplace]
  · have hnext : s.next? = none := dif_neg h
    refine .inr ⟨hnext, by rw [advance, hnext], List.drop_eq_nil_of_le ?_⟩
    rw [Extent.length_rowMajor]
    exact Nat.le_of_not_lt h

theorem ahead_advance (s : Scan e) : s.advance.ahead = s.ahead.tail := by
  rcases s.next?_cases with ⟨p, -, hahead⟩ | ⟨-, hadvance, hahead⟩
  · rw [hahead, List.tail_cons]
  · rw [hadvance, hahead, List.tail_nil]

/-! ## 3. Any number of calls -/

/-- The scan after `n` calls. -/
def after (s : Scan e) (n : Nat) : Scan e := advance^[n] s

theorem after_succ (s : Scan e) (n : Nat) : s.after (n + 1) = (s.after n).advance :=
  Function.iterate_succ_apply' ..

theorem ahead_after (s : Scan e) (n : Nat) : (s.after n).ahead = s.ahead.drop n := by
  induction n with
  | zero => rfl
  | succ n ih => rw [after_succ, ahead_advance, ih, List.tail_drop]

theorem remaining_after (s : Scan e) (n : Nat) : (s.after n).remaining = s.remaining - n := by
  rw [remaining_eq_length, ahead_after, List.length_drop, ← remaining_eq_length]

/-- A scan that yields nothing yields nothing in all calls to come. -/
theorem after_of_done {s : Scan e} (h : s.next? = none) (n : Nat) : s.after n = s := by
  have hfixed : s.advance = s := by rw [advance, h]
  exact Function.iterate_fixed hfixed n

/-- Places taken together are the first ones ahead, and the scan is where that many calls bring
it. -/
theorem take_eq (s : Scan e) (n : Nat) :
    (s.take n).1.map Position.coordinates = s.ahead.take n ∧ (s.take n).2 = s.after n := by
  induction n generalizing s with
  | zero => exact ⟨rfl, rfl⟩
  | succ n ih =>
    rcases s.next?_cases with ⟨p, hnext, hahead⟩ | ⟨hnext, -, hahead⟩
    · obtain ⟨hplaces, hrest⟩ := ih s.advance
      have htake : s.take (n + 1) = (p :: (s.advance.take n).1, (s.advance.take n).2) := by
        rw [take, hnext]
      rw [htake, hahead]
      exact ⟨congrArg (p.coordinates :: ·) hplaces, hrest⟩
    · have htake : s.take (n + 1) = ([], s) := by rw [take, hnext]
      rw [htake, hahead]
      exact ⟨rfl, (after_of_done hnext _).symm⟩

theorem length_take (s : Scan e) (n : Nat) : (s.take n).1.length = min n s.remaining := by
  have hplaces := congrArg List.length (s.take_eq n).1
  rwa [List.length_map, List.length_take, ← remaining_eq_length] at hplaces

/-! ## 4. A whole scan -/

/-- The call after `n` calls yields the place with `n` places before it. -/
theorem next?_after (n : Nat) : ((start e).after n).next? =
    if h : n < e.area then some (.ofIndex e n h, (start e).after (n + 1)) else none := by
  have hahead := ahead_after (start e) n
  rw [ahead_start] at hahead
  rcases ((start e).after n).next?_cases with ⟨p, hnext, hplaces⟩ | ⟨hnext, -, hplaces⟩
  · have hplace : e.rowMajor[n]? = some p.coordinates := by
      rw [← List.head?_drop, ← hahead, hplaces, List.head?_cons]
    have hn : n < e.area := by
      rw [← Extent.length_rowMajor]
      exact (List.getElem?_eq_some_iff.1 hplace).1
    rw [Extent.getElem?_rowMajor_ofIndex hn] at hplace
    obtain rfl := Position.coordinates_injective (Option.some.inj hplace)
    rw [dif_pos hn, hnext, after_succ]
  · rw [hplaces] at hahead
    have hn : e.area ≤ n := by
      rw [← Extent.length_rowMajor]
      exact List.drop_eq_nil_iff.1 hahead.symm
    rw [dif_neg (Nat.not_lt.2 hn), hnext]

/-- A scan that is taken to its end comes to each place once. -/
theorem count_take {n : Nat} (h : e.area ≤ n) (p : Position e) :
    ((start e).take n).1.count p = 1 := by
  have hplaces := ((start e).take_eq n).1
  rw [ahead_start, List.take_of_length_le (by rwa [Extent.length_rowMajor])] at hplaces
  rw [← List.count_map_of_injective _ _ Position.coordinates_injective, hplaces]
  exact List.count_eq_one_of_mem e.nodup_rowMajor
    (List.mem_of_getElem? (Extent.getElem?_rowMajor p))

end Scan

end RasterScript
