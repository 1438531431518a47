import Mathlib.Tactic.Linarith
import RasterScript.Filter.Kernel

/-!
# Tables — which weight an offset means

A kernel of radius `r` has `(2r + 1)²` weights, and the weight of an offset within the radius is the
entry that stands there, `Kernel.value?`.  Radii and offsets are machine words, so there are limits:

* the size of a table is a word for radii below `2 ^ 31` only, and any other radius stops the
  program instead of being accepted or refused;
* the least signed word has no absolute value, so asking for its weight stops the program too,
  unless it is a row and the column is beyond the radius already.

`Kernel.accepted_and_found` says exactly that.
-/

namespace RasterScript

/-- The least signed word, which has no opposite. -/
abbrev leastOffset : Int64 := Int64.minValue

/-! ## 1. Sizes of tables -/

/-- How many offsets there are within a radius. -/
def tableArea (radius : UInt64) : Nat := (2 * radius.toNat + 1) ^ 2

theorem tableArea_lt {radius : UInt64} :
    tableArea radius < UInt64.size ↔ radius.toNat < 2 ^ 31 := by
  have hroot : UInt64.size = (2 ^ 32) ^ 2 := by norm_num
  unfold tableArea
  rw [hroot, Nat.pow_lt_pow_iff_left two_ne_zero]
  omega

/-- The size of a table is reckoned right, or it is no word and the reckoning stops. -/
theorem tableSize_cases (radius : UInt64) :
    (radius.toNat < 2 ^ 31 ∧ ∃ size, tableSize radius = .ok size ∧ size.toNat = tableArea radius) ∨
      (2 ^ 31 ≤ radius.toNat ∧ tableSize radius = .error .product) := by
  unfold tableSize
  rcases Checked.product_cases 2 radius with ⟨hword, double, hdouble, hvalue⟩ | ⟨hlarge, hstop⟩
  · have htwo : (2 : UInt64).toNat = 2 := rfl
    have hside : (double + 1).toNat = 2 * radius.toNat + 1 := by
      rw [htwo] at hword hvalue
      rw [UInt64.toNat_add, hvalue, show (1 : UInt64).toNat = 1 from rfl, Nat.mod_eq_of_lt]
      unfold UInt64.size at hword
      omega
    have harea : (double + 1).toNat * (double + 1).toNat = tableArea radius := by
      rw [hside, tableArea, pow_two]
    have hcases := Checked.product_cases (double + 1) (double + 1)
    rw [harea, tableArea_lt, not_lt] at hcases
    -- the double is a word, but its square may still be none
    rw [hdouble]
    exact hcases
  · refine .inr ⟨?_, ?_⟩
    · have htwo : (2 : UInt64).toNat = 2 := rfl
      rw [htwo] at hlarge
      unfold UInt64.size at hlarge
      omega
    · rw [hstop]
      rfl

namespace Kernel

/-- The table has one entry for every offset within the radius. -/
theorem size_weights (k : Kernel) : k.weights.size = tableArea k.radius := by
  have hsize := k.size_eq
  rcases tableSize_cases k.radius with ⟨-, size, hok, harea⟩ | ⟨-, hstop⟩
  · rw [hok] at hsize
    rw [← harea]
    exact (Except.ok.inj hsize).symm
  · rw [hstop] at hsize
    cases hsize

theorem radius_lt (k : Kernel) : k.radius.toNat < 2 ^ 31 := by
  have hsize := k.size_eq
  rcases tableSize_cases k.radius with ⟨hlt, -⟩ | ⟨-, hstop⟩
  · exact hlt
  · rw [hstop] at hsize
    cases hsize

/-- A table is accepted or refused by its size, unless that is no word. -/
theorem ofWeights_cases (name : String) (radius : UInt64) (weights : Array Float) :
    (radius.toNat < 2 ^ 31 ∧ weights.size = tableArea radius ∧
      ∃ k, ofWeights name radius weights = .ok (.ok k) ∧
        k.name = name ∧ k.radius = radius ∧ k.weights = weights) ∨
    (radius.toNat < 2 ^ 31 ∧ weights.size ≠ tableArea radius ∧
      ofWeights name radius weights =
        .ok (.error (.kernelSize radius.toNat (tableArea radius) weights.size))) ∨
    (2 ^ 31 ≤ radius.toNat ∧ ofWeights name radius weights = .error .product) := by
  have hcases := tableSize_cases radius
  unfold ofWeights
  split
  · rename_i o hstop
    rw [hstop] at hcases
    rcases hcases with ⟨-, _, hok, -⟩ | ⟨hlarge, herror⟩
    · cases hok
    · cases herror
      exact .inr (.inr ⟨hlarge, rfl⟩)
  · rename_i size hsize
    rw [hsize] at hcases
    rcases hcases with ⟨hlt, _, hok, harea⟩ | ⟨-, herror⟩
    · cases hok
      split
      · rename_i hfits
        exact .inl ⟨hlt, hfits.trans harea, _, rfl, rfl, rfl, rfl⟩
      · rename_i hfits
        rw [harea] at hfits ⊢
        exact .inr (.inl ⟨hlt, hfits, rfl⟩)
    · cases herror

section Acceptance

variable {name : String} {radius : UInt64} {weights : Array Float}

theorem exists_ofWeights : (∃ k, ofWeights name radius weights = .ok (.ok k) ∧
      k.name = name ∧ k.radius = radius ∧ k.weights = weights) ↔
    radius.toNat < 2 ^ 31 ∧ weights.size = tableArea radius := by
  rcases ofWeights_cases name radius weights with
    ⟨hlt, hsize, hk⟩ | ⟨-, hsize, hrefused⟩ | ⟨hlarge, hstop⟩
  · exact ⟨fun _ => ⟨hlt, hsize⟩, fun _ => hk⟩
  · rw [hrefused]
    simp [hsize]
  · rw [hstop]
    refine ⟨?_, fun h => absurd h.1 (not_lt.2 hlarge)⟩
    rintro ⟨_, ⟨⟩, -⟩

theorem ofWeights_eq_refusal : ofWeights name radius weights =
      .ok (.error (.kernelSize radius.toNat (tableArea radius) weights.size)) ↔
    radius.toNat < 2 ^ 31 ∧ weights.size ≠ tableArea radius := by
  rcases ofWeights_cases name radius weights with
    ⟨-, hsize, k, hk, -⟩ | ⟨hlt, hsize, hrefused⟩ | ⟨hlarge, hstop⟩
  · rw [hk]
    simp [hsize]
  · exact ⟨fun _ => ⟨hlt, hsize⟩, fun _ => hrefused⟩
  · rw [hstop]
    refine ⟨?_, fun h => absurd h.1 (not_lt.2 hlarge)⟩
    rintro ⟨⟩

theorem ofWeights_eq_error :
    ofWeights name radius weights = .error .product ↔ 2 ^ 31 ≤ radius.toNat := by
  rcases ofWeights_cases name radius weights with
    ⟨hlt, -, k, hk, -⟩ | ⟨hlt, -, hrefused⟩ | ⟨hlarge, hstop⟩
  · rw [hk]
    refine ⟨?_, fun h => absurd hlt (not_lt.2 h)⟩
    rintro ⟨⟩
  · rw [hrefused]
    refine ⟨?_, fun h => absurd hlt (not_lt.2 h)⟩
    rintro ⟨⟩
  · exact ⟨fun _ => hlarge, fun _ => hstop⟩

end Acceptance

/-! ## 2. Entries by offset -/

section Entries

variable {k : Kernel} {dx dy : Int}

/-- The distance is at most the radius. -/
def Within (k : Kernel) (d : Int) : Prop := d.natAbs ≤ k.radius.toNat

instance (k : Kernel) (d : Int) : Decidable (k.Within d) := Nat.decLe _ _

/-- How many entries come before the one of an offset, row by row. -/
def cell (k : Kernel) (dx dy : Int) : Int :=
  (dy + k.radius.toNat) * (2 * k.radius.toNat + 1) + (dx + k.radius.toNat)

/-- The entry in row `dy + radius` and column `dx + radius` of the table, and zero for an offset
beyond the radius. -/
def value? (k : Kernel) (dx dy : Int) : Option Float :=
  if k.Within dx ∧ k.Within dy then k.weights[(k.cell dx dy).toNat]? else some 0

theorem cell_bounds (hx : k.Within dx) (hy : k.Within dy) :
    0 ≤ k.cell dx dy ∧ k.cell dx dy < tableArea k.radius := by
  unfold Within at hx hy
  unfold cell tableArea
  push_cast
  have hrow : 0 ≤ dy + k.radius.toNat ∧ dy + k.radius.toNat ≤ 2 * k.radius.toNat := by omega
  have hcolumn : 0 ≤ dx + k.radius.toNat ∧ dx + k.radius.toNat ≤ 2 * k.radius.toNat := by omega
  constructor <;> nlinarith

/-- Within the radius the entry is one of the table. -/
theorem value?_of_within (hx : k.Within dx) (hy : k.Within dy) :
    k.value? dx dy = some (k.entry dx dy) := by
  obtain ⟨hnonneg, hlt⟩ := cell_bounds hx hy
  have hindex : (k.cell dx dy).toNat < k.weights.size := by
    rw [k.size_weights]
    omega
  unfold value?
  rw [if_pos ⟨hx, hy⟩, Array.getElem?_eq_getElem hindex]
  exact congrArg some (dif_pos hindex).symm

theorem value?_of_beyond (h : ¬ (k.Within dx ∧ k.Within dy)) : k.value? dx dy = some 0 := by
  unfold value?
  rw [if_neg h]

end Entries

/-! ## 3. Weights by words -/

section Words

variable {k : Kernel} {dx dy : Int64}

theorem toInt_reach (k : Kernel) : k.reach.toInt = k.radius.toNat := by
  have hr := k.radius_lt
  have hsigned : k.reach.toInt = Int.bmod k.radius.toNat (2 ^ 64) :=
    k.radius.toBitVec.toInt_eq_toNat_bmod
  rw [hsigned]
  exact Int.bmod_eq_of_le (by omega) (by omega)

theorem reach_lt {m d : Int64} (h : m.toInt = d.toInt.natAbs) :
    k.reach < m ↔ ¬ k.Within d.toInt := by
  unfold Within
  rw [Int64.lt_iff_toInt_lt, toInt_reach, h]
  omega

/-- Asking for the weight of an offset that has a distance finds what the offset means. -/
theorem weight_cases (k : Kernel) (dx dy : Int64) :
    ((dx = leastOffset ∨ dy = leastOffset ∧ k.Within dx.toInt) ∧
      k.weight dx dy = .error .negation) ∨
    (¬ (dx = leastOffset ∨ dy = leastOffset ∧ k.Within dx.toInt) ∧
      ∃ w, k.weight dx dy = .ok w ∧ k.value? dx.toInt dy.toInt = some w) := by
  unfold weight
  -- the row is not measured if the column is beyond the radius
  rcases Checked.magnitude_cases dx with ⟨hdx, column, hcolumn, hx⟩ | ⟨hdx, hstop⟩
  · rw [hcolumn]
    by_cases hwithinX : k.Within dx.toInt
    · rcases Checked.magnitude_cases dy with ⟨hdy, row, hrow, hy⟩ | ⟨hdy, hstop⟩
      · refine .inr ⟨by simp [hdx, hdy], ?_⟩
        by_cases hwithinY : k.Within dy.toInt
        · refine ⟨_, ?_, value?_of_within hwithinX hwithinY⟩
          simp [hrow, bind, Except.bind, reach_lt hx, reach_lt hy, hwithinX, hwithinY, pure,
            Except.pure]
        · refine ⟨0, ?_, value?_of_beyond fun h => hwithinY h.2⟩
          simp [hrow, bind, Except.bind, reach_lt hx, reach_lt hy, hwithinX, hwithinY, pure,
            Except.pure]
      · refine .inl ⟨.inr ⟨hdy, hwithinX⟩, ?_⟩
        simp [hstop, bind, Except.bind, reach_lt hx, hwithinX]
    · refine .inr ⟨by simp [hdx, hwithinX], 0, ?_, value?_of_beyond fun h => hwithinX h.1⟩
      simp [bind, Except.bind, reach_lt hx, hwithinX, pure, Except.pure]
  · rw [hstop]
    exact .inl ⟨.inl hdx, rfl⟩

theorem weight_eq_error : k.weight dx dy = .error .negation ↔
    dx = leastOffset ∨ dy = leastOffset ∧ k.Within dx.toInt := by
  rcases weight_cases k dx dy with ⟨hleast, hstop⟩ | ⟨hnot, w, hw, -⟩
  · rw [hstop]
    simp only [hleast]
  · rw [hw]
    simp only [hnot, reduceCtorEq]

theorem exists_weight (h : ¬ (dx = leastOffset ∨ dy = leastOffset ∧ k.Within dx.toInt)) :
    ∃ w, k.weight dx dy = .ok w ∧ k.value? dx.toInt dy.toInt = some w := by
  rcases weight_cases k dx dy with ⟨hleast, -⟩ | ⟨-, hw⟩
  · exact absurd hleast h
  · exact hw

end Words

/-! ## 4. What is accepted and what is found -/

/-- For a radius below `2 ^ 31` a table is accepted just if it has the size that the radius asks
for, and refused otherwise; for any other radius there is no answer.  In every kernel, the least
word stops the program as a column, and as a row of a column within the radius.  All other offsets
are given the entry of the table that they mean, or zero beyond the radius. -/
theorem accepted_and_found (name : String) (radius : UInt64) (weights : Array Float) :
    ((∃ k, ofWeights name radius weights = .ok (.ok k) ∧
        k.name = name ∧ k.radius = radius ∧ k.weights = weights) ↔
      radius.toNat < 2 ^ 31 ∧ weights.size = tableArea radius) ∧
    (ofWeights name radius weights =
        .ok (.error (.kernelSize radius.toNat (tableArea radius) weights.size)) ↔
      radius.toNat < 2 ^ 31 ∧ weights.size ≠ tableArea radius) ∧
    (ofWeights name radius weights = .error .product ↔ 2 ^ 31 ≤ radius.toNat) ∧
    ∀ (k : Kernel) (dx dy : Int64),
      (k.weight dx dy = .error .negation ↔
        dx = leastOffset ∨ dy = leastOffset ∧ k.Within dx.toInt) ∧
      (¬ (dx = leastOffset ∨ dy = leastOffset ∧ k.Within dx.toInt) →
        ∃ w, k.weight dx dy = .ok w ∧ k.value? dx.toInt dy.toInt = some w) :=
  ⟨exists_ofWeights, ofWeights_eq_refusal, ofWeights_eq_error,
    fun _ _ _ => ⟨weight_eq_error, exists_weight⟩⟩

/-- On the rim of a kernel, next to it, and with the least word as the row. -/
theorem accepted_and_found_sharpen :
    (∃ k, ofWeights "box" 1 (Array.replicate 9 1) = .ok (.ok k) ∧ k.name = "box" ∧ k.radius = 1 ∧
      k.weights = Array.replicate 9 1) ∧
    sharpen.weight (-2) 1 = .ok (-1 / 8) ∧ sharpen.weight 3 0 = .ok 0 ∧
    sharpen.weight 3 leastOffset = .ok 0 ∧ sharpen.weight 2 leastOffset = .error .negation := by
  obtain ⟨haccepted, -, -, hfound⟩ := accepted_and_found "box" 1 (Array.replicate 9 1)
  have hweight : ∀ {dx dy : Int64} {w : Float},
      ¬ (dx = leastOffset ∨ dy = leastOffset ∧ sharpen.Within dx.toInt) →
      sharpen.value? dx.toInt dy.toInt = some w → sharpen.weight dx dy = .ok w := by
    intro dx dy w hnot hvalue
    obtain ⟨w', hw', hvalue'⟩ := (hfound sharpen dx dy).2 hnot
    rw [hvalue] at hvalue'
    cases hvalue'
    exact hw'
  refine ⟨haccepted.2 ⟨by decide, by decide⟩, hweight (by decide) rfl, hweight (by decide) rfl,
    hweight (by decide) rfl, (hfound sharpen 2 leastOffset).1.2 (by decide)⟩

/-- A radius whose double is no word. -/
def wideRadius : UInt64 := 0x8000000000000000

/-- The least word stops a question whose answer is zero, as a column of the blur; and a radius
whose double is no word stops the making of a kernel, although one weight is too few for it. -/
theorem exists_offset_and_radius_that_stop :
    blur.value? leastOffset.toInt leastOffset.toInt = some 0 ∧
    blur.weight leastOffset leastOffset = .error .negation ∧
    (#[1] : Array Float).size ≠ tableArea wideRadius ∧
    ofWeights "wide" wideRadius #[1] = .error .product := by
  have hstop : ofWeights "wide" wideRadius #[1] = .error .product := by
    rcases ofWeights_cases "wide" wideRadius #[1] with ⟨hlt, -⟩ | ⟨hlt, -⟩ | ⟨-, hstop⟩
    · exact absurd hlt (by decide)
    · exact absurd hlt (by decide)
    · exact hstop
  exact ⟨rfl, weight_eq_error.2 (.inl rfl), by decide, hstop⟩

end Kernel

end RasterScript
