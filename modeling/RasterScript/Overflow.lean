import RasterScript.Failure

/-!
# Overflow — arithmetic that stops

The arithmetic of machine words is checked: where a result is no word, the program does not go on
with what is left of it but stops, with a message.  This is neither an answer nor a refusal, so what
a caller can make stop has the type `Except Overflow`, with its answers inside.

Most numbers of the program are kept small by what is accepted, and are whole numbers here.
-/

namespace RasterScript

/-- The operation whose result was no word. -/
inductive Overflow
  | sum
  | product
  | negation
  deriving DecidableEq, Repr

def Overflow.message : Overflow → String
  | .sum => "attempt to add with overflow"
  | .product => "attempt to multiply with overflow"
  | .negation => "attempt to negate with overflow"

/-- The number is a signed word. -/
def IsWord (n : Int) : Prop := Int64.minValue.toInt ≤ n ∧ n ≤ Int64.maxValue.toInt

instance (n : Int) : Decidable (IsWord n) := inferInstanceAs (Decidable (_ ∧ _))

namespace Checked

def sum (a b : Int64) : Except Overflow Int64 :=
  if IsWord (a.toInt + b.toInt) then .ok (a + b) else .error .sum

def product (a b : UInt64) : Except Overflow UInt64 :=
  if a.toNat * b.toNat < UInt64.size then .ok (a * b) else .error .product

/-- The absolute value; the least word has none. -/
def magnitude (a : Int64) : Except Overflow Int64 :=
  if a = Int64.minValue then .error .negation else .ok a.abs

theorem sum_cases (a b : Int64) :
    (IsWord (a.toInt + b.toInt) ∧ ∃ c, sum a b = .ok c ∧ c.toInt = a.toInt + b.toInt) ∨
      (¬ IsWord (a.toInt + b.toInt) ∧ sum a b = .error .sum) := by
  unfold sum
  split
  · rename_i hword
    obtain ⟨hlow, hhigh⟩ := id hword
    rw [Int64.toInt_minValue] at hlow
    rw [Int64.toInt_maxValue] at hhigh
    refine .inl ⟨hword, _, rfl, ?_⟩
    rw [Int64.toInt_add]
    exact Int.bmod_eq_of_le (by omega) (by omega)
  · rename_i hword
    exact .inr ⟨hword, rfl⟩

theorem product_cases (a b : UInt64) :
    (a.toNat * b.toNat < UInt64.size ∧ ∃ c, product a b = .ok c ∧ c.toNat = a.toNat * b.toNat) ∨
      (¬ a.toNat * b.toNat < UInt64.size ∧ product a b = .error .product) := by
  unfold product
  split
  · rename_i hword
    refine .inl ⟨hword, _, rfl, ?_⟩
    rw [UInt64.toNat_mul, Nat.mod_eq_of_lt hword]
  · rename_i hword
    exact .inr ⟨hword, rfl⟩

theorem magnitude_cases (a : Int64) :
    (a ≠ Int64.minValue ∧ ∃ c, magnitude a = .ok c ∧ c.toInt = a.toInt.natAbs) ∨
      (a = Int64.minValue ∧ magnitude a = .error .negation) := by
  unfold magnitude
  split
  · rename_i hleast
    exact .inr ⟨hleast, rfl⟩
  · rename_i hleast
    refine .inl ⟨hleast, _, rfl, ?_⟩
    apply BitVec.toInt_abs_eq_natAbs_of_ne_intMin
    intro hmin
    exact hleast (Int64.toBitVec.inj hmin)

end Checked

end RasterScript
