/-!
# Numeral — decimal integers in script text

A number is ASCII decimal digits with an optional sign: `+` or none where only non-negative
numbers are allowed, `+`, `-` or none where all are.  There are no separators, and a value outside
the word it is read into is no number.

`natural?` undoes the decimal digits of a natural number: `natural?_toDigits`.
-/

namespace RasterScript

/-- The number of values of a machine word: sizes, positions and indices lie below it. -/
def wordSize : Nat := 0x10000000000000000

/-- Signed numbers lie below this and not below its negative. -/
def signedLimit : Int := 0x8000000000000000

/-- The value of a non-empty run of decimal digits. -/
def natural? (s : List Char) : Option Nat :=
  if s ≠ [] ∧ s.all Char.isDigit then some (Nat.ofDigitChars 10 s 0) else none

/-- A non-negative number below `bound`; a `+` may stand in front, a `-` may not. -/
def unsigned? (bound : Nat) (s : String) : Option Nat :=
  let digits := match s.toList with
    | '+' :: rest => rest
    | rest => rest
  (natural? digits).filter (· < bound)

/-- A size, position or index: a non-negative number that fits a word. -/
def size? (s : String) : Option Nat :=
  unsigned? wordSize s

/-- A signed number that fits a word. -/
def integer? (s : String) : Option Int :=
  let value := match s.toList with
    | '+' :: rest => (natural? rest).map Int.ofNat
    | '-' :: rest => (natural? rest).map fun n => -(n : Int)
    | rest => (natural? rest).map Int.ofNat
  value.filter fun v => -signedLimit ≤ v && v < signedLimit

/-- Reading the decimal digits of a natural number gives the number. -/
theorem natural?_toDigits (n : Nat) : natural? (Nat.toDigits 10 n) = some n := by
  have hall : (Nat.toDigits 10 n).all Char.isDigit = true := by
    rw [List.all_eq_true]
    exact fun c hc => Nat.isDigit_of_mem_toDigits (by decide) (by decide) hc
  simp [natural?, Nat.toDigits_ne_nil, hall, Nat.ofDigitChars_ten_toDigits]

end RasterScript
