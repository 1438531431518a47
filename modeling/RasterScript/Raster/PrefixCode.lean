/-!
# PrefixCode — symbols as patterns of bits

A code writes symbols as patterns of different lengths.  It says how many patterns there are of each
length and what they stand for; the patterns themselves follow: they count up, and no pattern is the
front of another one.
-/

namespace RasterScript

/-- How many patterns there are of one bit, of two bits and so on, and what they stand for, in
increasing order. -/
structure PrefixCode (α : Type) where
  counts : List Nat
  values : List α
  deriving DecidableEq

namespace PrefixCode

variable {α σ : Type}

/-- Whether the patterns of each length exist; `free` are left of the length before. -/
def patternsFit (free : Nat) : List Nat → Bool
  | [] => true
  | n :: counts => n ≤ 2 * free && patternsFit (2 * free - n) counts

/-- The symbol of the next pattern and its length; `length` bits have been read, and they are
`behind` patterns behind the last one of that length. -/
@[specialize]
def readFrom (readBit : StateT σ Option Bool) (length behind : Nat) :
    List Nat → List α → StateT σ Option (α × Nat)
  | [], _ => failure
  | n :: counts, values => do
    let behind := 2 * behind + (← readBit).toNat
    if behind < n then
      match values[behind]? with
      | some v => return (v, length + 1)
      | none => failure
    else readFrom readBit (length + 1) (behind - n) counts (values.drop n)

/-- The symbol of the next pattern and its length. -/
def read (c : PrefixCode α) (readBit : StateT σ Option Bool) : StateT σ Option (α × Nat) :=
  readFrom readBit 0 0 c.counts c.values

end PrefixCode

end RasterScript
