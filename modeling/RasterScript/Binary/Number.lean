/-!
# Number — natural numbers as fixed numbers of bytes

`littleEndian n v` is `v` in `n` bytes, lowest first; `bigEndian` has the highest first.  A value
that needs more bytes loses its high ones.  `ofLittleEndian_littleEndian` and
`ofBigEndian_bigEndian` say that values that fit come back.
-/

namespace RasterScript

/-- Bytes, as in a file. -/
abbrev Bytes := List UInt8

/-- `v` in `n` bytes, lowest first. -/
def littleEndian : Nat → Nat → Bytes
  | 0, _ => []
  | n + 1, v => UInt8.ofNat v :: littleEndian n (v / 256)

/-- The number whose bytes, lowest first, are given. -/
def ofLittleEndian : Bytes → Nat
  | [] => 0
  | b :: bs => b.toNat + 256 * ofLittleEndian bs

/-- `v` in `n` bytes, highest first. -/
def bigEndian (n v : Nat) : Bytes := (littleEndian n v).reverse

/-- The number whose bytes, highest first, are given. -/
def ofBigEndian (bs : Bytes) : Nat := ofLittleEndian bs.reverse

/-- The number of values of `n` bytes. -/
def byteLimit : Nat → Nat
  | 0 => 1
  | n + 1 => 256 * byteLimit n

/-- The first `n` bytes and the rest, if there are so many. -/
def splitBytes? (n : Nat) (bs : Bytes) : Option (Bytes × Bytes) :=
  let front := bs.take n
  if front.length = n then some (front, bs.drop n) else none

@[simp] theorem length_littleEndian (n v : Nat) : (littleEndian n v).length = n := by
  induction n generalizing v with
  | zero => rfl
  | succ n ih => simp [littleEndian, ih]

@[simp] theorem length_bigEndian (n v : Nat) : (bigEndian n v).length = n := by
  simp [bigEndian]

theorem ofLittleEndian_littleEndian {n v : Nat} (h : v < byteLimit n) :
    ofLittleEndian (littleEndian n v) = v := by
  induction n generalizing v with
  | zero =>
    obtain rfl : v = 0 := Nat.lt_one_iff.1 h
    rfl
  | succ n ih =>
    have hv : v / 256 < byteLimit n := Nat.div_lt_of_lt_mul h
    simp only [littleEndian, ofLittleEndian, ih hv, UInt8.toNat_ofNat']
    omega

theorem ofBigEndian_bigEndian {n v : Nat} (h : v < byteLimit n) :
    ofBigEndian (bigEndian n v) = v := by
  simp [ofBigEndian, bigEndian, ofLittleEndian_littleEndian h]

/-- Bytes put in front are split off again. -/
theorem splitBytes?_append {n : Nat} {front rest : Bytes} (h : front.length = n) :
    splitBytes? n (front ++ rest) = some (front, rest) := by
  subst h
  simp [splitBytes?]

/-- A reader that takes `n` bytes first goes on behind them. -/
theorem splitBytes?_append_bind {α : Type} {n : Nat} {front : Bytes} (h : front.length = n)
    (rest : Bytes) (g : Bytes × Bytes → Option α) :
    (splitBytes? n (front ++ rest) >>= g) = g (front, rest) := by
  rw [splitBytes?_append h]
  rfl

theorem splitBytes?_eq_none {n : Nat} {bs : Bytes} :
    splitBytes? n bs = none ↔ bs.length < n := by
  simp only [splitBytes?, List.length_take]
  split <;> simp <;> omega

end RasterScript
