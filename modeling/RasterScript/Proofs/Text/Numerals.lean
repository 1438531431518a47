import RasterScript.Text.Numeral

/-!
# Numerals — which texts are numbers

The readers of numbers accept exactly the texts that `IsNumeral` and `IsSignedNumeral` describe, as
long as the value fits, and the decimal digits of a number are one of them.
-/

namespace RasterScript

/-! ## 1. Digits -/

/-- A run of decimal digits with the value `n`; zeros in front are allowed. -/
def DigitsOf (n : Nat) (s : List Char) : Prop :=
  s ≠ [] ∧ (∀ d ∈ s, d.isDigit = true) ∧ Nat.ofDigitChars 10 s 0 = n

theorem natural?_eq_some {s : List Char} {n : Nat} : natural? s = some n ↔ DigitsOf n s := by
  unfold natural? DigitsOf
  have hall : s.all Char.isDigit = true ↔ ∀ d ∈ s, d.isDigit = true := List.all_eq_true
  by_cases h : s ≠ [] ∧ s.all Char.isDigit = true
  · rw [if_pos h, Option.some.injEq]
    exact ⟨fun hn => ⟨h.1, hall.1 h.2, hn⟩, fun hn => hn.2.2⟩
  · rw [if_neg h]
    exact ⟨fun hn => (by cases hn), fun hn => absurd ⟨hn.1, hall.2 hn.2.1⟩ h⟩

theorem digitsOf_toDigits (n : Nat) : DigitsOf n (Nat.toDigits 10 n) :=
  natural?_eq_some.1 (natural?_toDigits n)

theorem DigitsOf.ne_cons {n : Nat} {s rest : List Char} {c : Char} (h : DigitsOf n s)
    (hc : c.isDigit = false) : s ≠ c :: rest := by
  intro hs
  have hdigit := h.2.1 c (hs ▸ List.mem_cons_self)
  rw [hc] at hdigit
  cases hdigit

/-! ## 2. Numbers without a minus sign -/

/-- The text is `n` in decimal digits, with a plus sign in front or nothing. -/
def IsNumeral (n : Nat) (t : String) : Prop :=
  ∃ digits, DigitsOf n digits ∧ (t.toList = digits ∨ t.toList = '+' :: digits)

theorem isNumeral_toString (n : Nat) : IsNumeral n (toString n) := by
  refine ⟨Nat.toDigits 10 n, digitsOf_toDigits n, .inl ?_⟩
  rw [Nat.toString_eq_repr, Nat.toList_repr]

theorem unsigned?_eq_some {bound n : Nat} {t : String} :
    unsigned? bound t = some n ↔ IsNumeral n t ∧ n < bound := by
  unfold unsigned? IsNumeral
  dsimp only
  rw [Option.filter_eq_some_iff, natural?_eq_some, decide_eq_true_eq]
  refine and_congr_left fun _ => ?_
  split
  · rename_i rest ht
    -- a sign is no digit, so the digits are what follows it
    constructor
    · intro h
      exact ⟨rest, h, .inr ht⟩
    · rintro ⟨digits, h, heq | heq⟩
      · exact absurd (heq.symm.trans ht) (h.ne_cons (by decide))
      · rw [ht] at heq
        cases heq
        exact h
  · rename_i hplus
    constructor
    · intro h
      exact ⟨t.toList, h, .inl rfl⟩
    · rintro ⟨digits, h, heq | heq⟩
      · rw [heq]
        exact h
      · exact absurd heq (hplus digits)

theorem size?_eq_some {n : Nat} {t : String} : size? t = some n ↔ IsNumeral n t ∧ n < wordSize :=
  unsigned?_eq_some

/-! ## 3. Numbers with any sign -/

/-- The text is `v` in decimal digits, with a sign in front or nothing; zero may have either. -/
def IsSignedNumeral (v : Int) (t : String) : Prop :=
  (∃ n : Nat, v = n ∧ IsNumeral n t) ∨
    ∃ (n : Nat) (digits : List Char), v = -n ∧ DigitsOf n digits ∧ t.toList = '-' :: digits

theorem isSignedNumeral_toString (n : Nat) : IsSignedNumeral n (toString n) :=
  .inl ⟨n, rfl, isNumeral_toString n⟩

theorem integer?_eq_some {v : Int} {t : String} :
    integer? t = some v ↔ IsSignedNumeral v t ∧ -signedLimit ≤ v ∧ v < signedLimit := by
  unfold integer? IsSignedNumeral IsNumeral
  dsimp only
  rw [Option.filter_eq_some_iff]
  simp only [Bool.and_eq_true, decide_eq_true_eq]
  refine and_congr_left fun _ => ?_
  split
  · rename_i rest ht
    rw [Option.map_eq_some_iff]
    constructor
    · rintro ⟨n, hn, rfl⟩
      exact .inl ⟨n, rfl, rest, natural?_eq_some.1 hn, .inr ht⟩
    · rintro (⟨n, rfl, digits, h, heq | heq⟩ | ⟨n, digits, -, -, heq⟩)
      · exact absurd (heq.symm.trans ht) (h.ne_cons (by decide))
      · rw [ht] at heq
        cases heq
        exact ⟨n, natural?_eq_some.2 h, rfl⟩
      · rw [ht] at heq
        cases heq
  · rename_i rest ht
    rw [Option.map_eq_some_iff]
    constructor
    · rintro ⟨_, hread, rfl⟩
      obtain ⟨n, hn, heq⟩ := Option.bind_eq_some_iff.1 hread
      cases heq
      exact .inr ⟨n, rest, rfl, natural?_eq_some.1 hn, ht⟩
    · rintro (⟨n, rfl, digits, h, heq | heq⟩ | ⟨n, digits, rfl, h, heq⟩)
      · exact absurd (heq.symm.trans ht) (h.ne_cons (by decide))
      · rw [ht] at heq
        cases heq
      · rw [ht] at heq
        cases heq
        exact ⟨n, Option.bind_eq_some_iff.2 ⟨n, natural?_eq_some.2 h, rfl⟩, rfl⟩
  · rename_i hplus hminus
    rw [Option.map_eq_some_iff]
    constructor
    · rintro ⟨n, hn, rfl⟩
      exact .inl ⟨n, rfl, t.toList, natural?_eq_some.1 hn, .inl rfl⟩
    · rintro (⟨n, rfl, digits, h, heq | heq⟩ | ⟨n, digits, -, -, heq⟩)
      · rw [heq]
        exact ⟨n, natural?_eq_some.2 h, rfl⟩
      · exact absurd heq (hplus digits)
      · exact absurd heq (hminus digits)

end RasterScript
