/-
# `Lib.FixedDigits` — decimal fields of a fixed width

Formats such as dates print numbers as blocks of a fixed number of
digits.  A block is read back exactly (`readDigits_padded`), and a text
that starts with one compares with another first by the number, then by
what follows (`padded_lt_padded`): this is what makes the lexical order
of such texts the order of their fields.
-/
import Mathlib.Algebra.Order.Ring.Nat
import Mathlib.Data.List.Basic

namespace FixedDigits

/-- The character of a digit. -/
def digit (d : Nat) : Char := Char.ofNat ('0'.toNat + d)

/-- An ASCII digit. -/
def isDigit (c : Char) : Bool := '0' ≤ c && c ≤ '9'

/-- The value of a digit's character. -/
def digitValue (c : Char) : Nat := c.toNat - '0'.toNat

/-- `n` in `width` digits, most significant first. -/
def padded : Nat → Nat → List Char
  | 0, _ => []
  | width + 1, n => digit (n / 10 ^ width) :: padded width (n % 10 ^ width)

/-- The number in the first `width` characters, and the rest. -/
def readDigits : Nat → List Char → Option (Nat × List Char)
  | 0, cs => some (0, cs)
  | _ + 1, [] => none
  | width + 1, c :: cs =>
      if isDigit c then
        (readDigits width cs).map fun r => (digitValue c * 10 ^ width + r.1, r.2)
      else none

/-! ## One digit -/

theorem toNat_digit : ∀ {d : Nat}, d < 10 → (digit d).toNat = '0'.toNat + d := by
  decide

theorem isDigit_digit : ∀ {d : Nat}, d < 10 → isDigit (digit d) = true := by
  decide

theorem digitValue_digit {d : Nat} (h : d < 10) : digitValue (digit d) = d := by
  unfold digitValue
  rw [toNat_digit h]
  omega

theorem digit_lt_digit {d e : Nat} (hd : d < 10) (he : e < 10) :
    digit d < digit e ↔ d < e := by
  have toNat_lt : digit d < digit e ↔ (digit d).toNat < (digit e).toNat := Iff.rfl
  rw [toNat_lt, toNat_digit hd, toNat_digit he]
  omega

theorem digit_inj {d e : Nat} (hd : d < 10) (he : e < 10) (h : digit d = digit e) : d = e := by
  have toNat_eq := congrArg Char.toNat h
  rw [toNat_digit hd, toNat_digit he] at toNat_eq
  omega

/-! ## Blocks -/

theorem leading_lt {width n : Nat} (h : n < 10 ^ (width + 1)) : n / 10 ^ width < 10 := by
  apply Nat.div_lt_of_lt_mul
  rw [Nat.pow_succ] at h
  exact h

theorem trailing_lt (width n : Nat) : n % 10 ^ width < 10 ^ width :=
  Nat.mod_lt n (Nat.pow_pos (by decide))

@[simp] theorem length_padded (width n : Nat) : (padded width n).length = width := by
  induction width generalizing n with
  | zero => rfl
  | succ width ih => simp [padded, ih]

theorem isDigit_of_mem_padded {width n : Nat} (h : n < 10 ^ width) {c : Char}
    (hc : c ∈ padded width n) : isDigit c = true := by
  induction width generalizing n with
  | zero => cases hc
  | succ width ih =>
      rcases List.mem_cons.mp hc with rfl | hc
      · exact isDigit_digit (leading_lt h)
      · exact ih (trailing_lt width n) hc

theorem readDigits_padded {width n : Nat} (h : n < 10 ^ width) (rest : List Char) :
    readDigits width (padded width n ++ rest) = some (n, rest) := by
  induction width generalizing n with
  | zero =>
      have : n = 0 := by simpa using h
      subst this
      rfl
  | succ width ih =>
      simp only [padded, List.cons_append, readDigits, isDigit_digit (leading_lt h), if_true,
        ih (trailing_lt width n), digitValue_digit (leading_lt h), Option.map_some]
      rw [Nat.div_add_mod']

/-- Two texts that start with a block compare by the numbers first. -/
theorem padded_lt_padded {width m n : Nat} (hm : m < 10 ^ width) (hn : n < 10 ^ width)
    (s t : List Char) :
    padded width m ++ s < padded width n ++ t ↔ m < n ∨ m = n ∧ s < t := by
  induction width generalizing m n with
  | zero =>
      have hm : m = 0 := by simpa using hm
      have hn : n = 0 := by simpa using hn
      subst hm hn
      simp [padded]
  | succ width ih =>
      have lead : m / 10 ^ width < n / 10 ^ width ∨
          m / 10 ^ width = n / 10 ^ width ∧ m % 10 ^ width < n % 10 ^ width ↔ m < n := by
        have em := Nat.div_add_mod m (10 ^ width)
        have en := Nat.div_add_mod n (10 ^ width)
        have bm := trailing_lt width m
        have bn := trailing_lt width n
        constructor
        · rintro (h | ⟨h, hr⟩)
          · exact Nat.lt_of_div_lt_div h
          · rw [h] at em
            omega
        · intro h
          rcases Nat.lt_or_eq_of_le
              (Nat.div_le_div_right (Nat.le_of_lt h)) with hd | hd
          · exact .inl hd
          · rw [hd] at em
            exact .inr ⟨hd, by omega⟩
      simp only [padded, List.cons_append, List.cons_lt_cons_iff,
        digit_lt_digit (leading_lt hm) (leading_lt hn), ih (trailing_lt width m)
        (trailing_lt width n)]
      constructor
      · rintro (h | ⟨hd, h | ⟨hr, h⟩⟩)
        · exact .inl (lead.mp (.inl h))
        · exact .inl (lead.mp (.inr ⟨digit_inj (leading_lt hm) (leading_lt hn) hd, h⟩))
        · have hd := digit_inj (leading_lt hm) (leading_lt hn) hd
          refine .inr ⟨?_, h⟩
          rw [← Nat.div_add_mod m (10 ^ width), hd, hr, Nat.div_add_mod]
      · rintro (h | ⟨rfl, h⟩)
        · rcases lead.mpr h with h | ⟨hd, h⟩
          · exact .inl h
          · exact .inr ⟨by rw [hd], .inl h⟩
        · exact .inr ⟨rfl, .inr ⟨rfl, h⟩⟩

end FixedDigits
