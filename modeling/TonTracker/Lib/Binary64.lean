/-
# `Lib.Binary64` — quotients as doubles

Numbers between zero and one as a double-precision float has them: the exact
result of an operation, rounded to 53 binary digits, half to even.  Rounding
keeps to the side of a half the exact number is on (`round_le_half`).
-/
import TonTracker.Lib.ContextDecimal
import Mathlib.Data.Nat.Log
import Mathlib.Tactic.Positivity

namespace Binary64

open ContextDecimal (roundHalfEven)

/-- The exponent of the leading binary digit of a number that is not zero. -/
def exponent (x : ℚ) : ℤ :=
  let e : ℤ := Nat.log2 x.num.natAbs - Nat.log2 x.den
  if (2 : ℚ) ^ e ≤ |x| then e else e - 1

/-- The nearest double. -/
def round (x : ℚ) : ℚ :=
  if x = 0 then 0
  else
    let q := max (exponent x - 52) (-1074)
    roundHalfEven (x / 2 ^ q) * 2 ^ q

/-- `a / b` of integers. -/
def div (a b : Nat) : ℚ := round (a / b)

def mul (x y : ℚ) : ℚ := round (x * y)

/-- `round(x, digits)`. -/
def roundDecimal (x : ℚ) (digits : Nat) : ℚ :=
  round (roundHalfEven (x * 10 ^ digits) / 10 ^ digits)

theorem roundHalfEven_le {x : ℚ} {n : ℤ} (h : x ≤ n) : roundHalfEven x ≤ n := by
  unfold roundHalfEven
  have hfloor : ⌊x⌋ ≤ n := by
    have := Int.floor_le_floor h
    rwa [Int.floor_intCast] at this
  have hsucc : 0 < x - ⌊x⌋ → ⌊x⌋ + 1 ≤ n := by
    intro hpos
    have hlt : (⌊x⌋ : ℚ) < n := lt_of_lt_of_le (sub_pos.mp hpos) h
    exact_mod_cast hlt
  split
  · exact hfloor
  · next hnot =>
      have hpos : 0 < x - ⌊x⌋ := by linarith
      split
      · exact hsucc hpos
      · split
        · exact hfloor
        · exact hsucc hpos

theorem exponent_le {x : ℚ} (hx : 0 < x) (hle : x ≤ 1 / 2) : exponent x ≤ -1 := by
  unfold exponent
  rw [abs_of_pos hx]
  dsimp only
  split
  · next hpow =>
      have hhalf : (2 : ℚ) ^ (Nat.log2 x.num.natAbs - Nat.log2 x.den : ℤ) ≤ 2 ^ (-1 : ℤ) :=
        hpow.trans (by norm_num [hle])
      exact (zpow_le_zpow_iff_right₀ (by norm_num)).mp hhalf
  · -- the numerator is not above the denominator
    have hnum : x.num.natAbs ≤ x.den := by
      have hpos : 0 < x.num := Rat.num_pos.mpr hx
      have hone : x ≤ 1 := hle.trans (by norm_num)
      have := Rat.num_le_denom_iff.mpr hone
      omega
    have hlog : Nat.log2 x.num.natAbs ≤ Nat.log2 x.den := by
      rw [Nat.log2_eq_log_two, Nat.log2_eq_log_two]
      exact Nat.log_mono_right hnum
    omega

theorem round_le_half {x : ℚ} (hx : 0 ≤ x) (hle : x ≤ 1 / 2) : round x ≤ 1 / 2 := by
  unfold round
  split
  · norm_num
  · next hne =>
      have hpos : 0 < x := lt_of_le_of_ne hx (Ne.symm hne)
      have hq : max (exponent x - 52) (-1074) ≤ -1 := by
        have := exponent_le hpos hle
        omega
      generalize max (exponent x - 52) (-1074) = q at hq
      obtain ⟨k, rfl⟩ : ∃ k : Nat, q = -1 - k := ⟨(-1 - q).toNat, by omega⟩
      have hpow : (0 : ℚ) < 2 ^ (-1 - k : ℤ) := zpow_pos (by norm_num) _
      have hhalf : (1 / 2 : ℚ) = ((2 ^ k : ℤ) : ℚ) * 2 ^ (-1 - k : ℤ) := by
        push_cast
        rw [← zpow_natCast, ← zpow_add₀ (by norm_num)]
        norm_num
      have hround : roundHalfEven (x / 2 ^ (-1 - k : ℤ)) ≤ 2 ^ k := by
        refine roundHalfEven_le ?_
        rw [div_le_iff₀ hpow, ← hhalf]
        exact hle
      show (roundHalfEven (x / 2 ^ (-1 - k : ℤ)) : ℚ) * 2 ^ (-1 - k : ℤ) ≤ 1 / 2
      rw [hhalf]
      exact mul_le_mul_of_nonneg_right (by exact_mod_cast hround) hpow.le

end Binary64
