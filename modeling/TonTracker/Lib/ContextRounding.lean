/-
# `Lib.ContextRounding` — what a context keeps

A number is kept by a context where it is written with at most as many digits
as the precision (`round_of_fits`, `fits_of_round_eq`), and overflows it from the number
halfway above the greatest one (`round_eq_error_iff`).
-/
import TonTracker.Lib.ContextDecimal
import Mathlib.Algebra.Order.Field.Power
import Mathlib.Data.Nat.Digits.Defs
import Mathlib.Algebra.Order.Floor.Ring
import Mathlib.Tactic.Positivity

namespace ContextDecimal

/-! ## Digits -/

theorem digitCount_le_iff {n k : Nat} (hk : 0 < k) : digitCount n ≤ k ↔ n < 10 ^ k :=
  Nat.length_toDigits_le_iff (by decide) hk

theorem digitCount_pos (n : Nat) : 0 < digitCount n := Nat.length_toDigits_pos

theorem lt_pow_digitCount (n : Nat) : n < 10 ^ digitCount n :=
  (digitCount_le_iff (digitCount_pos n)).mp (Nat.le_refl _)

theorem pow_le_of_lt_digitCount {n k : Nat} (h : k < digitCount n) (hn : 0 < n) : 10 ^ k ≤ n := by
  obtain rfl | hk := Nat.eq_zero_or_pos k
  · exact hn
  · exact Nat.not_lt.mp fun hlt => absurd ((digitCount_le_iff hk).mpr hlt) (Nat.not_le.mpr h)

theorem digitCount_mono {m n : Nat} (h : m ≤ n) : digitCount m ≤ digitCount n :=
  (digitCount_le_iff (digitCount_pos n)).mpr (Nat.lt_of_le_of_lt h (lt_pow_digitCount n))

/-! ## The leading digit -/

variable {x y : ℚ} {e : ℤ}

theorem ten_zpow_pos (e : ℤ) : (0 : ℚ) < 10 ^ e := zpow_pos (by norm_num) e

theorem ten_zpow_le {e e' : ℤ} : (10 : ℚ) ^ e ≤ 10 ^ e' ↔ e ≤ e' :=
  zpow_le_zpow_iff_right₀ (by norm_num)

theorem ten_zpow_lt {e e' : ℤ} : (10 : ℚ) ^ e < 10 ^ e' ↔ e < e' :=
  zpow_lt_zpow_iff_right₀ (by norm_num)

theorem ten_zpow_add (e e' : ℤ) : (10 : ℚ) ^ (e + e') = 10 ^ e * 10 ^ e' :=
  zpow_add₀ (by norm_num) e e'

/-- The exponent is that of the leading digit. -/
theorem adjusted_spec (hx : x ≠ 0) :
    (10 : ℚ) ^ adjusted x ≤ |x| ∧ |x| < 10 ^ (adjusted x + 1) := by
  have habs : |x| = (x.num.natAbs : ℚ) / x.den := by
    conv_lhs => rw [← Rat.num_div_den x]
    rw [abs_div, Nat.abs_cast, Nat.cast_natAbs, Int.cast_abs]
  have hnum : 0 < x.num.natAbs := Int.natAbs_pos.mpr (Rat.num_ne_zero.mpr hx)
  have hden : (0 : ℚ) < x.den := Nat.cast_pos.mpr x.den_pos
  generalize ha : digitCount x.num.natAbs = a
  generalize hb : digitCount x.den = b
  have hapos : 0 < a := ha ▸ digitCount_pos _
  have hbpos : 0 < b := hb ▸ digitCount_pos _
  have hna : (x.num.natAbs : ℚ) < 10 ^ (a : ℤ) := by
    rw [zpow_natCast]
    exact_mod_cast ha ▸ lt_pow_digitCount x.num.natAbs
  have hdb : (x.den : ℚ) < 10 ^ (b : ℤ) := by
    rw [zpow_natCast]
    exact_mod_cast hb ▸ lt_pow_digitCount x.den
  have hna' : (10 : ℚ) ^ ((a : ℤ) - 1) ≤ x.num.natAbs := by
    have hle : 10 ^ (a - 1) ≤ x.num.natAbs := pow_le_of_lt_digitCount (by omega) hnum
    rw [← Nat.cast_one, ← Nat.cast_sub hapos, zpow_natCast]
    exact_mod_cast hle
  have hdb' : (10 : ℚ) ^ ((b : ℤ) - 1) ≤ x.den := by
    have hle : 10 ^ (b - 1) ≤ x.den := pow_le_of_lt_digitCount (by omega) x.den_pos
    rw [← Nat.cast_one, ← Nat.cast_sub hbpos, zpow_natCast]
    exact_mod_cast hle
  have hupper : |x| < 10 ^ ((a : ℤ) - b + 1) := by
    rw [habs, div_lt_iff₀ hden]
    calc (x.num.natAbs : ℚ) < 10 ^ (a : ℤ) := hna
      _ = 10 ^ ((a : ℤ) - b + 1) * 10 ^ ((b : ℤ) - 1) := by
        rw [← ten_zpow_add]
        congr 1
        omega
      _ ≤ 10 ^ ((a : ℤ) - b + 1) * x.den := mul_le_mul_of_nonneg_left hdb' (ten_zpow_pos _).le
  have hlower : (10 : ℚ) ^ ((a : ℤ) - b - 1) ≤ |x| := by
    rw [habs, le_div_iff₀ hden]
    calc (10 : ℚ) ^ ((a : ℤ) - b - 1) * x.den
        ≤ 10 ^ ((a : ℤ) - b - 1) * 10 ^ (b : ℤ) :=
          mul_le_mul_of_nonneg_left hdb.le (ten_zpow_pos _).le
      _ = 10 ^ ((a : ℤ) - 1) := by
        rw [← ten_zpow_add]
        congr 1
        omega
      _ ≤ x.num.natAbs := hna'
  unfold adjusted
  dsimp only
  rw [ha, hb]
  split
  · next h => exact ⟨h, hupper⟩
  · next h =>
      refine ⟨hlower, ?_⟩
      rw [sub_add_cancel]
      exact not_le.mp h

theorem le_adjusted_iff (hx : x ≠ 0) : e ≤ adjusted x ↔ (10 : ℚ) ^ e ≤ |x| := by
  obtain ⟨hlo, hhi⟩ := adjusted_spec hx
  constructor
  · intro h
    exact (ten_zpow_le.mpr h).trans hlo
  · intro h
    have := ten_zpow_lt.mp (h.trans_lt hhi)
    omega

theorem adjusted_lt_iff (hx : x ≠ 0) : adjusted x < e ↔ |x| < 10 ^ e := by
  rw [← not_le, le_adjusted_iff hx, not_le]

/-! ## Half even -/

theorem roundHalfEven_intCast (m : ℤ) : roundHalfEven m = m := by
  unfold roundHalfEven
  rw [Int.floor_intCast, sub_self]
  exact if_pos (by norm_num)

theorem roundHalfEven_floor (x : ℚ) : ⌊x⌋ ≤ roundHalfEven x ∧ roundHalfEven x ≤ ⌊x⌋ + 1 := by
  unfold roundHalfEven
  split
  · omega
  · split
    · omega
    · split <;> omega

theorem le_roundHalfEven {m : ℤ} (h : (m : ℚ) ≤ x) : m ≤ roundHalfEven x :=
  (Int.le_floor.mpr h).trans (roundHalfEven_floor x).1

theorem roundHalfEven_le {m : ℤ} (h : x ≤ m) : roundHalfEven x ≤ m := by
  obtain hlt | hge := lt_or_ge ⌊x⌋ m
  · exact (roundHalfEven_floor x).2.trans hlt
  · have hx : x = m := le_antisymm h (Int.le_floor.mp hge)
    rw [hx, roundHalfEven_intCast]

/-- The half below an even number rounds up to it. -/
theorem le_roundHalfEven_iff {m : ℤ} (hm : m % 2 = 0) :
    m ≤ roundHalfEven x ↔ (m : ℚ) - 1 / 2 ≤ x := by
  obtain ⟨hlo, hhi⟩ := roundHalfEven_floor x
  have hfloor := Int.floor_le x
  constructor
  · intro h
    obtain hle | hlt := le_or_gt m ⌊x⌋
    · have : (m : ℚ) ≤ ⌊x⌋ := by exact_mod_cast hle
      linarith
    · have hm1 : m = ⌊x⌋ + 1 := by omega
      have hup : ¬ x - ⌊x⌋ < 1 / 2 := by
        intro hdown
        have : roundHalfEven x = ⌊x⌋ := by
          unfold roundHalfEven
          exact if_pos hdown
        omega
      rw [hm1]
      push_cast
      linarith
  · intro h
    obtain hle | hlt := le_or_gt m ⌊x⌋
    · exact hle.trans hlo
    · have hm1 : m = ⌊x⌋ + 1 := by
        have hlast : (m : ℚ) - 1 / 2 < ⌊x⌋ + 1 := h.trans_lt (Int.lt_floor_add_one x)
        have : (m : ℚ) < ((⌊x⌋ + 2 : ℤ) : ℚ) := by
          push_cast
          linarith
        have : m < ⌊x⌋ + 2 := by exact_mod_cast this
        omega
      have hhalf : (1 : ℚ) / 2 ≤ x - ⌊x⌋ := by
        rw [hm1] at h
        push_cast at h
        linarith
      unfold roundHalfEven
      rw [if_neg (not_lt.mpr hhalf)]
      split
      · omega
      · rw [if_neg (by omega)]
        omega

theorem roundHalfEven_neg (x : ℚ) : roundHalfEven (-x) = -roundHalfEven x := by
  by_cases hint : (⌊x⌋ : ℚ) = x
  · rw [← hint, ← Int.cast_neg, roundHalfEven_intCast, roundHalfEven_intCast]
  · have hlo : (⌊x⌋ : ℚ) < x := lt_of_le_of_ne (Int.floor_le x) hint
    have hhi := Int.lt_floor_add_one x
    have hfloor : ⌊-x⌋ = -⌊x⌋ - 1 := by
      rw [Int.floor_eq_iff]
      push_cast
      constructor <;> linarith
    have hcast : ((-⌊x⌋ - 1 : ℤ) : ℚ) = -(⌊x⌋ : ℚ) - 1 := by push_cast; rfl
    unfold roundHalfEven
    rw [hfloor, hcast]
    obtain hlt | heq | hgt := lt_trichotomy (x - ⌊x⌋) (1 / 2)
    · rw [if_pos hlt, if_neg (by linarith), if_pos (by linarith)]
      omega
    · have hdown : ¬ -x - (-(⌊x⌋ : ℚ) - 1) < 1 / 2 := by linarith
      have hup : ¬ 1 / 2 < -x - (-(⌊x⌋ : ℚ) - 1) := by linarith
      have hdown' : ¬ x - ⌊x⌋ < 1 / 2 := by linarith
      have hup' : ¬ 1 / 2 < x - ⌊x⌋ := by linarith
      rw [if_neg hdown, if_neg hup, if_neg hdown', if_neg hup']
      split <;> split <;> omega
    · rw [if_pos (by linarith), if_neg (by linarith), if_pos (by linarith)]
      omega

theorem abs_roundHalfEven (x : ℚ) : |roundHalfEven x| = roundHalfEven |x| := by
  have hnonneg : ∀ y : ℚ, 0 ≤ y → 0 ≤ roundHalfEven y := fun y hy =>
    le_roundHalfEven (by exact_mod_cast hy)
  obtain h | h := le_total 0 x
  · rw [abs_of_nonneg h, abs_of_nonneg (hnonneg x h)]
  · have hneg : roundHalfEven x = -roundHalfEven (-x) := by rw [roundHalfEven_neg, neg_neg]
    rw [abs_of_nonpos h, hneg, abs_neg, abs_of_nonneg (hnonneg (-x) (neg_nonneg.mpr h))]

/-! ## Rounding -/

namespace Context

variable (c : Context)

/-- The exponent of the last digit the context keeps of a number. -/
def quantum (x : ℚ) : ℤ := max (adjusted x) c.emin - (c.precision - 1)

/-- What a number is rounded to, in or out of range. -/
def rounded (x : ℚ) : ℚ := roundHalfEven (x / 10 ^ c.quantum x) * 10 ^ c.quantum x

/-- A number of at most as many digits as the precision, in the range of the
context. -/
def Fits (x : ℚ) : Prop :=
  ∃ m e : ℤ, x = m * 10 ^ e ∧ |m| < 10 ^ c.precision ∧ c.emin - (c.precision - 1) ≤ e ∧
    |x| < 10 ^ (c.emax + 1)

/-- The number halfway between the greatest and the next power of ten. -/
def limit : ℚ := (10 ^ c.precision - 1 / 2) * 10 ^ (c.emax - (c.precision - 1))

variable {c}

theorem round_eq (hx : x ≠ 0) : c.round x =
    if c.rounded x ≠ 0 ∧ c.emax < adjusted (c.rounded x) then .error .overflow
    else .ok (c.rounded x) :=
  if_neg hx

theorem round_zero : c.round 0 = .ok 0 := if_pos rfl

theorem fits_zero : c.Fits 0 :=
  ⟨0, c.emin - (c.precision - 1), by simp, by simp, le_refl _, by
    rw [abs_zero]
    exact ten_zpow_pos _⟩

theorem rounded_of_multiple {m : ℤ} (h : x = m * 10 ^ c.quantum x) : c.rounded x = x := by
  have hdiv : x / 10 ^ c.quantum x = m := by
    rw [div_eq_iff (ten_zpow_pos _).ne']
    exact h
  unfold rounded
  rw [hdiv, roundHalfEven_intCast]
  exact h.symm

theorem round_of_fits (h : c.Fits x) : c.round x = .ok x := by
  obtain rfl | hx := eq_or_ne x 0
  · exact round_zero
  · obtain ⟨m, e, heq, hm, he, hrange⟩ := h
    have hsize : |x| < 10 ^ (e + c.precision) := by
      rw [heq, abs_mul, abs_of_pos (ten_zpow_pos e), add_comm, ten_zpow_add, zpow_natCast]
      refine mul_lt_mul_of_pos_right ?_ (ten_zpow_pos e)
      exact_mod_cast hm
    have hadjusted := (adjusted_lt_iff hx).mpr hsize
    have hq : c.quantum x ≤ e := by
      unfold quantum
      omega
    have hmultiple : x = ((m * 10 ^ (e - c.quantum x).toNat : ℤ) : ℚ) * 10 ^ c.quantum x := by
      have hsplit : (10 : ℚ) ^ e = 10 ^ (e - c.quantum x).toNat * 10 ^ c.quantum x := by
        rw [← zpow_natCast, ← ten_zpow_add]
        congr 1
        omega
      push_cast
      rw [mul_assoc, ← hsplit]
      exact heq
    rw [round_eq hx, rounded_of_multiple hmultiple]
    refine if_neg fun hover => ?_
    have := (adjusted_lt_iff hx).mpr hrange
    omega

theorem abs_rounded (x : ℚ) : |c.rounded x| =
    roundHalfEven (|x| / 10 ^ c.quantum x) * 10 ^ c.quantum x := by
  have hpos := ten_zpow_pos (c.quantum x)
  have habs : |x| / 10 ^ c.quantum x = |x / 10 ^ c.quantum x| := by
    rw [abs_div, abs_of_pos hpos]
  rw [habs, ← abs_roundHalfEven]
  unfold rounded
  rw [abs_mul, abs_of_pos hpos, Int.cast_abs]

theorem limit_bounds : (10 : ℚ) ^ c.emax ≤ c.limit ∧ c.limit < 10 ^ (c.emax + 1) := by
  have hunit := ten_zpow_pos (c.emax - (c.precision - 1))
  have htop : (10 : ℚ) ^ (c.emax + 1) =
      10 ^ c.precision * 10 ^ (c.emax - (c.precision - 1)) := by
    rw [← zpow_natCast, ← ten_zpow_add]
    congr 1
    omega
  have hten : (10 : ℚ) ^ (c.emax + 1) = 10 * 10 ^ c.emax := by
    rw [ten_zpow_add, zpow_one, mul_comm]
  have hprec : (1 : ℚ) ≤ 10 ^ c.precision := one_le_pow₀ (by norm_num)
  have hlast : (10 : ℚ) ^ (c.emax - (c.precision - 1)) ≤ 10 ^ (c.emax + 1) := by
    rw [htop]
    exact le_mul_of_one_le_left hunit.le hprec
  unfold limit
  rw [sub_mul, ← htop]
  constructor <;> linarith

/-- A number overflows the context from halfway above the greatest it has. -/
theorem overflows_iff (hp : 0 < c.precision) (hrange : c.emin ≤ c.emax) (hx : x ≠ 0) :
    c.rounded x ≠ 0 ∧ c.emax < adjusted (c.rounded x) ↔ c.limit ≤ |x| := by
  have hpos := ten_zpow_pos (c.quantum x)
  obtain ⟨hlimit, hlimit'⟩ := limit_bounds (c := c)
  obtain ⟨hlo, hhi⟩ := adjusted_spec hx
  have hout : c.rounded x ≠ 0 ∧ c.emax < adjusted (c.rounded x) ↔
      (10 : ℚ) ^ (c.emax + 1) ≤ |c.rounded x| := by
    constructor
    · rintro ⟨hne, hover⟩
      exact (le_adjusted_iff hne).mp hover
    · intro hle
      have hne : c.rounded x ≠ 0 := abs_pos.mp ((ten_zpow_pos _).trans_le hle)
      exact ⟨hne, (le_adjusted_iff hne).mpr hle⟩
  rw [hout, abs_rounded]
  obtain hover | hin := lt_or_ge c.emax (adjusted x)
  · -- the leading digit is out of range already
    refine iff_of_true ?_ ?_
    · have hq : c.quantum x = adjusted x - (c.precision - 1) := by
        unfold quantum
        omega
      have hpow : (10 : ℚ) ^ adjusted x =
          ((10 ^ (c.precision - 1) : ℤ) : ℚ) * 10 ^ c.quantum x := by
        push_cast
        rw [← zpow_natCast, ← ten_zpow_add]
        congr 1
        omega
      calc (10 : ℚ) ^ (c.emax + 1) ≤ 10 ^ adjusted x := ten_zpow_le.mpr hover
        _ = ((10 ^ (c.precision - 1) : ℤ) : ℚ) * 10 ^ c.quantum x := hpow
        _ ≤ roundHalfEven (|x| / 10 ^ c.quantum x) * 10 ^ c.quantum x := by
          refine mul_le_mul_of_nonneg_right ?_ hpos.le
          rw [Int.cast_le]
          refine le_roundHalfEven ?_
          rw [le_div_iff₀ hpos, ← hpow]
          exact hlo
    · exact hlimit'.le.trans ((ten_zpow_le.mpr hover).trans hlo)
  · have hq : c.quantum x ≤ c.emax - (c.precision - 1) := by
      unfold quantum
      omega
    obtain ⟨j, hj⟩ : ∃ j : Nat, c.emax + 1 - c.quantum x = j + 1 :=
      ⟨(c.emax - c.quantum x).toNat, by omega⟩
    have htop : (10 : ℚ) ^ (c.emax + 1) = ((10 ^ (j + 1) : ℤ) : ℚ) * 10 ^ c.quantum x := by
      push_cast
      rw [← zpow_natCast, ← ten_zpow_add]
      congr 1
      push_cast
      omega
    have heven : (10 ^ (j + 1) : ℤ) % 2 = 0 := by
      rw [pow_succ]
      omega
    rw [htop, mul_le_mul_iff_left₀ hpos, Int.cast_le, le_roundHalfEven_iff heven, le_div_iff₀ hpos,
      sub_mul, ← htop]
    by_cases hlast : c.quantum x = c.emax - (c.precision - 1)
    · unfold limit
      rw [sub_mul, ← hlast]
      have htop' : (10 : ℚ) ^ c.precision * 10 ^ c.quantum x = 10 ^ (c.emax + 1) := by
        rw [← zpow_natCast, ← ten_zpow_add]
        congr 1
        omega
      rw [htop']
    · -- a smaller number is below both
      have hsmall : |x| < 10 ^ c.emax := by
        refine hhi.trans_le (ten_zpow_le.mpr ?_)
        unfold quantum at hlast hq
        omega
      have hten : (10 : ℚ) ^ (c.emax + 1) = 10 * 10 ^ c.emax := by
        rw [ten_zpow_add, zpow_one, mul_comm]
      have hunit : (10 : ℚ) ^ c.quantum x ≤ 10 ^ c.emax := ten_zpow_le.mpr (by omega)
      exact iff_of_false (by linarith) (by linarith)

theorem round_eq_error_iff (hp : 0 < c.precision) (hrange : c.emin ≤ c.emax) :
    c.round x = .error .overflow ↔ c.limit ≤ |x| := by
  obtain rfl | hx := eq_or_ne x 0
  · rw [round_zero, abs_zero]
    exact iff_of_false (by simp)
      (not_le.mpr ((ten_zpow_pos _).trans_le (limit_bounds (c := c)).1))
  · rw [round_eq hx, ← overflows_iff hp hrange hx]
    split
    · next h => exact iff_of_true rfl h
    · next h => exact iff_of_false (by simp) h

/-- A number below the limit is rounded. -/
theorem exists_round (hp : 0 < c.precision) (hrange : c.emin ≤ c.emax) (h : |x| < c.limit) :
    ∃ y, c.round x = .ok y := by
  cases hround : c.round x with
  | ok y => exact ⟨y, rfl⟩
  | error signal =>
      have hoverflow : c.round x = .error .overflow := by
        unfold round at hround ⊢
        split at hround
        · cases hround
        · dsimp only at hround ⊢
          split at hround
          · next hx hover => rw [if_neg hx, if_pos hover]
          · cases hround
      exact absurd ((round_eq_error_iff hp hrange).mp hoverflow) (not_le.mpr h)

/-- What a context rounds to, it keeps. -/
theorem fits_of_round_eq (hp : 0 < c.precision) (h : c.round x = .ok y) : c.Fits y := by
  obtain rfl | hx := eq_or_ne x 0
  · cases round_zero.symm.trans h
    exact fits_zero
  · rw [round_eq hx] at h
    split at h
    · cases h
    · next hrange =>
        cases h
        have hpos := ten_zpow_pos (c.quantum x)
        have hsmall : |c.rounded x| < 10 ^ (c.emax + 1) := by
          by_cases hzero : c.rounded x = 0
          · rw [hzero, abs_zero]
            exact ten_zpow_pos _
          · rw [← adjusted_lt_iff hzero]
            by_contra hover
            exact hrange ⟨hzero, by omega⟩
        have hq : c.emin - (c.precision - 1) ≤ c.quantum x := by
          unfold quantum
          omega
        have hle : |x| / 10 ^ c.quantum x ≤ ((10 ^ c.precision : ℤ) : ℚ) := by
          rw [div_le_iff₀ hpos]
          refine (adjusted_spec hx).2.le.trans ?_
          push_cast
          rw [← zpow_natCast, ← ten_zpow_add, ten_zpow_le]
          unfold quantum
          omega
        have hdigits : |roundHalfEven (x / 10 ^ c.quantum x)| ≤ 10 ^ c.precision := by
          rw [abs_roundHalfEven, abs_div, abs_of_pos hpos]
          exact roundHalfEven_le hle
        obtain hlt | heq := hdigits.lt_or_eq
        · exact ⟨_, c.quantum x, rfl, hlt, hq, hsmall⟩
        · -- the next power of ten has a digit less and an exponent more
          obtain ⟨k, hk⟩ : ∃ k, c.precision = k + 1 := ⟨c.precision - 1, by omega⟩
          obtain ⟨m, hm, hmabs⟩ : ∃ m : ℤ, roundHalfEven (x / 10 ^ c.quantum x) = m * 10 ∧
              |m| < 10 ^ c.precision := by
            obtain h | h := abs_eq (pow_nonneg (by norm_num) _) |>.mp heq
            · refine ⟨10 ^ k, by rw [h, hk, pow_succ], ?_⟩
              rw [abs_of_pos (by positivity), hk]
              exact pow_lt_pow_right₀ (by norm_num) (by omega)
            · refine ⟨-10 ^ k, by rw [h, hk, pow_succ, neg_mul], ?_⟩
              rw [abs_neg, abs_of_pos (by positivity), hk]
              exact pow_lt_pow_right₀ (by norm_num) (by omega)
          refine ⟨m, c.quantum x + 1, ?_, hmabs, by omega, hsmall⟩
          unfold rounded
          rw [hm, ten_zpow_add, zpow_one]
          push_cast
          ring

/-! ## Sums -/

/-- Every sum of some of the numbers is kept, so that no order of adding
them is rounded. -/
def SumsFit (c : Context) (amounts : List ℚ) : Prop :=
  ∀ part : List ℚ, part.Subperm amounts → c.Fits part.sum

theorem SumsFit.perm {amounts amounts' : List ℚ} (h : c.SumsFit amounts)
    (hperm : amounts.Perm amounts') : c.SumsFit amounts' :=
  fun part hpart => h part (hperm.subperm_left.mpr hpart)

end Context

end ContextDecimal
