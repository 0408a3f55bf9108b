/-
# `Lib.DoubleRounding` — rounding twice

A number rounded half even to a power of ten, and then half up to another.
`RoundsAlike` says of the number itself when the first rounding makes no
difference to the second (`halfUp_halfEven_iff`): the digits it drops either
leave a multiple that is near enough, or do not reach the next half.
-/
import Mathlib.Tactic.Ring
import Mathlib.Tactic.Linarith

namespace DoubleRounding

/-- The nearest multiple of `u`, of two the greater, in units of `u`. -/
def halfUp (u n : Nat) : Nat := (2 * n + u) / (2 * u)

/-- The nearest multiple of `w`, of two the even one, in units of `w`. -/
def halfEven (w n : Nat) : Nat :=
  if w < 2 * (n % w) ∨ w = 2 * (n % w) ∧ n / w % 2 = 1 then n / w + 1 else n / w

/-- Rounding half even to `10 ^ k` first makes no difference to rounding half
up to `10 ^ m`. -/
def RoundsAlike (k m n : Nat) : Prop :=
  if m < k then 2 * (n % 10 ^ k) < 10 ^ m ∨ 2 * (10 ^ k - n % 10 ^ k) ≤ 10 ^ m
  else if m = k then ¬ (2 * (n % 10 ^ k) = 10 ^ k ∧ n / 10 ^ k % 2 = 0)
  else ¬ (2 * (n % 10 ^ m) < 10 ^ m ∧ (10 ^ m < 2 * (n % 10 ^ m) + 10 ^ k ∨
    10 ^ m = 2 * (n % 10 ^ m) + 10 ^ k ∧ k + 1 < m))

instance (k m n : Nat) : Decidable (RoundsAlike k m n) := by
  unfold RoundsAlike
  infer_instance

variable {u w t a x n : Nat}

theorem halfUp_mul (hu : 0 < u) (a : Nat) : halfUp u (u * a) = a := by
  unfold halfUp
  have hsum : 2 * (u * a) + u = u + (2 * u) * a := by ring
  rw [hsum, Nat.add_mul_div_left _ _ (by omega), Nat.div_eq_of_lt (by omega), Nat.zero_add]

/-- A multiple of the unit goes through. -/
theorem halfUp_add_mul (hu : 0 < u) (a x : Nat) : halfUp u (u * a + x) = a + halfUp u x := by
  unfold halfUp
  have hsum : 2 * (u * a + x) + u = (2 * x + u) + (2 * u) * a := by ring
  rw [hsum, Nat.add_mul_div_left _ _ (by omega), Nat.add_comm]

theorem halfUp_small (hx : x < u) : halfUp u x = if u ≤ 2 * x then 1 else 0 := by
  unfold halfUp
  split
  · exact Nat.div_eq_of_lt_le (by omega) (by omega)
  · exact Nat.div_eq_of_lt (by omega)

theorem halfEven_eq (hx : x < w) : halfEven w (w * a + x) =
    a + if w < 2 * x ∨ w = 2 * x ∧ a % 2 = 1 then 1 else 0 := by
  have hw : 0 < w := by omega
  unfold halfEven
  rw [Nat.mul_add_mod, Nat.mod_eq_of_lt hx, Nat.mul_add_div hw, Nat.div_eq_of_lt hx, Nat.add_zero]
  split <;> rfl

/-- The unit is finer than the digits dropped. -/
theorem halfUp_halfEven_finer (hu : 0 < u) (ht : 2 ≤ t) (hx : x < u * t) :
    halfUp u (u * t * halfEven (u * t) (u * t * a + x)) = halfUp u (u * t * a + x) ↔
      2 * x < u ∨ 2 * (u * t - x) ≤ u := by
  have hut : 2 * u ≤ u * t := by
    rw [Nat.mul_comm 2 u]
    exact Nat.mul_le_mul_left u ht
  rw [halfEven_eq hx, Nat.mul_assoc, halfUp_mul hu, Nat.mul_assoc, halfUp_add_mul hu]
  split
  · next hup =>
      have hx2 : u * t ≤ 2 * x := by omega
      rw [Nat.mul_add, Nat.mul_one, Nat.add_left_cancel_iff]
      have hiff : t = halfUp u x ↔ 2 * (u * t - x) ≤ u := by
        unfold halfUp
        rw [eq_comm, Nat.div_eq_iff (by omega)]
        constructor
        · rintro ⟨hlo, -⟩
          have : t * (2 * u) = 2 * (u * t) := by ring
          omega
        · intro h
          have : t * (2 * u) = 2 * (u * t) := by ring
          constructor <;> omega
      rw [hiff]
      constructor
      · exact .inr
      · rintro (h | h)
        · omega
        · exact h
  · next hdown =>
      have hx2 : 2 * x ≤ u * t := by omega
      rw [Nat.add_zero, Nat.left_eq_add]
      have hiff : halfUp u x = 0 ↔ 2 * x < u := by
        unfold halfUp
        rw [Nat.div_eq_zero_iff]
        constructor <;> omega
      rw [hiff]
      constructor
      · exact .inl
      · rintro (h | h)
        · exact h
        · omega

/-- The unit is the digits dropped. -/
theorem halfUp_halfEven_same (hx : x < w) :
    halfUp w (w * halfEven w (w * a + x)) = halfUp w (w * a + x) ↔
      ¬ (2 * x = w ∧ a % 2 = 0) := by
  have hw : 0 < w := by omega
  rw [halfUp_mul hw, halfEven_eq hx, halfUp_add_mul hw, halfUp_small hx, Nat.add_left_cancel_iff]
  split <;> split <;> omega

/-- The unit is coarser than the digits dropped. -/
theorem halfUp_halfEven_coarser {h q s : Nat} (hh : 0 < h) (hx : x < w) (hs : s < 2 * h) :
    halfUp (w * (2 * h)) (w * halfEven w (w * (2 * h * q + s) + x)) =
        halfUp (w * (2 * h)) (w * (2 * h * q + s) + x) ↔
      ¬ (s + 1 = h ∧ (w < 2 * x ∨ w = 2 * x ∧ (2 * h * q + s) % 2 = 1)) := by
  have hw : 0 < w := by omega
  have hu : 0 < w * (2 * h) := Nat.mul_pos hw (by omega)
  -- the carry of the first rounding
  generalize hb : (if w < 2 * x ∨ w = 2 * x ∧ (2 * h * q + s) % 2 = 1 then 1 else 0) = b
  have hleft : w * (2 * h * q + s + b) = w * (2 * h) * q + w * (s + b) := by ring
  have hright : w * (2 * h * q + s) + x = w * (2 * h) * q + (w * s + x) := by ring
  rw [halfEven_eq hx, hb, hleft, hright, halfUp_add_mul hu, halfUp_add_mul hu,
    Nat.add_left_cancel_iff]
  have hcarried : halfUp (w * (2 * h)) (w * (s + b)) = if h ≤ s + b then 1 else 0 := by
    have hb1 : b ≤ 1 := by
      subst hb
      split <;> omega
    unfold halfUp
    have hfactor : (2 * (w * (s + b)) + w * (2 * h)) / (2 * (w * (2 * h))) =
        (s + b + h) / (2 * h) := by
      have h1 : 2 * (w * (s + b)) + w * (2 * h) = 2 * w * (s + b + h) := by ring
      have h2 : 2 * (w * (2 * h)) = 2 * w * (2 * h) := by ring
      rw [h1, h2, Nat.mul_div_mul_left _ _ (by omega)]
    rw [hfactor]
    split
    · exact Nat.div_eq_of_lt_le (by omega) (by omega)
    · exact Nat.div_eq_of_lt (by omega)
  have hkept : halfUp (w * (2 * h)) (w * s + x) = if h ≤ s then 1 else 0 := by
    have hlt : w * s + x < w * (2 * h) := by
      calc w * s + x < w * s + w := Nat.add_lt_add_left hx _
        _ = w * (s + 1) := by ring
        _ ≤ w * (2 * h) := Nat.mul_le_mul_left w hs
    rw [halfUp_small hlt]
    have hiff : w * (2 * h) ≤ 2 * (w * s + x) ↔ h ≤ s := by
      constructor
      · intro hle
        by_contra hnot
        have hsh : s + 1 ≤ h := by omega
        have : w * (s + 1) ≤ w * h := Nat.mul_le_mul_left w hsh
        have e1 : w * (2 * h) = 2 * (w * h) := by ring
        have e2 : w * (s + 1) = w * s + w := by ring
        omega
      · intro hle
        have : w * h ≤ w * s := Nat.mul_le_mul_left w hle
        have e1 : w * (2 * h) = 2 * (w * h) := by ring
        omega
    simp only [hiff]
  rw [hcarried, hkept]
  subst hb
  split <;> split <;> split <;> omega

/-- The kept digits are those of a half less one, and the dropped ones round
up. -/
theorem just_below_half {h s : Nat} {P : Prop} (hx : x < w) :
    s + 1 = h ∧ (w < 2 * x ∨ w = 2 * x ∧ P) ↔ 2 * (w * s + x) < w * (2 * h) ∧
      (w * (2 * h) < 2 * (w * s + x) + w ∨ w * (2 * h) = 2 * (w * s + x) + w ∧ P) := by
  have hdouble : w * (2 * h) = 2 * (w * h) := by ring
  rw [hdouble]
  rcases Nat.lt_trichotomy (s + 1) h with hlt | rfl | hgt
  · -- at least two below the half
    have hle : w * (s + 2) ≤ w * h := Nat.mul_le_mul_left w hlt
    have hsum : w * (s + 2) = w * s + 2 * w := by ring
    constructor
    · rintro ⟨heq, -⟩
      omega
    · rintro ⟨-, h | ⟨h, -⟩⟩ <;> omega
  · have hsum : w * (s + 1) = w * s + w := by ring
    rw [hsum]
    constructor
    · rintro ⟨-, h⟩
      exact ⟨by omega, h.imp (fun h => by omega) fun h => ⟨by omega, h.2⟩⟩
    · rintro ⟨-, h⟩
      exact ⟨rfl, h.imp (fun h => by omega) fun h => ⟨by omega, h.2⟩⟩
  · have hle : w * h ≤ w * s := Nat.mul_le_mul_left w (by omega)
    constructor
    · rintro ⟨heq, -⟩
      omega
    · rintro ⟨h, -⟩
      omega

/-- The digits above the first rounding and below the second. -/
theorem mod_coarser {k m : Nat} (h : k ≤ m) (n : Nat) :
    n % 10 ^ m = 10 ^ k * (n / 10 ^ k % 10 ^ (m - k)) + n % 10 ^ k := by
  obtain ⟨j, rfl⟩ := Nat.exists_eq_add_of_le h
  rw [Nat.add_sub_cancel_left, Nat.pow_add, Nat.mod_mul, Nat.add_comm]

theorem halfUp_halfEven_iff (k m n : Nat) :
    halfUp (10 ^ m) (10 ^ k * halfEven (10 ^ k) n) = halfUp (10 ^ m) n ↔ RoundsAlike k m n := by
  have hw : 0 < 10 ^ k := Nat.pow_pos (by decide)
  have hx : n % 10 ^ k < 10 ^ k := Nat.mod_lt n hw
  have hn : n = 10 ^ k * (n / 10 ^ k) + n % 10 ^ k := (Nat.div_add_mod n _).symm
  unfold RoundsAlike
  split
  · next hmk =>
      obtain ⟨j, rfl⟩ := Nat.exists_eq_add_of_lt hmk
      have hpow : 10 ^ (m + j + 1) = 10 ^ m * 10 ^ (j + 1) := by rw [Nat.add_assoc, Nat.pow_add]
      have ht : 2 ≤ 10 ^ (j + 1) := by
        rw [Nat.pow_succ]
        have : 0 < 10 ^ j := Nat.pow_pos (by decide)
        omega
      rw [hpow] at hn hx ⊢
      have key := halfUp_halfEven_finer (a := n / (10 ^ m * 10 ^ (j + 1)))
        (Nat.pow_pos (by decide)) ht hx
      rwa [← hn] at key
  · split
    · next heq =>
        subst heq
        have key := halfUp_halfEven_same (a := n / 10 ^ m) hx
        rwa [← hn] at key
    · next hmk hne =>
        have hkm : k < m := by omega
        obtain ⟨j, rfl⟩ := Nat.exists_eq_add_of_lt hkm
        have hh : 0 < 5 * 10 ^ j := Nat.mul_pos (by decide) (Nat.pow_pos (by decide))
        have htwo : 10 ^ (j + 1) = 2 * (5 * 10 ^ j) := by rw [Nat.pow_succ]; omega
        have hpow : 10 ^ (k + j + 1) = 10 ^ k * (2 * (5 * 10 ^ j)) := by
          rw [Nat.add_assoc, Nat.pow_add, htwo]
        have hmod := mod_coarser (Nat.le_of_lt hkm) n
        have hsub : k + j + 1 - k = j + 1 := by omega
        rw [hsub, htwo] at hmod
        have hs : n / 10 ^ k % (2 * (5 * 10 ^ j)) < 2 * (5 * 10 ^ j) := Nat.mod_lt _ (by omega)
        have ha : 2 * (5 * 10 ^ j) * (n / 10 ^ k / (2 * (5 * 10 ^ j))) +
            n / 10 ^ k % (2 * (5 * 10 ^ j)) = n / 10 ^ k := Nat.div_add_mod _ _
        have key := halfUp_halfEven_coarser (q := n / 10 ^ k / (2 * (5 * 10 ^ j))) hh hx hs
        rw [ha, ← hn, ← hpow] at key
        rw [key, not_iff_not, hmod, hpow]
        -- just below a half the last digit kept is a 4 where it is the only one, else a 9
        have hodd : n / 10 ^ k % (2 * (5 * 10 ^ j)) + 1 = 5 * 10 ^ j →
            (n / 10 ^ k % 2 = 1 ↔ k + 1 < k + j + 1) := by
          intro hhalf
          have hparity : n / 10 ^ k % 2 = n / 10 ^ k % (2 * (5 * 10 ^ j)) % 2 :=
            (Nat.mod_mul_right_mod _ 2 _).symm
          cases j with
          | zero => omega
          | succ j =>
              have hten : 5 * 10 ^ (j + 1) = 2 * (25 * 10 ^ j) := by rw [Nat.pow_succ]; omega
              omega
        rw [← just_below_half hx]
        exact and_congr_right fun hhalf => or_congr_right (and_congr_right fun _ => hodd hhalf)

end DoubleRounding
