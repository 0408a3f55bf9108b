/-
# `Lib.ByteMessages` — messages as concatenated byte strings

Integers of a fixed width in bytes, and texts in UTF-8.  A concatenation is
read back from left to right: a part of known length, or one that follows
its own length, is determined by the bytes of the whole
(`sized_inj`).
-/
import Mathlib.Data.List.Basic
import Mathlib.Algebra.Order.Ring.Int
import Mathlib.Tactic.NormNum.Basic

namespace ByteMessages

abbrev Bytes : Type := List UInt8

/-! ## Integers -/

/-- The low bytes of a number, the least first. -/
def littleBytes : Nat → Nat → Bytes
  | 0, _ => []
  | width + 1, n => UInt8.ofNat (n % 256) :: littleBytes width (n / 256)

/-- `n.to_bytes(width, "little")`. -/
def toLittle (width n : Nat) : Option Bytes :=
  if n < 256 ^ width then some (littleBytes width n) else none

/-- `n.to_bytes(width, "big", signed=True)`. -/
def toBigSigned (width : Nat) (n : Int) : Option Bytes :=
  if -(256 ^ width : Int) ≤ 2 * n ∧ 2 * n < 256 ^ width then
    some (littleBytes width (n % 256 ^ width).toNat).reverse
  else none

theorem length_littleBytes (width n : Nat) : (littleBytes width n).length = width := by
  induction width generalizing n with
  | zero => rfl
  | succ width ih => rw [littleBytes, List.length_cons, ih]

theorem littleBytes_inj {width m n : Nat} (hm : m < 256 ^ width) (hn : n < 256 ^ width)
    (h : littleBytes width m = littleBytes width n) : m = n := by
  induction width generalizing m n with
  | zero => omega
  | succ width ih =>
      rw [Nat.pow_succ] at hm hn
      rw [littleBytes, littleBytes, List.cons.injEq] at h
      have low : m % 256 = n % 256 := by
        have := congrArg UInt8.toNat h.1
        simpa using this
      have high : m / 256 = n / 256 :=
        ih (Nat.div_lt_of_lt_mul (by omega)) (Nat.div_lt_of_lt_mul (by omega)) h.2
      omega

theorem length_toLittle {width n : Nat} {bytes : Bytes} (h : toLittle width n = some bytes) :
    bytes.length = width := by
  unfold toLittle at h
  split at h
  · rw [← Option.some.inj h, length_littleBytes]
  · cases h

theorem toLittle_inj {width m n : Nat} {bytes : Bytes} (hm : toLittle width m = some bytes)
    (hn : toLittle width n = some bytes) : m = n := by
  unfold toLittle at hm hn
  split at hm
  · next hlt =>
      split at hn
      · next hlt' => exact littleBytes_inj hlt hlt' (Option.some.inj (hm.trans hn.symm))
      · cases hn
  · cases hm

theorem length_toBigSigned {width : Nat} {n : Int} {bytes : Bytes}
    (h : toBigSigned width n = some bytes) : bytes.length = width := by
  unfold toBigSigned at h
  split at h
  · rw [← Option.some.inj h, List.length_reverse, length_littleBytes]
  · cases h

/-- Two numbers of one residue, in a half-open range of one modulus. -/
theorem eq_of_emod_eq {m n modulus : Int}
    (hm : -modulus ≤ 2 * m ∧ 2 * m < modulus) (hn : -modulus ≤ 2 * n ∧ 2 * n < modulus)
    (h : m % modulus = n % modulus) : m = n := by
  have hdvd : modulus ∣ m - n := Int.dvd_of_emod_eq_zero (Int.emod_eq_emod_iff_emod_sub_eq_zero.mp h)
  have hzero : m - n = 0 := Int.eq_zero_of_abs_lt_dvd hdvd (abs_lt.mpr (by omega))
  omega

theorem toBigSigned_inj {width : Nat} {m n : Int} {bytes : Bytes}
    (hm : toBigSigned width m = some bytes) (hn : toBigSigned width n = some bytes) : m = n := by
  unfold toBigSigned at hm hn
  split at hm
  case isFalse => cases hm
  case isTrue hrange =>
    split at hn
    case isFalse => cases hn
    case isTrue hrange' =>
      have hpos : (0 : Int) < 256 ^ width := Int.pow_pos (by decide)
      have hlt : ∀ k : Int, (k % 256 ^ width).toNat < 256 ^ width := by
        intro k
        have hk : k % 256 ^ width < 256 ^ width := Int.emod_lt_of_pos k hpos
        exact (Int.toNat_lt (Int.emod_nonneg k hpos.ne')).mpr (by exact_mod_cast hk)
      have hbytes := List.reverse_injective (Option.some.inj (hm.trans hn.symm))
      have heq := littleBytes_inj (hlt m) (hlt n) hbytes
      refine eq_of_emod_eq hrange hrange' ?_
      rw [← Int.toNat_of_nonneg (Int.emod_nonneg m hpos.ne'), heq,
        Int.toNat_of_nonneg (Int.emod_nonneg n hpos.ne')]

/-! ## Texts -/

/-- `value.encode()`. -/
def encode (value : String) : Bytes := value.toByteArray.data.toList

theorem encode_inj {s t : String} (h : encode s = encode t) : s = t := by
  have harray : s.toByteArray.data = t.toByteArray.data := Array.toList_inj.mp h
  exact String.toByteArray_inj.mp (ByteArray.ext harray)

/-! ## Concatenations -/

/-- A text after its own length, and the rest. -/
theorem sized_inj {width : Nat} {a b c d size size' : Bytes}
    (hsize : toLittle width a.length = some size) (hsize' : toLittle width b.length = some size')
    (h : size ++ (a ++ c) = size' ++ (b ++ d)) : a = b ∧ c = d := by
  obtain ⟨hsizes, hrest⟩ :=
    List.append_inj h ((length_toLittle hsize).trans (length_toLittle hsize').symm)
  rw [← hsizes] at hsize'
  exact List.append_inj hrest (toLittle_inj hsize hsize')

end ByteMessages
