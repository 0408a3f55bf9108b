/-
# `Lib.Crc` — cyclic redundancy checks, a bit at a time

The remainder of a message is linear in its bits (`run_xor`), and a run of
zeros loses nothing of a remainder where the polynomial has its lowest bit
(`run_zeros_eq_zero`).  A message followed by its own checksum has the
remainder zero, and no other checksum has it (`run_checksum`); two such
messages that differ in one block have blocks whose difference alone has the
remainder zero (`run_burst`).
-/
import Mathlib.Data.List.Basic

namespace Crc

variable {w : Nat} {poly s t : BitVec w} {bits bits' : List Bool} {b : Bool}

/-- One bit, most significant first. -/
def step (poly s : BitVec w) (b : Bool) : BitVec w :=
  if s.msb ^^ b then (s <<< 1) ^^^ poly else s <<< 1

def run (poly s : BitVec w) (bits : List Bool) : BitVec w := bits.foldl (step poly) s

theorem run_append (poly s : BitVec w) (bits bits' : List Bool) :
    run poly s (bits ++ bits') = run poly (run poly s bits) bits' := List.foldl_append

/-! ## Linearity -/

theorem step_eq (poly s : BitVec w) (b : Bool) :
    step poly s b = s <<< 1 ^^^ if s.msb ^^ b then poly else 0#w := by
  unfold step
  split
  · rfl
  · exact BitVec.xor_zero.symm

theorem xor_ite (s t poly : BitVec w) (a b : Bool) :
    (s ^^^ t) ^^^ (if a ^^ b then poly else 0#w) =
      (s ^^^ if a then poly else 0#w) ^^^ (t ^^^ if b then poly else 0#w) := by
  refine BitVec.eq_of_getLsbD_eq fun i _ => ?_
  simp only [BitVec.getLsbD_xor]
  cases a <;> cases b <;> cases s.getLsbD i <;> cases t.getLsbD i <;> simp

theorem step_xor (poly s t : BitVec w) (a b : Bool) :
    step poly (s ^^^ t) (a ^^ b) = step poly s a ^^^ step poly t b := by
  rw [step_eq, step_eq, step_eq, ← xor_ite, BitVec.msb_xor, BitVec.shiftLeft_xor_distrib]
  congr 2
  cases s.msb <;> cases t.msb <;> cases a <;> cases b <;> rfl

theorem run_xor (poly s t : BitVec w) (h : bits.length = bits'.length) :
    run poly (s ^^^ t) (List.zipWith xor bits bits') = run poly s bits ^^^ run poly t bits' := by
  induction bits generalizing bits' s t with
  | nil =>
      rw [List.length_eq_zero_iff.mp h.symm]
      rfl
  | cons a bits ih =>
      cases bits' with
      | nil => cases h
      | cons b bits' =>
          have hstep := ih (step poly s a) (step poly t b) (Nat.succ.inj h)
          rw [← step_xor] at hstep
          exact hstep

/-! ## Zeros -/

theorem run_zero_zeros (poly : BitVec w) (n : Nat) :
    run poly 0#w (List.replicate n false) = 0#w := by
  induction n with
  | zero => rfl
  | succ n ih =>
      have hstep : step poly 0#w false = 0#w := by simp [step]
      show run poly (step poly 0#w false) (List.replicate n false) = 0#w
      rw [hstep, ih]

theorem step_false_eq_zero (hpoly : poly.getLsbD 0 = true) :
    step poly s false = 0#w ↔ s = 0#w := by
  constructor
  · intro h
    unfold step at h
    rw [Bool.xor_false] at h
    have hw : 0 < w := by
      by_contra hw
      simp [BitVec.getLsbD_of_ge poly 0 (by omega)] at hpoly
    split at h
    · have hbit := congrArg (·.getLsbD 0) h
      simp [hpoly, BitVec.getLsbD_shiftLeft] at hbit
    · next hmsb =>
        refine BitVec.eq_of_getMsbD_eq fun i hi => ?_
        rw [BitVec.getMsbD_zero]
        cases i with
        | zero => simpa [BitVec.msb] using hmsb
        | succ i =>
            have hbit := congrArg (·.getMsbD i) h
            simpa [BitVec.getMsbD_shiftLeft] using hbit
  · rintro rfl
    simp [step]

theorem run_zeros_eq_zero (hpoly : poly.getLsbD 0 = true) (s : BitVec w) (n : Nat) :
    run poly s (List.replicate n false) = 0#w ↔ s = 0#w := by
  induction n generalizing s with
  | zero => exact Iff.rfl
  | succ n ih => exact (ih (step poly s false)).trans (step_false_eq_zero hpoly)

/-! ## Checksums -/

/-- Bits at the top of a register. -/
def top : (w : Nat) → List Bool → BitVec w
  | _, [] => 0
  | w, b :: bits => (if b then BitVec.intMin w else 0) ^^^ (top w bits >>> 1)

/-- The bits of a register, most significant first. -/
def msbBits (c : BitVec w) : List Bool := (List.range w).map c.getMsbD

theorem getMsbD_top (bits : List Bool) (i : Nat) :
    (top w bits).getMsbD i = (decide (i < w) && bits.getD i false) := by
  induction bits generalizing i with
  | nil => simp [top]
  | cons b bits ih =>
      unfold top
      rw [BitVec.getMsbD_xor, BitVec.getMsbD_ushiftRight]
      cases i with
      | zero => cases b <;> simp [BitVec.getMsbD_intMin]
      | succ i =>
          have hpos : (if b then BitVec.intMin w else 0).getMsbD (i + 1) = false := by
            cases b <;> simp [BitVec.getMsbD_intMin]
          rw [hpos, Nat.add_sub_cancel, ih]
          by_cases hi : i + 1 < w
          · have hi' : i < w := by omega
            simp [hi, hi']
          · simp [hi]

theorem top_msbBits (c : BitVec w) : top w (msbBits c) = c := by
  refine BitVec.eq_of_getMsbD_eq fun i hi => ?_
  rw [getMsbD_top]
  simp [msbBits, hi]

/-- A bit of the message added at the top of the register. -/
theorem step_top (poly s : BitVec w) (hlength : bits.length < w) (b : Bool) :
    step poly (s ^^^ top w (b :: bits)) false = step poly s b ^^^ top w bits := by
  have htop : step poly (if b then BitVec.intMin w else 0) b = 0#w := by
    have hw : 0 < w := by omega
    cases b
    · simp [step]
    · refine BitVec.eq_of_getMsbD_eq fun i _ => ?_
      simp [step, BitVec.msb_intMin, hw, BitVec.getMsbD_intMin]
  have hrest : step poly (top w bits >>> 1) false = top w bits := by
    have hmsb : (top w bits >>> 1).msb = false := by
      rw [BitVec.msb_ushiftRight]
      simp
    unfold step
    rw [hmsb]
    refine BitVec.eq_of_getMsbD_eq fun i hi => ?_
    rw [Bool.xor_false, if_neg (by simp), BitVec.getMsbD_shiftLeft, BitVec.getMsbD_ushiftRight,
      Nat.add_sub_cancel]
    by_cases hi' : i + 1 < w
    · simp [hi']
    · have hlast : bits.length ≤ i := by omega
      simp [hi', getMsbD_top, List.getElem?_eq_none hlast]
  have hsplit : step poly (s ^^^ top w (b :: bits)) false =
      step poly s b ^^^ (step poly (if b then BitVec.intMin w else 0) b ^^^
        step poly (top w bits >>> 1) false) := by
    rw [← step_xor, ← step_xor, top, Bool.xor_false, Bool.xor_self]
  rw [hsplit, htop, hrest, BitVec.zero_xor]

/-- A message no longer than the register, added to it at once. -/
theorem run_eq_run_zeros (poly s : BitVec w) (hlength : bits.length ≤ w) :
    run poly s bits = run poly (s ^^^ top w bits) (List.replicate bits.length false) := by
  induction bits generalizing s with
  | nil => simp [run, top]
  | cons b bits ih =>
      have hstep := ih (step poly s b) (Nat.le_of_succ_le hlength)
      rw [← step_top poly s hlength b] at hstep
      exact hstep

theorem run_checksum (hpoly : poly.getLsbD 0 = true) (s c : BitVec w) :
    run poly s (msbBits c) = 0#w ↔ s = c := by
  have hlength : (msbBits c).length = w := by simp [msbBits]
  rw [run_eq_run_zeros poly s (Nat.le_of_eq hlength), run_zeros_eq_zero hpoly, top_msbBits,
    BitVec.xor_eq_zero_iff]

/-! ## Bursts -/

theorem zipWith_xor_self (bits : List Bool) :
    List.zipWith xor bits bits = List.replicate bits.length false := by
  induction bits with
  | nil => rfl
  | cons b bits ih =>
      rw [List.zipWith_cons_cons, ih, Bool.xor_self]
      rfl

/-- Two messages of the remainder zero that differ in one block. -/
theorem run_burst (hpoly : poly.getLsbD 0 = true) {before block block' after : List Bool}
    (hlength : block.length = block'.length)
    (h : run poly 0#w (before ++ block ++ after) = 0#w)
    (h' : run poly 0#w (before ++ block' ++ after) = 0#w) :
    run poly 0#w (List.zipWith xor block block') = 0#w := by
  have hsame : (before ++ block ++ after).length = (before ++ block' ++ after).length := by
    simp [hlength]
  have hxor := run_xor poly 0#w 0#w hsame
  rw [h, h', BitVec.xor_zero, List.zipWith_append (by simp [hlength]), List.zipWith_append rfl,
    zipWith_xor_self, zipWith_xor_self, run_append, run_append, run_zero_zeros,
    run_zeros_eq_zero hpoly] at hxor
  exact hxor

end Crc
