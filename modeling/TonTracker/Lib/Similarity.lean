/-
# `Lib.Similarity` — comparing two values by a number from zero to one

The smaller over the larger, closeness within a window, the overlap of two
finite sets, and weighted averages of such numbers.  Each is one only where
the two values agree.
-/
import Mathlib.Algebra.Order.BigOperators.Group.List
import Mathlib.Algebra.Order.Field.Basic
import Mathlib.Data.Finset.Card
import Mathlib.Tactic.Linarith

namespace Similarity

variable {K : Type} [Field K] [LinearOrder K] [IsStrictOrderedRing K]

/-- From zero to one. -/
def InUnit (x : K) : Prop := 0 ≤ x ∧ x ≤ 1

/-! ## Ratios -/

variable {a b w : K}

theorem inUnit_ratio (ha : 0 ≤ a) (hb : 0 ≤ b) : InUnit (min a b / max a b) :=
  ⟨div_nonneg (le_min ha hb) (le_max_of_le_left ha),
    div_le_one_of_le₀ min_le_max (le_max_of_le_left ha)⟩

omit [IsStrictOrderedRing K] in
theorem ratio_eq_one_iff (h : max a b ≠ 0) : min a b / max a b = 1 ↔ a = b := by
  rw [div_eq_one_iff_eq h]
  exact inf_eq_sup

/-! ## Closeness -/

theorem inUnit_one_sub (h : InUnit a) : InUnit (1 - a) :=
  ⟨sub_nonneg.mpr h.2, sub_le_self 1 h.1⟩

theorem inUnit_dist (ha : InUnit a) (hb : InUnit b) : InUnit |a - b| :=
  ⟨abs_nonneg _, abs_le.mpr ⟨by linarith [ha.1, hb.2], by linarith [ha.2, hb.1]⟩⟩

theorem one_sub_dist_eq_one_iff : 1 - |a - b| = 1 ↔ a = b := by
  rw [sub_eq_self, abs_eq_zero, sub_eq_zero]

theorem inUnit_closeness (hw : 0 < w) : InUnit (max 0 (1 - |a - b| / w)) :=
  ⟨le_max_left _ _, max_le zero_le_one (sub_le_self 1 (div_nonneg (abs_nonneg _) hw.le))⟩

theorem closeness_eq_one_iff (hw : 0 < w) : max 0 (1 - |a - b| / w) = 1 ↔ a = b := by
  constructor
  · intro h
    obtain hle | hle := le_total (1 - |a - b| / w) 0
    · rw [max_eq_left hle] at h
      exact absurd h zero_ne_one
    · rw [max_eq_right hle, sub_eq_self, div_eq_zero_iff, abs_eq_zero, sub_eq_zero] at h
      exact h.resolve_right hw.ne'
  · rintro rfl
    rw [sub_self, abs_zero, zero_div, sub_zero]
    exact max_eq_right zero_le_one

/-! ## Overlap -/

section Overlap

variable {α : Type} [DecidableEq α] {s t : Finset α}

theorem inUnit_overlap : InUnit (((s ∩ t).card : K) / (s ∪ t).card) :=
  ⟨div_nonneg (Nat.cast_nonneg _) (Nat.cast_nonneg _),
    div_le_one_of_le₀ (Nat.cast_le.mpr (Finset.card_le_card Finset.inter_subset_union))
      (Nat.cast_nonneg _)⟩

theorem overlap_eq_one_iff (h : (s ∪ t).Nonempty) :
    ((s ∩ t).card : K) / (s ∪ t).card = 1 ↔ s = t := by
  have hpos : ((s ∪ t).card : K) ≠ 0 := Nat.cast_ne_zero.mpr (Finset.card_pos.mpr h).ne'
  rw [div_eq_one_iff_eq hpos, Nat.cast_inj]
  constructor
  · intro hcard
    have hset : s ∩ t = s ∪ t :=
      Finset.eq_of_subset_of_card_le Finset.inter_subset_union hcard.ge
    exact inf_eq_sup.mp hset
  · rintro rfl
    rw [Finset.inter_self, Finset.union_self]

end Overlap

/-! ## Averages -/

section Averages

variable {ι : Type} {weight value : ι → K} {l : List ι}

/-- The weighted average of the values of a list of features. -/
def average (weight value : ι → K) (l : List ι) : K :=
  (l.map fun i => value i * weight i).sum / (l.map weight).sum

theorem sum_weighted_le (hweight : ∀ i ∈ l, 0 < weight i) (hvalue : ∀ i ∈ l, value i ≤ 1) :
    (l.map fun i => value i * weight i).sum ≤ (l.map weight).sum :=
  List.sum_le_sum fun i hi => mul_le_of_le_one_left (hweight i hi).le (hvalue i hi)

theorem sum_weighted_eq_iff (hweight : ∀ i ∈ l, 0 < weight i) (hvalue : ∀ i ∈ l, value i ≤ 1) :
    (l.map fun i => value i * weight i).sum = (l.map weight).sum ↔ ∀ i ∈ l, value i = 1 := by
  induction l with
  | nil => simp
  | cons i l ih =>
      have hw := hweight i List.mem_cons_self
      have hv := mul_le_of_le_one_left hw.le (hvalue i List.mem_cons_self)
      have hrest := sum_weighted_le (fun j hj => hweight j (List.mem_cons_of_mem i hj))
        fun j hj => hvalue j (List.mem_cons_of_mem i hj)
      rw [List.map_cons, List.map_cons, List.sum_cons, List.sum_cons, List.forall_mem_cons,
        ← ih (fun j hj => hweight j (List.mem_cons_of_mem i hj))
          fun j hj => hvalue j (List.mem_cons_of_mem i hj)]
      constructor
      · intro h
        have hi : value i * weight i = weight i := by linarith
        exact ⟨mul_right_cancel₀ hw.ne' (hi.trans (one_mul _).symm), by linarith⟩
      · rintro ⟨hi, hl⟩
        rw [hi, one_mul, hl]

/-- An average of values up to one is one only where every value is. -/
theorem average_eq_one_iff (hl : l ≠ []) (hweight : ∀ i ∈ l, 0 < weight i)
    (hvalue : ∀ i ∈ l, value i ≤ 1) : average weight value l = 1 ↔ ∀ i ∈ l, value i = 1 := by
  have hpos : 0 < (l.map weight).sum :=
    List.sum_pos _ (List.forall_mem_map.mpr hweight) (mt List.map_eq_nil_iff.mp hl)
  unfold average
  rw [div_eq_one_iff_eq hpos.ne']
  exact sum_weighted_eq_iff hweight hvalue

end Averages

end Similarity
