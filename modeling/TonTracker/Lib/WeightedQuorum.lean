/-
# `Lib.WeightedQuorum` — quorums by weight

Two sets of members that each carry more than two thirds of the whole
weight share more than a third of it.
-/
import Mathlib.Algebra.Order.BigOperators.Group.Finset
import Mathlib.Tactic.Linarith

namespace WeightedQuorum

variable {ι : Type*} [DecidableEq ι]

/-- The weight of a set of members. -/
def weight (w : ι → ℕ) (members : Finset ι) : ℕ := ∑ i ∈ members, w i

/-- More than two thirds of the weight of `all`. -/
def IsQuorum (w : ι → ℕ) (all members : Finset ι) : Prop :=
  members ⊆ all ∧ 2 * weight w all < 3 * weight w members

theorem weight_inter_add_union (w : ι → ℕ) (a b : Finset ι) :
    weight w (a ∪ b) + weight w (a ∩ b) = weight w a + weight w b :=
  Finset.sum_union_inter

omit [DecidableEq ι] in
theorem weight_mono (w : ι → ℕ) {a b : Finset ι} (h : a ⊆ b) : weight w a ≤ weight w b :=
  Finset.sum_le_sum_of_subset h

/-- Quorums intersect in more than a third. -/
theorem IsQuorum.inter {w : ι → ℕ} {all a b : Finset ι} (ha : IsQuorum w all a)
    (hb : IsQuorum w all b) : weight w all < 3 * weight w (a ∩ b) := by
  have hunion : weight w (a ∪ b) ≤ weight w all := weight_mono w (Finset.union_subset ha.1 hb.1)
  have hsum := weight_inter_add_union w a b
  have hlt := ha.2
  have hlt' := hb.2
  omega

/-- The sum over a list without repetitions is a weight. -/
theorem weight_toFinset (w : ι → ℕ) {members : List ι} (h : members.Nodup) :
    weight w members.toFinset = (members.map w).sum :=
  List.sum_toFinset w h

end WeightedQuorum
