/-
# `KeySort` — sorting by a key

A list sorted by the keys of its elements does not depend on the order it is
given in, where elements of one key are one element (`sort_perm`).  A list
without its repetitions has two elements where two of its elements differ.
-/
import Mathlib.Algebra.Order.Ring.Nat
import Mathlib.Data.List.Dedup

namespace KeySort

universe u v

variable {F : Type u} {κ : Type v}

/-- A decidable linear order, as a list is sorted by it. -/
structure Order (le : κ → κ → Bool) : Prop where
  trans : ∀ a b c, le a b = true → le b c = true → le a c = true
  total : ∀ a b, (le a b || le b a) = true
  antisymm : ∀ a b, le a b = true → le b a = true → a = b

theorem order_le [LinearOrder κ] : Order fun a b : κ => decide (a ≤ b) where
  trans a b c hab hbc := decide_eq_true (le_trans (of_decide_eq_true hab) (of_decide_eq_true hbc))
  total a b := by simpa using le_total a b
  antisymm a b hab hba := le_antisymm (of_decide_eq_true hab) (of_decide_eq_true hba)

/-- The list in the order of its keys. -/
def sortBy (le : κ → κ → Bool) (key : F → κ) (l : List F) : List F :=
  l.mergeSort fun a b => le (key a) (key b)

variable {le : κ → κ → Bool} {key : F → κ} {l l' : List F}

theorem sortBy_perm (le : κ → κ → Bool) (key : F → κ) (l : List F) : (sortBy le key l).Perm l :=
  List.mergeSort_perm l _

theorem sortBy_pairwise (order : Order le) (key : F → κ) (l : List F) :
    (sortBy le key l).Pairwise fun a b => le (key a) (key b) = true := by
  unfold sortBy
  apply List.pairwise_mergeSort
  · exact fun a b c => order.trans (key a) (key b) (key c)
  · exact fun a b => order.total (key a) (key b)

/-- Two lists of the same elements are sorted alike, where elements of one
key are one element. -/
theorem sort_perm (order : Order le) (same : ∀ a ∈ l, ∀ b ∈ l, key a = key b → a = b)
    (h : l.Perm l') : sortBy le key l = sortBy le key l' := by
  refine List.Perm.eq_of_pairwise ?_ (sortBy_pairwise order key l) (sortBy_pairwise order key l')
    ((sortBy_perm le key l).trans (h.trans (sortBy_perm le key l').symm))
  intro a b ha hb hab hba
  exact same a ((sortBy_perm le key l).mem_iff.mp ha) b
    (h.mem_iff.mpr ((sortBy_perm le key l').mem_iff.mp hb)) (order.antisymm _ _ hab hba)

theorem sort_perm_of_nodup (order : Order le) (distinct : (l.map key).Nodup) (h : l.Perm l') :
    sortBy le key l = sortBy le key l' :=
  sort_perm order (fun _ ha _ hb heq => List.inj_on_of_nodup_map distinct ha hb heq) h

/-- What is read off a sorted list, where the key is read off it too. -/
theorem map_sortBy {G : Type u} {key' : G → κ} {f : F → G} (h : ∀ a, key' (f a) = key a) :
    (sortBy le key l).map f = sortBy le key' (l.map f) :=
  List.map_mergeSort fun a _ b _ => by rw [h, h]

/-! ## Without repetitions -/

variable [DecidableEq κ]

/-- The distinct values of a list, sorted. -/
theorem sort_dedup_perm (order : Order le) {l l' : List κ} (h : l.Perm l') :
    l.dedup.mergeSort le = l'.dedup.mergeSort le :=
  sort_perm (F := κ) order (fun _ _ _ _ heq => heq) h.dedup

theorem two_le_length_dedup {l : List κ} : 2 ≤ l.dedup.length ↔ ∃ a ∈ l, ∃ b ∈ l, a ≠ b := by
  constructor
  · intro h
    match hl : l.dedup with
    | [] => rw [hl] at h; simp at h
    | [_] => rw [hl] at h; simp at h
    | a :: b :: rest =>
        have hnodup := List.nodup_dedup l
        rw [hl] at hnodup
        refine ⟨a, List.mem_dedup.mp (by simp [hl]), b, List.mem_dedup.mp (by simp [hl]), ?_⟩
        rintro rfl
        exact (List.nodup_cons.mp hnodup).1 List.mem_cons_self
  · rintro ⟨a, ha, b, hb, hne⟩
    by_contra hlt
    have hsub : ∀ x ∈ l.dedup, ∀ y ∈ l.dedup, x = y := by
      intro x hx y hy
      match hl : l.dedup with
      | [] => rw [hl] at hx; cases hx
      | [c] =>
          rw [hl] at hx hy
          rw [List.mem_singleton.mp hx, List.mem_singleton.mp hy]
      | _ :: _ :: _ => rw [hl] at hlt; exact absurd hlt (by simp)
    exact hne (hsub a (List.mem_dedup.mpr ha) b (List.mem_dedup.mpr hb))

end KeySort
