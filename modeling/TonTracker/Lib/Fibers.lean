/-
# `Fibers` — sums over the fibers of a key

A list whose elements have keys falls into fibers, one for each key.  Summed
fiber by fiber over distinct keys, it is summed once over the elements whose
key is among them (`sum_fibers`).
-/
import Mathlib.Algebra.BigOperators.Group.List.Basic
import Mathlib.Algebra.Order.Group.Multiset

namespace Fibers

universe u v w

variable {α : Type u} {κ : Type v} {M : Type w} [AddCommMonoid M]

/-- Two parts of a list without a common element. -/
theorem sum_filter_or (p q : α → Bool) (f : α → M) (l : List α)
    (disjoint : ∀ a ∈ l, ¬ (p a = true ∧ q a = true)) :
    ((l.filter fun a => p a || q a).map f).sum =
      ((l.filter p).map f).sum + ((l.filter q).map f).sum := by
  induction l with
  | nil => exact (zero_add 0).symm
  | cons a l ih =>
      have ih := ih fun b hb => disjoint b (List.mem_cons_of_mem a hb)
      have ha := disjoint a List.mem_cons_self
      cases hp : p a <;> cases hq : q a
      · simp [hp, hq, ih]
      · simp [hp, hq, ih, add_left_comm]
      · simp [hp, hq, ih, add_assoc]
      · exact absurd ⟨hp, hq⟩ ha

variable [DecidableEq κ]

/-- The elements with a key, summed for each of distinct keys. -/
theorem sum_fibers (key : α → Option κ) (f : α → M) (l : List α) {keys : List κ}
    (distinct : keys.Nodup) :
    (keys.map fun k => ((l.filter fun a => key a = some k).map f).sum).sum =
      ((l.filter fun a => (key a).any fun k => k ∈ keys).map f).sum := by
  induction keys with
  | nil =>
      have hnone : (l.filter fun a => (key a).any fun k => decide (k ∈ ([] : List κ))) = [] :=
        List.filter_eq_nil_iff.mpr fun a _ => by cases key a <;> simp
      rw [hnone]
      rfl
  | cons k keys ih =>
      obtain ⟨hk, hkeys⟩ := List.nodup_cons.mp distinct
      rw [List.map_cons, List.sum_cons, ih hkeys,
        ← sum_filter_or (fun a => key a = some k) (fun a => (key a).any fun k => k ∈ keys)]
      · congr 2
        apply List.filter_congr
        intro a _
        cases hkey : key a with
        | none => simp
        | some k' => simp [List.mem_cons, Bool.decide_or]
      · rintro a - ⟨hfirst, hrest⟩
        rw [decide_eq_true_iff] at hfirst
        rw [hfirst] at hrest
        exact hk (of_decide_eq_true hrest)

/-- Related lists of equal parts have equal sums. -/
theorem sum_eq_of_forall₂ {β : Type u} {R : α → β → Prop} {f : α → M} {g : β → M} {l : List α}
    {m : List β} (h : List.Forall₂ R l m) (heq : ∀ a ∈ l, ∀ b, R a b → f a = g b) :
    (l.map f).sum = (m.map g).sum := by
  induction h with
  | nil => rfl
  | @cons a b l m hab _ ih =>
      rw [List.map_cons, List.map_cons, List.sum_cons, List.sum_cons,
        heq a List.mem_cons_self b hab,
        ih fun a' ha' => heq a' (List.mem_cons_of_mem a ha')]

/-- Each element of a related list comes from one of the other. -/
theorem mem_of_forall₂ {β : Type u} {R : α → β → Prop} {l : List α} {m : List β}
    (h : List.Forall₂ R l m) :
    (∀ b ∈ m, ∃ a ∈ l, R a b) ∧ ∀ a ∈ l, ∃ b ∈ m, R a b := by
  induction h with
  | nil => exact ⟨(fun _ hb => nomatch hb), fun _ ha => nomatch ha⟩
  | @cons a b l m hab _ ih =>
      constructor
      · intro b' hb'
        rcases List.mem_cons.mp hb' with rfl | hb'
        · exact ⟨a, List.mem_cons_self, hab⟩
        · obtain ⟨a', ha', hR⟩ := ih.1 b' hb'
          exact ⟨a', List.mem_cons_of_mem a ha', hR⟩
      · intro a' ha'
        rcases List.mem_cons.mp ha' with rfl | ha'
        · exact ⟨b, List.mem_cons_self, hab⟩
        · obtain ⟨b', hb', hR⟩ := ih.2 a' ha'
          exact ⟨b', List.mem_cons_of_mem b hb', hR⟩

/-- The elements of the parts, as a sum of multisets. -/
theorem coe_flatMap {β : Type u} (f : α → List β) (l : List α) :
    ((l.flatMap f : List β) : Multiset β) = (l.map fun a => (f a : Multiset β)).sum := by
  induction l with
  | nil => rfl
  | cons a l ih =>
      rw [List.flatMap_cons, List.map_cons, List.sum_cons, ← ih, Multiset.coe_add]

end Fibers
