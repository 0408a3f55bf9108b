/-
# `Lib.Reordering` — lists in another order

What does not depend on the order of a list: its extremes, its distinct
elements but for their order, and the results of a loop that may raise.
-/
import TonTracker.Lib.ExceptFold
import Mathlib.Data.List.Perm.Basic

namespace Reordering

variable {α β ε : Type}

theorem nodup_eraseDups [BEq α] [LawfulBEq α] : ∀ l : List α, l.eraseDups.Nodup
  | [] => List.nodup_nil
  | a :: l => by
      rw [List.eraseDups_cons, List.nodup_cons]
      refine ⟨fun h => ?_, nodup_eraseDups _⟩
      rw [List.mem_eraseDups, List.mem_filter] at h
      simp at h
termination_by l => l.length
decreasing_by
  simp only [List.length_cons]
  exact Nat.lt_succ_of_le (List.length_filter_le _ _)

/-- Two lists of the same elements. -/
theorem eraseDups_perm [BEq α] [LawfulBEq α] {l l' : List α} (h : ∀ a, a ∈ l ↔ a ∈ l') :
    l.eraseDups.Perm l'.eraseDups := by
  rw [List.perm_ext_iff_of_nodup (nodup_eraseDups l) (nodup_eraseDups l')]
  intro a
  rw [List.mem_eraseDups, List.mem_eraseDups, h]

variable {l l' : List α}

theorem eq_of_perm_short (h : l.Perm l') (hl : l.length ≤ 1) : l' = l := by
  match l, hl with
  | [], _ => exact List.perm_nil.mp h.symm
  | [_], _ => exact List.perm_singleton.mp h.symm

theorem min?_perm [Min α] [LE α] [Std.IsLinearOrder α] [Std.LawfulOrderMin α] (h : l.Perm l') :
    l.min? = l'.min? := by
  ext x
  rw [List.min?_eq_some_iff, List.min?_eq_some_iff, h.mem_iff]
  simp only [h.mem_iff]

theorem max?_perm [Max α] [LE α] [Std.IsLinearOrder α] [Std.LawfulOrderMax α] (h : l.Perm l') :
    l.max? = l'.max? := by
  ext x
  rw [List.max?_eq_some_iff, List.max?_eq_some_iff, h.mem_iff]
  simp only [h.mem_iff]

theorem mapM_perm {f : α → Except ε β} {values : List β} (h : l.mapM f = .ok values)
    (hl : l.Perm l') : ∃ values', l'.mapM f = .ok values' ∧ values.Perm values' := by
  obtain ⟨values', hforall, hperm⟩ :=
    List.perm_comp_forall₂ hl.symm (ExceptFold.mapM_eq_ok.mp h)
  exact ⟨values', ExceptFold.mapM_eq_ok.mpr hforall, hperm.symm⟩

end Reordering
