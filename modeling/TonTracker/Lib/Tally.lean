/-
# `Lib.Tally` — the most frequent element

A dictionary of counts, in the order its keys were first met, and the first
of its largest entries.  Which one is first depends on the order of the
elements, unless one of them makes up more than half (`top_perm`).
-/
import Mathlib.Algebra.Order.Ring.Nat
import Mathlib.Data.List.Count
import Mathlib.Data.List.Induction
import Mathlib.Data.List.Nodup

namespace Tally

variable {κ : Type} [DecidableEq κ]

/-- How often a key occurs. -/
abbrev occurrences (rows : List κ) (key : κ) : Nat := rows.count key

/-- `counts[key] = counts.get(key, 0) + 1`. -/
def addOne : List (κ × Nat) → κ → List (κ × Nat)
  | [], key => [(key, 1)]
  | (k, n) :: items, key => if k = key then (k, n + 1) :: items else (k, n) :: addOne items key

/-- `counts.items()`. -/
def countItems (rows : List κ) : List (κ × Nat) := rows.foldl addOne []

/-- The first item with the largest count. -/
def firstMax : List (κ × Nat) → Option (κ × Nat)
  | [] => none
  | item :: items => some (items.foldl (fun best x => if best.2 < x.2 then x else best) item)

def top (rows : List κ) : Option (κ × Nat) := firstMax (countItems rows)

variable {rows rows' : List κ} {items : List (κ × Nat)} {key k : κ} {n : Nat}

theorem countItems_concat : countItems (rows ++ [key]) = addOne (countItems rows) key :=
  List.foldl_concat ..

/-! ## Counts -/

theorem keys_addOne : (addOne items key).map (·.1) =
    if key ∈ items.map (·.1) then items.map (·.1) else items.map (·.1) ++ [key] := by
  induction items with
  | nil => rfl
  | cons item items ih =>
      obtain ⟨k, n⟩ := item
      unfold addOne
      by_cases hk : k = key
      · simp [hk]
      · have hk' : key ≠ k := Ne.symm hk
        rw [if_neg hk, List.map_cons, ih]
        split <;> simp_all

theorem nodup_addOne (h : (items.map (·.1)).Nodup) : ((addOne items key).map (·.1)).Nodup := by
  rw [keys_addOne]
  split
  · exact h
  · next hkey => exact List.nodup_append_comm.mp (List.nodup_cons.mpr ⟨hkey, h⟩)

theorem mem_addOne_of_ne (h : k ≠ key) : (k, n) ∈ addOne items key ↔ (k, n) ∈ items := by
  induction items with
  | nil => simp [addOne, h]
  | cons item items ih =>
      obtain ⟨k', n'⟩ := item
      unfold addOne
      split
      · next hk => simp [hk, h]
      · simp [ih]

theorem mem_addOne_self (nodup : (items.map (·.1)).Nodup) : (key, n) ∈ addOne items key ↔
    (∃ m, (key, m) ∈ items ∧ n = m + 1) ∨ (key ∉ items.map (·.1) ∧ n = 1) := by
  induction items with
  | nil => simp [addOne]
  | cons item items ih =>
      obtain ⟨k, m⟩ := item
      obtain ⟨hk, nodup⟩ := List.nodup_cons.mp nodup
      unfold addOne
      split
      · next heq =>
          have hkey : ∀ m, (key, m) ∉ items := fun m hm =>
            hk (heq ▸ List.mem_map.mpr ⟨_, hm, rfl⟩)
          subst heq
          simp [hkey]
      · next hne =>
          have hne' : key ≠ k := Ne.symm hne
          simp [ih nodup, hne']

theorem nodup_countItems (rows : List κ) : ((countItems rows).map (·.1)).Nodup := by
  induction rows using List.reverseRecOn with
  | nil => exact List.nodup_nil
  | append_singleton rows key ih =>
      rw [countItems_concat]
      exact nodup_addOne ih

/-- An entry has the multiplicity of its key. -/
theorem mem_countItems : (k, n) ∈ countItems rows ↔ k ∈ rows ∧ n = rows.count k := by
  induction rows using List.reverseRecOn generalizing n with
  | nil => simp [countItems]
  | append_singleton rows key ih =>
      rw [countItems_concat, List.count_append, List.count_singleton]
      by_cases hk : k = key
      · subst hk
        rw [mem_addOne_self (nodup_countItems rows)]
        have hkeys : k ∈ (countItems rows).map (·.1) ↔ k ∈ rows := by
          simp only [List.mem_map, Prod.exists, exists_and_right, exists_eq_right, ih]
        rw [hkeys]
        simp only [ih, List.mem_append, List.mem_singleton, or_true, true_and, beq_self_eq_true,
          if_true]
        constructor
        · rintro (⟨m, ⟨-, rfl⟩, rfl⟩ | ⟨hnot, rfl⟩)
          · rfl
          · exact (congrArg (· + 1) (List.count_eq_zero_of_not_mem hnot)).symm
        · rintro rfl
          by_cases hmem : k ∈ rows
          · exact .inl ⟨_, ⟨hmem, rfl⟩, rfl⟩
          · exact .inr ⟨hmem, by rw [List.count_eq_zero_of_not_mem hmem]⟩
      · rw [mem_addOne_of_ne hk, ih]
        have hk' : (key == k) = false := beq_false_of_ne (Ne.symm hk)
        simp [hk, hk']

theorem sum_addOne : ((addOne items key).map (·.2)).sum = (items.map (·.2)).sum + 1 := by
  induction items with
  | nil => rfl
  | cons item items ih =>
      unfold addOne
      split
      · simp only [List.map_cons, List.sum_cons]
        omega
      · simp only [List.map_cons, List.sum_cons, ih]
        omega

/-- `sum(counts.values())`. -/
theorem sum_countItems (rows : List κ) : ((countItems rows).map (·.2)).sum = rows.length := by
  induction rows using List.reverseRecOn with
  | nil => rfl
  | append_singleton rows key ih => rw [countItems_concat, sum_addOne, ih, List.length_append,
      List.length_singleton]

/-! ## The first maximum -/

omit [DecidableEq κ] in
theorem foldl_max_spec (items : List (κ × Nat)) (item : κ × Nat) :
    let best := items.foldl (fun best x => if best.2 < x.2 then x else best) item
    best ∈ item :: items ∧ ∀ x ∈ item :: items, x.2 ≤ best.2 := by
  induction items generalizing item with
  | nil => exact ⟨List.mem_singleton_self item, fun x hx =>
      Nat.le_of_eq (congrArg (·.2) (List.mem_singleton.mp hx))⟩
  | cons x items ih =>
      obtain ⟨hmem, hle⟩ := ih (if item.2 < x.2 then x else item)
      have hstart : item.2 ≤ (if item.2 < x.2 then x else item).2 ∧
          x.2 ≤ (if item.2 < x.2 then x else item).2 := by
        split <;> omega
      have hfirst := hle _ List.mem_cons_self
      refine ⟨?_, fun y hy => ?_⟩
      · obtain hbest | hbest := List.mem_cons.mp hmem
        · rw [List.foldl_cons, hbest]
          split <;> simp
        · exact List.mem_cons_of_mem _ (List.mem_cons_of_mem _ hbest)
      · obtain rfl | hy := List.mem_cons.mp hy
        · exact Nat.le_trans hstart.1 hfirst
        · obtain rfl | hy := List.mem_cons.mp hy
          · exact Nat.le_trans hstart.2 hfirst
          · exact hle y (List.mem_cons_of_mem _ hy)

/-- The top element, with its multiplicity, and none above it. -/
theorem top_eq_some (h : top rows = some (k, n)) :
    k ∈ rows ∧ n = rows.count k ∧ ∀ k', rows.count k' ≤ n := by
  unfold top firstMax at h
  split at h
  · cases h
  · next item items hitems =>
      obtain ⟨hmem, hle⟩ := foldl_max_spec items item
      have hbest := Option.some.inj h
      rw [← hitems] at hmem hle
      rw [hbest] at hmem hle
      obtain ⟨hk, hn⟩ := mem_countItems.mp hmem
      refine ⟨hk, hn, fun k' => ?_⟩
      by_cases hk' : k' ∈ rows
      · exact hle _ (mem_countItems.mpr ⟨hk', rfl⟩)
      · rw [List.count_eq_zero_of_not_mem hk']
        exact Nat.zero_le n

theorem top_eq_none : top rows = none ↔ rows = [] := by
  constructor
  · intro h
    unfold top firstMax at h
    split at h
    · next hitems =>
        refine List.eq_nil_iff_forall_not_mem.mpr fun k hk => ?_
        have hmem : (k, rows.count k) ∈ countItems rows := mem_countItems.mpr ⟨hk, rfl⟩
        rw [hitems] at hmem
        cases hmem
    · cases h
  · rintro rfl
    rfl

/-- How often the top element occurs does not depend on the order. -/
theorem topCount_perm (h : rows.Perm rows') :
    (top rows).map (·.2) = (top rows').map (·.2) := by
  cases htop : top rows with
  | none =>
      have hnil := top_eq_none.mp htop
      subst hnil
      rw [List.nil_perm.mp h, top_eq_none.mpr rfl]
  | some item =>
      obtain ⟨k, n⟩ := item
      cases htop' : top rows' with
      | none =>
          have hnil := top_eq_none.mp htop'
          subst hnil
          rw [List.perm_nil.mp h, top_eq_none.mpr rfl] at htop
          cases htop
      | some item' =>
          obtain ⟨k', n'⟩ := item'
          obtain ⟨-, hn, hle⟩ := top_eq_some htop
          obtain ⟨-, hn', hle'⟩ := top_eq_some htop'
          have hfirst : n ≤ n' := by
            rw [hn, h.count_eq]
            exact hle' k
          have hsecond : n' ≤ n := by
            rw [hn', ← h.count_eq]
            exact hle k'
          exact congrArg some (Nat.le_antisymm hfirst hsecond)

/-! ## Majorities -/

/-- Two elements do not both make up more than half. -/
theorem count_add_count_le (h : k ≠ key) : rows.count k + rows.count key ≤ rows.length := by
  induction rows with
  | nil => exact Nat.le_refl 0
  | cons a rows ih =>
      rw [List.count_cons, List.count_cons, List.length_cons]
      by_cases hk : a = k
      · have hkey : a ≠ key := hk ▸ h
        simp only [hk, beq_self_eq_true, if_true, beq_iff_eq, if_neg (hk ▸ hkey)]
        omega
      · simp only [beq_iff_eq, if_neg hk]
        split <;> omega

/-- A top element of more than half is the only one. -/
theorem majority_unique (h : top rows = some (k, n)) (half : rows.length < 2 * n) :
    rows.count k = n ∧ ∀ k', rows.length < 2 * rows.count k' → k' = k := by
  obtain ⟨-, hn, -⟩ := top_eq_some h
  refine ⟨hn.symm, fun k' hk' => ?_⟩
  by_contra hne
  have hsum : rows.count k' + rows.count k ≤ rows.length := count_add_count_le hne
  omega

/-- A top element of more than half is the top element in every order. -/
theorem top_perm (hperm : rows.Perm rows') (h : top rows = some (k, n))
    (half : rows.length < 2 * n) : top rows' = some (k, n) := by
  have hcount := topCount_perm hperm
  rw [h] at hcount
  obtain ⟨⟨k', n'⟩, htop', hn'⟩ := Option.map_eq_some_iff.mp hcount.symm
  have hn' : n' = n := hn'
  subst hn'
  obtain ⟨-, hcount', -⟩ := top_eq_some htop'
  have hk' : k' = k := (majority_unique h half).2 k' (by rw [hperm.count_eq, ← hcount']; exact half)
  rw [htop', hk']

end Tally
