/-
# `Lib.FirstOccurrences` — one row for each key of a list

Rows are grouped by a key in the order their keys are first met (`grouped`),
and the first row of each group is kept with the others (`kept`).  Kept rows
and others are the list again (`flatten_kept`), so rows are neither lost nor
counted twice; and where rows of one key agree on a weight, the weights of
the kept rows grow with the list (`sum_firsts_le`).
-/
import TonTracker.Lib.ExceptRaises
import TonTracker.Lib.Groups
import Mathlib.Algebra.BigOperators.Group.List.Lemmas
import Mathlib.Algebra.Order.BigOperators.Group.List
import Mathlib.Algebra.Order.Ring.Nat

namespace FirstOccurrences

open ExceptFold (RaisesOnly)
open Groups (keysOf valuesOf)

variable {α β κ : Type} [DecidableEq κ] {key : α → κ} {l l' : List α} {a b : α} {k : κ}

/-- The rows with a key. -/
def occurrences (key : α → κ) (l : List α) (k : κ) : List α := l.filter fun a => key a = k

/-- `grouped.setdefault(key, []).append(row)`, for each row. -/
def grouped (key : α → κ) (l : List α) : List (κ × List α) :=
  l.foldl (fun groups a =>
    Groups.upsert (fun group b => group.getD [] ++ [b]) groups (key a, a)) []

/-- The rows none before which has the key. -/
def firsts (key : α → κ) (l : List α) : List α :=
  l.foldl (fun kept a => if kept.any fun b => key b = key a then kept else kept ++ [a]) []

/-- The first row of each group, with the others. -/
def kept (key : α → κ) (l : List α) : List (α × List α) :=
  (grouped key l).filterMap fun group => match group.2 with
    | [] => none
    | first :: others => some (first, others)

/-- A pass over the groups that keeps the first row of each, where the others
are alike, and names the others where there are any; no group is empty. -/
def resolve {φ ρ σ ε : Type} [DecidableEq φ] (alike : α → φ) (raised : ε)
    (activity : Nat → α → List α → ρ) (resolution : κ → α → List α → σ)
    (answer : List ρ × List σ) (group : κ × List α) : Except ε (List ρ × List σ) :=
  match group.2 with
  | [] => .ok answer
  | winner :: others => do
      ExceptFold.check (∀ other ∈ others, alike other = alike winner) raised
      return (answer.1 ++ [activity answer.1.length winner others],
        if others = [] then answer.2 else answer.2 ++ [resolution group.1 winner others])

/-- The keys, in the order they are first met. -/
def keys (key : α → κ) (l : List α) : List κ := keysOf (l.map fun a => (key a, a))

/-! ## Groups -/

theorem valuesOf_keyed (key : α → κ) (l : List α) (k : κ) :
    valuesOf (l.map fun a => (key a, a)) k = occurrences key l k := by
  unfold valuesOf occurrences
  rw [List.filterMap_map, ← List.filterMap_eq_filter]
  refine List.filterMap_congr fun a _ => ?_
  simp [Option.guard]

theorem grouped_eq (key : α → κ) (l : List α) :
    grouped key l = (keys key l).map fun k => (k, occurrences key l k) := by
  have hfold := Groups.foldl_append_eq (l.map fun a => (key a, a))
  rw [List.foldl_map] at hfold
  refine hfold.trans (List.map_congr_left fun k _ => ?_)
  rw [valuesOf_keyed]

theorem mem_occurrences : a ∈ occurrences key l k ↔ a ∈ l ∧ key a = k := by
  simp [occurrences]

theorem mem_keys : k ∈ keys key l ↔ ∃ a ∈ l, key a = k := by
  unfold keys
  rw [Groups.mem_keysOf, List.map_map]
  exact List.mem_map

theorem nodup_keys (key : α → κ) (l : List α) : (keys key l).Nodup := Groups.nodup_keysOf _

theorem occurrences_ne_nil (h : k ∈ keys key l) : occurrences key l k ≠ [] := by
  obtain ⟨a, ha, hk⟩ := mem_keys.mp h
  exact List.ne_nil_of_mem (mem_occurrences.mpr ⟨ha, hk⟩)

/-- The groups together are the list. -/
theorem flatten_grouped (key : α → κ) (l : List α) :
    ((grouped key l).flatMap (·.2)).Perm l := by
  have hperm := Groups.flatMap_valuesOf_perm (nodup_keys key l)
    (l := l.map fun a => (key a, a)) fun o ho => Groups.mem_keysOf.mpr (List.mem_map_of_mem ho)
  have hvalues : (l.map fun a => (key a, a)).map (·.2) = l := by
    rw [List.map_map]
    exact List.map_id l
  rw [hvalues] at hperm
  rw [grouped_eq, List.flatMap_map]
  exact .trans (.of_eq (List.flatMap_congr fun k _ => (valuesOf_keyed key l k).symm)) hperm

/-! ## First rows -/

theorem firsts_concat (key : α → κ) (l : List α) (a : α) :
    firsts key (l ++ [a]) =
      if (firsts key l).any fun b => key b = key a then firsts key l else firsts key l ++ [a] := by
  unfold firsts
  rw [List.foldl_append]
  rfl

theorem keys_concat (key : α → κ) (l : List α) (a : α) :
    keys key (l ++ [a]) = if key a ∈ l.map key then keys key l else keys key l ++ [key a] := by
  unfold keys
  rw [List.map_append, List.map_singleton, Groups.keysOf_concat, List.map_map]
  rfl

theorem map_key_firsts (key : α → κ) (l : List α) : (firsts key l).map key = keys key l := by
  induction l using List.reverseRecOn with
  | nil => rfl
  | append_singleton l a ih =>
      have hany : ((firsts key l).any fun b => key b = key a) = true ↔ key a ∈ l.map key := by
        rw [List.mem_map, ← mem_keys, ← ih, List.mem_map]
        simp only [List.any_eq_true, decide_eq_true_eq]
      rw [firsts_concat, keys_concat]
      by_cases h : key a ∈ l.map key
      · rw [if_pos (hany.mpr h), if_pos h, ih]
      · rw [if_neg (mt hany.mp h), if_neg h, List.map_append, ih, List.map_singleton]

theorem nodup_firsts (key : α → κ) (l : List α) : ((firsts key l).map key).Nodup := by
  rw [map_key_firsts]
  exact nodup_keys key l

theorem subset_firsts : ∀ a ∈ firsts key l, a ∈ l := by
  induction l using List.reverseRecOn with
  | nil => exact fun _ h => h
  | append_singleton l b ih =>
      rw [firsts_concat]
      intro a ha
      split at ha
      · exact List.mem_append_left _ (ih a ha)
      · obtain h | h := List.mem_append.mp ha
        · exact List.mem_append_left _ (ih a h)
        · exact List.mem_append_right _ h

theorem exists_first (key : α → κ) (h : a ∈ l) : ∃ b ∈ firsts key l, key b = key a := by
  rw [← List.mem_map, map_key_firsts]
  exact mem_keys.mpr ⟨a, h, rfl⟩

/-! ## Kept rows -/

/-- The groups, from their kept rows. -/
theorem grouped_kept (key : α → κ) (l : List α) :
    grouped key l = (kept key l).map fun rows => (key rows.1, rows.1 :: rows.2) := by
  unfold kept
  rw [List.map_filterMap]
  refine List.filterMap_some.symm.trans (List.filterMap_congr fun group hgroup => ?_)
  rw [grouped_eq] at hgroup
  obtain ⟨k, hk, rfl⟩ := List.mem_map.mp hgroup
  obtain ⟨first, others, hcons⟩ := List.exists_cons_of_ne_nil (occurrences_ne_nil hk)
  have hfirst : first ∈ occurrences key l k := hcons ▸ List.mem_cons_self
  dsimp only
  rw [hcons]
  dsimp only [Option.map_some]
  rw [(mem_occurrences.mp hfirst).2]

theorem mem_kept {rows : α × List α} (h : rows ∈ kept key l) :
    rows.1 :: rows.2 = occurrences key l (key rows.1) := by
  have hgroup : (key rows.1, rows.1 :: rows.2) ∈ grouped key l := by
    rw [grouped_kept]
    exact List.mem_map_of_mem h
  rw [grouped_eq] at hgroup
  obtain ⟨k, -, heq⟩ := List.mem_map.mp hgroup
  obtain ⟨rfl, hrows⟩ := Prod.mk.inj heq
  exact hrows.symm

theorem exists_kept (key : α → κ) (h : a ∈ l) : ∃ rows ∈ kept key l, key rows.1 = key a := by
  have hkey : key a ∈ (grouped key l).map (·.1) := by
    rw [grouped_eq, List.map_map, List.map_congr_left (fun _ _ => rfl), List.mem_map]
    exact ⟨key a, mem_keys.mpr ⟨a, h, rfl⟩, rfl⟩
  rw [grouped_kept, List.map_map] at hkey
  exact List.mem_map.mp hkey

theorem nodup_kept (key : α → κ) (l : List α) :
    ((kept key l).map fun rows => key rows.1).Nodup := by
  have hkeys := congrArg (List.map Prod.fst) (grouped_kept key l)
  rw [grouped_eq, List.map_map, List.map_map] at hkeys
  exact hkeys ▸ (List.map_id (keys key l)).symm ▸ nodup_keys key l

/-- The kept rows and the others are the list. -/
theorem flatten_kept (key : α → κ) (l : List α) :
    ((kept key l).flatMap fun rows => rows.1 :: rows.2).Perm l := by
  have h := flatten_grouped key l
  rwa [grouped_kept, List.flatMap_map] at h

theorem sum_length_kept (key : α → κ) (l : List α) :
    ((kept key l).map fun rows => rows.2.length).sum + (kept key l).length = l.length := by
  rw [← (flatten_kept key l).length_eq, List.length_flatMap]
  generalize kept key l = groups
  induction groups with
  | nil => rfl
  | cons rows groups ih =>
      simp only [List.map_cons, List.sum_cons, List.length_cons] at ih ⊢
      omega

/-! ## The pass over the groups -/

section Resolve

variable {φ ρ σ ε : Type} [DecidableEq φ] {alike : α → φ} {raised : ε}
  {activity : Nat → α → List α → ρ} {resolution : κ → α → List α → σ}
  {answer : List ρ × List σ}

omit [DecidableEq κ] in
theorem foldlM_resolve_rows {groups : List (α × List α)} :
    (groups.map fun rows => (key rows.1, rows.1 :: rows.2)).foldlM
        (resolve alike raised activity resolution) ([], []) = .ok answer ↔
      (∀ rows ∈ groups, ∀ other ∈ rows.2, alike other = alike rows.1) ∧
        answer = (groups.zipIdx.map fun rows => activity rows.2 rows.1.1 rows.1.2,
          (groups.filter fun rows => rows.2 ≠ []).map fun rows =>
            resolution (key rows.1) rows.1 rows.2) := by
  induction groups using List.reverseRecOn generalizing answer with
  | nil => simp [pure, Except.pure, eq_comm]
  | append_singleton groups rows ih =>
      rw [List.map_append, List.map_singleton, List.foldlM_append, ExceptFold.bind_eq_ok]
      simp only [List.foldlM_cons, List.foldlM_nil, bind_pure, ih]
      rw [List.zipIdx_append, List.zipIdx_singleton, Nat.zero_add, List.map_append,
        List.map_singleton, List.filter_append, List.map_append, List.forall_mem_append,
        List.forall_mem_singleton]
      have hstep : ∀ before : List ρ × List σ, before.1.length = groups.length →
          (resolve alike raised activity resolution before (key rows.1, rows.1 :: rows.2) =
              .ok answer ↔ (∀ other ∈ rows.2, alike other = alike rows.1) ∧
            answer = (before.1 ++ [activity groups.length rows.1 rows.2],
              before.2 ++ ([rows].filter fun rows => rows.2 ≠ []).map fun rows =>
                resolution (key rows.1) rows.1 rows.2)) := by
        rintro before hlength
        show (ExceptFold.check _ raised >>= fun _ => _) = _ ↔ _
        rw [ExceptFold.bind_eq_ok, hlength]
        constructor
        · rintro ⟨_, hcheck, h⟩
          cases h
          refine ⟨ExceptFold.check_eq_ok.mp hcheck, ?_⟩
          by_cases hnil : rows.2 = [] <;> simp [hnil]
        · rintro ⟨hcheck, rfl⟩
          refine ⟨(), ExceptFold.check_eq_ok.mpr hcheck, ?_⟩
          by_cases hnil : rows.2 = [] <;> simp [hnil, pure, Except.pure]
      constructor
      · rintro ⟨before, ⟨hall, rfl⟩, h⟩
        obtain ⟨hrows, rfl⟩ := (hstep _ (by simp)).mp h
        exact ⟨⟨hall, hrows⟩, rfl⟩
      · rintro ⟨⟨hall, hrows⟩, rfl⟩
        exact ⟨_, ⟨hall, rfl⟩, (hstep _ (by simp)).mpr ⟨hrows, rfl⟩⟩

omit [DecidableEq κ] in
theorem resolve_raises {P : ε → Prop} {group : κ × List α} (h : P raised) :
    RaisesOnly P (resolve alike raised activity resolution answer group) := by
  unfold resolve
  split
  · exact .ok _
  · exact .bind (.check h) fun _ _ => .ok _

/-- The pass succeeds where rows of one key are alike, and keeps the first of
each. -/
theorem foldlM_resolve (key : α → κ) (l : List α) :
    (grouped key l).foldlM (resolve alike raised activity resolution) ([], []) = .ok answer ↔
      (∀ a ∈ l, ∀ b ∈ l, key a = key b → alike a = alike b) ∧
        answer = ((kept key l).zipIdx.map fun rows => activity rows.2 rows.1.1 rows.1.2,
          ((kept key l).filter fun rows => rows.2 ≠ []).map fun rows =>
            resolution (key rows.1) rows.1 rows.2) := by
  rw [grouped_kept, foldlM_resolve_rows]
  refine and_congr_left fun _ => ⟨fun h a ha b hb hkey => ?_, fun h rows hrows other hother => ?_⟩
  · obtain ⟨rows, hrows, hfirst⟩ := exists_kept key ha
    have hmem : ∀ c ∈ l, key c = key a → alike c = alike rows.1 := by
      intro c hc hkeyc
      have hocc : c ∈ occurrences key l (key rows.1) :=
        mem_occurrences.mpr ⟨hc, hkeyc.trans hfirst.symm⟩
      rw [← mem_kept hrows] at hocc
      obtain rfl | hother := List.mem_cons.mp hocc
      · rfl
      · exact h rows hrows c hother
    exact (hmem a ha rfl).trans (hmem b hb hkey.symm).symm
  · have hrow : ∀ c ∈ rows.1 :: rows.2, c ∈ l ∧ key c = key rows.1 := by
      rw [mem_kept hrows]
      exact fun c hc => mem_occurrences.mp hc
    obtain ⟨hmem, hkey⟩ := hrow other (List.mem_cons_of_mem _ hother)
    exact h other hmem rows.1 (hrow _ List.mem_cons_self).1 hkey

end Resolve

/-! ## Weights -/

/-- Where the rows of a key agree on a weight, more rows have no less of it. -/
theorem sum_firsts_le {weight : α → Nat} (subset : ∀ a ∈ l, a ∈ l')
    (same : ∀ a ∈ l', ∀ b ∈ l', key a = key b → weight a = weight b) :
    ((firsts key l).map weight).sum ≤ ((firsts key l').map weight).sum := by
  have hnodup : ((firsts key l).map fun a => (key a, weight a)).Nodup := by
    refine .of_map Prod.fst ?_
    rw [List.map_map]
    exact nodup_firsts key l
  have hsubset : (firsts key l).map (fun a => (key a, weight a)) ⊆
      (firsts key l').map fun a => (key a, weight a) := by
    intro p hp
    obtain ⟨a, ha, rfl⟩ := List.mem_map.mp hp
    have ha' := subset a (subset_firsts a ha)
    obtain ⟨b, hb, hkey⟩ := exists_first key ha'
    refine List.mem_map.mpr ⟨b, hb, ?_⟩
    rw [hkey, same b (subset_firsts b hb) a ha' hkey]
  obtain ⟨kept, hperm, hsublist⟩ := List.subperm_of_subset hnodup hsubset
  have hsum := (hsublist.map Prod.snd).sum_le_sum fun n _ => Nat.zero_le n
  rw [(hperm.map Prod.snd).sum_eq, List.map_map, List.map_map] at hsum
  exact hsum

theorem length_firsts_le (subset : ∀ a ∈ l, a ∈ l') :
    (firsts key l).length ≤ (firsts key l').length := by
  have hsum := @sum_firsts_le _ _ _ key l l' (fun _ => 1) subset fun _ _ _ _ _ => rfl
  simpa using hsum

end FirstOccurrences
