/-
# `DescendingLog` — a log read newest first, page by page

A log lists its entries by strictly falling key and never rising time.
A reader that holds a cursor sees the entries below it; a page is a
prefix of those, and the key of its last entry is the next cursor.  What
the readers of such a log rest on is proved here once: the entries below
the last key of a page are exactly those the page left (`below_last`),
and after an entry older than `start` nothing inside `[start, end)`
remains (`clip_of_crossed`).
-/
import Mathlib.Data.List.Sort
import Mathlib.Data.List.Pairwise

universe u v

/-- A log of entries by strictly falling key and never rising time. -/
structure DescendingLog (α : Type u) (τ : Type v) [LinearOrder τ] (key : α → Nat) (time : α → τ) where
  entries : List α
  descending : entries.Pairwise fun a b => key b < key a ∧ time b ≤ time a

namespace DescendingLog

variable {α : Type u} {τ : Type v} [LinearOrder τ] {key : α → Nat} {time : α → τ}

/-- The entries a reader at the cursor has still to read. -/
def below (log : DescendingLog α τ key time) : Option Nat → List α
  | none => log.entries
  | some c => log.entries.filter fun a => key a < c

/-- The entries of a list whose time lies in `[start, stop)`. -/
def clip (time : α → τ) (start stop : τ) (rows : List α) : List α :=
  rows.filter fun a => start ≤ time a ∧ time a < stop

/-- Some entry of the list is older than `start`. -/
def crossed (time : α → τ) (start : τ) (rows : List α) : Bool :=
  rows.any fun a => time a < start

theorem clip_append (start stop : τ) (xs ys : List α) :
    clip time start stop (xs ++ ys) = clip time start stop xs ++ clip time start stop ys :=
  List.filter_append ..

theorem below_sublist (log : DescendingLog α τ key time) (c : Option Nat) :
    (log.below c).Sublist log.entries := by
  cases c with
  | none => exact List.Sublist.refl _
  | some c => exact List.filter_sublist

theorem below_pairwise (log : DescendingLog α τ key time) (c : Option Nat) :
    (log.below c).Pairwise fun a b => key b < key a ∧ time b ≤ time a :=
  log.descending.sublist (log.below_sublist c)

/-- An entry below the cursor has a smaller key. -/
theorem key_lt_of_mem_below (log : DescendingLog α τ key time) {c : Nat} {a : α}
    (h : a ∈ log.below (some c)) : key a < c := by
  simpa using (List.mem_filter.mp h).2

theorem length_below_le (log : DescendingLog α τ key time) (c : Option Nat) :
    (log.below c).length ≤ log.entries.length :=
  (log.below_sublist c).length_le

/-- Filtering by a bound that separates a prefix from the rest drops the prefix. -/
theorem filter_append_of_split {p : α → Bool} {xs ys : List α}
    (hx : ∀ a ∈ xs, p a = false) (hy : ∀ a ∈ ys, p a = true) :
    (xs ++ ys).filter p = ys := by
  rw [List.filter_append, List.filter_eq_nil_iff.mpr (by simpa using hx),
    List.filter_eq_self.mpr hy, List.nil_append]

/-- What a page leaves is what lies below its last entry. -/
theorem below_last (log : DescendingLog α τ key time) {c : Option Nat} {page rest : List α}
    {last : α} (h : log.below c = page ++ last :: rest) :
    log.below (some (key last)) = rest := by
  have hdesc : (page ++ last :: rest).Pairwise fun a b => key b < key a ∧ time b ≤ time a :=
    h ▸ log.below_pairwise c
  obtain ⟨-, htail, hcross⟩ := List.pairwise_append.mp hdesc
  obtain ⟨hlast, -⟩ := List.pairwise_cons.mp htail
  have hsplit : ((page ++ [last]) ++ rest).filter (fun a => decide (key a < key last)) = rest := by
    refine filter_append_of_split (fun a ha => ?_) (fun a ha => ?_)
    · rcases List.mem_append.mp ha with ha | ha
      · exact decide_eq_false (by have := (hcross a ha last (by simp)).1; omega)
      · rw [List.mem_singleton.mp ha]
        exact decide_eq_false (by omega)
    · exact decide_eq_true (hlast a ha).1
  cases c with
  | none =>
      have he : log.entries = (page ++ [last]) ++ rest := by
        simpa [below] using h
      rw [below, he, hsplit]
  | some c =>
      -- The rows at or above the old cursor are above the new one too.
      have hlt : key last < c := log.key_lt_of_mem_below (h ▸ by simp)
      have hle : log.below (some (key last)) =
          (log.below (some c)).filter fun a => key a < key last := by
        simp only [below, List.filter_filter]
        refine List.filter_congr fun a _ => ?_
        by_cases hk : key a < key last
        · simp [hk, Nat.lt_trans hk hlt]
        · simp [hk]
      rw [hle, h, List.append_cons, hsplit]

/-- After an entry older than `start` every later one is older too. -/
theorem clip_of_crossed {start stop : τ} {page rest : List α}
    (hdesc : (page ++ rest).Pairwise fun a b => key b < key a ∧ time b ≤ time a)
    (hcross : crossed time start page = true) : clip time start stop rest = [] := by
  obtain ⟨a, ha, hlt⟩ := List.any_eq_true.mp hcross
  refine List.filter_eq_nil_iff.mpr fun b hb => ?_
  have hle : time b ≤ time a := ((List.pairwise_append.mp hdesc).2.2 a ha b hb).2
  have hb' : time b < start := lt_of_le_of_lt hle (of_decide_eq_true hlt)
  simp only [decide_eq_true_eq, not_and]
  exact fun hs => absurd hs (not_le.mpr hb')

theorem clip_sublist (start stop : τ) (rows : List α) :
    (clip time start stop rows).Sublist rows :=
  List.filter_sublist

end DescendingLog
