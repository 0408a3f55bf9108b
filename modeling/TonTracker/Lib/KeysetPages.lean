/-
# `Lib.KeysetPages` — pages of a descending listing

A listing in descending order of a key is read in pages: a page has the
rows below the key of the last row before it, and one row more is asked
for to learn whether another page follows.  Whatever the sizes of the
pages, what a page returns and what lies below its last row are what lay
below the row before it (`page_append`).
-/
import Mathlib.Data.List.Basic

namespace KeysetPages

variable {α : Type} (key : α → Nat)

/-- The rows below a key, where there is one. -/
def below (after : Option Nat) (rows : List α) : List α :=
  rows.filter fun a => after.all fun bound => key a < bound

/-- At most `limit` rows, and whether there are more. -/
def cut (limit : Nat) (rows : List α) : List α × Bool :=
  let candidates := rows.take (limit + 1)
  (candidates.take limit, limit < candidates.length)

/-- A page. -/
def page (limit : Nat) (after : Option Nat) (rows : List α) : List α × Bool :=
  cut limit (below key after rows)

/-- The key the next page starts below; none behind the last page. -/
def next (page : List α × Bool) : Option Nat :=
  if page.2 then page.1.getLast?.map key else none

theorem cut_fst (limit : Nat) (rows : List α) : (cut limit rows).1 = rows.take limit := by
  unfold cut
  dsimp only
  rw [List.take_take, Nat.min_eq_left (Nat.le_succ limit)]

theorem cut_snd (limit : Nat) (rows : List α) :
    (cut limit rows).2 = decide (limit < rows.length) := by
  unfold cut
  dsimp only
  rw [List.length_take, decide_eq_decide]
  omega

variable {key}

theorem below_below {rows : List α} {after : Option Nat} {bound : Nat}
    (h : after.all fun top => bound ≤ top) :
    below key (some bound) (below key after rows) = below key (some bound) rows := by
  unfold below
  rw [List.filter_filter]
  refine List.filter_congr fun a _ => ?_
  cases after with
  | none => simp
  | some top =>
      rw [Option.all_some, decide_eq_true_eq] at h
      simp only [Option.all_some, ← Bool.decide_and, decide_eq_decide]
      omega

/-- Below the last row of a part of a descending list is the rest of it. -/
theorem below_getLast {part rest : List α} {last : α}
    (descending : (part ++ last :: rest).Pairwise fun a b => key b < key a) :
    below key (some (key last)) (part ++ last :: rest) = rest := by
  rw [List.pairwise_append, List.pairwise_cons] at descending
  obtain ⟨-, ⟨hrest, -⟩, hpart⟩ := descending
  unfold below
  have above : part.filter (fun a => (some (key last)).all fun bound => key a < bound) = [] := by
    refine List.filter_eq_nil_iff.mpr fun a ha => ?_
    have := hpart a ha last List.mem_cons_self
    simp only [Option.all_some, decide_eq_true_eq]
    omega
  have kept : rest.filter (fun a => (some (key last)).all fun bound => key a < bound) = rest := by
    refine List.filter_eq_self.mpr fun a ha => ?_
    simpa using hrest a ha
  rw [List.filter_append, above, List.nil_append, List.filter_cons_of_neg (by simp), kept]

/-- A page that another one follows is full, and what lies below its last
row is the rest. -/
theorem page_of_more {rows : List α} {limit : Nat} {after : Option Nat} (hlimit : 0 < limit)
    (descending : rows.Pairwise fun a b => key b < key a)
    (more : (page key limit after rows).2 = true) :
    ∃ bound, next key (page key limit after rows) = some bound ∧
      (page key limit after rows).1.length = limit ∧
      below key after rows =
        (page key limit after rows).1 ++ below key (some bound) rows := by
  have long : limit < (below key after rows).length := by
    unfold page at more
    rw [cut_snd] at more
    exact of_decide_eq_true more
  have first : (page key limit after rows).1 = (below key after rows).take limit := by
    unfold page
    exact cut_fst limit _
  have full : ((below key after rows).take limit).length = limit :=
    List.length_take_of_le (Nat.le_of_lt long)
  obtain ⟨last, hlast⟩ := Option.isSome_iff_exists.mp
    (List.getLast?_isSome.mpr (List.length_pos_iff.mp (full ▸ hlimit)))
  obtain ⟨part, hpart⟩ := List.getLast?_eq_some_iff.mp hlast
  have split : below key after rows =
      part ++ last :: (below key after rows).drop limit := by
    have parts := List.take_append_drop limit (below key after rows)
    rw [hpart, List.append_assoc] at parts
    exact parts.symm
  have sorted : (below key after rows).Pairwise fun a b => key b < key a := descending.filter _
  have bounded : after.all fun top => key last ≤ top := by
    have member : last ∈ below key after rows := by
      rw [split]
      exact List.mem_append_right _ List.mem_cons_self
    have low := (List.mem_filter.mp member).2
    cases after with
    | none => rfl
    | some top =>
        simp only [Option.all_some, decide_eq_true_eq] at low ⊢
        exact Nat.le_of_lt low
  refine ⟨key last, ?_, first ▸ full, ?_⟩
  · unfold next
    rw [if_pos more, first, hlast]
    rfl
  · have rest : below key (some (key last)) rows = (below key after rows).drop limit := by
      rw [← below_below bounded, split]
      rw [split] at sorted
      have := below_getLast sorted
      rw [this, ← split]
    rw [rest, first, List.take_append_drop]

/-- The last page has all that is left. -/
theorem page_of_last {rows : List α} {limit : Nat} {after : Option Nat}
    (last : (page key limit after rows).2 = false) :
    next key (page key limit after rows) = none ∧
      (page key limit after rows).1 = below key after rows := by
  have short : (below key after rows).length ≤ limit := by
    unfold page at last
    rw [cut_snd] at last
    exact Nat.not_lt.mp (of_decide_eq_false last)
  refine ⟨?_, ?_⟩
  · unfold next
    rw [if_neg (Bool.eq_false_iff.mp last)]
  · unfold page
    rw [cut_fst, List.take_of_length_le short]

/-! ## Views of the rows -/

section View

variable {β : Type} {key' : β → Nat} {f : α → β}

theorem below_map (hkey : ∀ a, key' (f a) = key a) (after : Option Nat) (rows : List α) :
    below key' after (rows.map f) = (below key after rows).map f := by
  unfold below
  rw [List.filter_map]
  refine congrArg _ (List.filter_congr fun a _ => ?_)
  rw [Function.comp_apply, hkey]

theorem page_map (hkey : ∀ a, key' (f a) = key a) (limit : Nat) (after : Option Nat)
    (rows : List α) : (page key' limit after (rows.map f)).1 = (page key limit after rows).1.map f ∧
      next key' (page key' limit after (rows.map f)) = next key (page key limit after rows) := by
  have first : (page key' limit after (rows.map f)).1 = (page key limit after rows).1.map f := by
    unfold page
    rw [below_map hkey, cut_fst, cut_fst, List.map_take]
  have more : (page key' limit after (rows.map f)).2 = (page key limit after rows).2 := by
    unfold page
    rw [below_map hkey, cut_snd, cut_snd, List.length_map]
  refine ⟨first, ?_⟩
  unfold next
  rw [first, more, List.getLast?_map, Option.map_map]
  congr 2
  exact funext hkey

end View

end KeysetPages
