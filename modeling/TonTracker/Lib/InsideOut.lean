/-
# `Lib.InsideOut` — the shuffle that fills an array as it goes

Round `k` moves the entry at a chosen place up to place `k` and puts the
new entry in its stead.  The places from `k` on hold whatever the array was
made with: a round whose choice is `k` itself copies such a value and
overwrites it.  Whatever is chosen, what the rounds have placed is what
they were given (`placed_round`).
-/
import Mathlib.Data.List.Basic

namespace InsideOut

variable {α : Type}

/-- One round: `entries[k] = entries[choice]; entries[choice] = new`. -/
def round (unset : α) (entries : List α) (k choice : Nat) (new : α) : List α :=
  (entries.set k (entries.getD choice unset)).set choice new

/-- The first places hold these entries, in some order. -/
def Placed (entries : List α) (given : List α) : Prop :=
  given.length ≤ entries.length ∧ (entries.take given.length).Perm given

theorem length_round (unset new : α) (entries : List α) (k choice : Nat) :
    (round unset entries k choice new).length = entries.length := by
  simp only [round, List.length_set]

theorem placed_nil (entries : List α) : Placed entries [] :=
  ⟨Nat.zero_le _, .nil⟩

/-- A new entry in the place of an old one, which goes to the end. -/
theorem set_concat_perm {entries : List α} {choice : Nat} {old new : α}
    (h : entries[choice]? = some old) :
    (entries.set choice new ++ [old]).Perm (new :: entries) := by
  induction entries generalizing choice with
  | nil => cases h
  | cons entry entries ih =>
      cases choice with
      | zero =>
          cases h
          exact (List.perm_append_singleton _ _).cons new |>.trans (.refl _)
      | succ choice =>
          rw [List.set_cons_succ, List.cons_append]
          exact ((ih h).cons entry).trans (.swap new entry entries)

/-- A round places its entry besides those that were placed. -/
theorem placed_round {unset new : α} {entries given : List α} {choice : Nat}
    (placed : Placed entries given) (room : given.length < entries.length)
    (hchoice : choice ≤ given.length) :
    Placed (round unset entries given.length choice new) (given ++ [new]) := by
  obtain ⟨-, hperm⟩ := placed
  have htake : (entries.take given.length).length = given.length :=
    List.length_take_of_le (Nat.le_of_lt room)
  refine ⟨?_, ?_⟩
  · rw [length_round, List.length_append]
    exact room
  · rw [List.length_append, List.length_singleton, round, List.take_set, List.take_set,
      List.take_add_one, List.getElem?_eq_getElem room, Option.toList_some]
    rcases Nat.lt_or_eq_of_le hchoice with hlt | rfl
    · -- an old entry moves up
      obtain ⟨old, hold⟩ : ∃ old, entries[choice]? = some old :=
        ⟨_, List.getElem?_eq_getElem (Nat.lt_trans hlt room)⟩
      rw [List.getD_eq_getElem?_getD, hold, Option.getD_some,
        List.set_append_right _ _ (Nat.le_of_eq htake), htake, Nat.sub_self,
        List.set_cons_zero, List.set_append_left _ _ (htake.symm ▸ hlt)]
      have hplaced : (entries.take given.length)[choice]? = some old := by
        rw [List.getElem?_take_of_lt hlt, hold]
      exact (set_concat_perm hplaced).trans
        ((hperm.cons new).trans (List.perm_append_singleton new given).symm)
    · -- the place is new, and what it held is overwritten
      rw [List.set_append_right _ _ (Nat.le_of_eq htake),
        List.set_append_right _ _ (Nat.le_of_eq htake), htake, Nat.sub_self,
        List.set_cons_zero, List.set_cons_zero]
      exact hperm.append_right [new]

end InsideOut
