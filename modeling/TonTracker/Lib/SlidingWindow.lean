/-
# `Lib.SlidingWindow` — the fullest closed interval

A sweep over a sorted list keeps the elements that lie within a width of the
last one, and the length of the longest such window.  That is how many
elements the fullest closed interval of that width holds (`sweep_isGreatest`).
-/
import Mathlib.Algebra.Order.Group.Defs
import Mathlib.Algebra.Order.Sub.Basic
import Mathlib.Data.List.Basic
import Mathlib.Data.List.Induction
import Mathlib.Order.Bounds.Basic

namespace SlidingWindow

variable {α : Type} [LinearOrder α]

/-- Along a sorted list a test that only gets false drops what fails it. -/
theorem dropWhile_eq_filter {p : α → Bool} (hp : ∀ a b, a ≤ b → p b = true → p a = true)
    {l : List α} (sorted : l.Pairwise (· ≤ ·)) : l.dropWhile p = l.filter fun a => !p a := by
  induction l with
  | nil => rfl
  | cons a l ih =>
      obtain ⟨hle, hl⟩ := List.pairwise_cons.mp sorted
      cases ha : p a with
      | true => simpa [ha] using ih hl
      | false =>
          have hrest : ∀ b ∈ l, p b = false := fun b hb =>
            Bool.eq_false_iff.mpr fun h => by simp [hp a b (hle b hb) h] at ha
          simp only [List.dropWhile_cons, List.filter_cons, ha, Bool.not_false, if_true]
          refine congrArg (a :: ·) (List.filter_eq_self.mpr fun b hb => ?_).symm
          rw [hrest b hb]
          rfl

variable [AddCommGroup α]

/-- How many elements lie in the closed interval of the width from `a`. -/
def countWithin (width a : α) (l : List α) : Nat := l.countP fun x => a ≤ x ∧ x ≤ a + width

/-- The elements within the width of the last one, and the longest window so
far. -/
structure Sweep (α : Type) where
  window : List α
  best : Nat

/-- The next element enters, and those too far before it leave. -/
def Sweep.step (width : α) (s : Sweep α) (x : α) : Sweep α :=
  let window := (s.window ++ [x]).dropWhile fun y => width < x - y
  ⟨window, max s.best window.length⟩

def sweep (width : α) (l : List α) : Sweep α := l.foldl (Sweep.step width) ⟨[], 1⟩

variable {width : α} {l : List α} {x : α}

theorem sweep_concat : sweep width (l ++ [x]) = (sweep width l).step width x :=
  List.foldl_concat ..

theorem countWithin_perm {l' : List α} (h : l.Perm l') (a : α) :
    countWithin width a l = countWithin width a l' := h.countP_eq _

theorem not_pushed (width x y : α) : (!decide (width < x - y)) = decide (x - y ≤ width) := by
  rw [← decide_not, decide_eq_decide, not_lt]

variable [IsOrderedAddMonoid α]

/-- What an element pushes out, it pushes out with all before it. -/
theorem pushed_antitone (width x : α) (a b : α) (hab : a ≤ b)
    (h : decide (width < x - b) = true) : decide (width < x - a) = true := by
  simp only [decide_eq_true_eq] at h ⊢
  exact h.trans_le (sub_le_sub_left hab x)

/-- The window is what lies within the width of the last element. -/
theorem window_concat (sorted : (l ++ [x]).Pairwise (· ≤ ·)) :
    (sweep width (l ++ [x])).window = (l ++ [x]).filter fun y => x - y ≤ width := by
  induction l using List.reverseRecOn generalizing x with
  | nil =>
      rw [List.nil_append]
      show [x].dropWhile (fun y => width < x - y) = _
      rw [dropWhile_eq_filter (pushed_antitone width x) (List.pairwise_singleton _ _)]
      simp only [not_pushed]
  | append_singleton l z ih =>
      obtain ⟨hl, -, hx⟩ := List.pairwise_append.mp sorted
      have hxle : ∀ y ∈ l ++ [z], y ≤ x := fun y hy => hx y hy x (List.mem_singleton_self x)
      have hkept : (((l ++ [z]).filter fun y => z - y ≤ width) ++ [x]).Pairwise (· ≤ ·) :=
        List.pairwise_append.mpr ⟨hl.filter _, List.pairwise_singleton _ _, fun y hy w hw =>
          hx y (List.mem_filter.mp hy).1 w hw⟩
      rw [sweep_concat]
      show ((sweep width (l ++ [z])).window ++ [x]).dropWhile (fun y => width < x - y) = _
      rw [ih hl, dropWhile_eq_filter (pushed_antitone width x) hkept]
      simp only [not_pushed]
      rw [List.filter_append, List.filter_filter, List.filter_append (l ++ [z])]
      refine congrArg (· ++ _) (List.filter_congr fun y hy => ?_)
      have hzx : z - y ≤ x - y := sub_le_sub_right (hxle z (by simp)) y
      rw [Bool.and_eq_left_iff_imp]
      simp only [decide_eq_true_eq]
      exact hzx.trans

/-- No interval holds more. -/
theorem countWithin_le_best (sorted : l.Pairwise (· ≤ ·)) (a : α) :
    countWithin width a l ≤ (sweep width l).best := by
  induction l using List.reverseRecOn with
  | nil => exact Nat.zero_le _
  | append_singleton l x ih =>
      obtain ⟨hl, -, hx⟩ := List.pairwise_append.mp sorted
      have hbest : (sweep width (l ++ [x])).best =
          max (sweep width l).best (sweep width (l ++ [x])).window.length := by
        rw [sweep_concat]
        rfl
      rw [hbest]
      by_cases hin : a ≤ x ∧ x ≤ a + width
      · refine le_max_of_le_right ?_
        rw [window_concat sorted, countWithin, ← List.countP_eq_length_filter]
        refine List.countP_mono_left fun y _ hy => ?_
        simp only [decide_eq_true_eq] at hy ⊢
        calc x - y ≤ x - a := sub_le_sub_left hy.1 x
          _ ≤ width := sub_le_iff_le_add'.mpr hin.2
      · refine le_max_of_le_left (le_trans (le_of_eq ?_) (ih hl))
        unfold countWithin
        rw [List.countP_append, List.countP_singleton, if_neg (by simpa using hin), Nat.add_zero]

/-- An interval holds as many. -/
theorem best_attained (sorted : l.Pairwise (· ≤ ·)) :
    (sweep width l).best = 1 ∨ ∃ a, countWithin width a l = (sweep width l).best := by
  induction l using List.reverseRecOn with
  | nil => exact .inl rfl
  | append_singleton l x ih =>
      obtain ⟨hl, -, hx⟩ := List.pairwise_append.mp sorted
      have hbest : (sweep width (l ++ [x])).best =
          max (sweep width l).best (sweep width (l ++ [x])).window.length := by
        rw [sweep_concat]
        rfl
      obtain hle | hlt := Nat.le_total (sweep width (l ++ [x])).window.length (sweep width l).best
      · rw [max_eq_left hle] at hbest
        obtain hone | ⟨a, ha⟩ := ih hl
        · exact .inl (hbest.trans hone)
        · refine .inr ⟨a, Nat.le_antisymm (countWithin_le_best sorted a) ?_⟩
          rw [hbest, ← ha]
          unfold countWithin
          rw [List.countP_append]
          exact Nat.le_add_right _ _
      · rw [max_eq_right hlt] at hbest
        refine .inr ⟨x - width, ?_⟩
        rw [hbest, window_concat sorted, countWithin, ← List.countP_eq_length_filter]
        refine List.countP_congr fun y hy => ?_
        have hyx : y ≤ x := by
          obtain hy | hy := List.mem_append.mp hy
          · exact hx y hy x (List.mem_singleton_self x)
          · exact (List.mem_singleton.mp hy).le
        simp only [decide_eq_true_eq, sub_add_cancel]
        rw [sub_le_comm]
        exact ⟨And.left, fun h => ⟨h, hyx⟩⟩

/-- The sweep finds the fullest interval. -/
theorem sweep_isGreatest (sorted : l.Pairwise (· ≤ ·)) (hl : l ≠ []) (hwidth : 0 ≤ width) :
    IsGreatest { n | ∃ a, countWithin width a l = n } (sweep width l).best := by
  refine ⟨?_, ?_⟩
  · obtain hone | ⟨a, ha⟩ : (sweep width l).best = 1 ∨
        ∃ a, countWithin width a l = (sweep width l).best := best_attained sorted
    · obtain ⟨x, hx⟩ := List.exists_mem_of_ne_nil l hl
      refine ⟨x, Nat.le_antisymm (countWithin_le_best sorted x) ?_⟩
      rw [hone]
      exact List.countP_pos_iff.mpr ⟨x, hx, by simpa using hwidth⟩
    · exact ⟨a, ha⟩
  · rintro n ⟨a, rfl⟩
    exact countWithin_le_best sorted a

end SlidingWindow
