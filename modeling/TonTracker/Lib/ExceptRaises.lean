/-
# `ExceptRaises` — which exceptions a computation may raise

`RaisesOnly P x`: the exceptions of `x` are among `P`.  It is closed under
the parts a body is made of, so a body raises only what its steps raise,
and one that raises nothing of `P` returns (`RaisesOnly.returns`).
-/
import TonTracker.Lib.ExceptFold

namespace ExceptFold

variable {ε α β γ : Type} {P : ε → Prop}

/-- The exceptions of a computation are among `P`. -/
def RaisesOnly (P : ε → Prop) (x : Except ε β) : Prop := ∀ e, x = .error e → P e

theorem RaisesOnly.ok (b : β) : RaisesOnly P (.ok b : Except ε β) := fun _ h => nomatch h

theorem RaisesOnly.error {e : ε} (h : P e) : RaisesOnly P (.error e : Except ε β) := by
  intro e' he
  cases he
  exact h

theorem RaisesOnly.of_eq_ok {x : Except ε β} {b : β} (h : x = .ok b) : RaisesOnly P x :=
  h ▸ RaisesOnly.ok b

/-- A step and what follows it. -/
theorem RaisesOnly.bind {x : Except ε β} {f : β → Except ε γ} (hx : RaisesOnly P x)
    (hf : ∀ b, x = .ok b → RaisesOnly P (f b)) : RaisesOnly P (x >>= f) := by
  cases x with
  | error e => exact fun e' he => hx e' (by cases he; rfl)
  | ok b => exact hf b rfl

theorem RaisesOnly.check {holds : Prop} [Decidable holds] {raised : ε} (h : P raised) :
    RaisesOnly P (ExceptFold.check holds raised) := by
  unfold ExceptFold.check
  split
  · exact .ok ()
  · exact .error h

theorem RaisesOnly.present {x : Option β} {raised : ε} (h : P raised) :
    RaisesOnly P (ExceptFold.present x raised) := by
  cases x with
  | none => exact .error h
  | some b => exact .ok b

/-- A loop raises what its rounds raise. -/
theorem RaisesOnly.foldlM {f : β → α → Except ε β} {l : List α} (b : β)
    (h : ∀ a ∈ l, ∀ b, RaisesOnly P (f b a)) : RaisesOnly P (l.foldlM f b) := by
  induction l generalizing b with
  | nil => exact .ok b
  | cons a l ih =>
      rw [List.foldlM_cons]
      exact .bind (h a List.mem_cons_self b) fun next _ =>
        ih next fun a' ha' => h a' (List.mem_cons_of_mem a ha')

theorem RaisesOnly.mapM {f : α → Except ε β} {l : List α}
    (h : ∀ a ∈ l, RaisesOnly P (f a)) : RaisesOnly P (l.mapM f) := by
  induction l with
  | nil => exact .ok []
  | cons a l ih =>
      rw [List.mapM_cons]
      exact .bind (h a List.mem_cons_self) fun value _ =>
        .bind (ih fun a' ha' => h a' (List.mem_cons_of_mem a ha')) fun values _ =>
          .ok (value :: values)

/-- What raises nothing of `P` returns. -/
theorem RaisesOnly.returns {x : Except ε β} (h : RaisesOnly P x)
    (hnone : ∀ e, P e → x ≠ .error e) : ∃ b, x = .ok b := by
  cases hx : x with
  | error e => exact absurd hx (hnone e (h e hx))
  | ok b => exact ⟨b, rfl⟩

/-- In a loop that returns, every round did. -/
theorem foldlM_rounds {f : β → α → Except ε β} {l : List α} {b b' : β}
    (h : l.foldlM f b = .ok b') : ∀ a ∈ l, ∃ c c', f c a = .ok c' := by
  induction l generalizing b with
  | nil => exact fun a ha => nomatch ha
  | cons a l ih =>
      rw [List.foldlM_cons] at h
      obtain ⟨next, hnext, h⟩ := bind_eq_ok.mp h
      intro a' ha'
      rcases List.mem_cons.mp ha' with rfl | ha'
      · exact ⟨b, next, hnext⟩
      · exact ih h a' ha'

end ExceptFold
