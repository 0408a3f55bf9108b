/-
# `ForElse` — bounded loops that break

The `for … else` loop as a library: a body takes the loop state to the
next one (`.inl`) or breaks with a result (`.inr`), and the `else` arm
turns the state of a loop that ran all its passes into a result.  Two
rules carry every use: passes compose (`passes_add`), and an invariant
holds at whatever pass broke (`passes_break`).
-/
import Mathlib.Data.Sum.Order

namespace ForElse

universe u v

variable {σ τ : Type u} {ρ π : Type v}

/-- The state after `n` passes, or the result of the pass that broke. -/
def passes (body : σ → σ ⊕ ρ) : Nat → σ → σ ⊕ ρ
  | 0, s => .inl s
  | n + 1, s => (body s).elim (passes body n) .inr

/-- The whole loop: at most `n` passes, then the `else` arm. -/
def run (body : σ → σ ⊕ ρ) (orelse : σ → ρ) (n : Nat) (s : σ) : ρ :=
  (passes body n s).elim orelse id

variable {body : σ → σ ⊕ ρ} {orelse : σ → ρ}

@[simp] theorem passes_zero (s : σ) : passes body 0 s = .inl s := rfl

theorem passes_succ (n : Nat) (s : σ) :
    passes body (n + 1) s = (body s).elim (passes body n) .inr := rfl

theorem passes_succ_inl {n : Nat} {s s' : σ} (h : body s = .inl s') :
    passes body (n + 1) s = passes body n s' := by
  simp only [passes_succ, h, Sum.elim_inl]

theorem passes_succ_inr {n : Nat} {s : σ} {r : ρ} (h : body s = .inr r) :
    passes body (n + 1) s = .inr r := by
  simp only [passes_succ, h, Sum.elim_inr]

/-- A loop of `m + n` passes is `m` passes and then `n` more from the
state they leave. -/
theorem passes_add (m n : Nat) (s : σ) :
    passes body (m + n) s = (passes body m s).elim (passes body n) .inr := by
  induction m generalizing s with
  | zero => simp only [Nat.zero_add, passes_zero, Sum.elim_inl]
  | succ m ih =>
      rw [Nat.succ_add, passes_succ, passes_succ]
      cases body s with
      | inl s' => simpa only [Sum.elim_inl] using ih s'
      | inr r => rfl

/-- An invariant of the body holds of the state a loop is left in. -/
theorem passes_inv (I : σ → Prop) (hI : ∀ s s', I s → body s = .inl s' → I s') :
    ∀ {n : Nat} {s s' : σ}, I s → passes body n s = .inl s' → I s' := by
  intro n
  induction n with
  | zero => intro s s' hs h; cases h; exact hs
  | succ n ih =>
      intro s s' hs h
      cases hb : body s with
      | inl t => exact ih (hI s t hs hb) (by rwa [passes_succ_inl hb] at h)
      | inr r => rw [passes_succ_inr hb] at h; cases h

/-- Where a loop breaks, its invariant still held when the last pass began. -/
theorem passes_break (I : σ → Prop) (hI : ∀ s s', I s → body s = .inl s' → I s') :
    ∀ {n : Nat} {s : σ} {r : ρ}, I s → passes body n s = .inr r →
      ∃ s', I s' ∧ body s' = .inr r := by
  intro n
  induction n with
  | zero => intro s r _ h; cases h
  | succ n ih =>
      intro s r hs h
      cases hb : body s with
      | inl t => exact ih (hI s t hs hb) (by rwa [passes_succ_inl hb] at h)
      | inr r' =>
          rw [passes_succ_inr hb] at h
          cases h
          exact ⟨s, hs, hb⟩

/-- A measure that falls on every continued pass bounds the passes. -/
theorem passes_breaks (I : σ → Prop) (μ : σ → Nat)
    (hI : ∀ s s', I s → body s = .inl s' → I s' ∧ μ s' < μ s) :
    ∀ {n : Nat} {s : σ}, I s → μ s < n → ∃ r, passes body n s = .inr r := by
  intro n
  induction n with
  | zero => intro s _ h; omega
  | succ n ih =>
      intro s hs h
      cases hb : body s with
      | inl t =>
          obtain ⟨ht, hlt⟩ := hI s t hs hb
          obtain ⟨r, hr⟩ := ih ht (by omega)
          exact ⟨r, by rwa [passes_succ_inl hb]⟩
      | inr r => exact ⟨r, passes_succ_inr hb⟩

theorem run_of_inr {n : Nat} {s : σ} {r : ρ} (h : passes body n s = .inr r) :
    run body orelse n s = r := by
  simp only [run, h, Sum.elim_inr, id]

theorem run_of_inl {n : Nat} {s s' : σ} (h : passes body n s = .inl s') :
    run body orelse n s = orelse s' := by
  simp only [run, h, Sum.elim_inl]

/-- What grows by one at most in every pass grows by the number of passes
at most. -/
theorem run_measure (μ : σ → Nat) (ν : ρ → Nat)
    (hnext : ∀ s s', body s = .inl s' → μ s' ≤ μ s + 1)
    (hbreak : ∀ s r, body s = .inr r → ν r ≤ μ s + 1) (horelse : ∀ s, ν (orelse s) ≤ μ s) :
    ∀ (n : Nat) (s : σ), ν (run body orelse n s) ≤ μ s + n := by
  intro n
  induction n with
  | zero => exact horelse
  | succ n ih =>
      intro s
      unfold run
      cases hb : body s with
      | inl t =>
          rw [passes_succ_inl hb]
          have := ih t
          have := hnext s t hb
          unfold run at *
          omega
      | inr r =>
          rw [passes_succ_inr hb]
          have := hbreak s r hb
          simp only [Sum.elim_inr, id]
          omega

end ForElse
