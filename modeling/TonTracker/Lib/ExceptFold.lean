/-
# `ExceptFold` — loops that may raise, on inputs that do not

A `for` loop whose body may raise is a `foldlM` in `Except`.  On input
that keeps an invariant under which the body does not raise, the loop is
the plain fold of what the body computes (`foldlM_eq_foldl`); a `mapM`
succeeds where every element does (`mapM_eq_ok`).
-/
import Mathlib.Data.List.Basic

namespace ExceptFold

universe u v w

variable {α : Type u} {β ε : Type v}

/-- A step that may raise, taken apart. -/
theorem bind_eq_ok {γ : Type v} {x : Except ε β} {f : β → Except ε γ} {c : γ} :
    (x >>= f) = .ok c ↔ ∃ b, x = .ok b ∧ f b = .ok c := by
  cases x with
  | error e =>
      constructor
      · intro h
        cases h
      · rintro ⟨_, h, -⟩
        cases h
  | ok b =>
      constructor
      · intro h
        exact ⟨b, rfl, h⟩
      · rintro ⟨_, h, hf⟩
        cases h
        exact hf

theorem ok_bind {γ : Type v} (b : β) (f : β → Except ε γ) : (Except.ok b >>= f) = f b := rfl

section Checks

variable {raisedType : Type} {value : Type}

/-- `if not holds: raise`. -/
def check (holds : Prop) [Decidable holds] (raised : raisedType) : Except raisedType Unit :=
  if holds then .ok () else .error raised

theorem check_eq_ok {holds : Prop} [Decidable holds] {raised : raisedType} {u : Unit} :
    check holds raised = .ok u ↔ holds := by
  unfold check
  split
  · next h => exact iff_of_true rfl h
  · next h => exact iff_of_false (fun heq => nomatch heq) h

/-- A value that may be missing, or not be there to be parsed. -/
def present (x : Option value) (raised : raisedType) : Except raisedType value :=
  match x with
  | some v => .ok v
  | none => .error raised

theorem present_eq_ok {x : Option value} {raised : raisedType} {v : value} :
    present x raised = .ok v ↔ x = some v := by
  cases x with
  | none => exact iff_of_false (fun heq => nomatch heq) (fun heq => nomatch heq)
  | some w => exact ⟨fun h => congrArg _ (Except.ok.inj h), fun h => congrArg _ (Option.some.inj h)⟩

end Checks

/-- `I rest b`: the state `b` is ready for the elements `rest`. -/
theorem foldlM_eq_foldl {f : β → α → Except ε β} (next : β → α → β)
    (I : List α → β → Prop)
    (step : ∀ a rest b, I (a :: rest) b → f b a = .ok (next b a) ∧ I rest (next b a)) :
    ∀ {l : List α} {b : β}, I l b → l.foldlM f b = .ok (l.foldl next b) := by
  intro l
  induction l with
  | nil => intro b _; rfl
  | cons a l ih =>
      intro b h
      obtain ⟨hstep, hrest⟩ := step a l b h
      rw [List.foldlM_cons, hstep, List.foldl_cons]
      exact ih hrest

/-- The state after such a loop is ready for what follows. -/
theorem foldl_inv {next : β → α → β} (I : List α → β → Prop)
    (step : ∀ a rest b, I (a :: rest) b → I rest (next b a)) :
    ∀ (l : List α) {rest : List α} {b : β}, I (l ++ rest) b → I rest (l.foldl next b) := by
  intro l
  induction l with
  | nil => intro rest b h; exact h
  | cons a l ih => intro rest b h; exact ih (step a (l ++ rest) b h)

/-- What every round that does not raise keeps, a loop that does not raise
keeps. -/
theorem foldlM_inv {f : β → α → Except ε β} (I : List α → β → Prop)
    (step : ∀ done a b b', f b a = .ok b' → I done b → I (done ++ [a]) b') {l done : List α}
    {b b' : β} (h : l.foldlM f b = .ok b') (hb : I done b) : I (done ++ l) b' := by
  induction l generalizing done b with
  | nil =>
      cases h
      rwa [List.append_nil]
  | cons a l ih =>
      rw [List.foldlM_cons] at h
      obtain ⟨next, hnext, h⟩ := bind_eq_ok.mp h
      rw [List.append_cons]
      exact ih h (step done a b next hnext hb)

/-- A `mapM` succeeds where every element does. -/
theorem mapM_eq_ok {γ : Type v} {f : α → Except ε γ} {l : List α} {values : List γ} :
    l.mapM f = .ok values ↔ List.Forall₂ (fun a value => f a = .ok value) l values := by
  induction l generalizing values with
  | nil =>
      rw [List.mapM_nil]
      constructor
      · intro h
        cases h
        exact .nil
      · intro h
        cases h
        rfl
  | cons a l ih =>
      rw [List.mapM_cons]
      constructor
      · intro h
        obtain ⟨value, hvalue, h⟩ := bind_eq_ok.mp h
        obtain ⟨rest, hrest, h⟩ := bind_eq_ok.mp h
        cases h
        exact .cons hvalue (ih.mp hrest)
      · intro h
        cases h with
        | cons hvalue hrest => rw [hvalue, ok_bind, ih.mpr hrest, ok_bind]; rfl

/-- What holds of every value, read off the elements. -/
theorem mapM_forall_iff {γ : Type v} {f : α → Except ε γ} {l : List α} {values : List γ}
    {P : γ → Prop} {Q : α → Prop} (h : l.mapM f = .ok values)
    (hPQ : ∀ a value, f a = .ok value → (P value ↔ Q a)) :
    (∀ value ∈ values, P value) ↔ ∀ a ∈ l, Q a := by
  have hall : List.Forall₂ (fun a value => f a = .ok value) l values := mapM_eq_ok.mp h
  clear h
  induction hall with
  | nil => simp
  | cons hvalue _ ih =>
      rw [List.forall_mem_cons, List.forall_mem_cons]
      exact and_congr (hPQ _ _ hvalue) ih

theorem mapM_congr {γ : Type v} {f g : α → Except ε γ} {l : List α} (h : ∀ a ∈ l, f a = g a) :
    l.mapM f = l.mapM g := by
  induction l with
  | nil => rfl
  | cons a l ih =>
      rw [List.mapM_cons, List.mapM_cons, h a List.mem_cons_self,
        ih fun b hb => h b (List.mem_cons_of_mem a hb)]

theorem mapM_map_right {γ δ : Type v} {f : α → Except ε γ} {g : γ → δ} {l : List α} :
    l.mapM (fun a => g <$> f a) = List.map g <$> l.mapM f := by
  induction l with
  | nil => rfl
  | cons a l ih =>
      rw [List.mapM_cons, List.mapM_cons, ih]
      simp only [map_bind, bind_map_left]
      rfl

/-- A part of the values, read off the elements. -/
theorem map_of_mapM {γ : Type v} {δ : Type w} {f : α → Except ε γ} {g : γ → δ} {k : α → δ}
    {l : List α} {values : List γ} (h : l.mapM f = .ok values)
    (hk : ∀ a value, f a = .ok value → g value = k a) : values.map g = l.map k := by
  induction mapM_eq_ok.mp h with
  | nil => rfl
  | cons hvalue hrest ih =>
      rw [List.map_cons, List.map_cons, hk _ _ hvalue, ih (mapM_eq_ok.mpr hrest)]

theorem exists_mapM {γ : Type v} {f : α → Except ε γ} {l : List α} :
    (∃ values, l.mapM f = .ok values) ↔ ∀ a ∈ l, ∃ value, f a = .ok value := by
  induction l with
  | nil => exact iff_of_true ⟨[], rfl⟩ fun a ha => nomatch ha
  | cons a l ih =>
      rw [List.forall_mem_cons, ← ih]
      constructor
      · rintro ⟨values, h⟩
        cases mapM_eq_ok.mp h with
        | cons hvalue hrest => exact ⟨⟨_, hvalue⟩, ⟨_, mapM_eq_ok.mpr hrest⟩⟩
      · rintro ⟨⟨value, hvalue⟩, values, hvalues⟩
        exact ⟨value :: values, mapM_eq_ok.mpr (.cons hvalue (mapM_eq_ok.mp hvalues))⟩

/-- A `mapM` whose elements succeed with related values. -/
theorem exists_mapM_forall₂ {γ : Type v} {f : α → Except ε γ} {R : α → γ → Prop} {l : List α}
    (h : ∀ a ∈ l, ∃ value, f a = .ok value ∧ R a value) :
    ∃ values, l.mapM f = .ok values ∧ List.Forall₂ R l values := by
  induction l with
  | nil => exact ⟨[], rfl, .nil⟩
  | cons a l ih =>
      obtain ⟨value, hvalue, hR⟩ := h a List.mem_cons_self
      obtain ⟨values, hvalues, hall⟩ := ih fun b hb => h b (List.mem_cons_of_mem a hb)
      exact ⟨value :: values, mapM_eq_ok.mpr (.cons hvalue (mapM_eq_ok.mp hvalues)), .cons hR hall⟩

/-! ## Results -/

theorem exists_of_isOk {e : Except ε α} (h : e.isOk = true) : ∃ value, e = .ok value := by
  cases e with
  | error raised => cases h
  | ok value => exact ⟨value, rfl⟩

theorem eq_ok_of_toOption {e : Except ε α} {value : α} (h : e.toOption = some value) :
    e = .ok value := by
  cases e with
  | error raised => cases h
  | ok found => exact congrArg Except.ok (Option.some.inj h)

end ExceptFold
