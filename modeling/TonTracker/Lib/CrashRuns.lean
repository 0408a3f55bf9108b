/-
# `Lib.CrashRuns` — programs that stop anywhere

One program at a time runs against a store that outlives it.  A crash ends
it between any two of its steps, and the next program starts from the store
it left.  `Meets` is the total weakest precondition of a program on its
own: what its answers may be is a parameter, so one proof about a program
gives what every run keeps and what an untroubled run achieves.
-/
import TonTracker.Lib.Session

namespace CrashRuns

open Session (Machine Prog)

variable {M : Machine} {α β ε : Type}

/-- What the environment may answer at a store. -/
abbrev Replies (M : Machine) := M.State → (q : M.Query) → M.Answer q → Prop

/-- Every answer. -/
def anyReply : Replies M := fun _ _ _ => True

/-- The program, run to its end on answers of `good`, ends in `post`, and
each of its writes is made at a store where it is one of `guarantee`. -/
def Meets (good : Replies M) (guarantee : M.Write → M.State → Prop) :
    Prog M α → (α → M.State → Prop) → M.State → Prop
  | .done value, post, s => post value s
  | .ask query next, post, s => ∀ answer, good s query answer →
      Meets good guarantee (next answer) post s
  | .read next, post, s => Meets good guarantee (next s) post s
  | .write w next, post, s => guarantee w s ∧
      Meets good guarantee (next (M.commit w s).1) post (M.commit w s).2

section Rules

variable {good : Replies M} {guarantee : M.Write → M.State → Prop}

theorem meets_mono {post post' : α → M.State → Prop} (h : ∀ value s, post value s → post' value s)
    {p : Prog M α} :
    ∀ {s : M.State}, Meets good guarantee p post s → Meets good guarantee p post' s := by
  induction p with
  | done value => intro s hp; exact h value s hp
  | ask query next ih => intro s hp answer hanswer; exact ih answer (hp answer hanswer)
  | read next ih => intro s hp; exact ih s hp
  | write w next ih => intro s hp; exact ⟨hp.1, ih _ hp.2⟩

/-- Fewer answers, fewer demands on the writes. -/
theorem meets_weaken {good' : Replies M} {guarantee' : M.Write → M.State → Prop}
    (hgood : ∀ s q a, good' s q a → good s q a)
    (hguarantee : ∀ w s, guarantee w s → guarantee' w s) {post : α → M.State → Prop}
    {p : Prog M α} :
    ∀ {s : M.State}, Meets good guarantee p post s → Meets good' guarantee' p post s := by
  induction p with
  | done value => intro s hp; exact hp
  | ask query next ih =>
      intro s hp answer hanswer
      exact ih answer (hp answer (hgood s query answer hanswer))
  | read next ih => intro s hp; exact ih s hp
  | write w next ih => intro s hp; exact ⟨hguarantee w s hp.1, ih _ hp.2⟩

theorem meets_bind {f : α → Prog M β} {post : β → M.State → Prop} {p : Prog M α} :
    ∀ {s : M.State},
      Meets good guarantee p (fun value => Meets good guarantee (f value) post) s →
        Meets good guarantee (p >>= f) post s := by
  induction p with
  | done value => intro s hp; exact hp
  | ask query next ih => intro s hp answer hanswer; exact ih answer (hp answer hanswer)
  | read next ih => intro s hp; exact ih s hp
  | write w next ih => intro s hp; exact ⟨hp.1, ih _ hp.2⟩

/-- The same for programs that may raise. -/
theorem meets_bindExcept {p : ExceptT ε (Prog M) α} {f : α → ExceptT ε (Prog M) β}
    {post : Except ε β → M.State → Prop} {s : M.State}
    (hp : Meets good guarantee p.run (fun value s' => match value with
      | .ok value => Meets good guarantee (f value).run post s'
      | .error error => post (.error error) s') s) :
    Meets good guarantee (p >>= f).run post s := by
  refine meets_bind (meets_mono ?_ hp)
  intro value s' h
  cases value with
  | ok value => exact h
  | error error => exact h

/-- What an untroubled run and every run achieve, some run achieves
both. -/
theorem meets_exists {guarantee' : M.Write → M.State → Prop}
    (inhabited : ∀ s q, ∃ a, good s q a) {post post' : α → M.State → Prop} {p : Prog M α} :
    ∀ {s : M.State}, Meets good guarantee p post s → Meets anyReply guarantee' p post' s →
      ∃ value s', post value s' ∧ post' value s' := by
  induction p with
  | done value => intro s hp hp'; exact ⟨value, s, hp, hp'⟩
  | ask query next ih =>
      intro s hp hp'
      obtain ⟨answer, hanswer⟩ := inhabited s query
      exact ih answer (hp answer hanswer) (hp' answer trivial)
  | read next ih => intro s hp hp'; exact ih s hp hp'
  | write w next ih => intro s hp hp'; exact ih _ hp.2 hp'.2

end Rules

/-! ## Programs that may raise -/

section Raising

variable {fine : Prop} {good : Replies M} {guarantee : M.Write → M.State → Prop}

/-- The program ends in `ok`, or it raises and leaves a store of `raised`;
where the environment is `fine` it does not raise. -/
def Does (fine : Prop) (good : Replies M) (guarantee : M.Write → M.State → Prop)
    (body : ExceptT ε (Prog M) α) (ok : α → M.State → Prop) (raised : M.State → Prop)
    (s : M.State) : Prop :=
  Meets good guarantee body.run (fun result s' => match result with
    | .ok value => ok value s'
    | .error _ => ¬fine ∧ raised s') s

theorem does_mono {body : ExceptT ε (Prog M) α} {ok ok' : α → M.State → Prop}
    {raised raised' : M.State → Prop} {s : M.State} (h : Does fine good guarantee body ok raised s)
    (hok : ∀ value s', ok value s' → ok' value s') (hraised : ∀ s', raised s' → raised' s') :
    Does fine good guarantee body ok' raised' s := by
  refine meets_mono ?_ h
  intro result s' hresult
  cases result with
  | ok value => exact hok value s' hresult
  | error error => exact ⟨hresult.1, hraised s' hresult.2⟩

theorem does_pure {value : α} {ok : α → M.State → Prop} {raised : M.State → Prop} {s : M.State}
    (h : ok value s) :
    Does fine good guarantee (pure value : ExceptT ε (Prog M) α) ok raised s := h

theorem does_bind {body : ExceptT ε (Prog M) α} {f : α → ExceptT ε (Prog M) β}
    {ok : β → M.State → Prop} {raised : M.State → Prop} {s : M.State}
    (h : Does fine good guarantee body
      (fun value s' => Does fine good guarantee (f value) ok raised s') raised s) :
    Does fine good guarantee (body >>= f) ok raised s := by
  refine meets_bindExcept (meets_mono ?_ h)
  intro result s' hresult
  cases result with
  | ok value => exact hresult
  | error error => exact hresult

/-- What is computed without a step. -/
theorem does_except {checked : Except ε α} {ok : α → M.State → Prop} {raised : M.State → Prop}
    {s : M.State} (hok : ∀ value, checked = .ok value → ok value s) (hraised : raised s)
    (hfine : fine → ∃ value, checked = .ok value) :
    Does fine good guarantee (ExceptT.mk (.done checked) : ExceptT ε (Prog M) α) ok raised s := by
  cases checked with
  | ok value => exact hok value rfl
  | error error =>
      refine ⟨fun h => ?_, hraised⟩
      obtain ⟨_, h⟩ := hfine h
      cases h

/-- A step that is followed by what every store it leaves is ready for. -/
theorem does_then {body : ExceptT ε (Prog M) α} {f : α → ExceptT ε (Prog M) β}
    {mid : α → M.State → Prop} {ok : β → M.State → Prop} {raised : M.State → Prop} {s : M.State}
    (h : Does fine good guarantee body mid raised s)
    (hf : ∀ value s', mid value s' → Does fine good guarantee (f value) ok raised s') :
    Does fine good guarantee (body >>= f) ok raised s :=
  does_bind (does_mono h hf fun _ h => h)

/-- An exception that is replaced by another. -/
theorem does_rethrow {body : ExceptT ε (Prog M) α} {replace : ε → ε} {ok : α → M.State → Prop}
    {raised : M.State → Prop} {s : M.State} (h : Does fine good guarantee body ok raised s) :
    Does fine good guarantee (tryCatch body fun error => throw (replace error)) ok raised s := by
  refine meets_bind (meets_mono ?_ h)
  intro result s' hresult
  cases result with
  | ok value => exact hresult
  | error error => exact hresult

/-- `finally`, after an exception. -/
theorem does_cleanup {body : ExceptT ε (Prog M) α} {cleanup : ε → ExceptT ε (Prog M) α}
    {ok : α → M.State → Prop} {mid raised : M.State → Prop} {s : M.State}
    (h : Does fine good guarantee body ok mid s)
    (hcleanup : ∀ error s', ¬fine → mid s' →
      Does fine good guarantee (cleanup error) (fun _ _ => False) raised s') :
    Does fine good guarantee (tryCatch body cleanup) ok raised s := by
  refine meets_bind (meets_mono ?_ h)
  intro result s' hresult
  cases result with
  | ok value => exact hresult
  | error error =>
      refine does_mono (hcleanup error s' hresult.1 hresult.2) ?_ fun _ h => h
      exact fun _ _ h => h.elim

theorem does_throw {error : ε} {ok : α → M.State → Prop} {raised : M.State → Prop} {s : M.State}
    (hfine : ¬fine) (h : raised s) :
    Does fine good guarantee (throw error : ExceptT ε (Prog M) α) ok raised s := ⟨hfine, h⟩

/-- An exception that is swallowed. -/
theorem does_swallow (mid : M.State → Prop) {body : ExceptT ε (Prog M) α} {value : α}
    {ok : α → M.State → Prop} {raised : M.State → Prop} {s : M.State} (h : Does fine good guarantee body ok mid s)
    (hmid : ∀ s', mid s' → ok value s') :
    Does fine good guarantee (tryCatch body fun _ => pure value) ok raised s := by
  refine meets_bind (meets_mono ?_ h)
  intro result s' hresult
  cases result with
  | ok value => exact hresult
  | error error => exact hmid s' hresult.2

end Raising

/-! ## Runs that are cut short -/

/-- What a program is answered at one step. -/
abbrev StepAnswers (M : Machine) := (q : M.Query) → M.Answer q

/-- A program and the store after as many steps as there are answers. -/
def after (p : Prog M α) (s : M.State) : List (StepAnswers M) → Prog M α × M.State
  | [] => (p, s)
  | answers :: rest => after (p.advance answers s).1 (p.advance answers s).2 rest

/-- The answers of each step are ones of `good`. -/
def Fair (good : Replies M) (p : Prog M α) (s : M.State) : List (StepAnswers M) → Prop
  | [] => True
  | answers :: rest => (∀ q, good s q (answers q)) ∧
      Fair good (p.advance answers s).1 (p.advance answers s).2 rest

theorem fair_any {p : Prog M α} {s : M.State} (cut : List (StepAnswers M)) :
    Fair anyReply p s cut := by
  induction cut generalizing p s with
  | nil => exact trivial
  | cons answers rest ih => exact ⟨fun _ => trivial, ih⟩

section After

variable {good : Replies M} {guarantee : M.Write → M.State → Prop} {post : α → M.State → Prop}

theorem meets_advance {p : Prog M α} {s : M.State} (hp : Meets good guarantee p post s)
    {answers : StepAnswers M} (h : ∀ q, good s q (answers q)) :
    Meets good guarantee (p.advance answers s).1 post (p.advance answers s).2 := by
  cases p with
  | done value => exact hp
  | ask query next => exact hp _ (h query)
  | read next => exact hp
  | write w next => exact hp.2

theorem meets_after {p : Prog M α} {s : M.State} (hp : Meets good guarantee p post s)
    {cut : List (StepAnswers M)} (fair : Fair good p s cut) :
    Meets good guarantee (after p s cut).1 post (after p s cut).2 := by
  induction cut generalizing p s with
  | nil => exact hp
  | cons answers rest ih => exact ih (meets_advance hp fair.1) fair.2

/-- The write a program stopped at would make is one of `guarantee`. -/
theorem guarantee_after {p : Prog M α} {s : M.State} (hp : Meets good guarantee p post s)
    {cut : List (StepAnswers M)} (fair : Fair good p s cut) {w : M.Write}
    (hw : (after p s cut).1.pending = some w) : guarantee w (after p s cut).2 := by
  have h := meets_after hp fair
  cases hstopped : (after p s cut).1 with
  | done value => rw [hstopped] at hw; cases hw
  | ask query next => rw [hstopped] at hw; cases hw
  | read next => rw [hstopped] at hw; cases hw
  | write w' next =>
      rw [hstopped] at h hw
      cases hw
      exact h.1

/-- A program that was not stopped. -/
theorem post_after {p : Prog M α} {s : M.State} (hp : Meets good guarantee p post s)
    {cut : List (StepAnswers M)} (fair : Fair good p s cut) {value : α}
    (hdone : (after p s cut).1 = .done value) : post value (after p s cut).2 := by
  have h := meets_after hp fair
  rw [hdone] at h
  exact h

/-- What every write of `guarantee` keeps, a program keeps wherever it is
stopped. -/
theorem inv_after {inv : M.State → Prop}
    (kept : ∀ w s, guarantee w s → inv s → inv (M.commit w s).2) {p : Prog M α} {s : M.State}
    (hp : Meets good guarantee p post s) {cut : List (StepAnswers M)} (fair : Fair good p s cut)
    (hs : inv s) : inv (after p s cut).2 := by
  induction cut generalizing p s with
  | nil => exact hs
  | cons answers rest ih =>
      refine ih (meets_advance hp fair.1) fair.2 ?_
      cases p with
      | done value => exact hs
      | ask query next => exact hs
      | read next => exact hs
      | write w next => exact kept w s hp.1 hs

end After

/-! ## One program after another -/

section Sequence

variable {Entry : Type} (program : Entry → Prog M α)

/-- The stores that programs, each possibly stopped, leave behind. -/
inductive Later (s : M.State) : M.State → Prop where
  | refl : Later s s
  | call {s' : M.State} (before : Later s s') (entry : Entry) (cut : List (StepAnswers M)) :
      Later s (after (program entry) s' cut).2

variable {program}

/-- What every program keeps, whatever it is answered and wherever it is
stopped, every later store has. -/
theorem Later.inv {guarantee : M.Write → M.State → Prop} (inv : M.State → Prop)
    (kept : ∀ w s, guarantee w s → inv s → inv (M.commit w s).2)
    (safe : ∀ entry s, inv s → Meets anyReply guarantee (program entry) (fun _ _ => True) s)
    {s s' : M.State} (h : Later program s s') (hs : inv s) : inv s' := by
  induction h with
  | refl => exact hs
  | call before entry cut ih => exact inv_after kept (safe entry _ ih) (fair_any cut) ih

section Leads

variable (program) (allowed : Entry → M.State → Prop) (good : Replies M)

/-- The same, where a program may start only at some stores and the answers
are ones of `good`. -/
inductive Leads (s : M.State) : M.State → Prop where
  | refl : Leads s s
  | call {s' : M.State} (before : Leads s s') (entry : Entry) (ok : allowed entry s')
      (cut : List (StepAnswers M)) (fair : Fair good (program entry) s' cut) :
      Leads s (after (program entry) s' cut).2

end Leads

theorem Leads.inv {allowed : Entry → M.State → Prop} {good : Replies M}
    {guarantee : M.Write → M.State → Prop} (inv : M.State → Prop)
    (kept : ∀ w s, guarantee w s → inv s → inv (M.commit w s).2)
    (safe : ∀ entry s, allowed entry s → inv s →
      Meets good guarantee (program entry) (fun _ _ => True) s)
    {s s' : M.State} (h : Leads program allowed good s s') (hs : inv s) : inv s' := by
  induction h with
  | refl => exact hs
  | call before entry ok cut fair ih => exact inv_after kept (safe entry _ ok ih) fair ih

end Sequence

end CrashRuns
