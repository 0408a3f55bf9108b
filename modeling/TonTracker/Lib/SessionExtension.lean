/-
# `Lib.SessionExtension` — programs of one machine on a larger one

A machine whose store is a part of another's: its questions and writes are
questions and writes of the larger machine, and a program of the smaller
one runs on the larger one as it stands.  What the sessions then promise
of their replies is a postcondition that the others keep (`Promised`).
-/
import TonTracker.Lib.Session

namespace Session

/-- The machine `M` as a part of `N`. -/
structure Extension (M N : Machine) where
  view : N.State → M.State
  query : M.Query → N.Query
  answer : ∀ q, N.Answer (query q) → M.Answer q
  write : M.Write → N.Write
  result : ∀ w, N.Result (write w) → M.Result w

namespace Prog

variable {M N : Machine} {α β : Type}

/-- The program on the larger machine. -/
def lift (E : Extension M N) : Prog M α → Prog N α
  | .done value => .done value
  | .ask query next => .ask (E.query query) fun answer => (next (E.answer query answer)).lift E
  | .read next => .read fun s => (next (E.view s)).lift E
  | .write w next => .write (E.write w) fun result => (next (E.result w result)).lift E

/-- Its writes are those of the smaller machine. -/
theorem all_lift {E : Extension M N} {inv : N.State → Prop} {P : N.Write → Prop}
    (h : ∀ w, P (E.write w)) (p : Prog M α) : (p.lift E).All inv P := by
  induction p with
  | done value => exact trivial
  | ask query next ih => exact fun answer => ih (E.answer query answer)
  | read next ih => exact fun s _ => ih (E.view s)
  | write w next ih => exact ⟨h w, fun result => ih (E.result w result)⟩

end Prog

/-! ## Replies -/

namespace Protocol

variable {M : Machine} {S : System M} {R : Protocol M} {post : S.Reply → M.State → Prop}
  {world world' : World S}

/-- Every session will reply as it promises, or has. -/
def Promised (R : Protocol M) (post : S.Reply → M.State → Prop) (world : World S) : Prop :=
  ∀ (sid : Nat) (p : Prog M S.Reply), world.sessions[sid]? = some p →
    ∃ s, R.rely sid s world.state ∧ R.pre sid p post s

/-- A move that commits is one of the session that commits. -/
theorem commits_runs {move : Move S} {sid : Nat} {w : M.Write}
    (h : world.commits move = some (sid, w)) : ∃ answers q, move = .run sid answers ∧
      world.sessions[sid]? = some q ∧ q.pending = some w := by
  cases move with
  | launch entry => cases h
  | run runner answers =>
      cases hq : world.sessions[runner]? with
      | none => simp only [World.commits, hq, Option.bind_none, Option.map_none, reduceCtorEq] at h
      | some q =>
          rw [World.commits_run hq] at h
          obtain ⟨w', hw, hpair⟩ := Option.map_eq_some_iff.mp h
          cases hpair
          exact ⟨answers, q, rfl, hq, hw⟩

/-- The next commit keeps to the protocol. -/
theorem Promised.may (h : R.Promised post world) (hinv : R.inv world.state) {move : Move S}
    {sid : Nat} {w : M.Write} (hcommit : world.commits move = some (sid, w)) :
    R.may sid w world.state := by
  obtain ⟨answers, q, -, hq, hw⟩ := commits_runs hcommit
  obtain ⟨s, hs, hpre⟩ := h sid q hq
  exact (wp_advance hs (rely_refl hinv)
    (fun w hallowed hw => rely_refl (R.preserved sid w _ hinv hallowed hw)) hpre answers).1 w hw

theorem Promised.inv (h : R.Promised post world) (hinv : R.inv world.state) {move : Move S}
    (allowed : ∀ sid w, world.commits move = some (sid, w) → R.allowed sid w world.state) :
    R.inv (world.step move).state := by
  rw [World.state_step]
  split
  next sid w hcommit =>
    exact R.preserved sid w _ hinv (allowed sid w hcommit) (h.may hinv hcommit)
  next => exact hinv

theorem Promised.step (programs : ∀ sid entry,
      R.Triple sid (fun _ => True) (S.program sid entry) post)
    (h : R.Promised post world) (hinv : R.inv world.state) (move : Move S)
    (allowed : ∀ sid w, world.commits move = some (sid, w) → R.allowed sid w world.state) :
    R.Promised post (world.step move) := by
  intro sid p hp
  obtain ⟨hold, hother⟩ | ⟨entry, rfl, rfl⟩ | ⟨answers, q, rfl, hq, rfl⟩ := World.sessions_step hp
  · obtain ⟨s, hs, hpre⟩ := h sid p hold
    refine ⟨s, ?_, hpre⟩
    rw [World.state_step]
    split
    next other w hcommit =>
      refine rely_tail hs ?_ (allowed other w hcommit) (h.may hinv hcommit)
      rintro rfl
      obtain ⟨answers, -, hmove, -⟩ := commits_runs hcommit
      exact hother answers hmove
    next => exact hs
  · exact ⟨world.state, rely_refl hinv,
      wp_mono (fun _ _ h => h.2) (programs sid entry _ hinv trivial)⟩
  · obtain ⟨s, hs, hpre⟩ := h sid q hq
    have next := wp_advance hs (rely_refl hinv)
      (fun w hallowed hw => rely_refl (R.preserved sid w _ hinv hallowed hw)) hpre answers
    rw [World.step_run hq]
    refine next.2 fun w hw => allowed sid w ?_
    rw [World.commits_run hq, hw]
    rfl

/-- Over a run. -/
theorem Promised.run (programs : ∀ sid entry,
      R.Triple sid (fun _ => True) (S.program sid entry) post)
    (h : R.Promised post world) (hinv : R.inv world.state) (run : Run R.allowed world world') :
    R.inv world'.state ∧ R.Promised post world' := by
  induction run with
  | refl => exact ⟨hinv, h⟩
  | step run move allowed ih =>
      exact ⟨ih.2.inv ih.1 allowed, ih.2.step programs ih.1 move allowed⟩

/-- What a session that has replied promised holds. -/
theorem Promised.reply (stable : ∀ sid value, R.Stable sid (post value))
    (h : R.Promised post world) {sid : Nat} {value : S.Reply}
    (hdone : world.sessions[sid]? = some (.done value)) : post value world.state := by
  obtain ⟨s, hs, hpre⟩ := h sid _ hdone
  exact (stable sid value).rely hs hpre

end Protocol

end Session
