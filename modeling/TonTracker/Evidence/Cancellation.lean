/-
# `Evidence.Cancellation` — a recorded cancellation decides the end

Once a running verification is flagged, the transactions that could end
it otherwise are closed: success, failure, retry and recovery for retry
ask for an unset flag, and what is written back leaves the flag and the
state alone (`apply_cancelling`).  The one way to lose the flag is the
artifact conflict, which clears the bindings.  A binding is written back
with the error code it was read with, so a running row must carry none:
that is what the sessions owe each other here.
-/
import TonTracker.Evidence.Constraints
import TonTracker.Evidence.Versions

namespace TonTracker

open Relational (Table)
open Session (World Run Move Reaches Protocol)

namespace EvidenceRow

/-- A flagged row, or what it may end as. -/
def Cancelling (e : EvidenceRow) : Prop :=
  e.state = .running ∧ e.cancelRequestedAt.isSome = true ∨ e.state = .cancelled ∨
    e.state = .failed ∧ e.errorCode = some artifactConflict

theorem terminalCancel_cancelling (e : EvidenceRow) (valid : Bool) (message : Text)
    (now : Instant) : (e.terminalCancel valid message now).Cancelling := by
  unfold terminalCancel
  split
  · exact .inr (.inl rfl)
  · exact .inr (.inr ⟨rfl, rfl⟩)

/-- A running row that is flagged. -/
theorem Cancelling.flagged {e : EvidenceRow} (h : e.Cancelling) (hrunning : e.state = .running) :
    e.cancelRequestedAt.isSome = true := by
  rcases h with ⟨-, hcancel⟩ | hcancelled | ⟨hfailed, -⟩
  · exact hcancel
  · rw [hrunning] at hcancelled
    cases hcancelled
  · rw [hrunning] at hfailed
    cases hfailed

/-- A transaction that asks for an unset flag does not select the row. -/
theorem Cancelling.not_unflagged {e : EvidenceRow} (h : e.Cancelling)
    (hrunning : e.state = .running) (hcancel : e.cancelRequestedAt = none) : False := by
  have hsome := h.flagged hrunning
  rw [hcancel] at hsome
  cases hsome

theorem Cancelling.not_queued {e : EvidenceRow} (h : e.Cancelling) : e.state ≠ .queued := by
  intro hqueued
  rcases h with ⟨hstate, -⟩ | hstate | ⟨hstate, -⟩ <;> rw [hqueued] at hstate <;> cases hstate

/-- Changes that keep the state, the flag and the error code. -/
theorem Cancelling.congr {e e' : EvidenceRow} (h : e.Cancelling) (hstate : e'.state = e.state)
    (hcancel : e'.cancelRequestedAt = e.cancelRequestedAt) (hcode : e'.errorCode = e.errorCode) :
    e'.Cancelling := by
  unfold Cancelling
  rw [hstate, hcancel, hcode]
  exact h

/-- A cancellation written back over any row ends it. -/
theorem written_terminalCancel_cancelling {loaded : EvidenceRow} (e : EvidenceRow) (valid : Bool)
    (message : Text) (now : Instant) (hrunning : loaded.state = .running)
    (hcode : loaded.errorCode = none) :
    (written loaded (loaded.terminalCancel valid message now) e).Cancelling := by
  unfold terminalCancel
  split
  · refine .inr (.inl ?_)
    change setIfChanged loaded.state .cancelled e.state = .cancelled
    exact setIfChanged_of_ne _ (hrunning ▸ fun h => nomatch h)
  · refine .inr (.inr ⟨?_, ?_⟩)
    · change setIfChanged loaded.state .failed e.state = .failed
      exact setIfChanged_of_ne _ (hrunning ▸ fun h => nomatch h)
    · change setIfChanged loaded.errorCode (some artifactConflict) e.errorCode = _
      exact setIfChanged_of_ne _ (hcode ▸ fun h => nomatch h)

end EvidenceRow

namespace EvidenceWrite

/-- Every transaction keeps a flagged row on its way to a cancelled or
conflicting end. -/
theorem apply_cancelling {v : EvidenceWrite} {id : Nat} {e e' : EvidenceRow}
    (hback : ∀ jobId loaded, v.writesBack = some (jobId, loaded) → loaded.errorCode = none)
    (h : e.Cancelling) (happly : v.apply id e = some e') : e'.Cancelling := by
  cases v with
  | enqueue row => cases happly
  | recoverRetry now =>
      simp only [apply, Option.ite_none_right_eq_some, Bool.and_eq_true, decide_eq_true_eq,
        Option.isNone_iff_eq_none] at happly
      exact (h.not_unflagged happly.1.1.1.1 happly.1.1.2).elim
  | finishRecoveredCancel jobId valid now =>
      simp only [apply, Option.ite_none_right_eq_some, Option.some.injEq] at happly
      obtain ⟨-, rfl⟩ := happly
      exact EvidenceRow.terminalCancel_cancelling _ _ _ _
  | finishExpired jobId token leaseExpiresAt cutoff valid digest now =>
      simp only [apply, Option.ite_none_right_eq_some, Option.some.injEq, Bool.and_eq_true,
        decide_eq_true_eq] at happly
      obtain ⟨⟨⟨⟨⟨⟨⟨-, hrunning⟩, -⟩, -⟩, -⟩, -⟩, -⟩, rfl⟩ := happly
      rw [if_pos (h.flagged hrunning)]
      exact EvidenceRow.terminalCancel_cancelling _ _ _ _
  | claim jobId token now leaseUntil =>
      simp only [apply, Option.ite_none_right_eq_some, Bool.and_eq_true, decide_eq_true_eq]
        at happly
      exact absurd happly.1.1.1.1.2 h.not_queued
  | advance lease stage now leaseUntil =>
      simp only [apply, Option.ite_none_right_eq_some, Option.some.injEq] at happly
      obtain ⟨-, rfl⟩ := happly
      exact h.congr rfl rfl rfl
  | heartbeat lease now leaseUntil =>
      simp only [apply, Option.ite_none_right_eq_some, Option.some.injEq] at happly
      obtain ⟨-, rfl⟩ := happly
      exact h.congr rfl rfl rfl
  | bind lease loaded artifact completedAt now leaseUntil =>
      simp only [apply, Option.ite_none_right_eq_some, Option.some.injEq] at happly
      obtain ⟨-, rfl⟩ := happly
      obtain ⟨hstate, hcancel, hcode⟩ :=
        EvidenceRow.written_bound_fields loaded e artifact completedAt now leaseUntil
      exact h.congr hstate hcancel hcode
  | finishSuccess lease valid digest now =>
      simp only [apply, Option.ite_none_right_eq_some, Bool.and_eq_true, decide_eq_true_eq,
        Option.isNone_iff_eq_none] at happly
      exact (h.not_unflagged (EvidenceRow.ownedBy_running happly.1.1.1.1.2).1
        happly.1.1.1.2).elim
  | finishFailure lease code message valid digest now terminalNow =>
      simp only [apply, Option.ite_none_right_eq_some, Bool.and_eq_true,
        Option.isNone_iff_eq_none] at happly
      exact (h.not_unflagged (EvidenceRow.ownedBy_running happly.1.1.2).1 happly.1.2).elim
  | finishInvalidSelection lease code message valid now terminalNow =>
      simp only [apply, Option.ite_none_right_eq_some, Option.some.injEq, Bool.and_eq_true]
        at happly
      obtain ⟨⟨-, howned⟩, rfl⟩ := happly
      rw [if_pos (h.flagged (EvidenceRow.ownedBy_running howned).1)]
      exact EvidenceRow.terminalCancel_cancelling _ _ _ _
  | finishCancelled lease loaded valid now terminalNow =>
      simp only [apply, Option.ite_none_right_eq_some, Option.some.injEq, Bool.and_eq_true]
        at happly
      obtain ⟨⟨⟨-, howned⟩, -⟩, rfl⟩ := happly
      exact EvidenceRow.written_terminalCancel_cancelling e valid _ terminalNow
        (EvidenceRow.ownedBy_running howned).1 (hback _ _ rfl)
  | scheduleRetry lease code message now retryAt =>
      simp only [apply, Option.ite_none_right_eq_some, Bool.and_eq_true,
        Option.isNone_iff_eq_none] at happly
      exact (h.not_unflagged (EvidenceRow.ownedBy_running happly.1.1.2).1 happly.1.2).elim
  | cancelQueued jobId caseId observedVersion now =>
      simp only [apply, Option.ite_none_right_eq_some, Bool.and_eq_true, decide_eq_true_eq]
        at happly
      exact absurd happly.1.1.2 h.not_queued
  | cancelRunning jobId caseId observedVersion now =>
      simp only [apply, Option.ite_none_right_eq_some, Bool.and_eq_true, decide_eq_true_eq,
        Option.isNone_iff_eq_none] at happly
      exact (h.not_unflagged happly.1.1.1.2 happly.1.2).elim

end EvidenceWrite

/-! ## Running rows carry no error -/

/-- A running row carries no error code. -/
def EvidenceRow.Clean (e : EvidenceRow) : Prop := e.state = .running → e.errorCode = none

theorem EvidenceRow.clean_of_ne {e : EvidenceRow} (h : e.state ≠ .running) : e.Clean :=
  fun hrunning => absurd hrunning h

theorem EvidenceRow.terminalCancel_clean (e : EvidenceRow) (valid : Bool) (message : Text)
    (now : Instant) : (e.terminalCancel valid message now).Clean := by
  unfold terminalCancel
  split <;> exact clean_of_ne fun h => nomatch h

theorem EvidenceRow.terminalRow_clean (e : EvidenceRow) (valid : Bool) (digest : HexDigest)
    (code message : Text) (now : Instant) :
    (e.terminalRow valid digest code message now).Clean := by
  unfold terminalRow
  split
  · exact terminalCancel_clean e valid _ now
  · split
    · split <;> exact clean_of_ne fun h => nomatch h
    · exact clean_of_ne fun h => nomatch h

theorem EvidenceWrite.apply_clean {v : EvidenceWrite} {id : Nat} {e e' : EvidenceRow}
    (h : e.Clean) (happly : v.apply id e = some e') : e'.Clean := by
  cases v with
  | enqueue row => cases happly
  | claim jobId token now leaseUntil =>
      simp only [apply, Option.ite_none_right_eq_some, Option.some.injEq] at happly
      obtain ⟨-, rfl⟩ := happly
      exact fun _ => rfl
  | finishRecoveredCancel jobId valid now =>
      simp only [apply, Option.ite_none_right_eq_some, Option.some.injEq] at happly
      obtain ⟨-, rfl⟩ := happly
      exact EvidenceRow.terminalCancel_clean _ _ _ _
  | finishExpired jobId token leaseExpiresAt cutoff valid digest now =>
      simp only [apply, Option.ite_none_right_eq_some, Option.some.injEq] at happly
      obtain ⟨-, rfl⟩ := happly
      split
      · exact EvidenceRow.terminalCancel_clean _ _ _ _
      · exact EvidenceRow.terminalRow_clean _ _ _ _ _ _
  | bind lease loaded artifact completedAt now leaseUntil =>
      simp only [apply, Option.ite_none_right_eq_some, Option.some.injEq] at happly
      obtain ⟨-, rfl⟩ := happly
      obtain ⟨hstate, -, hcode⟩ :=
        EvidenceRow.written_bound_fields loaded e artifact completedAt now leaseUntil
      intro hrunning
      exact hcode.trans (h (hstate ▸ hrunning))
  | finishFailure lease code message valid digest now terminalNow =>
      simp only [apply, Option.ite_none_right_eq_some, Option.some.injEq] at happly
      obtain ⟨-, rfl⟩ := happly
      exact EvidenceRow.terminalRow_clean _ _ _ _ _ _
  | finishInvalidSelection lease code message valid now terminalNow =>
      simp only [apply, Option.ite_none_right_eq_some, Option.some.injEq] at happly
      obtain ⟨-, rfl⟩ := happly
      split
      · exact EvidenceRow.terminalCancel_clean _ _ _ _
      · exact EvidenceRow.clean_of_ne (by rintro ⟨⟩)
  | finishCancelled lease loaded valid now terminalNow =>
      simp only [apply, Option.ite_none_right_eq_some, Option.some.injEq, Bool.and_eq_true]
        at happly
      obtain ⟨⟨⟨-, howned⟩, -⟩, rfl⟩ := happly
      have hrunning := (EvidenceRow.ownedBy_running howned).1
      refine EvidenceRow.clean_of_ne fun hstate => ?_
      cases valid with
      | true =>
          change setIfChanged loaded.state .cancelled e.state = .running at hstate
          rw [setIfChanged_of_ne _ (by rw [hrunning]; decide)] at hstate
          cases hstate
      | false =>
          change setIfChanged loaded.state .failed e.state = .running at hstate
          rw [setIfChanged_of_ne _ (by rw [hrunning]; decide)] at hstate
          cases hstate
  | advance lease stage now leaseUntil =>
      simp only [apply, Option.ite_none_right_eq_some, Option.some.injEq] at happly
      obtain ⟨-, rfl⟩ := happly
      exact h
  | heartbeat lease now leaseUntil =>
      simp only [apply, Option.ite_none_right_eq_some, Option.some.injEq] at happly
      obtain ⟨-, rfl⟩ := happly
      exact h
  | cancelRunning jobId caseId observedVersion now =>
      simp only [apply, Option.ite_none_right_eq_some, Option.some.injEq] at happly
      obtain ⟨-, rfl⟩ := happly
      exact h
  | _ =>
      simp only [apply, Option.ite_none_right_eq_some, Option.some.injEq] at happly
      obtain ⟨-, rfl⟩ := happly
      exact EvidenceRow.clean_of_ne (by rintro ⟨⟩)

/-- What the sessions owe each other: a row is inserted clean, and written
back only if it was read clean. -/
def cleanEvidence : Protocol caseMachine where
  inv := fun s => ∀ id e, s.evidence.get? id = some e → e.Clean
  allowed := fun _ _ _ => True
  may := fun _ w _ => ∀ v, w = .evidence v →
    (∀ row, v = .enqueue row → row.Clean) ∧
      ∀ jobId loaded, v.writesBack = some (jobId, loaded) → loaded.errorCode = none
  preserved := by
    intro sid w s hinv _ hmay id e' h
    rcases Write.evidence_after h with h | ⟨row, rfl, -, rfl, -⟩ | ⟨v, e, rfl, h, happly, -⟩
    · exact hinv id e' h
    · exact (hmay _ rfl).1 _ rfl
    · exact EvidenceWrite.apply_clean (hinv id e h) happly

theorem cleanEvidence_permits (sid : Nat) : EvidencePermits cleanEvidence sid := by
  refine evidencePermits_of (A := fun _ loaded _ => loaded.errorCode = none) ?_ ?_ ?_ ?_ ?_
  · intro v hv s _ v' hw
    cases hw
    refine ⟨fun row hrow => ?_, fun jobId loaded hback => ?_⟩
    · subst hrow
      exact hv.elim
    · rw [hv.writesBack] at hback
      cases hback
  · intro request caseId publicId resolved now s _ v hw
    cases hw
    refine ⟨fun row hrow => ?_, fun jobId loaded hback => nomatch hback⟩
    cases hrow
    exact EvidenceRow.clean_of_ne fun h => nomatch h
  · exact fun _ _ _ _ _ _ _ _ _ h => h
  · intro lease now loaded s hinv howned
    obtain ⟨hget, howned⟩ := Option.filter_eq_some_iff.mp howned
    exact hinv lease.jobId loaded hget (EvidenceRow.ownedBy_running howned).1
  · intro v lease loaded s _ hv hcode v' hw
    cases hw
    refine ⟨fun row hrow => ?_, fun jobId row hback => ?_⟩
    · subst hrow
      cases hv
    · rw [hv] at hback
      cases hback
      exact hcode

theorem cleanEvidence_program (sha : Sha256) (sid : Nat) (entry : Entry) :
    cleanEvidence.Triple sid (fun _ => True) (program sha sid entry) fun _ _ => True := by
  refine @triple_program cleanEvidence sha (fun _ _ => True) ?_ ?_ cleanEvidence_permits
    sid entry
  · intro sid w s _ hw v heq
    subst heq
    cases hw
  · intro sid
    exact safe_runSyncOnce (fun _ _ _ _ heq => nomatch heq) (fun _ _ _ _ heq => nomatch heq)
      (fun _ _ _ _ _ _ heq => nomatch heq) sid

/-! ## Every continuation -/

/-- A flagged row after a commit of a session that keeps to the protocol. -/
theorem cancelling_after {sid : Nat} {w : Write} {s : Store} (hmay : cleanEvidence.may sid w s)
    {jobId : Nat} {e : EvidenceRow} (keeps : KeepsCase e.caseId sid w s)
    (h : s.evidence.get? jobId = some e) (hcancelling : e.Cancelling) :
    ∃ e', (w.commit s).2.evidence.get? jobId = some e' ∧ e'.Cancelling ∧ e'.caseId = e.caseId := by
  obtain ⟨e', h'⟩ := Write.evidence_keeps keeps h
  refine ⟨e', h', ?_⟩
  rcases Write.evidence_after h' with hsame | ⟨row, -, hnone, -, -⟩ | ⟨v, e₀, rfl, h₀, happly, -⟩
  · rw [h] at hsame
    cases hsame
    exact ⟨hcancelling, rfl⟩
  · rw [h] at hnone
    cases hnone
  · rw [h] at h₀
    cases h₀
    exact ⟨EvidenceWrite.apply_cancelling (hmay v rfl).2 hcancelling happly,
      EvidenceWrite.apply_caseId happly⟩

/-- A conflicting end has nothing bound. -/
theorem EvidenceRow.failed_unbound {e : EvidenceRow} (h : e.checks = true)
    (hfailed : e.state = .failed) :
    e.progressCurrent = 0 ∧ e.artifactsEmpty.all id = true := by
  obtain ⟨-, hartifacts, hprogress, -, -⟩ := checks_iff.mp h
  unfold stateProgressCheck at hprogress
  rw [hfailed] at hprogress
  have hzero : e.progressCurrent = 0 := of_decide_eq_true hprogress
  simp only [artifactPrefixCheck, Bool.and_eq_true, hzero, List.drop_zero] at hartifacts
  exact ⟨hzero, hartifacts.1.2⟩

/-- From any reachable state in which a running verification is flagged, it
ends, in every continuation, cancelled or failed with an artifact conflict
and nothing bound. -/
theorem evidence_cancellation_final {sha : Sha256} {world world' : World (caseSystem sha)}
    (reached : Reaches start world) {jobId : Nat} {e : EvidenceRow}
    (h : world.state.evidence.get? jobId = some e) (hrunning : e.state = .running)
    (hcancel : e.cancelRequestedAt.isSome = true) (rest : Run (KeepsCase e.caseId) world world') :
    ∃ e', world'.state.evidence.get? jobId = some e' ∧
      (e'.state = .running ∧ e'.cancelRequestedAt.isSome = true ∨ e'.state = .cancelled ∨
        e'.state = .failed ∧ e'.errorCode = some EvidenceRow.artifactConflict ∧
          e'.progressCurrent = 0 ∧ e'.artifactsEmpty.all id = true) := by
  have covers : cleanEvidence.Covers (fun _ _ => True) world :=
    (Session.Protocol.covers_start (fun _ _ h => nomatch h) fun _ => trivial).run
      (fun _ => Session.Protocol.stable_true) (cleanEvidence_program sha) reached
  have along : cleanEvidence.Covers (fun _ _ => True) world' ∧
      ∃ e', world'.state.evidence.get? jobId = some e' ∧ e'.Cancelling ∧
        e'.caseId = e.caseId := by
    induction rest with
    | refl => exact ⟨covers, e, h, .inl ⟨hrunning, hcancel⟩, rfl⟩
    | step rest move keeps ih =>
        obtain ⟨covers', e', h', hcancelling, hcase⟩ := ih
        refine ⟨covers'.step (fun _ => Session.Protocol.stable_true) (cleanEvidence_program sha)
          move fun _ _ _ => trivial, ?_⟩
        rw [World.state_step]
        split
        next sid w hcommit =>
          obtain ⟨e'', h'', hcancelling', hcase'⟩ := cancelling_after (covers'.may hcommit)
            (hcase ▸ keeps sid w hcommit) h' hcancelling
          exact ⟨e'', h'', hcancelling', hcase'.trans hcase⟩
        next => exact ⟨e', h', hcancelling, hcase⟩
  obtain ⟨-, e', h', hcancelling, -⟩ := along
  have checked := evidenceChecked_of_reaches
    (Run.trans reached (rest.mono fun _ _ _ _ => trivial)) jobId e' h'
  refine ⟨e', h', ?_⟩
  rcases hcancelling with hflagged | hcancelled | ⟨hfailed, hcode⟩
  · exact .inl hflagged
  · exact .inr (.inl hcancelled)
  · exact .inr (.inr ⟨hfailed, hcode, EvidenceRow.failed_unbound checked hfailed⟩)

/-- The worker of the sample case goes on after the cancellation. -/
def sampleRest : List (Move (caseSystem sampleSha)) :=
  List.replicate 40 (.run 4 (sampleAnswers 2006 (sampleUuid '4')))

def sampleCancelledEnd : World (caseSystem sampleSha) :=
  sampleRest.foldl World.step sampleCancelledBinding

theorem evidence_cancellation_final_sample :
    ∃ e, sampleCancelledEnd.state.evidence.get? 1 = some e ∧ e.state = .cancelled ∧
      (e.state = .running ∧ e.cancelRequestedAt.isSome = true ∨ e.state = .cancelled ∨
        e.state = .failed ∧ e.errorCode = some EvidenceRow.artifactConflict ∧
          e.progressCurrent = 0 ∧ e.artifactsEmpty.all id = true) := by
  have before : (sampleCancelledBinding.state.evidence.get? 1).map
      (fun e => (e.state, e.cancelRequestedAt.isSome)) = some (.running, true) := by
    decide +kernel
  have after : (sampleCancelledEnd.state.evidence.get? 1).map (·.state) = some .cancelled := by
    decide +kernel
  obtain ⟨e, he, hbefore⟩ := Option.map_eq_some_iff.mp before
  obtain ⟨hrunning, hcancel⟩ := Prod.mk.inj hbefore
  obtain ⟨e', he', hcancelled⟩ := Option.map_eq_some_iff.mp after
  have rest : Run (KeepsCase e.caseId) sampleCancelledBinding sampleCancelledEnd := by
    have moves : sampleCancelledBinding.commitsAll (fun _ (w : Write) _ => w.keepsCases)
        sampleRest = true := by decide +kernel
    exact Session.run_foldl _ (fun sid w s hkeeps => KeepsCase.of_keepsCases hkeeps _ sid s) _ _
      moves
  have reached : Reaches start sampleCancelledBinding := sampleWorld_reached _
  obtain ⟨e'', h'', hfinal⟩ := evidence_cancellation_final reached he hrunning hcancel rest
  rw [he'] at h''
  cases h''
  exact ⟨e', he', hcancelled, hfinal⟩

end TonTracker
