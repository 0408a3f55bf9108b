/-
# `Evidence.Constraints` — which writes keep the constraints by themselves

The CHECK constraints of evidence verifications are applied to every
commit, so no stored row violates them.  What this file adds is that the
worker never relies on being refused: a transaction with a fence of its
own keeps the constraints of every row (`apply_checks`), and a row that is
written back keeps them when it is still the row that was read
(`written_back_checks`).
-/
import TonTracker.Evidence.Steps
import TonTracker.Concurrency.Sessions

namespace TonTracker

open Relational (Table)
open Session (System World Reaches Run)

namespace EvidenceRow

/-! ## The constraints, one by one -/

theorem checks_iff {e : EvidenceRow} :
    e.checks = true ↔ e.lifecycleCheck = true ∧ e.artifactPrefixCheck = true ∧
      e.stateProgressCheck = true ∧ e.cancelStateCheck = true ∧ e.attemptsCheck = true := by
  simp only [checks, Bool.and_eq_true, and_assoc]

@[simp] theorem terminated_artifactPrefixCheck (e : EvidenceRow) (state : SyncState)
    (code : Option Text) (message : Text) (now : Instant) :
    (e.terminated state code message now).artifactPrefixCheck = e.artifactPrefixCheck := rfl

@[simp] theorem terminated_attemptsCheck (e : EvidenceRow) (state : SyncState)
    (code : Option Text) (message : Text) (now : Instant) :
    (e.terminated state code message now).attemptsCheck = e.attemptsCheck := rfl

@[simp] theorem cleared_artifactPrefixCheck (e : EvidenceRow) :
    e.cleared.artifactPrefixCheck = true := rfl

@[simp] theorem cleared_attemptsCheck (e : EvidenceRow) :
    e.cleared.attemptsCheck = e.attemptsCheck := rfl

/-- A terminal row: what is left to check is its state. -/
theorem terminated_lifecycleCheck (e : EvidenceRow) {state : SyncState} (code : Option Text)
    (message : Text) (now : Instant) (h : state.active = false) :
    (e.terminated state code message now).lifecycleCheck = true := by
  cases state with
  | queued => cases h
  | running => cases h
  | _ => rfl

/-- The end of a job keeps the constraints that depend on its state. -/
theorem terminated_checks {e : EvidenceRow} {state : SyncState} {code : Option Text}
    {message : Text} {now : Instant} (hstate : state.active = false)
    (hartifacts : e.artifactPrefixCheck = true) (hattempts : e.attemptsCheck = true)
    (hprogress : (e.terminated state code message now).stateProgressCheck = true)
    (hcancel : (e.terminated state code message now).cancelStateCheck = true) :
    (e.terminated state code message now).checks = true :=
  checks_iff.mpr ⟨e.terminated_lifecycleCheck code message now hstate, hartifacts, hprogress,
    hcancel, hattempts⟩

theorem terminalCancel_checks {e : EvidenceRow} {valid : Bool} {message : Text} {now : Instant}
    (h : e.checks = true) (hcancel : e.cancelRequestedAt.isSome = true) :
    (e.terminalCancel valid message now).checks = true := by
  obtain ⟨-, hartifacts, -, -, hattempts⟩ := checks_iff.mp h
  unfold terminalCancel
  split
  · change (e.terminated .cancelled none message now).checks = true
    exact terminated_checks rfl hartifacts hattempts rfl hcancel
  · exact checks_iff.mpr ⟨rfl, rfl, rfl, rfl, hattempts⟩

theorem terminalRow_checks {e : EvidenceRow} {valid : Bool} {digest : HexDigest}
    {code message : Text} {now : Instant} (h : e.checks = true) :
    (e.terminalRow valid digest code message now).checks = true := by
  obtain ⟨-, hartifacts, -, -, hattempts⟩ := checks_iff.mp h
  unfold terminalRow
  split
  case isTrue hcancel => exact terminalCancel_checks h hcancel
  case isFalse hcancel =>
    rw [Bool.not_eq_true, Option.isSome_eq_false_iff] at hcancel
    split
    · split
      case isTrue hprogress =>
        change (e.terminated .partialResult (some (code.take 64)) (message.take 1000)
          now).checks = true
        exact terminated_checks rfl hartifacts hattempts (decide_eq_true hprogress) hcancel
      case isFalse hprogress =>
        exact terminated_checks rfl hartifacts hattempts
          (decide_eq_true (Nat.eq_zero_of_not_pos hprogress)) hcancel
    · exact terminated_checks rfl rfl hattempts rfl hcancel

/-- A row whose state, stage, lease, next attempt, progress and artifacts
are untouched. -/
theorem checks_congr {e e' : EvidenceRow} (h : e.checks = true) (hstate : e'.state = e.state)
    (hlife : e'.lifecycleCheck = e.lifecycleCheck)
    (hartifacts : e'.artifactPrefixCheck = e.artifactPrefixCheck)
    (hprogress : e'.progressCurrent = e.progressCurrent)
    (hcancel : e'.cancelStateCheck = e.cancelStateCheck)
    (hattempts : e'.attemptsCheck = e.attemptsCheck) : e'.checks = true := by
  have hsp : e'.stateProgressCheck = e.stateProgressCheck := by
    unfold stateProgressCheck
    rw [hstate, hprogress]
  unfold checks at h ⊢
  rw [hlife, hartifacts, hsp, hcancel, hattempts]
  exact h

/-! ## States -/

/-- What the constraints say of a running row. -/
theorem running_facts {e : EvidenceRow} (h : e.checks = true) (hrunning : e.state = .running) :
    e.nextAttemptAt = none ∧ e.leaseToken.isSome = true ∧ e.leaseExpiresAt.isSome = true ∧
      e.startedAt.isSome = true ∧ e.completedAt = none := by
  have life := (checks_iff.mp h).1
  unfold lifecycleCheck at life
  rw [hrunning] at life
  simp only [Bool.and_eq_true, Option.isNone_iff_eq_none] at life
  obtain ⟨⟨⟨⟨⟨-, hnext⟩, htoken⟩, hexpiry⟩, hstarted⟩, hcompleted⟩ := life
  exact ⟨hnext, htoken, hexpiry, hstarted, hcompleted⟩

/-- What the constraints say of a queued row. -/
theorem queued_facts {e : EvidenceRow} (h : e.checks = true) (hqueued : e.state = .queued) :
    e.nextAttemptAt.isSome = true ∧ e.leaseToken = none ∧ e.leaseExpiresAt = none ∧
      e.completedAt = none ∧ e.cancelRequestedAt = none := by
  obtain ⟨life, -, -, cancel, -⟩ := checks_iff.mp h
  unfold lifecycleCheck at life
  unfold cancelStateCheck at cancel
  rw [hqueued] at life cancel
  simp only [Bool.and_eq_true, Option.isNone_iff_eq_none] at life cancel
  obtain ⟨⟨⟨⟨-, hnext⟩, htoken⟩, hexpiry⟩, hcompleted⟩ := life
  exact ⟨hnext, htoken, hexpiry, hcompleted, cancel⟩

/-- What the constraints say of a terminal row. -/
theorem terminal_facts {e : EvidenceRow} (h : e.checks = true)
    (hterminal : e.state.active = false) :
    e.stage = .terminal ∧ e.nextAttemptAt = none ∧ e.leaseToken = none ∧
      e.leaseExpiresAt = none ∧ e.completedAt.isSome = true := by
  have life := (checks_iff.mp h).1
  unfold lifecycleCheck at life
  cases hstate : e.state with
  | queued => rw [hstate] at hterminal; cases hterminal
  | running => rw [hstate] at hterminal; cases hterminal
  | _ =>
      rw [hstate] at life
      simp only [Bool.and_eq_true, decide_eq_true_eq, Option.isNone_iff_eq_none] at life
      obtain ⟨⟨⟨⟨hstage, hnext⟩, htoken⟩, hexpiry⟩, hcompleted⟩ := life
      exact ⟨hstage, hnext, htoken, hexpiry, hcompleted⟩

/-- A row put back into the queue. -/
theorem requeued_checks {e e' : EvidenceRow} (h : e.checks = true) (hstate : e'.state = .queued)
    (hstage : e'.stage = .retryWait) (hnext : e'.nextAttemptAt.isSome = true)
    (htoken : e'.leaseToken = none) (hexpiry : e'.leaseExpiresAt = none)
    (hcompleted : e'.completedAt = none) (hcancel : e'.cancelRequestedAt = none)
    (hartifacts : e'.artifactPrefixCheck = e.artifactPrefixCheck)
    (hattempts : e'.attemptsCheck = e.attemptsCheck) : e'.checks = true := by
  obtain ⟨-, prefixOk, -, -, attemptsOk⟩ := checks_iff.mp h
  refine checks_iff.mpr ⟨?_, hartifacts ▸ prefixOk, ?_, ?_, hattempts ▸ attemptsOk⟩
  · unfold lifecycleCheck
    rw [hstate, hstage, hnext, htoken, hexpiry, hcompleted]
    rfl
  · unfold stateProgressCheck
    rw [hstate]
  · unfold cancelStateCheck
    rw [hstate, hcancel]
    rfl

end EvidenceRow

namespace EvidenceWrite

/-- A transaction with a fence of its own keeps the constraints of every
row it changes. -/
theorem apply_checks {w : EvidenceWrite} (hw : w.writesBack = none) {id : Nat}
    {e e' : EvidenceRow} (h : e.checks = true) (happly : w.apply id e = some e') :
    e'.checks = true := by
  cases w with
  | enqueue row => cases happly
  | bind lease loaded artifact completedAt now leaseUntil => cases hw
  | finishCancelled lease loaded valid now terminalNow => cases hw
  | recoverRetry now =>
      simp only [apply, Option.ite_none_right_eq_some, Option.some.injEq, Bool.and_eq_true,
        decide_eq_true_eq, Option.isNone_iff_eq_none] at happly
      obtain ⟨⟨⟨⟨hrunning, -⟩, hcancel⟩, -⟩, rfl⟩ := happly
      obtain ⟨-, -, -, -, hcompleted⟩ := EvidenceRow.running_facts h hrunning
      exact EvidenceRow.requeued_checks h rfl rfl rfl rfl rfl hcompleted hcancel rfl rfl
  | finishRecoveredCancel jobId valid now =>
      simp only [apply, Option.ite_none_right_eq_some, Option.some.injEq, Bool.and_eq_true,
        decide_eq_true_eq] at happly
      obtain ⟨⟨-, hcancel⟩, rfl⟩ := happly
      exact EvidenceRow.terminalCancel_checks h hcancel
  | finishExpired jobId token leaseExpiresAt cutoff valid digest now =>
      simp only [apply, Option.ite_none_right_eq_some, Option.some.injEq] at happly
      obtain ⟨-, rfl⟩ := happly
      split
      case isTrue hcancel => exact EvidenceRow.terminalCancel_checks h hcancel
      case isFalse => exact EvidenceRow.terminalRow_checks h
  | claim jobId token now leaseUntil =>
      simp only [apply, Option.ite_none_right_eq_some, Option.some.injEq, Bool.and_eq_true,
        decide_eq_true_eq] at happly
      obtain ⟨⟨⟨⟨⟨-, hqueued⟩, -⟩, hattempts⟩, -⟩, rfl⟩ := happly
      obtain ⟨-, -, -, hcompleted, -⟩ := EvidenceRow.queued_facts h hqueued
      obtain ⟨-, hartifacts, -, -, hmax⟩ := EvidenceRow.checks_iff.mp h
      refine EvidenceRow.checks_iff.mpr ⟨?_, hartifacts, rfl, rfl, ?_⟩
      · simp only [EvidenceRow.lifecycleCheck, hcompleted]
        rfl
      · simp only [EvidenceRow.attemptsCheck, Bool.and_eq_true, decide_eq_true_eq] at hmax ⊢
        exact ⟨hmax.1, hattempts⟩
  | advance lease stage now leaseUntil =>
      simp only [apply, Option.ite_none_right_eq_some, Option.some.injEq, Bool.and_eq_true] at happly
      obtain ⟨⟨⟨⟨-, howned⟩, -⟩, hstage⟩, rfl⟩ := happly
      have hrunning := (EvidenceRow.ownedBy_running howned).1
      obtain ⟨hnext, htoken, -, hstarted, hcompleted⟩ := EvidenceRow.running_facts h hrunning
      obtain ⟨-, hartifacts, hprogress, hcancel, hattempts⟩ := EvidenceRow.checks_iff.mp h
      refine EvidenceRow.checks_iff.mpr ⟨?_, hartifacts, hprogress, hcancel, hattempts⟩
      simp only [EvidenceRow.lifecycleCheck, hrunning, hnext, htoken, hstarted, hcompleted]
      simp only [workStage, Bool.or_eq_true, decide_eq_true_eq] at hstage
      rcases hstage with ((rfl | rfl) | rfl) | rfl <;> rfl
  | heartbeat lease now leaseUntil =>
      simp only [apply, Option.ite_none_right_eq_some, Option.some.injEq, Bool.and_eq_true] at happly
      obtain ⟨⟨-, howned⟩, rfl⟩ := happly
      have hrunning := (EvidenceRow.ownedBy_running howned).1
      obtain ⟨-, -, hexpiry, -, -⟩ := EvidenceRow.running_facts h hrunning
      refine EvidenceRow.checks_congr h rfl ?_ rfl rfl rfl rfl
      simp only [EvidenceRow.lifecycleCheck, hrunning, hexpiry]
      rfl
  | finishSuccess lease valid digest now =>
      simp only [apply, Option.ite_none_right_eq_some, Option.some.injEq, Bool.and_eq_true,
        decide_eq_true_eq, Option.isNone_iff_eq_none] at happly
      obtain ⟨⟨⟨⟨-, hcancel⟩, -⟩, hprogress⟩, rfl⟩ := happly
      obtain ⟨-, hartifacts, -, -, hattempts⟩ := EvidenceRow.checks_iff.mp h
      refine EvidenceRow.checks_iff.mpr ⟨rfl, hartifacts, ?_, ?_, hattempts⟩
      · exact decide_eq_true hprogress
      · exact Option.isNone_iff_eq_none.mpr hcancel
  | finishFailure lease code message valid digest now terminalNow =>
      simp only [apply, Option.ite_none_right_eq_some, Option.some.injEq] at happly
      obtain ⟨-, rfl⟩ := happly
      exact EvidenceRow.terminalRow_checks h
  | finishInvalidSelection lease code message valid now terminalNow =>
      simp only [apply, Option.ite_none_right_eq_some, Option.some.injEq] at happly
      obtain ⟨-, rfl⟩ := happly
      split
      case isTrue hcancel => exact EvidenceRow.terminalCancel_checks h hcancel
      case isFalse hcancel =>
        rw [Bool.not_eq_true, Option.isSome_eq_false_iff] at hcancel
        obtain ⟨-, -, -, -, hattempts⟩ := EvidenceRow.checks_iff.mp h
        exact EvidenceRow.terminated_checks rfl rfl hattempts rfl hcancel
  | scheduleRetry lease code message now retryAt =>
      simp only [apply, Option.ite_none_right_eq_some, Option.some.injEq, Bool.and_eq_true,
        Option.isNone_iff_eq_none] at happly
      obtain ⟨⟨⟨-, howned⟩, hcancel⟩, rfl⟩ := happly
      obtain ⟨-, -, -, -, hcompleted⟩ :=
        EvidenceRow.running_facts h (EvidenceRow.ownedBy_running howned).1
      exact EvidenceRow.requeued_checks h rfl rfl rfl rfl rfl hcompleted hcancel rfl rfl
  | cancelQueued jobId caseId observedVersion now =>
      simp only [apply, Option.ite_none_right_eq_some, Option.some.injEq] at happly
      obtain ⟨-, rfl⟩ := happly
      obtain ⟨-, hartifacts, -, -, hattempts⟩ := EvidenceRow.checks_iff.mp h
      exact EvidenceRow.checks_iff.mpr ⟨rfl, hartifacts, rfl, rfl, hattempts⟩
  | cancelRunning jobId caseId observedVersion now =>
      simp only [apply, Option.ite_none_right_eq_some, Option.some.injEq, Bool.and_eq_true,
        decide_eq_true_eq] at happly
      obtain ⟨⟨⟨⟨-, hrunning⟩, -⟩, -⟩, rfl⟩ := happly
      refine EvidenceRow.checks_congr h rfl rfl rfl rfl ?_ rfl
      simp only [EvidenceRow.cancelStateCheck, hrunning]

/-! ## Rows written back -/

/-- A binding written over the row that was read. -/
theorem written_bound (e : EvidenceRow) (artifact : Artifact)
    (completedAt now leaseUntil : Instant) :
    EvidenceRow.written e
        { e.bound artifact completedAt with
          heartbeatAt := some now
          leaseExpiresAt := some leaseUntil
          statusVersion := e.statusVersion + 1 } e =
      { e.bound artifact completedAt with
        heartbeatAt := some now
        leaseExpiresAt := some leaseUntil
        statusVersion := e.statusVersion + 1 } := by
  unfold EvidenceRow.written
  simp only [setIfChanged_self]
  cases artifact <;> rfl

/-- A cancellation written over the row that was read. -/
theorem written_terminalCancel (e : EvidenceRow) (valid : Bool) (message : Text) (now : Instant) :
    EvidenceRow.written e (e.terminalCancel valid message now) e =
      e.terminalCancel valid message now := by
  unfold EvidenceRow.written
  simp only [setIfChanged_self]
  cases valid <;> rfl

/-- A row that is still the one that was read keeps the constraints when it
is written back. -/
theorem written_back_checks {w : EvidenceWrite} {id : Nat} {e e' : EvidenceRow}
    (hw : w.writesBack = some (id, e)) (h : e.checks = true) (happly : w.apply id e = some e') :
    e'.checks = true := by
  cases w with
  | bind lease loaded artifact completedAt now leaseUntil =>
      obtain ⟨rfl, rfl⟩ := Prod.mk.inj (Option.some.inj hw)
      simp only [apply, Option.ite_none_right_eq_some, Option.some.injEq, Bool.and_eq_true]
        at happly
      obtain ⟨⟨⟨-, howned⟩, hartifacts⟩, rfl⟩ := happly
      rw [written_bound]
      have hrunning := (EvidenceRow.ownedBy_running howned).1
      obtain ⟨hlife, -, -, -, hattempts⟩ := EvidenceRow.checks_iff.mp h
      obtain ⟨-, -, hexpiry, -, -⟩ := EvidenceRow.running_facts h hrunning
      refine EvidenceRow.checks_iff.mpr ⟨?_, hartifacts, ?_, ?_, ?_⟩
      · cases artifact <;>
          simpa [EvidenceRow.lifecycleCheck, EvidenceRow.bound, hrunning, hexpiry] using hlife
      · cases artifact <;>
          simp only [EvidenceRow.stateProgressCheck, EvidenceRow.bound, hrunning]
      · cases artifact <;>
          simp only [EvidenceRow.cancelStateCheck, EvidenceRow.bound, hrunning]
      · cases artifact <;> exact hattempts
  | finishCancelled lease loaded valid now terminalNow =>
      obtain ⟨rfl, rfl⟩ := Prod.mk.inj (Option.some.inj hw)
      simp only [apply, Option.ite_none_right_eq_some, Option.some.injEq, Bool.and_eq_true]
        at happly
      obtain ⟨⟨-, hcancel⟩, rfl⟩ := happly
      rw [written_terminalCancel]
      exact EvidenceRow.terminalCancel_checks h hcancel
  | _ => cases hw

end EvidenceWrite

/-! ## Every run -/

/-- Every verification of the store meets the constraints. -/
def EvidenceChecked (s : Store) : Prop :=
  ∀ id e, s.evidence.get? id = some e → e.checks = true

theorem EvidenceChecked.commit {s : Store} (h : EvidenceChecked s) (w : Write) :
    EvidenceChecked (w.commit s).2 := by
  intro id e' hget
  rcases Write.evidence_after hget with hget | ⟨row, -, -, rfl, hchecks⟩ | ⟨v, e, -, -, -, hchecks⟩
  · exact h id e' hget
  · exact hchecks
  · exact hchecks

/-- Of a run from the empty store, whatever its sessions are. -/
theorem evidenceChecked_of_reaches {S : System caseMachine} {world : World S}
    (run : Reaches start world) : EvidenceChecked world.state :=
  run.inv EvidenceChecked (fun _ w _ _ h => h.commit w) fun _ _ h => (nomatch h)

/-- What a verification may look like. -/
structure EvidenceRow.Valid (e : EvidenceRow) : Prop where
  progress : e.progressCurrent ≤ 4
  /-- The bound artifacts are a prefix of the pipeline. -/
  bound : ∀ i, i < e.progressCurrent → e.artifactsSet[i]? = some true
  unbound : ∀ i, e.progressCurrent ≤ i → i < 4 → e.artifactsEmpty[i]? = some true
  level : e.highestEvidenceLevel = EvidenceRow.levelOf e.progressCurrent
  leased : e.state = .running ↔ e.leaseToken.isSome = true
  expires : e.leaseExpiresAt.isSome = e.leaseToken.isSome
  queued : e.state = .queued → e.nextAttemptAt.isSome = true
  terminal : e.state.active = false → e.completedAt.isSome = true ∧ e.nextAttemptAt = none
  attempts : e.attemptCount ≤ e.maxAttempts

theorem EvidenceRow.valid_of_checks {e : EvidenceRow} (h : e.checks = true) : e.Valid := by
  obtain ⟨-, hartifacts, -, -, hattempts⟩ := checks_iff.mp h
  simp only [artifactPrefixCheck, Bool.and_eq_true, decide_eq_true_eq] at hartifacts
  simp only [attemptsCheck, Bool.and_eq_true, decide_eq_true_eq] at hattempts
  obtain ⟨⟨⟨hprogress, hset⟩, hempty⟩, hlevel⟩ := hartifacts
  have lease : (e.state = .running ↔ e.leaseToken.isSome = true) ∧
      e.leaseExpiresAt.isSome = e.leaseToken.isSome := by
    cases hstate : e.state with
    | running =>
        obtain ⟨-, htoken, hexpiry, -, -⟩ := running_facts h hstate
        exact ⟨iff_of_true rfl htoken, hexpiry.trans htoken.symm⟩
    | queued =>
        obtain ⟨-, htoken, hexpiry, -, -⟩ := queued_facts h hstate
        rw [htoken, hexpiry]
        exact ⟨iff_of_false (fun h => nomatch h) (fun h => nomatch h), rfl⟩
    | _ =>
        obtain ⟨-, -, htoken, hexpiry, -⟩ := terminal_facts h (hstate ▸ rfl)
        rw [htoken, hexpiry]
        exact ⟨iff_of_false (fun h => nomatch h) (fun h => nomatch h), rfl⟩
  refine ⟨hprogress, ?_, ?_, hlevel, lease.1, lease.2, fun hstate => (queued_facts h hstate).1,
    fun hstate => ?_, hattempts.2⟩
  · intro i hi
    have hlen : i < e.artifactsSet.length := Nat.lt_of_lt_of_le hi hprogress
    have hmem : e.artifactsSet[i] ∈ e.artifactsSet.take e.progressCurrent :=
      List.mem_take_iff_getElem.mpr ⟨i, Nat.lt_min.mpr ⟨hi, hlen⟩, rfl⟩
    exact (List.getElem?_eq_getElem hlen).trans
      (congrArg some (List.all_eq_true.mp hset _ hmem))
  · intro i hi hi4
    have hlen : i < e.artifactsEmpty.length := hi4
    have hmem : e.artifactsEmpty[i] ∈ e.artifactsEmpty.drop e.progressCurrent :=
      List.mem_drop_iff_getElem.mpr
        ⟨i - e.progressCurrent, by omega, by simp only [Nat.add_sub_cancel' hi]⟩
    exact (List.getElem?_eq_getElem hlen).trans
      (congrArg some (List.all_eq_true.mp hempty _ hmem))
  · obtain ⟨-, hnext, -, -, hcompleted⟩ := terminal_facts h hstate
    exact ⟨hcompleted, hnext⟩

/-- A refused update is a row written back that is not what was read. -/
theorem refused_only_stale {w : EvidenceWrite} {table : Table EvidenceRow}
    (hall : ∀ id e, table.get? id = some e → e.checks = true) (hw : ∀ row, w ≠ .enqueue row)
    (hrefused : (w.commit table).1 = .integrityError) :
    ∃ id loaded e, w.writesBack = some (id, loaded) ∧ table.get? id = some e ∧ e ≠ loaded := by
  have found : ∃ id e e', table.get? id = some e ∧ w.apply id e = some e' ∧
      e'.checks = false := by
    have violated : (table.rows.all fun row => (w.apply row.1 row.2).all (·.checks)) = false := by
      by_contra hok
      rw [Bool.not_eq_false] at hok
      cases w with
      | enqueue row => exact hw row rfl
      | _ =>
          simp only [EvidenceWrite.commit, hok] at hrefused
          split at hrefused <;> cases hrefused
    obtain ⟨row, hrow, hbad⟩ := List.all_eq_false.mp violated
    cases happly : w.apply row.1 row.2 with
    | none => rw [happly] at hbad; exact absurd rfl hbad
    | some e' =>
        rw [happly] at hbad
        exact ⟨row.1, row.2, e', table.mem_rows_iff.mp hrow, happly, Bool.not_eq_true _ ▸ hbad⟩
  obtain ⟨id, e, e', hget, happly, hbad⟩ := found
  cases hback : w.writesBack with
  | none =>
      rw [EvidenceWrite.apply_checks hback (hall id e hget) happly] at hbad
      cases hbad
  | some back =>
      obtain ⟨jobId, loaded⟩ := back
      have hid : id = jobId := by
        cases w with
        | bind lease row artifact completedAt now leaseUntil =>
            obtain ⟨rfl, rfl⟩ := Prod.mk.inj (Option.some.inj hback)
            simp only [EvidenceWrite.apply, Option.ite_none_right_eq_some, Bool.and_eq_true,
              decide_eq_true_eq] at happly
            exact happly.1.1.1
        | finishCancelled lease row valid now terminalNow =>
            obtain ⟨rfl, rfl⟩ := Prod.mk.inj (Option.some.inj hback)
            simp only [EvidenceWrite.apply, Option.ite_none_right_eq_some, Bool.and_eq_true,
              decide_eq_true_eq] at happly
            exact happly.1.1.1
        | _ => cases hback
      subst hid
      refine ⟨id, loaded, e, rfl, hget, ?_⟩
      rintro rfl
      rw [EvidenceWrite.written_back_checks hback (hall id e hget) happly] at hbad
      cases hbad

/-- In every run of any sessions every verification is valid, and the only
update the constraints ever refuse is a row written back over one that was
changed since it was read. -/
theorem evidence_rows_valid {S : System caseMachine} {world : World S}
    (run : Reaches start world) :
    (∀ id e, world.state.evidence.get? id = some e → e.Valid) ∧
      ∀ w : EvidenceWrite, (∀ row, w ≠ .enqueue row) →
        (w.commit world.state.evidence).1 = .integrityError →
        ∃ id loaded e, w.writesBack = some (id, loaded) ∧
          world.state.evidence.get? id = some e ∧ e ≠ loaded := by
  have checked := evidenceChecked_of_reaches run
  exact ⟨fun id e h => EvidenceRow.valid_of_checks (checked id e h),
    fun w hw hrefused => refused_only_stale checked hw hrefused⟩

/-- The verification of the sample case, walked through by a worker. -/
theorem evidence_rows_valid_sample :
    ∃ e, (sampleWorld (sampleMoves ++ sampleSession 4 .runEvidenceWorker 2004 (sampleUuid '4')
        200)).state.evidence.get? 1 = some e ∧
      e.state = .succeeded ∧ e.progressCurrent = 4 ∧ e.Valid := by
  have found : ((sampleWorld (sampleMoves ++ sampleSession 4 .runEvidenceWorker 2004
      (sampleUuid '4') 200)).state.evidence.get? 1).any
      (fun e => e.state = .succeeded && e.progressCurrent = 4) = true := by decide +kernel
  obtain ⟨e, he, hstate⟩ := (Option.any_eq_true _ _).mp found
  rw [Bool.and_eq_true, decide_eq_true_eq, decide_eq_true_eq] at hstate
  exact ⟨e, he, hstate.1, hstate.2,
    (evidence_rows_valid (sampleWorld_reached _)).1 1 e he⟩

end TonTracker
