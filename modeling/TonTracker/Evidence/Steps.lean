/-
# `Evidence.Steps` — what a commit can do to a verification

Of all transactions of the store, an evidence transaction changes rows by
`EvidenceWrite.apply`, an enqueue adds one, and the deletion of a case
drops the rows of that case (`evidence_after`).  A row is therefore
followed through a run by the transactions that select it.
-/
import TonTracker.Services.WalletCases

namespace TonTracker

open Relational (Table)

/-! ## Rows written back -/

theorem setIfChanged_self {α : Type} [DecidableEq α] (loaded changed : α) :
    setIfChanged loaded changed loaded = changed := by
  unfold setIfChanged
  split
  · exact Eq.symm ‹_›
  · rfl

theorem setIfChanged_same {α : Type} [DecidableEq α] (loaded current : α) :
    setIfChanged loaded loaded current = current := if_pos rfl

theorem setIfChanged_of_ne {α : Type} [DecidableEq α] {loaded changed : α} (current : α)
    (h : changed ≠ loaded) : setIfChanged loaded changed current = changed := if_neg h

namespace EvidenceRow

theorem ownedBy_running {e : EvidenceRow} {token : Token} {now : Instant}
    (h : e.ownedBy token now = true) : e.state = .running ∧ e.leaseToken = some token := by
  simp only [ownedBy, Bool.and_eq_true, decide_eq_true_eq] at h
  exact h.1

/-- A binding written back leaves the state, the flag and the code. -/
theorem written_bound_fields (loaded e : EvidenceRow) (artifact : Artifact)
    (completedAt now leaseUntil : Instant) :
    let e' := written loaded
      { loaded.bound artifact completedAt with
        heartbeatAt := some now
        leaseExpiresAt := some leaseUntil
        statusVersion := loaded.statusVersion + 1 } e
    e'.state = e.state ∧ e'.cancelRequestedAt = e.cancelRequestedAt ∧
      e'.errorCode = e.errorCode := by
  cases artifact <;>
    exact ⟨setIfChanged_same _ _, setIfChanged_same _ _, setIfChanged_same _ _⟩

/-- A cancellation written back ends the row. -/
theorem written_terminalCancel_ended {loaded : EvidenceRow} (e : EvidenceRow) (valid : Bool)
    (message : Text) (now : Instant) (hrunning : loaded.state = .running) :
    (written loaded (loaded.terminalCancel valid message now) e).state.active = false := by
  have ends : ∀ state : SyncState, state ≠ .running → state.active = false →
      (setIfChanged loaded.state state e.state).active = false := by
    intro state hne hstate
    rw [setIfChanged_of_ne _ (hrunning ▸ hne)]
    exact hstate
  cases valid with
  | true => exact ends .cancelled (fun h => nomatch h) rfl
  | false => exact ends .failed (fun h => nomatch h) rfl

end EvidenceRow

/-! ## The table -/

namespace EvidenceWrite

/-- A row of the table after an evidence transaction. -/
theorem commit_get? {w : EvidenceWrite} {table : Table EvidenceRow} {id : Nat} {e' : EvidenceRow}
    (h : (w.commit table).2.get? id = some e') :
    table.get? id = some e' ∨
      (∃ row, w = .enqueue row ∧ table.get? id = none ∧ e' = row ∧ row.checks = true) ∨
      ∃ e, table.get? id = some e ∧ w.apply id e = some e' ∧ e'.checks = true := by
  cases w with
  | enqueue row =>
      simp only [commit] at h
      split at h
      case isTrue hok =>
        rw [Bool.and_eq_true] at hok
        rw [Table.get?_insert] at h
        split at h
        case isTrue hid =>
          subst hid
          exact .inr (.inl ⟨row, rfl, table.get?_nextId, (Option.some.inj h).symm, hok.1⟩)
        case isFalse => exact .inl h
      case isFalse => exact .inl h
  | _ =>
      simp only [commit] at h
      split at h
      · exact .inl h
      · split at h
        case isTrue hall =>
          rw [Table.get?_update] at h
          obtain ⟨e, he, heq⟩ := Option.map_eq_some_iff.mp h
          cases happly : apply _ id e with
          | none =>
              rw [happly] at heq
              cases heq
              exact .inl he
          | some changed =>
              have hchecks := List.all_eq_true.mp hall (id, e) (table.mem_rows_iff.mpr he)
              rw [happly] at heq hchecks
              cases heq
              exact .inr (.inr ⟨e, he, happly, hchecks⟩)
        case isFalse => exact .inl h

/-- An evidence transaction keeps every row there is. -/
theorem commit_keeps {w : EvidenceWrite} {table : Table EvidenceRow} {id : Nat} {e : EvidenceRow}
    (h : table.get? id = some e) : ∃ e', (w.commit table).2.get? id = some e' := by
  cases w with
  | enqueue row =>
      simp only [commit]
      split
      · refine ⟨e, ?_⟩
        rw [Table.get?_insert, if_neg]
        · exact h
        · rintro rfl
          rw [Table.get?_nextId] at h
          cases h
      · exact ⟨e, h⟩
  | _ =>
      simp only [commit]
      split
      · exact ⟨e, h⟩
      · split
        · rw [Table.get?_update, h]
          exact ⟨_, rfl⟩
        · exact ⟨e, h⟩

end EvidenceWrite

namespace Write

/-- The transactions that leave the evidence alone. -/
theorem commit_evidence_of_ne {w : Write} {s : Store} (he : ∀ v, w ≠ .evidence v)
    (hd : ∀ target now, w ≠ .deleteCase target now) :
    (w.commit s).2.evidence = s.evidence := by
  cases w with
  | evidence v => exact absurd rfl (he v)
  | deleteCase target now => exact absurd rfl (hd target now)
  | createCase row => simp only [commit]; split <;> rfl
  | reopenCase caseId now => simp only [commit, Store.touch]; split <;> rfl
  | updateMetadata target expected change now => simp only [commit, Store.touchIf]; split <;> rfl
  | archiveCase target now => simp only [commit, Store.touchIf]; split <;> rfl
  | restoreCase target now => simp only [commit, Store.touchIf]; split <;> rfl
  | insertSync row =>
      simp only [commit]
      split
      · rfl
      · split <;> rfl
  | sync v => rfl
  | publish p =>
      simp only [commit]
      split
      · rfl
      · split
        · rfl
        · split <;> rfl
  | startBuilder token => rfl

/-- A verification after a commit: it was there, or it was just enqueued,
or the transaction selected it. -/
theorem evidence_after {w : Write} {s : Store} {id : Nat} {e' : EvidenceRow}
    (h : (w.commit s).2.evidence.get? id = some e') :
    s.evidence.get? id = some e' ∨
      (∃ row, w = .evidence (.enqueue row) ∧ s.evidence.get? id = none ∧ e' = row ∧
        row.checks = true) ∨
      ∃ v e, w = .evidence v ∧ s.evidence.get? id = some e ∧ v.apply id e = some e' ∧
        e'.checks = true := by
  by_cases he : ∃ v, w = .evidence v
  · obtain ⟨v, rfl⟩ := he
    simp only [commit] at h
    split at h
    · exact .inl h
    · rcases EvidenceWrite.commit_get? h with h | ⟨row, rfl, hnone, hrow, hchecks⟩ |
        ⟨e, hget, happly, hchecks⟩
      · exact .inl h
      · exact .inr (.inl ⟨row, rfl, hnone, hrow, hchecks⟩)
      · exact .inr (.inr ⟨v, e, rfl, hget, happly, hchecks⟩)
  · by_cases hd : ∃ target now, w = .deleteCase target now
    · obtain ⟨target, now, rfl⟩ := hd
      simp only [commit] at h
      split at h
      · simp only [Store.deleted] at h
        rw [Table.get?_delete, Option.filter_eq_some_iff] at h
        exact .inl h.1
      · exact .inl h
    · refine .inl ?_
      rw [commit_evidence_of_ne (fun v hv => he ⟨v, hv⟩)
        (fun target now hw => hd ⟨target, now, hw⟩)] at h
      exact h

/-- Only the deletion of its case drops a verification. -/
theorem evidence_keeps {w : Write} {s : Store} {id : Nat} {e : EvidenceRow}
    (hd : ∀ target now, w = .deleteCase target now → e.caseId ≠ target.caseId)
    (h : s.evidence.get? id = some e) :
    ∃ e', (w.commit s).2.evidence.get? id = some e' := by
  by_cases he : ∃ v, w = .evidence v
  · obtain ⟨v, rfl⟩ := he
    simp only [commit]
    split
    · exact ⟨e, h⟩
    · exact EvidenceWrite.commit_keeps h
  · by_cases hdelete : ∃ target now, w = .deleteCase target now
    · obtain ⟨target, now, rfl⟩ := hdelete
      refine ⟨e, ?_⟩
      simp only [commit]
      split
      · simp only [Store.deleted]
        rw [Table.get?_delete, h, Option.filter_some, if_pos]
        exact Bool.not_eq_true' _ ▸ decide_eq_false (hd target now rfl)
      · exact h
    · rw [commit_evidence_of_ne (fun v hv => he ⟨v, hv⟩)
        fun target now hw => hdelete ⟨target, now, hw⟩]
      exact ⟨e, h⟩

end Write

namespace EvidenceWrite

/-- A verification stays with its case. -/
theorem apply_caseId {v : EvidenceWrite} {id : Nat} {e e' : EvidenceRow}
    (happly : v.apply id e = some e') : e'.caseId = e.caseId := by
  have ends : ∀ (row : EvidenceRow) valid message now,
      (row.terminalCancel valid message now).caseId = row.caseId := by
    intro row valid message now
    unfold EvidenceRow.terminalCancel
    split <;> rfl
  have fails : ∀ (row : EvidenceRow) valid digest code message now,
      (row.terminalRow valid digest code message now).caseId = row.caseId := by
    intro row valid digest code message now
    unfold EvidenceRow.terminalRow
    split
    · exact ends row _ _ _
    · split
      · split <;> rfl
      · rfl
  cases v with
  | enqueue row => cases happly
  | finishRecoveredCancel jobId valid now =>
      simp only [apply, Option.ite_none_right_eq_some, Option.some.injEq] at happly
      obtain ⟨-, rfl⟩ := happly
      exact ends e _ _ _
  | finishExpired jobId token leaseExpiresAt cutoff valid digest now =>
      simp only [apply, Option.ite_none_right_eq_some, Option.some.injEq] at happly
      obtain ⟨-, rfl⟩ := happly
      split
      · exact ends e _ _ _
      · exact fails e _ _ _ _ _
  | finishFailure lease code message valid digest now terminalNow =>
      simp only [apply, Option.ite_none_right_eq_some, Option.some.injEq] at happly
      obtain ⟨-, rfl⟩ := happly
      exact fails e _ _ _ _ _
  | finishInvalidSelection lease code message valid now terminalNow =>
      simp only [apply, Option.ite_none_right_eq_some, Option.some.injEq] at happly
      obtain ⟨-, rfl⟩ := happly
      split
      · exact ends e _ _ _
      · rfl
  | _ =>
      simp only [apply, Option.ite_none_right_eq_some, Option.some.injEq] at happly
      obtain ⟨-, rfl⟩ := happly
      rfl

/-- No transaction makes an ended row active. -/
theorem apply_active {v : EvidenceWrite} {id : Nat} {e e' : EvidenceRow}
    (happly : v.apply id e = some e') (hactive : e'.state.active = true) :
    e.state.active = true := by
  have running : e.state = .running → e.state.active = true := fun h => by rw [h]; rfl
  have queued : e.state = .queued → e.state.active = true := fun h => by rw [h]; rfl
  cases v with
  | enqueue row => cases happly
  | bind lease loaded artifact completedAt now leaseUntil =>
      simp only [apply, Option.ite_none_right_eq_some, Option.some.injEq] at happly
      obtain ⟨-, rfl⟩ := happly
      rw [(EvidenceRow.written_bound_fields loaded e artifact completedAt now leaseUntil).1]
        at hactive
      exact hactive
  | finishCancelled lease loaded valid now terminalNow =>
      simp only [apply, Option.ite_none_right_eq_some, Option.some.injEq, Bool.and_eq_true]
        at happly
      obtain ⟨⟨⟨-, howned⟩, -⟩, rfl⟩ := happly
      rw [EvidenceRow.written_terminalCancel_ended e valid _ terminalNow
        (EvidenceRow.ownedBy_running howned).1] at hactive
      cases hactive
  | recoverRetry now =>
      simp only [apply, Option.ite_none_right_eq_some, Bool.and_eq_true, decide_eq_true_eq]
        at happly
      exact running happly.1.1.1.1
  | finishRecoveredCancel jobId valid now =>
      simp only [apply, Option.ite_none_right_eq_some, Bool.and_eq_true, decide_eq_true_eq]
        at happly
      exact running happly.1.1.2
  | finishExpired jobId token leaseExpiresAt cutoff valid digest now =>
      simp only [apply, Option.ite_none_right_eq_some, Bool.and_eq_true, decide_eq_true_eq]
        at happly
      exact running happly.1.1.1.1.1.1.2
  | claim jobId token now leaseUntil =>
      simp only [apply, Option.ite_none_right_eq_some, Bool.and_eq_true, decide_eq_true_eq]
        at happly
      exact queued happly.1.1.1.1.2
  | advance lease stage now leaseUntil =>
      simp only [apply, Option.ite_none_right_eq_some, Bool.and_eq_true] at happly
      exact running (EvidenceRow.ownedBy_running happly.1.1.1.2).1
  | heartbeat lease now leaseUntil =>
      simp only [apply, Option.ite_none_right_eq_some, Bool.and_eq_true] at happly
      exact running (EvidenceRow.ownedBy_running happly.1.2).1
  | finishSuccess lease valid digest now =>
      simp only [apply, Option.ite_none_right_eq_some, Bool.and_eq_true] at happly
      exact running (EvidenceRow.ownedBy_running happly.1.1.1.1.2).1
  | finishFailure lease code message valid digest now terminalNow =>
      simp only [apply, Option.ite_none_right_eq_some, Bool.and_eq_true] at happly
      exact running (EvidenceRow.ownedBy_running happly.1.1.2).1
  | finishInvalidSelection lease code message valid now terminalNow =>
      simp only [apply, Option.ite_none_right_eq_some, Bool.and_eq_true] at happly
      exact running (EvidenceRow.ownedBy_running happly.1.2).1
  | scheduleRetry lease code message now retryAt =>
      simp only [apply, Option.ite_none_right_eq_some, Bool.and_eq_true] at happly
      exact running (EvidenceRow.ownedBy_running happly.1.1.2).1
  | cancelQueued jobId caseId observedVersion now =>
      simp only [apply, Option.ite_none_right_eq_some, Bool.and_eq_true, decide_eq_true_eq]
        at happly
      exact queued happly.1.1.2
  | cancelRunning jobId caseId observedVersion now =>
      simp only [apply, Option.ite_none_right_eq_some, Bool.and_eq_true, decide_eq_true_eq]
        at happly
      exact running happly.1.1.1.2

end EvidenceWrite

end TonTracker
