/-
# `Syncs.Steps` — what a commit can do to a sync

A sync row after a transaction of the store is the row before, or was just
inserted, or was selected by an update of `SyncWrite.apply`, or was
published (`syncs_after`); only the deletion of its case drops it
(`syncs_keeps`).  What an update may not change (the case, the requested
interval, the plan) is read off `apply` once, here.
-/
import TonTracker.Concurrency.Sessions

namespace TonTracker

open Relational (Table)

/-! ## Updates -/

namespace SyncRow

/-- The columns of a sync that are written once, when it is inserted. -/
def fixed (row : SyncRow) : SyncRow :=
  { row with
    ingestionRunId := none, provider := [], state := .queued, stage := .queued
    progressCurrent := 0, errorCode := none, errorDetailSafe := none, messageSafe := []
    updatedAt := row.createdAt, startedAt := none, completedAt := none, statusVersion := 0
    attemptCount := 0, nextAttemptAt := none, cancelRequestedAt := none, leaseToken := none
    leaseExpiresAt := none, heartbeatAt := none, checkpoint := ⟨.queued, false⟩, claims := [] }

theorem ownedBy_running {row : SyncRow} {token : Token} {now : Instant}
    (h : row.ownedBy token now = true) : row.state = .running ∧ row.leaseToken = some token := by
  simp only [ownedBy, Bool.and_eq_true, decide_eq_true_eq] at h
  exact h.1

end SyncRow

namespace SyncWrite

/-- Recovery takes a running row whose lease has expired, or a queued one
without attempts left. -/
theorem recovered_cases {now : Instant} {row row' : SyncRow}
    (h : recovered now row = some row') :
    (row.state = .running ∧ row.cancelRequestedAt.isSome = true ∧
        row' = row.terminated .cancelled .cancelled
          "Wallet Case synchronization was cancelled during recovery.".toList false now) ∨
      (row.state = .running ∧ row.cancelRequestedAt = none ∧ row.maxAttempts ≤ row.attemptCount ∧
        row' = row.failedWith "worker_recovery_exhausted".toList
          "The worker lease expired and the bounded retry budget was exhausted.".toList
          "Synchronization failed after worker restart recovery.".toList true now) ∨
      (row.state = .running ∧ row.cancelRequestedAt = none ∧
        row' = row.requeued "worker_lease_expired".toList
          ("The previous worker stopped; the bounded crawl will restart from its persisted " ++
            "request scope.").toList
          "Synchronization is queued for restart recovery.".toList now now) ∨
      (row.state = .queued ∧
        row' = { row.failedWith "retry_budget_exhausted".toList
          "The bounded synchronization retry budget was exhausted.".toList
          "Synchronization failed after bounded retries.".toList true now with
          leaseToken := row.leaseToken
          leaseExpiresAt := row.leaseExpiresAt }) := by
  unfold recovered at h
  split at h
  case isTrue hrunning =>
    rw [Bool.and_eq_true, decide_eq_true_eq] at hrunning
    split at h
    case isTrue hcancel => exact .inl ⟨hrunning.1, hcancel, (Option.some.inj h).symm⟩
    case isFalse hcancel =>
      rw [Bool.not_eq_true, Option.isSome_eq_false_iff, Option.isNone_iff_eq_none] at hcancel
      split at h
      case isTrue hattempts =>
        exact .inr (.inl ⟨hrunning.1, hcancel, hattempts, (Option.some.inj h).symm⟩)
      case isFalse => exact .inr (.inr (.inl ⟨hrunning.1, hcancel, (Option.some.inj h).symm⟩))
  case isFalse =>
    rw [Option.ite_none_right_eq_some, Bool.and_eq_true, Bool.and_eq_true, decide_eq_true_eq] at h
    exact .inr (.inr (.inr ⟨h.1.1.1, (Option.some.inj h.2).symm⟩))

/-- Cancellation ends a queued row and flags a running one. -/
theorem cancelled_cases {now : Instant} {row row' : SyncRow}
    (h : cancelled now row = some row') :
    (row.state = .queued ∧
        row' = { row with
          state := .cancelled
          stage := .cancelled
          cancelRequestedAt := some now
          completedAt := some now
          updatedAt := now
          nextAttemptAt := none
          messageSafe := "Wallet Case synchronization was cancelled before execution.".toList
          statusVersion := row.statusVersion + 1 }) ∨
      (row.state = .running ∧ row.cancelRequestedAt = none ∧
        row' = { row with
          stage := .cancelling
          cancelRequestedAt := some now
          updatedAt := now
          messageSafe := ("Cancellation requested. The current bounded provider crawl will be " ++
            "discarded when it returns.").toList
          statusVersion := row.statusVersion + 1 }) := by
  unfold cancelled at h
  split at h
  case isTrue hqueued => exact .inl ⟨hqueued, (Option.some.inj h).symm⟩
  case isFalse =>
    rw [Option.ite_none_right_eq_some, Bool.and_eq_true, decide_eq_true_eq,
      Option.isNone_iff_eq_none] at h
    exact .inr ⟨h.1.1, h.1.2, (Option.some.inj h.2).symm⟩

/-- An update selects queued and running rows only, and leaves the columns
that are written once. -/
theorem apply_active {w : SyncWrite} {id : Nat} {row row' : SyncRow}
    (h : w.apply id row = some row') : row.state.active = true ∧ row'.fixed = row.fixed := by
  have running : row.state = .running → row.state.active = true := fun h => by rw [h]; rfl
  have queued : row.state = .queued → row.state.active = true := fun h => by rw [h]; rfl
  cases w with
  | cancel syncId now =>
      simp only [apply, Option.ite_none_right_eq_some] at h
      rcases cancelled_cases h.2 with ⟨hstate, rfl⟩ | ⟨hstate, -, rfl⟩
      · exact ⟨queued hstate, rfl⟩
      · exact ⟨running hstate, rfl⟩
  | recoverExpired now =>
      rcases recovered_cases h with ⟨hstate, -, rfl⟩ | ⟨hstate, -, -, rfl⟩ | ⟨hstate, -, rfl⟩ |
        ⟨hstate, rfl⟩
      · exact ⟨running hstate, rfl⟩
      · exact ⟨running hstate, rfl⟩
      · exact ⟨running hstate, rfl⟩
      · exact ⟨queued hstate, rfl⟩
  | claim syncId token now leaseUntil =>
      simp only [apply, Option.ite_none_right_eq_some, Option.some.injEq, Bool.and_eq_true,
        decide_eq_true_eq] at h
      obtain ⟨⟨⟨⟨⟨-, hstate⟩, -⟩, -⟩, -⟩, rfl⟩ := h
      exact ⟨queued hstate, rfl⟩
  | scheduleRetry lease code message now retryAt =>
      simp only [apply, Option.ite_none_right_eq_some, Option.some.injEq, Bool.and_eq_true] at h
      obtain ⟨⟨⟨⟨-, howned⟩, -⟩, -⟩, rfl⟩ := h
      exact ⟨running (SyncRow.ownedBy_running howned).1, rfl⟩
  | closeUnavailable lease now =>
      simp only [apply, Option.ite_none_right_eq_some, Option.some.injEq, Bool.and_eq_true] at h
      obtain ⟨⟨-, howned⟩, rfl⟩ := h
      exact ⟨running (SyncRow.ownedBy_running howned).1, rfl⟩
  | heartbeat lease now leaseUntil =>
      simp only [apply, Option.ite_none_right_eq_some, Option.some.injEq, Bool.and_eq_true] at h
      obtain ⟨⟨-, howned⟩, rfl⟩ := h
      exact ⟨running (SyncRow.ownedBy_running howned).1, rfl⟩
  | _ =>
      simp only [apply, Option.ite_none_right_eq_some, Option.some.injEq, Bool.and_eq_true] at h
      obtain ⟨⟨⟨-, howned⟩, -⟩, rfl⟩ := h
      exact ⟨running (SyncRow.ownedBy_running howned).1, rfl⟩

/-- An update leaves the run of a sync. -/
theorem apply_run {w : SyncWrite} {id : Nat} {row row' : SyncRow}
    (h : w.apply id row = some row') : row'.ingestionRunId = row.ingestionRunId := by
  cases w with
  | cancel syncId now =>
      simp only [apply, Option.ite_none_right_eq_some] at h
      rcases cancelled_cases h.2 with ⟨-, rfl⟩ | ⟨-, -, rfl⟩ <;> rfl
  | recoverExpired now =>
      rcases recovered_cases h with ⟨-, -, rfl⟩ | ⟨-, -, -, rfl⟩ | ⟨-, -, rfl⟩ | ⟨-, rfl⟩ <;> rfl
  | _ =>
      simp only [apply, Option.ite_none_right_eq_some, Option.some.injEq] at h
      obtain ⟨-, rfl⟩ := h
      rfl

end SyncWrite

/-! ## Publication -/

namespace Publication

/-- The fence of a publication. -/
theorem selects_iff {p : Publication} {id : Nat} {row : SyncRow} :
    p.selects id row = true ↔ id = p.lease.jobId ∧ row.caseId = p.caseId ∧
      row.ownedBy p.lease.token p.now = true ∧ row.cancelRequestedAt = none ∧
      row.ingestionRunId = none := by
  simp only [selects, Bool.and_eq_true, decide_eq_true_eq, Option.isNone_iff_eq_none, and_assoc]

end Publication

/-! ## Commits -/

namespace Store

@[simp] theorem touched_syncs (s : Store) (caseId : Nat) (visible : Bool) (now : Instant)
    (f : CaseRow → CaseRow) : (s.touched caseId visible now f).syncs = s.syncs := rfl

@[simp] theorem withCheckpoints_syncs (s : Store) (rows : List CheckpointRow) :
    (s.withCheckpoints rows).syncs = s.syncs := rfl

@[simp] theorem touch_syncs (s : Store) (caseId : Nat) (visible : Bool) (now : Instant)
    (f : CaseRow → CaseRow) : (s.touch caseId visible now f).2.syncs = s.syncs := by
  unfold touch
  split <;> rfl

@[simp] theorem touchIf_syncs (s : Store) (caseId : Nat) (condition : CaseRow → Bool)
    (visible : Bool) (now : Instant) (f : CaseRow → CaseRow) :
    (s.touchIf caseId condition visible now f).2.syncs = s.syncs := by
  unfold touchIf
  split <;> rfl

end Store

namespace Write

/-- What an insert of a sync does. -/
theorem insertSync_cases (row : SyncRow) (s : Store) :
    ((insertSync row).commit s).2 = s ∨
      s.syncCollides row = false ∧ (s.cases.get? row.caseId).isSome = true ∧
        ((insertSync row).commit s).2 =
          { s with syncs := s.syncs.insert row }.touched row.caseId true row.createdAt
            fun c => { c with updatedAt := row.createdAt } := by
  simp only [commit]
  split
  · exact .inl rfl
  case isFalse hcollides =>
    split
    case isTrue hcase => exact .inr ⟨Bool.not_eq_true _ ▸ hcollides, hcase, rfl⟩
    case isFalse => exact .inl rfl

/-- What a publication does. -/
theorem publish_cases (p : Publication) (s : Store) :
    ((publish p).commit s).2 = s ∨
      (∃ id row, s.syncs.get? id = some row ∧ p.selects id row = true) ∧
        p.manifestCollides s = false ∧ p.checkpointsCollide s = false ∧
        (s.cases.get? p.caseId).isSome = true ∧
        ((publish p).commit s).2 = s.published p := by
  simp only [commit]
  split
  · exact .inl rfl
  case isFalse hfound =>
    rw [Bool.not_eq_true, Option.isNone_eq_false_iff] at hfound
    split
    · exact .inl rfl
    case isFalse hcollides =>
      rw [Bool.or_eq_true, not_or, Bool.not_eq_true, Bool.not_eq_true] at hcollides
      split
      case isTrue hcase =>
        obtain ⟨⟨id, row⟩, hrow⟩ := Option.isSome_iff_exists.mp hfound
        obtain ⟨hget, hselects⟩ := s.syncs.find?_eq_some hrow
        exact .inr ⟨⟨id, row, hget, hselects⟩, hcollides.1, hcollides.2, hcase, rfl⟩
      case isFalse => exact .inl rfl

/-- The transactions that may change a sync. -/
def onSyncs : Write → Bool
  | insertSync _ => true
  | sync _ => true
  | publish _ => true
  | deleteCase _ _ => true
  | _ => false

theorem commit_syncs_of_not {w : Write} (h : w.onSyncs = false) (s : Store) :
    (w.commit s).2.syncs = s.syncs := by
  cases w with
  | insertSync row => cases h
  | sync v => cases h
  | publish p => cases h
  | deleteCase target now => cases h
  | createCase row => simp only [commit]; split <;> rfl
  | evidence v => simp only [commit]; split <;> rfl
  | startBuilder token => rfl
  | reopenCase caseId now => exact s.touch_syncs _ _ _ _
  | _ => exact s.touchIf_syncs _ _ _ _ _

/-- A sync after a commit: it was there, or it was just inserted, or the
transaction selected it. -/
theorem syncs_after {w : Write} {s : Store} {id : Nat} {row' : SyncRow}
    (h : (w.commit s).2.syncs.get? id = some row') :
    s.syncs.get? id = some row' ∨
      (w = .insertSync row' ∧ id = s.syncs.nextId ∧ s.syncCollides row' = false ∧
        (s.cases.get? row'.caseId).isSome = true) ∨
      (∃ v row, w = .sync v ∧ s.syncs.get? id = some row ∧ v.apply id row = some row') ∨
      ∃ p row, w = .publish p ∧ s.syncs.get? id = some row ∧ p.selects id row = true ∧
        row' = p.published s.runs.nextId row := by
  cases w with
  | insertSync row =>
      rcases insertSync_cases row s with hsame | ⟨hcollides, hcase, hinserted⟩
      · rw [hsame] at h
        exact .inl h
      · rw [hinserted, Store.touched_syncs, Table.get?_insert] at h
        split at h
        case isTrue hid =>
          cases h
          exact .inr (.inl ⟨rfl, hid, hcollides, hcase⟩)
        case isFalse => exact .inl h
  | sync v =>
      simp only [commit] at h
      rw [Table.get?_update] at h
      obtain ⟨row, hrow, heq⟩ := Option.map_eq_some_iff.mp h
      cases happly : v.apply id row with
      | none =>
          rw [happly] at heq
          cases heq
          exact .inl hrow
      | some changed =>
          rw [happly] at heq
          cases heq
          exact .inr (.inr (.inl ⟨v, row, rfl, hrow, happly⟩))
  | publish p =>
      rcases publish_cases p s with hsame | ⟨-, -, -, -, hpublished⟩
      · rw [hsame] at h
        exact .inl h
      · rw [hpublished] at h
        simp only [Store.published, Store.touched_syncs, Store.withCheckpoints_syncs] at h
        rw [Table.get?_update] at h
        obtain ⟨row, hrow, heq⟩ := Option.map_eq_some_iff.mp h
        split at heq
        case isTrue hselects =>
          cases heq
          exact .inr (.inr (.inr ⟨p, row, rfl, hrow, hselects, rfl⟩))
        case isFalse =>
          cases heq
          exact .inl hrow
  | deleteCase target now =>
      simp only [commit] at h
      split at h
      · simp only [Store.deleted] at h
        rw [Table.get?_delete, Option.filter_eq_some_iff] at h
        exact .inl h.1
      · exact .inl h
  | _ =>
      rw [commit_syncs_of_not rfl] at h
      exact .inl h

/-- Only the deletion of its case drops a sync. -/
theorem syncs_keeps {w : Write} {s : Store} {id : Nat} {row : SyncRow}
    (hd : ∀ target now, w = .deleteCase target now → row.caseId ≠ target.caseId)
    (h : s.syncs.get? id = some row) : ∃ row', (w.commit s).2.syncs.get? id = some row' := by
  cases w with
  | insertSync row' =>
      rcases insertSync_cases row' s with hsame | ⟨-, -, hinserted⟩
      · rw [hsame]
        exact ⟨row, h⟩
      · rw [hinserted, Store.touched_syncs, Table.get?_insert, if_neg, h]
        · exact ⟨row, rfl⟩
        · exact Nat.ne_of_lt (s.syncs.lt_nextId h)
  | sync v =>
      simp only [commit]
      rw [Table.get?_update, h]
      exact ⟨_, rfl⟩
  | publish p =>
      rcases publish_cases p s with hsame | ⟨-, -, -, -, hpublished⟩
      · rw [hsame]
        exact ⟨row, h⟩
      · rw [hpublished]
        simp only [Store.published, Store.touched_syncs, Store.withCheckpoints_syncs]
        rw [Table.get?_update, h]
        exact ⟨_, rfl⟩
  | deleteCase target now =>
      simp only [commit]
      split
      · refine ⟨row, ?_⟩
        simp only [Store.deleted]
        rw [Table.get?_delete, h, Option.filter_some, if_pos]
        exact Bool.not_eq_true' _ ▸ decide_eq_false (hd target now rfl)
      · exact ⟨row, h⟩
  | _ =>
      rw [commit_syncs_of_not rfl]
      exact ⟨row, h⟩

/-- A sync before and after a commit that keeps it: what is written once
stays, and a terminal row stays as it is. -/
theorem syncs_step {w : Write} {s : Store} {id : Nat} {row row' : SyncRow}
    (h : s.syncs.get? id = some row) (h' : (w.commit s).2.syncs.get? id = some row') :
    row'.fixed = row.fixed ∧ (row.state.active = false → row' = row) := by
  rcases syncs_after h' with hsame | ⟨-, hid, -, -⟩ | ⟨v, row₀, -, h₀, happly⟩ |
    ⟨p, row₀, -, h₀, hselects, rfl⟩
  · rw [h] at hsame
    cases hsame
    exact ⟨rfl, fun _ => rfl⟩
  · rw [hid, Table.get?_nextId] at h
    cases h
  · rw [h] at h₀
    cases h₀
    obtain ⟨hactive, hfixed⟩ := SyncWrite.apply_active happly
    exact ⟨hfixed, fun hterminal => absurd hactive (hterminal ▸ Bool.false_ne_true)⟩
  · rw [h] at h₀
    cases h₀
    refine ⟨rfl, fun hterminal => ?_⟩
    have hrunning := (SyncRow.ownedBy_running (Publication.selects_iff.mp hselects).2.2.1).1
    rw [hrunning] at hterminal
    cases hterminal

end Write

end TonTracker
