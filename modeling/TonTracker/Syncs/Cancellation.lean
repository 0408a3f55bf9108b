/-
# `Syncs.Cancellation` — what a flagged sync may become

Every statement that ends or requeues a running sync asks whether its
cancellation was requested, with one exception: `_close_unavailable_claim`
fails the sync it claimed whatever its flag says.  Without that one, a
flagged sync leaves `running` only to `cancelled` (`sync_cancellation_final`).
The exception is reached: a sync queued after its case was archived is
claimed, found unavailable, and flagged before it is closed.
-/
import TonTracker.Syncs.Steps

namespace TonTracker

open Relational (Table)
open Session (System World Run Move Reaches)

/-- A flagged sync, or what it is to become. -/
def SyncRow.Cancelling (row : SyncRow) : Prop :=
  row.state = .running ∧ row.cancelRequestedAt.isSome = true ∨ row.state = .cancelled

/-- A flagged sync that an update selects is running. -/
theorem SyncRow.Cancelling.flagged {row : SyncRow} (h : row.Cancelling)
    (hactive : row.state.active = true) :
    row.state = .running ∧ row.cancelRequestedAt.isSome = true := by
  rcases h with hflagged | hcancelled
  · exact hflagged
  · rw [hcancelled] at hactive
    cases hactive

/-- A statement that asks for an unset flag does not select it. -/
theorem SyncRow.Cancelling.not_unflagged {row : SyncRow} (h : row.Cancelling)
    (hactive : row.state.active = true) (hcancel : row.cancelRequestedAt = none) : False := by
  have hsome := (h.flagged hactive).2
  rw [hcancel] at hsome
  cases hsome

/-- Every update but the one of `_close_unavailable_claim` keeps a flagged
sync on its way. -/
theorem SyncWrite.apply_cancelling {w : SyncWrite} {id : Nat} {row row' : SyncRow}
    (hclose : ∀ lease now, w ≠ .closeUnavailable lease now) (h : row.Cancelling)
    (happly : w.apply id row = some row') : row'.Cancelling := by
  have hactive := (apply_active happly).1
  obtain ⟨hrunning, hflag⟩ := h.flagged hactive
  cases w with
  | closeUnavailable lease now => exact absurd rfl (hclose lease now)
  | cancel syncId now =>
      simp only [apply, Option.ite_none_right_eq_some] at happly
      rcases cancelled_cases happly.2 with ⟨-, rfl⟩ | ⟨-, hcancel, -⟩
      · exact .inr rfl
      · exact (h.not_unflagged hactive hcancel).elim
  | recoverExpired now =>
      rcases recovered_cases happly with ⟨-, -, rfl⟩ | ⟨-, hcancel, -, -⟩ | ⟨-, hcancel, -⟩ |
        ⟨hqueued, -⟩
      · exact .inr rfl
      · exact (h.not_unflagged hactive hcancel).elim
      · exact (h.not_unflagged hactive hcancel).elim
      · rw [hrunning] at hqueued
        cases hqueued
  | claim syncId token now leaseUntil =>
      simp only [apply, Option.ite_none_right_eq_some, Bool.and_eq_true,
        Option.isNone_iff_eq_none] at happly
      exact (h.not_unflagged hactive happly.1.1.1.2).elim
  | heartbeat lease now leaseUntil =>
      simp only [apply, Option.ite_none_right_eq_some, Option.some.injEq] at happly
      obtain ⟨-, rfl⟩ := happly
      exact .inl ⟨hrunning, hflag⟩
  | finishCancelled lease now =>
      simp only [apply, Option.ite_none_right_eq_some, Option.some.injEq] at happly
      obtain ⟨-, rfl⟩ := happly
      exact .inr rfl
  | scheduleRetry lease code message now retryAt =>
      simp only [apply, Option.ite_none_right_eq_some, Bool.and_eq_true,
        Option.isNone_iff_eq_none] at happly
      exact (h.not_unflagged hactive happly.1.1.2).elim
  | _ =>
      simp only [apply, Option.ite_none_right_eq_some, Bool.and_eq_true,
        Option.isNone_iff_eq_none] at happly
      exact (h.not_unflagged hactive happly.1.2).elim

/-! ## Closing an unavailable claim -/

/-- `_close_unavailable_claim` finds the sync it claimed without a flag. -/
def Write.closesUnflagged (w : Write) (s : Store) : Bool :=
  match w with
  | .sync (.closeUnavailable lease now) => (s.syncs.get? lease.jobId).all fun row =>
      !row.ownedBy lease.token now || row.cancelRequestedAt.isNone
  | _ => true

/-- A flagged sync after a commit. -/
theorem sync_cancelling_after {w : Write} {s : Store} {id : Nat} {row row' : SyncRow}
    (hclose : w.closesUnflagged s = true) (h : s.syncs.get? id = some row)
    (hcancelling : row.Cancelling) (h' : (w.commit s).2.syncs.get? id = some row') :
    row'.Cancelling := by
  rcases Write.syncs_after h' with hsame | ⟨-, hid, -, -⟩ | ⟨v, row₀, rfl, h₀, happly⟩ |
    ⟨p, row₀, -, h₀, hselects, -⟩
  · rw [h] at hsame
    cases hsame
    exact hcancelling
  · rw [hid, Table.get?_nextId] at h
    cases h
  · rw [h] at h₀
    cases h₀
    by_cases hv : ∃ lease now, v = .closeUnavailable lease now
    · obtain ⟨lease, now, rfl⟩ := hv
      have hactive := (SyncWrite.apply_active happly).1
      simp only [SyncWrite.apply, Option.ite_none_right_eq_some, Bool.and_eq_true,
        decide_eq_true_eq] at happly
      obtain ⟨⟨rfl, howned⟩, -⟩ := happly
      simp only [Write.closesUnflagged, h, Option.all_some, howned, Bool.not_true,
        Bool.false_or, Option.isNone_iff_eq_none] at hclose
      exact (hcancelling.not_unflagged hactive hclose).elim
    · exact SyncWrite.apply_cancelling (fun lease now heq => hv ⟨lease, now, heq⟩) hcancelling
        happly
  · rw [h] at h₀
    cases h₀
    obtain ⟨-, -, howned, hcancel, -⟩ := Publication.selects_iff.mp hselects
    have hrunning := (SyncRow.ownedBy_running howned).1
    exact (hcancelling.not_unflagged (hrunning ▸ rfl) hcancel).elim

/-- The case is not deleted, and no flagged sync is closed as unavailable. -/
def ClosesUnflagged (caseId : Nat) (sid : Nat) (w : Write) (s : Store) : Prop :=
  KeepsCase caseId sid w s ∧ w.closesUnflagged s = true

/-- A flagged running sync leaves `running` only to `cancelled`, in every
run that closes no flagged sync as unavailable; and a sync that is so
closed is failed. -/
theorem sync_cancellation_final {S : System caseMachine} {world world' : World S} {id : Nat}
    {row : SyncRow} (h : world.state.syncs.get? id = some row) (hrunning : row.state = .running)
    (hcancel : row.cancelRequestedAt.isSome = true)
    (rest : Run (ClosesUnflagged row.caseId) world world') :
    (∃ row', world'.state.syncs.get? id = some row' ∧
      (row'.state = .running ∧ row'.cancelRequestedAt.isSome = true ∨ row'.state = .cancelled)) ∧
      ∀ lease now s, Write.closesUnflagged (.sync (.closeUnavailable lease now)) s = false →
        ∃ row', ((Write.sync (.closeUnavailable lease now)).commit s).2.syncs.get?
          lease.jobId = some row' ∧ row'.state = .failed := by
  constructor
  · have along : ∃ row', world'.state.syncs.get? id = some row' ∧ row'.Cancelling ∧
        row'.caseId = row.caseId := by
      refine rest.inv (fun s : Store => ∃ row', s.syncs.get? id = some row' ∧ row'.Cancelling ∧
        row'.caseId = row.caseId) ?_ ⟨row, h, .inl ⟨hrunning, hcancel⟩, rfl⟩
      rintro sid w s ⟨keeps, hclose⟩ ⟨row₁, h₁, hcancelling, hcase⟩
      obtain ⟨row₂, h₂⟩ := Write.syncs_keeps (hcase ▸ keeps) h₁
      exact ⟨row₂, h₂, sync_cancelling_after hclose h₁ hcancelling h₂,
        (congrArg (·.caseId) (Write.syncs_step h₁ h₂).1).trans hcase⟩
    obtain ⟨row', h', hcancelling, -⟩ := along
    exact ⟨row', h', hcancelling⟩
  · intro lease now s hflagged
    simp only [Write.closesUnflagged, Option.all_eq_false, Bool.or_eq_false_iff,
      Bool.not_eq_false'] at hflagged
    obtain ⟨row', h', howned, -⟩ := hflagged
    obtain ⟨closed, happly, hfailed⟩ : ∃ closed,
        SyncWrite.apply (.closeUnavailable lease now) lease.jobId row' = some closed ∧
          closed.state = .failed := by
      simp only [SyncWrite.apply, howned, decide_true, Bool.and_self, if_true]
      exact ⟨_, rfl, rfl⟩
    refine ⟨closed, ?_, hfailed⟩
    simp only [Write.commit]
    rw [Table.get?_update, h', Option.map_some, happly, Option.getD_some]

/-! ## The sync of an archived case -/

/-- A worker has claimed a sync of an archived case and is about to close
it; the case is restored, and the sync cancelled. -/
def sampleFlagged : List (Move (caseSystem sampleSha)) :=
  sampleArchived ++ sampleSteps 1 2003 1 ++
    sampleSession 3 .runSyncWorker 2004 (sampleUuid '3') 16 ++
    sampleSession 4 (.restoreCase sampleOwner (sampleUuid '0')) 2005 (sampleUuid '4') 20 ++
    sampleSession 5 (.cancelSync sampleOwner (sampleUuid '0') (sampleUuid '1')) 2006
      (sampleUuid '5') 20

/-- The flagged sync of an available case is failed. -/
theorem sync_cancellation_lost :
    ∃ row row', (sampleWorld sampleFlagged).state.syncs.get? 1 = some row ∧
      row.state = .running ∧ row.cancelRequestedAt.isSome = true ∧
      ((sampleWorld sampleFlagged).state.cases.get? 1).any (·.archivedAt.isNone) = true ∧
      (sampleWorld (sampleFlagged ++ sampleSteps 3 2007 1)).state.syncs.get? 1 = some row' ∧
      row'.state = .failed := by
  have before : ((sampleWorld sampleFlagged).state.syncs.get? 1).map
      (fun row => (row.state, row.cancelRequestedAt.isSome)) = some (.running, true) := by
    decide +kernel
  have after : ((sampleWorld (sampleFlagged ++ sampleSteps 3 2007 1)).state.syncs.get? 1).map
      (·.state) = some .failed := by decide +kernel
  obtain ⟨row, hrow, hbefore⟩ := Option.map_eq_some_iff.mp before
  obtain ⟨hrunning, hcancel⟩ := Prod.mk.inj hbefore
  obtain ⟨row', hrow', hfailed⟩ := Option.map_eq_some_iff.mp after
  exact ⟨row, row', hrow, hrunning, hcancel, by decide +kernel, hrow', hfailed⟩

/-- A worker has claimed the sync of an available case, and the sync is
cancelled. -/
def sampleCancelledSync : World (caseSystem sampleSha) :=
  sampleWorld (sampleCase ++
    sampleSession 1 (.enqueueSync sampleOwner (sampleUuid '0') sampleSyncRequest "sync".toList)
      2001 (sampleUuid '1') 30 ++
    sampleSession 2 .runSyncWorker 2002 (sampleUuid '2') 25 ++
    sampleSession 3 (.cancelSync sampleOwner (sampleUuid '0') (sampleUuid '1')) 2003
      (sampleUuid '3') 20)

/-- The worker then finds the flag and cancels the sync. -/
theorem sync_cancellation_final_sample :
    ∃ row, ((sampleSteps 2 2004 40).foldl World.step sampleCancelledSync).state.syncs.get? 1 =
        some row ∧ row.state ≠ .running ∧
      (row.state = .running ∧ row.cancelRequestedAt.isSome = true ∨ row.state = .cancelled) := by
  have before : (sampleCancelledSync.state.syncs.get? 1).map
      (fun row => (row.state, row.cancelRequestedAt.isSome)) = some (.running, true) := by
    decide +kernel
  have after : (((sampleSteps 2 2004 40).foldl World.step sampleCancelledSync).state.syncs.get?
      1).map (fun row => decide (row.state = .running)) = some false := by decide +kernel
  have moves : sampleCancelledSync.commitsAll
      (fun _ (w : Write) s => w.keepsCases && w.closesUnflagged s) (sampleSteps 2 2004 40) =
        true := by decide +kernel
  obtain ⟨row, hrow, hbefore⟩ := Option.map_eq_some_iff.mp before
  obtain ⟨hrunning, hcancel⟩ := Prod.mk.inj hbefore
  obtain ⟨row', hrow', hafter⟩ := Option.map_eq_some_iff.mp after
  have rest : Run (ClosesUnflagged row.caseId) sampleCancelledSync
      ((sampleSteps 2 2004 40).foldl World.step sampleCancelledSync) := by
    refine Session.run_foldl _ (fun sid w s h => ?_) _ _ moves
    rw [Bool.and_eq_true] at h
    exact ⟨KeepsCase.of_keepsCases h.1 _ sid s, h.2⟩
  obtain ⟨row'', h'', hfinal⟩ := (sync_cancellation_final hrow hrunning hcancel rest).1
  rw [hrow'] at h''
  cases h''
  exact ⟨row', hrow', of_decide_eq_false hafter, hfinal⟩

end TonTracker
