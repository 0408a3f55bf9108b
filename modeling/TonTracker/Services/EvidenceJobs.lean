/-
# `Services.EvidenceJobs` — the evidence worker and its requests

`services/case_evidence_jobs.py`: a worker recovers expired leases, claims
one verification and walks the four proof stages, binding what each of
them returns.  `services/wallet_case_evidence.py`: `enqueue` and `cancel`.
A worker's row may change under it between any two statements, and `_bind`
and `_finish_cancelled` write back a row they read.
-/
import TonTracker.Services.Sessions

namespace TonTracker

/-- What the execution of a claimed verification raises. -/
inductive EvidenceRaised where
  | workerStop
  | operationCancelled
  | storage
  | storedConflict
  | operation (retryable : Bool) (code message : Text)
deriving DecidableEq

abbrev EvidenceStep : Type → Type := Raising EvidenceRaised

namespace EvidenceRaised

/-- `_is_retryable`. -/
def retryable : EvidenceRaised → Bool
  | storage => true
  | operation retryable _ _ => retryable
  | _ => false

/-- `_error_code`. -/
def code (raised : EvidenceRaised) (fallback : String) : Text :=
  match raised with
  | storage => "evidence_storage_unavailable".toList
  | storedConflict => "evidence_stored_conflict".toList
  | operation _ code _ => code
  | _ => fallback.toList

/-- `_safe_error`. -/
def message : EvidenceRaised → Text
  | storage => "Evidence verification storage is temporarily unavailable.".toList
  | operation _ _ message => message
  | _ => "Evidence verification stopped on an internal error.".toList

end EvidenceRaised

/-- A statement of the database may fail. -/
def guardStorage : EvidenceStep Unit := do
  if ← askFlag .storageFails then throw .storage

/-- A `SELECT` of the worker. -/
def selectEvidence {α : Type} (f : Store → α) : EvidenceStep α := do
  guardStorage
  let s ← readR
  return f s

/-- A transaction of the worker: how many rows it changed. -/
def transactEvidence (w : EvidenceWrite) : EvidenceStep Nat := do
  guardStorage
  match ← commitR (.evidence w) with
  | .rows count => return count
  | .inserted _ => return 1
  | .storedConflict => throw .storedConflict
  | .integrityError => throw .storage
  | .staleData => throw .storage

/-- `ClaimedEvidenceVerification`. -/
structure ClaimedEvidence where
  lease : EvidenceLease
  attempt : Nat
  maxAttempts : Nat

/-- The row of a lease while it is owned. -/
def ownedEvidence (lease : EvidenceLease) (now : Instant) (s : Store) : Option EvidenceRow :=
  (s.evidence.get? lease.jobId).filter fun e => e.ownedBy lease.token now

/-! ## Ends of an attempt -/

/-- `_finish_cancelled`. -/
def finishCancelledEvidence (lease : EvidenceLease) : EvidenceStep Unit := do
  let tick ← askR .clock
  match ← selectEvidence (ownedEvidence lease tick.now) with
  | none => return
  | some loaded =>
      if loaded.cancelRequestedAt.isSome then
        let terminal ← askR .clock
        let valid ← askFlag .artifactsValid
        let count ← transactEvidence (.finishCancelled lease loaded valid tick.now terminal.now)
        if count ≠ 1 then throw .storage

/-- A fenced end of an attempt: where the fence fails, `_finish_cancelled`. -/
def finishEvidence (lease : EvidenceLease) (w : EvidenceWrite) : EvidenceStep Unit := do
  let count ← transactEvidence w
  if count ≠ 1 then finishCancelledEvidence lease

/-- `_finish_success`. -/
def finishSuccess (lease : EvidenceLease) : EvidenceStep Unit := do
  let tick ← askR .clock
  let valid ← askFlag .artifactsValid
  let digest ← askR .resultDigest
  finishEvidence lease (.finishSuccess lease valid digest tick.now)

/-- `_finish_failure`. -/
def finishFailure (lease : EvidenceLease) (code message : Text) : EvidenceStep Unit := do
  let tick ← askR .clock
  let terminal ← askR .clock
  let valid ← askFlag .artifactsValid
  let digest ← askR .resultDigest
  finishEvidence lease (.finishFailure lease code message valid digest tick.now terminal.now)

/-- `_finish_invalid_selection`. -/
def finishInvalidSelection (lease : EvidenceLease) (code message : Text) : EvidenceStep Unit := do
  let tick ← askR .clock
  let terminal ← askR .clock
  let valid ← askFlag .artifactsValid
  let _ ← transactEvidence
    (.finishInvalidSelection lease code message valid tick.now terminal.now)

/-- `_schedule_retry`. -/
def scheduleEvidenceRetry (lease : EvidenceLease) (code message : Text) : EvidenceStep Unit := do
  let tick ← askR .clock
  finishEvidence lease (.scheduleRetry lease code message tick.now tick.retryAt)

/-- `_schedule_retry` while attempts are left, else `_finish_failure`. -/
def retryOrFail (claimed : ClaimedEvidence) (code message : Text) : EvidenceStep Unit :=
  if claimed.attempt < claimed.maxAttempts then scheduleEvidenceRetry claimed.lease code message
  else finishFailure claimed.lease code message

/-! ## The proof stages -/

/-- `_cancelled`. -/
def evidenceCancelled (lease : EvidenceLease) : EvidenceStep Bool := do
  let tick ← askR .clock
  selectEvidence fun s => (ownedEvidence lease tick.now s).any fun e => e.cancelRequestedAt.isSome

/-- The field of a stage that says its artifact is bound. -/
def EvidenceRow.hasBinding (e : EvidenceRow) : EvidenceStage → Bool
  | .capturingTrace => e.traceCaptureId.isSome
  | .verifyingBocs => e.bocVerificationId.isSome
  | .provingInclusion => e.inclusionCatalogDigest.isSome
  | .buildingNativeLedger => e.nativeLedgerId.isSome
  | _ => false

/-- `_has_binding`. -/
def hasEvidenceBinding (lease : EvidenceLease) (stage : EvidenceStage) : EvidenceStep Bool := do
  let tick ← askR .clock
  selectEvidence fun s => (ownedEvidence lease tick.now s).any fun e => e.hasBinding stage

/-- `_revalidate_bound`. -/
def revalidateBound (lease : EvidenceLease) : EvidenceStep Unit := do
  let tick ← askR .clock
  match ← selectEvidence (ownedEvidence lease tick.now) with
  | none => throw .workerStop
  | some _ => if !(← askFlag .artifactsValid) then throw .storedConflict

/-- `_advance`. -/
def advanceEvidence (lease : EvidenceLease) (stage : EvidenceStage) : EvidenceStep Bool := do
  let tick ← askR .clock
  let count ← transactEvidence (.advance lease stage tick.now tick.leaseUntil)
  return count = 1

/-- `_heartbeat`. -/
def heartbeatEvidence (lease : EvidenceLease) : EvidenceStep Bool := do
  if ← askFlag .stopRequested then return false
  let tick ← askR .clock
  let count ← transactEvidence (.heartbeat lease tick.now tick.leaseUntil)
  return count = 1

/-- What the heartbeats of an operation saw. -/
structure OperationWatch where
  cancelRequested : Bool
  stopRequested : Bool
  leaseLost : Bool

/-- The loop of `_call_with_heartbeats`, of so many rounds. -/
def watchOperation (lease : EvidenceLease) : Nat → OperationWatch → EvidenceStep OperationWatch
  | 0, watch => return watch
  | rounds + 1, watch => do
      let stop ← askFlag .stopRequested
      let cancel ← if stop then pure false else evidenceCancelled lease
      let alive ← heartbeatEvidence lease
      watchOperation lease rounds
        { cancelRequested := watch.cancelRequested || cancel
          stopRequested := watch.stopRequested || stop
          leaseLost := watch.leaseLost || !alive }

/-- `_call_with_heartbeats`. -/
def callWithHeartbeats (lease : EvidenceLease) (stage : EvidenceStage) :
    EvidenceStep (Nat × HexDigest × Bool) := do
  if ← askFlag .stopRequested then throw .workerStop
  let rounds ← askR .heartbeats
  let watch ← watchOperation lease rounds ⟨false, false, false⟩
  if watch.cancelRequested then throw .operationCancelled
  if (← askFlag .stopRequested) || watch.stopRequested || watch.leaseLost then throw .workerStop
  match ← askR (.proofOperation stage) with
  | .returned id digest trusted => return (id, digest, trusted)
  | .raised retryable code message => throw (.operation retryable code message)

/-- What a stage binds. -/
def stageArtifact (stage : EvidenceStage) (value : Nat × HexDigest × Bool) :
    Except EvidenceRaised Artifact :=
  match stage with
  | .capturingTrace => .ok (.trace value.1 value.2.1)
  | .verifyingBocs => .ok (.boc value.1 value.2.1)
  | .provingInclusion =>
      if value.2.2 then .ok (.inclusion value.2.1)
      else .error (.operation false "evidence_inclusion_trust_insufficient".toList
        "Canonical block-chain verification requires liteserver trust level 0.".toList)
  | _ => .ok (.ledger value.1 value.2.1)

/-- `_bind`. -/
def bindArtifact (lease : EvidenceLease) (artifact : Artifact) : EvidenceStep Unit := do
  let completed ← askR .clock
  let tick ← askR .clock
  match ← selectEvidence (ownedEvidence lease tick.now) with
  | none => throw .workerStop
  | some loaded =>
      if (← askFlag .artifactsValid) && (loaded.bound artifact completed.now).artifactPrefixCheck then
        let count ← transactEvidence
          (.bind lease loaded artifact completed.now tick.now tick.leaseUntil)
        if count ≠ 1 then throw .storage
      else throw .storedConflict

/-- The call of a stage's operation and the binding of its result. -/
def proveStage (lease : EvidenceLease) (stage : EvidenceStage) : EvidenceStep Unit := do
  let value ← callWithHeartbeats lease stage
  match stageArtifact stage value with
  | .ok artifact => bindArtifact lease artifact
  | .error raised => throw raised

/-- The `except` clauses around a stage.  `true`: the attempt goes on. -/
def stageRaised (claimed : ClaimedEvidence) (raised : EvidenceRaised) : EvidenceStep Bool := do
  match raised with
  | .workerStop => throw .workerStop
  | .operationCancelled =>
      finishCancelledEvidence claimed.lease
      return false
  | raised =>
      if ← evidenceCancelled claimed.lease then
        finishCancelledEvidence claimed.lease
      else if raised.retryable && claimed.attempt < claimed.maxAttempts then
        scheduleEvidenceRetry claimed.lease (raised.code "evidence_provider_unavailable")
          raised.message
      else if raised.retryable then
        finishFailure claimed.lease "evidence_retry_budget_exhausted".toList
          "Evidence verification exhausted its bounded retry budget.".toList
      else
        finishFailure claimed.lease (raised.code "evidence_conflict") raised.message
      return false

/-- The rest of a stage whose artifact is not bound. -/
def runUnboundStage (claimed : ClaimedEvidence) (stage : EvidenceStage) : EvidenceStep Bool := do
  if ← advanceEvidence claimed.lease stage then
    tryCatch
      (do
        proveStage claimed.lease stage
        if ← evidenceCancelled claimed.lease then
          finishCancelledEvidence claimed.lease
          return false
        return true)
      (stageRaised claimed)
  else
    finishCancelledEvidence claimed.lease
    return false

/-- One round of the loop of `_execute_claimed`. -/
def runStage (claimed : ClaimedEvidence) (stage : EvidenceStage) : EvidenceStep Bool := do
  if ← askFlag .stopRequested then throw .workerStop
  if ← evidenceCancelled claimed.lease then
    finishCancelledEvidence claimed.lease
    return false
  if ← hasEvidenceBinding claimed.lease stage then
    revalidateBound claimed.lease
    return true
  runUnboundStage claimed stage

/-- The loop of `_execute_claimed`, and the end of the attempt. -/
def runStages (claimed : ClaimedEvidence) : List EvidenceStage → EvidenceStep Unit
  | [] => finishSuccess claimed.lease
  | stage :: rest => do
      if ← runStage claimed stage then runStages claimed rest

/-- `steps` of `_execute_claimed`. -/
def proofStages : List EvidenceStage :=
  [.capturingTrace, .verifyingBocs, .provingInclusion, .buildingNativeLedger]

/-- `_execute_claimed`. -/
def executeClaimedStages (claimed : ClaimedEvidence) : EvidenceStep Unit := do
  match ← askR .selection with
  | .valid => runStages claimed proofStages
  | .runtimeUnavailable message =>
      retryOrFail claimed "evidence_runtime_unavailable".toList message
  | .invalid =>
      finishInvalidSelection claimed.lease "evidence_selection_conflict".toList
        "Pinned Activity selection failed revalidation.".toList

/-- `execute_claimed`. -/
def executeClaimedEvidence (claimed : ClaimedEvidence) : EvidenceStep Unit :=
  tryCatch (executeClaimedStages claimed) fun raised =>
    match raised with
    | .storage => retryOrFail claimed (raised.code "evidence_storage_unavailable") raised.message
    | raised => throw raised

/-! ## The worker -/

/-- `_finish_expired` of each exhausted row. -/
def finishExhausted (cutoff : Instant) : List (Nat × EvidenceRow) → EvidenceStep Unit
  | [] => return
  | (jobId, e) :: rest => do
      let tick ← askR .clock
      let valid ← askFlag .artifactsValid
      let digest ← askR .resultDigest
      match e.leaseExpiresAt with
      | none => pure ()
      | some expiry =>
          let _ ← transactEvidence
            (.finishExpired jobId e.leaseToken expiry cutoff valid digest tick.now)
      finishExhausted cutoff rest

/-- `_finish_recovered_cancel` of each cancelled row. -/
def finishRecovered : List (Nat × EvidenceRow) → EvidenceStep Unit
  | [] => return
  | (jobId, _) :: rest => do
      let tick ← askR .clock
      let valid ← askFlag .artifactsValid
      let _ ← transactEvidence (.finishRecoveredCancel jobId valid tick.now)
      finishRecovered rest

/-- The running rows whose lease has expired. -/
def expiredEvidence (now : Instant) (p : EvidenceRow → Bool) (s : Store) :
    List (Nat × EvidenceRow) :=
  s.evidence.select fun _ e =>
    e.state = .running && (e.leaseExpiresAt.any fun t => t ≤ now) && p e

/-- `recover_expired`. -/
def recoverExpiredEvidence : EvidenceStep Unit := do
  let tick ← askR .clock
  let cancelled ← selectEvidence
    (expiredEvidence tick.now fun e => e.cancelRequestedAt.isSome)
  let _ ← transactEvidence (.recoverRetry tick.now)
  let exhausted ← selectEvidence (expiredEvidence tick.now fun e =>
    e.cancelRequestedAt.isNone && decide (e.maxAttempts ≤ e.attemptCount))
  finishRecovered cancelled
  finishExhausted tick.now exhausted

/-- `ORDER BY next_attempt_at, created_at, id LIMIT 1` of the queued rows
that are due. -/
def nextEvidence (now : Instant) (s : Store) : Option (Nat × EvidenceRow) :=
  (s.evidence.select fun _ e => e.state = .queued && e.cancelRequestedAt.isNone &&
    decide (e.attemptCount < e.maxAttempts) && e.nextAttemptAt.any fun t => t ≤ now).foldl
    (fun first row =>
      match first with
      | none => some row
      | some least =>
          if (row.2.nextAttemptAt, row.2.createdAt) = (least.2.nextAttemptAt, least.2.createdAt)
          then some least
          else if row.2.nextAttemptAt.any (fun t => least.2.nextAttemptAt.any fun u => t < u) ||
              (row.2.nextAttemptAt = least.2.nextAttemptAt &&
                decide (row.2.createdAt < least.2.createdAt)) then some row
          else some least) none

/-- `claim_next`, by the session that draws the token. -/
def claimNextEvidence (token : Token) : EvidenceStep (Option ClaimedEvidence) := do
  if ← askFlag .stopRequested then return none
  let tick ← askR .clock
  match ← selectEvidence (nextEvidence tick.now) with
  | none => return none
  | some (jobId, _) =>
      let count ← transactEvidence (.claim jobId token tick.now tick.leaseUntil)
      if count = 1 then
        match ← selectEvidence fun s => s.evidence.get? jobId with
        | none => return none
        | some e => return some ⟨⟨jobId, token⟩, e.attemptCount, e.maxAttempts⟩
      else return none

/-- `run_once` after the claim: an internal error ends the attempt, a
failure of the storage leaves it to recovery. -/
def runClaimedEvidence (claimed : ClaimedEvidence) : EvidenceStep Unit :=
  tryCatch (executeClaimedEvidence claimed) fun raised =>
    match raised with
    | .workerStop => pure ()
    | .storage => pure ()
    | _ =>
        tryCatch
          (finishFailure claimed.lease "internal_evidence_error".toList
            "Evidence verification stopped on an internal error.".toList)
          fun _ => pure ()

/-- `run_once`. -/
def runEvidenceOnce (token : Token) : EvidenceStep Unit := do
  if !(← askFlag .stopRequested) then
    recoverExpiredEvidence
    match ← claimNextEvidence token with
    | none => pure ()
    | some claimed => runClaimedEvidence claimed

/-! ## Requests -/

/-- `cancel`, with so many attempts left. -/
def cancelEvidenceAttempts (caseId : Nat) (publicId : Uuid) : Nat → EvidenceStep Unit
  | 0 => return
  | attempts + 1 => do
      match ← selectEvidence fun s =>
        s.evidence.find? fun _ e => e.caseId = caseId && e.publicId = publicId with
      | none => return
      | some (jobId, e) =>
          if !e.state.active || (e.state = .running && e.cancelRequestedAt.isSome) then return
          let tick ← askR .clock
          let count ← transactEvidence
            (if e.state = .queued then .cancelQueued jobId caseId e.statusVersion tick.now
            else .cancelRunning jobId caseId e.statusVersion tick.now)
          if count ≠ 1 then cancelEvidenceAttempts caseId publicId attempts

/-- `cancel`. -/
def cancelEvidence (owner : Text) (casePublicId publicId : Uuid) : EvidenceStep Unit := do
  match ← selectEvidence fun s => s.caseByPublicId? owner casePublicId with
  | none => return
  | some (caseId, _) => cancelEvidenceAttempts caseId publicId 8

/-- `CaseEvidenceVerificationRequest`, with its fingerprint. -/
structure EvidenceRequest where
  owner : Text
  casePublicId : Uuid
  activityPublicId : HexDigest
  fingerprint : HexDigest
  idempotencyKey : Text
  maxAttempts : Nat

/-- The row `enqueue` inserts. -/
def EvidenceRequest.row (request : EvidenceRequest) (caseId : Nat) (publicId : Uuid)
    (resolved : ResolvedActivity) (now : Instant) : EvidenceRow :=
  { publicId := publicId
    caseId := caseId
    snapshotSyncId := resolved.snapshotSyncId
    sourceSyncId := resolved.sourceSyncId
    sourceTransactionId := resolved.sourceTransactionId
    activityPublicId := request.activityPublicId
    activitySemanticFingerprint := resolved.semanticFingerprint
    state := .queued, stage := .queued, progressCurrent := 0, statusVersion := 1
    highestEvidenceLevel := .normalized
    idempotencyKey := request.idempotencyKey
    requestFingerprint := request.fingerprint
    attemptCount := 0, maxAttempts := request.maxAttempts
    nextAttemptAt := some now, cancelRequestedAt := none
    leaseToken := none, leaseExpiresAt := none, heartbeatAt := none
    traceCaptureId := none, traceDigest := none, traceCompletedAt := none
    bocVerificationId := none, bocDigest := none, bocCompletedAt := none
    inclusionCatalogDigest := none, inclusionCompletedAt := none
    nativeLedgerId := none, nativeLedgerDigest := none, nativeLedgerCompletedAt := none
    resultDigest := none
    errorCode := none
    messageSafe := "Transaction evidence verification is queued.".toList
    createdAt := now, startedAt := none, completedAt := none }

/-- `enqueue`: the case, a replay by key, the resolution (which looks the
case up again), a verification already active, the insert. -/
def enqueueEvidence (request : EvidenceRequest) : EvidenceStep Unit := do
  match ← selectEvidence fun s => s.caseByPublicId? request.owner request.casePublicId with
  | none => return
  | some (caseId, _) =>
      let replay ← selectEvidence fun s => s.evidence.find? fun _ e =>
        e.caseId = caseId && e.idempotencyKey = request.idempotencyKey
      if replay.isSome then return
      match ← selectEvidence fun s => s.caseByPublicId? request.owner request.casePublicId with
      | none => return
      | some (caseId, _) =>
          match ← askR .resolvedActivity with
          | .error _ => return
          | .ok resolved =>
              let active ← selectEvidence fun s => s.evidence.find? fun _ e =>
                e.caseId = caseId && e.snapshotSyncId = resolved.snapshotSyncId &&
                  e.activityPublicId = request.activityPublicId && e.state.active
              if active.isSome then return
              let tick ← askR .clock
              let publicId ← askR .publicId
              let _ ← transactEvidence (.enqueue (request.row caseId publicId resolved tick.now))

end TonTracker
