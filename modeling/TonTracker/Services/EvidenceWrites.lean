/-
# `Services.EvidenceWrites` — the committed writes of evidence jobs

`services/wallet_case_evidence.py` and `services/case_evidence_jobs.py`:
each transaction that can change an evidence verification, with the
conditions of its `UPDATE` statements.  Two of them, `_bind` and
`_finish_cancelled`, read the row without a lock and write it back by its
id: such a write carries the row it read, and sets the columns it changed
(`written`).  Whatever a transaction writes, the table's CHECK constraints
are applied to it, and a violation rolls it back.
-/
import TonTracker.Models

namespace TonTracker

open Relational (Table)

/-! ## CHECK constraints -/

namespace EvidenceRow

/-- `ck_wallet_case_evidence_lifecycle`. -/
def lifecycleCheck (e : EvidenceRow) : Bool :=
  match e.state with
  | .queued =>
      (e.stage = .queued || e.stage = .retryWait) && e.nextAttemptAt.isSome &&
        e.leaseToken.isNone && e.leaseExpiresAt.isNone && e.completedAt.isNone
  | .running =>
      (e.stage = .validating || e.stage = .capturingTrace || e.stage = .verifyingBocs ||
        e.stage = .provingInclusion || e.stage = .buildingNativeLedger ||
        e.stage = .finalizing) && e.nextAttemptAt.isNone && e.leaseToken.isSome &&
        e.leaseExpiresAt.isSome && e.startedAt.isSome && e.completedAt.isNone
  | _ =>
      e.stage = .terminal && e.nextAttemptAt.isNone && e.leaseToken.isNone &&
        e.leaseExpiresAt.isNone && e.completedAt.isSome

/-- Whether the columns of each of the four artifacts are all set. -/
def artifactsSet (e : EvidenceRow) : List Bool :=
  [e.traceCaptureId.isSome && e.traceDigest.isSome && e.traceCompletedAt.isSome,
    e.bocVerificationId.isSome && e.bocDigest.isSome && e.bocCompletedAt.isSome,
    e.inclusionCatalogDigest.isSome && e.inclusionCompletedAt.isSome,
    e.nativeLedgerId.isSome && e.nativeLedgerDigest.isSome && e.nativeLedgerCompletedAt.isSome]

/-- Whether the columns of each of the four artifacts are all empty. -/
def artifactsEmpty (e : EvidenceRow) : List Bool :=
  [e.traceCaptureId.isNone && e.traceDigest.isNone && e.traceCompletedAt.isNone,
    e.bocVerificationId.isNone && e.bocDigest.isNone && e.bocCompletedAt.isNone,
    e.inclusionCatalogDigest.isNone && e.inclusionCompletedAt.isNone,
    e.nativeLedgerId.isNone && e.nativeLedgerDigest.isNone && e.nativeLedgerCompletedAt.isNone]

/-- The level that goes with a number of bound artifacts. -/
def levelOf (progress : Nat) : EvidenceLevel :=
  if 3 ≤ progress then .chainInclusionProven
  else if progress = 2 then .locallyVerified
  else .normalized

/-- `ck_wallet_case_evidence_artifact_prefix`. -/
def artifactPrefixCheck (e : EvidenceRow) : Bool :=
  decide (e.progressCurrent ≤ 4) && (e.artifactsSet.take e.progressCurrent).all id &&
    (e.artifactsEmpty.drop e.progressCurrent).all id &&
    e.highestEvidenceLevel = levelOf e.progressCurrent

/-- `ck_wallet_case_evidence_state_progress`. -/
def stateProgressCheck (e : EvidenceRow) : Bool :=
  match e.state with
  | .failed => e.progressCurrent = 0
  | .partialResult => decide (0 < e.progressCurrent)
  | .succeeded => e.progressCurrent = 4
  | _ => true

/-- `ck_wallet_case_evidence_cancel_state`. -/
def cancelStateCheck (e : EvidenceRow) : Bool :=
  match e.state with
  | .cancelled => e.cancelRequestedAt.isSome
  | .running => true
  | _ => e.cancelRequestedAt.isNone

/-- `ck_wallet_case_evidence_attempts`. -/
def attemptsCheck (e : EvidenceRow) : Bool :=
  decide (1 ≤ e.maxAttempts) && decide (e.attemptCount ≤ e.maxAttempts)

/-- The CHECK constraints of the table. -/
def checks (e : EvidenceRow) : Bool :=
  e.lifecycleCheck && e.artifactPrefixCheck && e.stateProgressCheck && e.cancelStateCheck &&
    e.attemptsCheck

/-- `uq_wallet_case_evidence_active_selection`, `uq_wallet_case_evidence_idempotency`
and `uq_wallet_case_evidence_public_id`: the two rows may not both be stored. -/
def collides (a b : EvidenceRow) : Bool :=
  a.publicId = b.publicId ||
    (a.caseId = b.caseId && a.idempotencyKey = b.idempotencyKey) ||
    (a.caseId = b.caseId && a.snapshotSyncId = b.snapshotSyncId &&
      a.activityPublicId = b.activityPublicId && a.state.active && b.state.active)

/-! ## What the transactions set -/

/-- The end of a job: `state`, `stage="terminal"`, the lease and the next
attempt gone. -/
def terminated (e : EvidenceRow) (state : SyncState) (code : Option Text) (message : Text)
    (now : Instant) : EvidenceRow :=
  { e with
    state := state
    stage := .terminal
    completedAt := some now
    nextAttemptAt := none
    leaseToken := none
    leaseExpiresAt := none
    errorCode := code
    messageSafe := message
    statusVersion := e.statusVersion + 1 }

/-- `_clear_artifact_bindings`. -/
def cleared (e : EvidenceRow) : EvidenceRow :=
  { e with
    traceCaptureId := none, traceDigest := none, traceCompletedAt := none
    bocVerificationId := none, bocDigest := none, bocCompletedAt := none
    inclusionCatalogDigest := none, inclusionCompletedAt := none
    nativeLedgerId := none, nativeLedgerDigest := none, nativeLedgerCompletedAt := none
    resultDigest := none
    progressCurrent := 0
    highestEvidenceLevel := .normalized }

/-- `"evidence_artifact_conflict"`. -/
def artifactConflict : Text := "evidence_artifact_conflict".toList

def conflictMessage : Text := "Stored evidence artifact binding failed revalidation.".toList

/-- `_terminal_cancel_row`; `valid`: the stored artifacts revalidate. -/
def terminalCancel (e : EvidenceRow) (valid : Bool) (message : Text) (now : Instant) :
    EvidenceRow :=
  if valid then
    { e.terminated .cancelled none message now with resultDigest := none }
  else
    { e.cleared.terminated .failed (some artifactConflict) conflictMessage now with
      cancelRequestedAt := none }

/-- `_terminal_row`; `digest` is the result digest of the artifacts. -/
def terminalRow (e : EvidenceRow) (valid : Bool) (digest : HexDigest) (code message : Text)
    (now : Instant) : EvidenceRow :=
  if e.cancelRequestedAt.isSome then
    e.terminalCancel valid
      "Evidence verification was cancelled before failure publication.".toList now
  else if valid then
    if 0 < e.progressCurrent then
      { e.terminated .partialResult (some (code.take 64)) (message.take 1000) now with
        resultDigest := some digest }
    else e.terminated .failed (some (code.take 64)) (message.take 1000) now
  else e.cleared.terminated .failed (some artifactConflict) conflictMessage now

end EvidenceRow

/-! ## Artifacts -/

/-- What `_bind_trace`, `_bind_boc`, `_bind_inclusion` and `_bind_ledger`
bind. -/
inductive Artifact where
  | trace (captureId : Nat) (digest : HexDigest)
  | boc (verificationId : Nat) (digest : HexDigest)
  | inclusion (digest : HexDigest)
  | ledger (ledgerId : Nat) (digest : HexDigest)
deriving DecidableEq

/-- The values `_bind` sets, and the progress. -/
def EvidenceRow.bound (e : EvidenceRow) (artifact : Artifact) (completedAt : Instant) :
    EvidenceRow :=
  match artifact with
  | .trace captureId digest =>
      { e with
        traceCaptureId := some captureId, traceDigest := some digest
        traceCompletedAt := some completedAt
        highestEvidenceLevel := .normalized, progressCurrent := 1 }
  | .boc verificationId digest =>
      { e with
        bocVerificationId := some verificationId, bocDigest := some digest
        bocCompletedAt := some completedAt
        highestEvidenceLevel := .locallyVerified, progressCurrent := 2 }
  | .inclusion digest =>
      { e with
        inclusionCatalogDigest := some digest, inclusionCompletedAt := some completedAt
        highestEvidenceLevel := .chainInclusionProven, progressCurrent := 3 }
  | .ledger ledgerId digest =>
      { e with
        nativeLedgerId := some ledgerId, nativeLedgerDigest := some digest
        nativeLedgerCompletedAt := some completedAt
        highestEvidenceLevel := .chainInclusionProven, progressCurrent := 4 }

/-! ## Writes by id of a row read before -/

/-- A column of an ORM write: it is set only if it was changed. -/
def setIfChanged {α : Type} [DecidableEq α] (loaded changed current : α) : α :=
  if changed = loaded then current else changed

/-- An ORM flush: the columns of `changed` that differ from the row as it
was loaded, over the row as it is now. -/
def EvidenceRow.written (loaded changed current : EvidenceRow) : EvidenceRow :=
  { current with
    state := setIfChanged loaded.state changed.state current.state
    stage := setIfChanged loaded.stage changed.stage current.stage
    progressCurrent :=
      setIfChanged loaded.progressCurrent changed.progressCurrent current.progressCurrent
    statusVersion := setIfChanged loaded.statusVersion changed.statusVersion current.statusVersion
    highestEvidenceLevel := setIfChanged loaded.highestEvidenceLevel
      changed.highestEvidenceLevel current.highestEvidenceLevel
    nextAttemptAt := setIfChanged loaded.nextAttemptAt changed.nextAttemptAt current.nextAttemptAt
    cancelRequestedAt :=
      setIfChanged loaded.cancelRequestedAt changed.cancelRequestedAt current.cancelRequestedAt
    leaseToken := setIfChanged loaded.leaseToken changed.leaseToken current.leaseToken
    leaseExpiresAt :=
      setIfChanged loaded.leaseExpiresAt changed.leaseExpiresAt current.leaseExpiresAt
    heartbeatAt := setIfChanged loaded.heartbeatAt changed.heartbeatAt current.heartbeatAt
    traceCaptureId :=
      setIfChanged loaded.traceCaptureId changed.traceCaptureId current.traceCaptureId
    traceDigest := setIfChanged loaded.traceDigest changed.traceDigest current.traceDigest
    traceCompletedAt :=
      setIfChanged loaded.traceCompletedAt changed.traceCompletedAt current.traceCompletedAt
    bocVerificationId :=
      setIfChanged loaded.bocVerificationId changed.bocVerificationId current.bocVerificationId
    bocDigest := setIfChanged loaded.bocDigest changed.bocDigest current.bocDigest
    bocCompletedAt :=
      setIfChanged loaded.bocCompletedAt changed.bocCompletedAt current.bocCompletedAt
    inclusionCatalogDigest := setIfChanged loaded.inclusionCatalogDigest
      changed.inclusionCatalogDigest current.inclusionCatalogDigest
    inclusionCompletedAt := setIfChanged loaded.inclusionCompletedAt
      changed.inclusionCompletedAt current.inclusionCompletedAt
    nativeLedgerId :=
      setIfChanged loaded.nativeLedgerId changed.nativeLedgerId current.nativeLedgerId
    nativeLedgerDigest := setIfChanged loaded.nativeLedgerDigest
      changed.nativeLedgerDigest current.nativeLedgerDigest
    nativeLedgerCompletedAt := setIfChanged loaded.nativeLedgerCompletedAt
      changed.nativeLedgerCompletedAt current.nativeLedgerCompletedAt
    resultDigest := setIfChanged loaded.resultDigest changed.resultDigest current.resultDigest
    errorCode := setIfChanged loaded.errorCode changed.errorCode current.errorCode
    messageSafe := setIfChanged loaded.messageSafe changed.messageSafe current.messageSafe
    completedAt := setIfChanged loaded.completedAt changed.completedAt current.completedAt }

/-! ## The transactions -/

/-- What a worker was given by its claim, as far as its writes use it. -/
structure EvidenceLease where
  jobId : Nat
  token : Token
deriving DecidableEq, Repr

/-- `_owned`. -/
def EvidenceRow.ownedBy (e : EvidenceRow) (token : Token) (now : Instant) : Bool :=
  e.state = .running && e.leaseToken = some token && e.leaseExpiresAt.any fun t => now < t

/-- The committed transactions. -/
inductive EvidenceWrite where
  | enqueue (row : EvidenceRow)
  | recoverRetry (now : Instant)
  | finishRecoveredCancel (jobId : Nat) (valid : Bool) (now : Instant)
  | finishExpired (jobId : Nat) (token : Option Token) (leaseExpiresAt cutoff : Instant)
      (valid : Bool) (digest : HexDigest) (now : Instant)
  | claim (jobId : Nat) (token : Token) (now leaseUntil : Instant)
  | advance (lease : EvidenceLease) (stage : EvidenceStage) (now leaseUntil : Instant)
  | heartbeat (lease : EvidenceLease) (now leaseUntil : Instant)
  | bind (lease : EvidenceLease) (loaded : EvidenceRow) (artifact : Artifact)
      (completedAt now leaseUntil : Instant)
  | finishSuccess (lease : EvidenceLease) (valid : Bool) (digest : HexDigest) (now : Instant)
  | finishFailure (lease : EvidenceLease) (code message : Text) (valid : Bool)
      (digest : HexDigest) (now terminalNow : Instant)
  | finishInvalidSelection (lease : EvidenceLease) (code message : Text) (valid : Bool)
      (now terminalNow : Instant)
  | finishCancelled (lease : EvidenceLease) (loaded : EvidenceRow) (valid : Bool)
      (now terminalNow : Instant)
  | scheduleRetry (lease : EvidenceLease) (code message : Text) (now retryAt : Instant)
  | cancelQueued (jobId caseId observedVersion : Nat) (now : Instant)
  | cancelRunning (jobId caseId observedVersion : Nat) (now : Instant)

namespace EvidenceWrite

/-- The stages `_advance` is called with. -/
def workStage (stage : EvidenceStage) : Bool :=
  stage = .capturingTrace || stage = .verifyingBocs || stage = .provingInclusion ||
    stage = .buildingNativeLedger

/-- `_stage_message`. -/
def stageMessage : EvidenceStage → Text
  | .capturingTrace => "Capturing finalized provider trace evidence.".toList
  | .verifyingBocs => "Locally verifying persisted transaction BOCs.".toList
  | .provingInclusion => "Proving transaction BOC inclusion in TON blocks.".toList
  | .buildingNativeLedger => "Building selected native TON activity semantics.".toList
  | _ => []

def finishSuccessRow (digest : HexDigest) (now : Instant) (e : EvidenceRow) : EvidenceRow :=
  { e.terminated .succeeded e.errorCode
      "Selected transaction evidence and native ledger are verified.".toList now with
    resultDigest := some digest }

/-- What a transaction makes of a row its conditions select; `none` where
they do not. -/
def apply (w : EvidenceWrite) (id : Nat) (e : EvidenceRow) : Option EvidenceRow :=
  match w with
  | enqueue _ => none
  | recoverRetry now =>
      if e.state = .running && (e.leaseExpiresAt.any fun t => t ≤ now) &&
          e.cancelRequestedAt.isNone && decide (e.attemptCount < e.maxAttempts) then
        some { e with
          state := .queued
          stage := .retryWait
          nextAttemptAt := some now
          leaseToken := none
          leaseExpiresAt := none
          errorCode := some "evidence_worker_lease_expired".toList
          messageSafe := "Evidence verification is queued for restart recovery.".toList
          statusVersion := e.statusVersion + 1 }
      else none
  | finishRecoveredCancel jobId valid now =>
      if id = jobId && e.state = .running && e.cancelRequestedAt.isSome then
        some (e.terminalCancel valid
          "Evidence verification was cancelled during recovery.".toList now)
      else none
  | finishExpired jobId token leaseExpiresAt cutoff valid digest now =>
      if id = jobId && e.state = .running && token.isSome && e.leaseToken = token &&
          e.leaseExpiresAt = some leaseExpiresAt && decide (leaseExpiresAt ≤ cutoff) &&
          decide (e.maxAttempts ≤ e.attemptCount) then
        some (if e.cancelRequestedAt.isSome then
          e.terminalCancel valid
            "Evidence verification was cancelled during retry recovery.".toList now
        else
          e.terminalRow valid digest "evidence_retry_budget_exhausted".toList
            "Evidence verification exhausted restart recovery attempts.".toList now)
      else none
  | claim jobId token now leaseUntil =>
      if id = jobId && e.state = .queued && e.cancelRequestedAt.isNone &&
          decide (e.attemptCount < e.maxAttempts) && e.nextAttemptAt.any fun t => t ≤ now then
        some { e with
          state := .running
          stage := .validating
          attemptCount := e.attemptCount + 1
          nextAttemptAt := none
          leaseToken := some token
          leaseExpiresAt := some leaseUntil
          heartbeatAt := some now
          startedAt := some (e.startedAt.getD now)
          errorCode := none
          messageSafe := "Revalidating the pinned Activity transaction.".toList
          statusVersion := e.statusVersion + 1 }
      else none
  | advance lease stage now leaseUntil =>
      if id = lease.jobId && e.ownedBy lease.token now && e.cancelRequestedAt.isNone &&
          workStage stage then
        some { e with
          stage := stage
          heartbeatAt := some now
          leaseExpiresAt := some leaseUntil
          messageSafe := stageMessage stage
          statusVersion := e.statusVersion + 1 }
      else none
  | heartbeat lease now leaseUntil =>
      if id = lease.jobId && e.ownedBy lease.token now then
        some { e with heartbeatAt := some now, leaseExpiresAt := some leaseUntil }
      else none
  | bind lease loaded artifact completedAt now leaseUntil =>
      if id = lease.jobId && loaded.ownedBy lease.token now &&
          (loaded.bound artifact completedAt).artifactPrefixCheck then
        some (EvidenceRow.written loaded
          { loaded.bound artifact completedAt with
            heartbeatAt := some now
            leaseExpiresAt := some leaseUntil
            statusVersion := loaded.statusVersion + 1 } e)
      else none
  | finishSuccess lease valid digest now =>
      if id = lease.jobId && e.ownedBy lease.token now && e.cancelRequestedAt.isNone && valid &&
          e.progressCurrent = 4 then
        some (finishSuccessRow digest now e)
      else none
  | finishFailure lease code message valid digest now terminalNow =>
      if id = lease.jobId && e.ownedBy lease.token now && e.cancelRequestedAt.isNone then
        some (e.terminalRow valid digest code message terminalNow)
      else none
  | finishInvalidSelection lease code message valid now terminalNow =>
      if id = lease.jobId && e.ownedBy lease.token now then
        some (if e.cancelRequestedAt.isSome then
          e.terminalCancel valid ("Evidence verification was cancelled before selection " ++
            "failure publication.").toList terminalNow
        else e.cleared.terminated .failed (some (code.take 64)) (message.take 1000) now)
      else none
  | finishCancelled lease loaded valid now terminalNow =>
      if id = lease.jobId && loaded.ownedBy lease.token now &&
          loaded.cancelRequestedAt.isSome then
        some (EvidenceRow.written loaded (loaded.terminalCancel valid
          "Evidence verification was cancelled between proof stages.".toList terminalNow) e)
      else none
  | scheduleRetry lease code message now retryAt =>
      if id = lease.jobId && e.ownedBy lease.token now && e.cancelRequestedAt.isNone then
        some { e with
          state := .queued
          stage := .retryWait
          nextAttemptAt := some retryAt
          leaseToken := none
          leaseExpiresAt := none
          errorCode := some (code.take 64)
          messageSafe := message.take 1000
          statusVersion := e.statusVersion + 1 }
      else none
  | cancelQueued jobId caseId observedVersion now =>
      if id = jobId && e.caseId = caseId && e.state = .queued &&
          e.statusVersion = observedVersion then
        some { e with
          state := .cancelled
          stage := .terminal
          cancelRequestedAt := some now
          completedAt := some now
          nextAttemptAt := none
          leaseToken := none
          leaseExpiresAt := none
          messageSafe := "Evidence verification was cancelled before execution.".toList
          statusVersion := e.statusVersion + 1 }
      else none
  | cancelRunning jobId caseId observedVersion now =>
      if id = jobId && e.caseId = caseId && e.state = .running &&
          e.statusVersion = observedVersion && e.cancelRequestedAt.isNone then
        some { e with
          cancelRequestedAt := some now
          messageSafe := "Cancellation will be applied between proof stages.".toList
          statusVersion := e.statusVersion + 1 }
      else none

/-- The row a transaction writes back, as it was read. -/
def writesBack : EvidenceWrite → Option (Nat × EvidenceRow)
  | bind lease loaded _ _ _ _ => some (lease.jobId, loaded)
  | finishCancelled lease loaded _ _ _ => some (lease.jobId, loaded)
  | _ => none

/-- The fence of `_finish_success` passed, and what it then reads is not a
complete proof chain: the transaction raises. -/
def raises (w : EvidenceWrite) (id : Nat) (e : EvidenceRow) : Bool :=
  match w with
  | finishSuccess lease valid _ now =>
      id = lease.jobId && e.ownedBy lease.token now && e.cancelRequestedAt.isNone &&
        !(valid && e.progressCurrent = 4)
  | _ => false

end EvidenceWrite

/-- What a transaction returns: how many rows it changed or the key it
inserted, or why it was rolled back. -/
inductive WriteResult where
  | rows (count : Nat)
  | inserted (id : Nat)
  | integrityError
  | staleData
  | storedConflict
deriving DecidableEq, Repr

/-- The transaction on the table: an insert is refused by the unique
indexes, any row it leaves by the CHECK constraints. -/
def EvidenceWrite.commit (w : EvidenceWrite) (table : Table EvidenceRow) :
    WriteResult × Table EvidenceRow :=
  match w with
  | .enqueue row =>
      if row.checks && (table.find? fun _ e => e.collides row).isNone then
        (.inserted table.nextId, table.insert row)
      else (.integrityError, table)
  | w =>
      if table.rows.any fun row => w.raises row.1 row.2 then (.storedConflict, table)
      else if table.rows.all fun row => (w.apply row.1 row.2).all (·.checks) then
        (.rows (table.rowcount fun id e => (w.apply id e).isSome), table.update w.apply)
      else (.integrityError, table)

end TonTracker
