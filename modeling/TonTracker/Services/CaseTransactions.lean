/-
# `Services.CaseTransactions` — the committed writes of the store

Each transaction of `services/wallet_cases.py` and
`services/case_sync_jobs.py` that changes a row, with the conditions of
its statements; the evidence transactions join them.  Writers are
serialized and a commit is atomic, so a transaction is a function of the
store it finds.  What the caller read before is in the arguments: nothing
keeps it up to date.
-/
import TonTracker.Services.EvidenceWrites
import TonTracker.Repositories.WalletCases

namespace TonTracker

open Relational (Table)

/-! ## Syncs -/

/-- What a worker was given by its claim, as far as its writes use it. -/
structure SyncLease where
  jobId : Nat
  token : Token
deriving DecidableEq, Repr

/-- `state = 'running' AND lease_token = … AND lease_expires_at > now`. -/
def SyncRow.ownedBy (row : SyncRow) (token : Token) (now : Instant) : Bool :=
  row.state = .running && row.leaseToken = some token && row.leaseExpiresAt.any fun t => now < t

/-- The end of a sync: the lease and the next attempt gone. -/
def SyncRow.terminated (row : SyncRow) (state : SyncState) (stage : Stage) (message : Text)
    (retryable : Bool) (now : Instant) : SyncRow :=
  { row with
    state := state
    stage := stage
    completedAt := some now
    updatedAt := now
    leaseToken := none
    leaseExpiresAt := none
    nextAttemptAt := none
    messageSafe := message
    checkpoint := ⟨stage, retryable⟩
    statusVersion := row.statusVersion + 1 }

/-- The end of a failed sync. -/
def SyncRow.failedWith (row : SyncRow) (code detail message : Text) (retryable : Bool)
    (now : Instant) : SyncRow :=
  { row.terminated .failed .failed message retryable now with
    errorCode := some code
    errorDetailSafe := some detail }

/-- A sync put back into the queue. -/
def SyncRow.requeued (row : SyncRow) (code detail message : Text) (now nextAttempt : Instant) :
    SyncRow :=
  { row with
    state := .queued
    stage := .retryWait
    progressCurrent := 0
    nextAttemptAt := some nextAttempt
    updatedAt := now
    leaseToken := none
    leaseExpiresAt := none
    errorCode := some code
    errorDetailSafe := some detail
    messageSafe := message
    checkpoint := ⟨.retryWait, true⟩
    statusVersion := row.statusVersion + 1 }

/-- The transactions that only update sync rows. -/
inductive SyncWrite where
  | cancel (syncId : Nat) (now : Instant)
  | recoverExpired (now : Instant)
  | claim (syncId : Nat) (token : Token) (now leaseUntil : Instant)
  | closeUnavailable (lease : SyncLease) (now : Instant)
  | advance (lease : SyncLease) (stage : Stage) (progress : Nat) (message : Text)
      (now leaseUntil : Instant)
  | heartbeat (lease : SyncLease) (now leaseUntil : Instant)
  | scheduleRetry (lease : SyncLease) (code message : Text) (now retryAt : Instant)
  | finishCancelled (lease : SyncLease) (now : Instant)
  | failWithoutRun (lease : SyncLease) (code message : Text) (retryable : Bool) (now : Instant)
deriving DecidableEq

namespace SyncWrite

/-- The four statements of `recover_expired`, of which a row meets one. -/
def recovered (now : Instant) (row : SyncRow) : Option SyncRow :=
  if row.state = .running && row.leaseExpiresAt.any fun t => t ≤ now then
    if row.cancelRequestedAt.isSome then
      some (row.terminated .cancelled .cancelled
        "Wallet Case synchronization was cancelled during recovery.".toList false now)
    else if row.maxAttempts ≤ row.attemptCount then
      some (row.failedWith "worker_recovery_exhausted".toList
        "The worker lease expired and the bounded retry budget was exhausted.".toList
        "Synchronization failed after worker restart recovery.".toList true now)
    else
      some (row.requeued "worker_lease_expired".toList
        ("The previous worker stopped; the bounded crawl will restart from its persisted " ++
          "request scope.").toList
        "Synchronization is queued for restart recovery.".toList now now)
  else if row.state = .queued && row.stage = .retryWait &&
      decide (row.maxAttempts ≤ row.attemptCount) then
    some { row.failedWith "retry_budget_exhausted".toList
      "The bounded synchronization retry budget was exhausted.".toList
      "Synchronization failed after bounded retries.".toList true now with
      leaseToken := row.leaseToken
      leaseExpiresAt := row.leaseExpiresAt }
  else none

/-- The two statements of `cancel_sync`. -/
def cancelled (now : Instant) (row : SyncRow) : Option SyncRow :=
  if row.state = .queued then
    some { row with
      state := .cancelled
      stage := .cancelled
      cancelRequestedAt := some now
      completedAt := some now
      updatedAt := now
      nextAttemptAt := none
      messageSafe := "Wallet Case synchronization was cancelled before execution.".toList
      statusVersion := row.statusVersion + 1 }
  else if row.state = .running && row.cancelRequestedAt.isNone then
    some { row with
      stage := .cancelling
      cancelRequestedAt := some now
      updatedAt := now
      messageSafe := ("Cancellation requested. The current bounded provider crawl will be " ++
        "discarded when it returns.").toList
      statusVersion := row.statusVersion + 1 }
  else none

/-- The claimed row. -/
def claimed (token : Token) (now leaseUntil : Instant) (row : SyncRow) : SyncRow :=
  { row with
    state := .running
    stage := .validating
    progressCurrent := 0
    attemptCount := row.attemptCount + 1
    nextAttemptAt := none
    leaseToken := some token
    leaseExpiresAt := some leaseUntil
    heartbeatAt := some now
    startedAt := some (row.startedAt.getD now)
    updatedAt := now
    errorCode := none
    errorDetailSafe := none
    messageSafe := "Validating the persisted Wallet Case sync scope.".toList
    checkpoint := ⟨.validating, false⟩
    statusVersion := row.statusVersion + 1
    claims := row.claims ++ [token] }

/-- What a transaction makes of a row its conditions select; `none` where
they do not. -/
def apply (w : SyncWrite) (id : Nat) (row : SyncRow) : Option SyncRow :=
  match w with
  | cancel syncId now => if id = syncId then cancelled now row else none
  | recoverExpired now => recovered now row
  | claim syncId token now leaseUntil =>
      if id = syncId && row.state = .queued && row.cancelRequestedAt.isNone &&
          decide (row.attemptCount < row.maxAttempts) && row.nextAttemptAt.any fun t => t ≤ now
      then some (claimed token now leaseUntil row)
      else none
  | closeUnavailable lease now =>
      if id = lease.jobId && row.ownedBy lease.token now then
        some (row.failedWith "case_unavailable".toList
          "The Wallet Case was archived or removed before execution.".toList
          "Synchronization stopped because its case is unavailable.".toList false now)
      else none
  | advance lease stage progress message now leaseUntil =>
      if id = lease.jobId && row.ownedBy lease.token now && row.cancelRequestedAt.isNone then
        some { row with
          stage := stage
          progressCurrent := progress
          heartbeatAt := some now
          leaseExpiresAt := some leaseUntil
          updatedAt := now
          messageSafe := message
          checkpoint := ⟨stage, false⟩
          statusVersion := row.statusVersion + 1 }
      else none
  | heartbeat lease now leaseUntil =>
      if id = lease.jobId && row.ownedBy lease.token now then
        some { row with heartbeatAt := some now, leaseExpiresAt := some leaseUntil }
      else none
  | scheduleRetry lease code message now retryAt =>
      if id = lease.jobId && row.ownedBy lease.token now && row.cancelRequestedAt.isNone &&
          decide (row.attemptCount < row.maxAttempts) then
        some { row.requeued (code.take 64) message message now retryAt with
          heartbeatAt := some now }
      else none
  | finishCancelled lease now =>
      if id = lease.jobId && row.ownedBy lease.token now && row.cancelRequestedAt.isSome then
        some (row.terminated .cancelled .cancelled
          "Wallet Case synchronization was cancelled safely.".toList false now)
      else none
  | failWithoutRun lease code message retryable now =>
      if id = lease.jobId && row.ownedBy lease.token now && row.cancelRequestedAt.isNone then
        some (row.failedWith (code.take 64) message message retryable now)
      else none

end SyncWrite

/-! ## Publication -/

/-- What `_publish_final_run` commits in one transaction. -/
structure Publication where
  lease : SyncLease
  caseId : Nat
  run : IngestionRun
  provider : Text
  state : SyncState
  stage : Stage
  message : Text
  errorCode : Option Text
  errorDetailSafe : Option Text
  retryable : Bool
  manifest : ManifestRow
  checkpoints : List CheckpointRow
  now : Instant
deriving DecidableEq

namespace Publication

/-- The fence. -/
def selects (p : Publication) (id : Nat) (row : SyncRow) : Bool :=
  id = p.lease.jobId && row.caseId = p.caseId && row.ownedBy p.lease.token p.now &&
    row.cancelRequestedAt.isNone && row.ingestionRunId.isNone

/-- The published row. -/
def published (p : Publication) (runId : Nat) (row : SyncRow) : SyncRow :=
  { row.terminated p.state p.stage p.message p.retryable p.now with
    ingestionRunId := some runId
    provider := p.provider
    progressCurrent := 3
    errorCode := p.errorCode
    errorDetailSafe := p.errorDetailSafe
    heartbeatAt := some p.now }

/-- `uq_wallet_case_sync_manifests_public_id` and
`uq_wallet_case_sync_manifests_sync`. -/
def manifestCollides (p : Publication) (s : Store) : Bool :=
  (s.manifests.find? fun _ m =>
    m.publicId = p.manifest.publicId || m.caseSyncId = p.manifest.caseSyncId).isSome

/-- The unique indexes of the checkpoints. -/
def checkpointsCollide (p : Publication) (s : Store) : Bool :=
  (p.checkpoints.any fun c => (s.checkpoints.find? fun _ stored =>
    stored.publicId = c.publicId ||
      (stored.sourceSyncId = c.sourceSyncId && stored.streamKey = c.streamKey)).isSome) ||
    decide ¬ (p.checkpoints.map (·.publicId)).Nodup ||
    decide ¬ (p.checkpoints.map fun c => (c.sourceSyncId, c.streamKey)).Nodup

end Publication

/-! ## Cases -/

/-- The fields a metadata update sets. -/
structure MetadataChange where
  label : Option (Option Text)
  note : Option (Option Text)
deriving DecidableEq

/-- The case an update or a delete is addressed to. -/
structure CaseTarget where
  caseId : Nat
  ownerScopeId : Text
  publicId : Uuid
deriving DecidableEq

def CaseTarget.selects (target : CaseTarget) (id : Nat) (c : CaseRow) : Bool :=
  id = target.caseId && c.ownerScopeId = target.ownerScopeId && c.publicId = target.publicId

/-- The committed transactions. -/
inductive Write where
  | createCase (row : CaseRow)
  | reopenCase (caseId : Nat) (now : Instant)
  | updateMetadata (target : CaseTarget) (expected : Nat) (change : MetadataChange)
      (now : Instant)
  | archiveCase (target : CaseTarget) (now : Instant)
  | restoreCase (target : CaseTarget) (now : Instant)
  | deleteCase (target : CaseTarget) (now : Instant)
  | insertSync (row : SyncRow)
  | sync (w : SyncWrite)
  | publish (p : Publication)
  | evidence (w : EvidenceWrite)
  | startBuilder (token : Token)

namespace Store

/-- `_record_catalog_event`, and the case as the transaction leaves it. -/
def touched (s : Store) (caseId : Nat) (visible : Bool) (now : Instant)
    (f : CaseRow → CaseRow) : Store :=
  { s with
    cases := s.cases.update fun id c => if id = caseId then some (f c) else none
    catalogEvents := s.catalogEvents.insert ⟨caseId, now, visible⟩ }

/-- An update of the case that writes by its id. -/
def touch (s : Store) (caseId : Nat) (visible : Bool) (now : Instant)
    (f : CaseRow → CaseRow) : WriteResult × Store :=
  if (s.cases.get? caseId).isSome then (.rows 1, s.touched caseId visible now f)
  else (.staleData, s)

/-- An update of the case under a condition. -/
def touchIf (s : Store) (caseId : Nat) (condition : CaseRow → Bool) (visible : Bool)
    (now : Instant) (f : CaseRow → CaseRow) : WriteResult × Store :=
  if (s.cases.get? caseId).any condition then (.rows 1, s.touched caseId visible now f)
  else (.rows 0, s)

/-- Whether the case has a queued or running sync or verification. -/
def busy (s : Store) (caseId : Nat) : Bool := s.hasActiveSync caseId || s.hasActiveEvidence caseId

/-- `uq_wallet_cases_public_id` and `uq_wallet_cases_scope_identity`. -/
def caseCollides (s : Store) (row : CaseRow) : Bool :=
  (s.cases.find? fun _ c => c.publicId = row.publicId ||
    (c.ownerScopeId = row.ownerScopeId && c.scope.network = row.scope.network &&
      c.scope.dataEnvironment = row.scope.dataEnvironment &&
      c.scope.canonicalWalletKey = row.scope.canonicalWalletKey)).isSome

/-- The unique indexes of the syncs. -/
def syncCollides (s : Store) (row : SyncRow) : Bool :=
  (s.syncs.find? fun _ r => r.publicId = row.publicId ||
    (r.caseId = row.caseId && r.idempotencyKey = row.idempotencyKey) ||
    (r.caseId = row.caseId && r.state.active && row.state.active)).isSome

/-- The sync belongs to the case. -/
def ofCase (s : Store) (caseId syncId : Nat) : Bool :=
  (s.syncs.get? syncId).any fun row => row.caseId = caseId

/-- The run belongs to a sync of the case. -/
def runOfCase (s : Store) (caseId runId : Nat) : Bool :=
  (s.syncs.find? fun _ row => row.caseId = caseId && row.ingestionRunId = some runId).isSome

/-- `removed`. -/
def removedCounts (s : Store) (caseId : Nat) : RemovedCounts :=
  { syncs := s.syncs.rowcount fun _ row => row.caseId = caseId
    ingestionRuns := s.runs.rowcount fun id _ => s.runOfCase caseId id }

/-- The `DELETE` of the case with its cascades, the runs and the audit
event. -/
def deleted (s : Store) (target : CaseTarget) (now : Instant) : Store :=
  { s with
    cases := s.cases.delete fun id _ => id = target.caseId
    syncs := s.syncs.delete fun _ row => row.caseId = target.caseId
    runs := s.runs.delete fun id _ => s.runOfCase target.caseId id
    manifests := s.manifests.delete fun _ m => s.ofCase target.caseId m.caseSyncId
    checkpoints := s.checkpoints.delete fun _ c => c.caseId = target.caseId
    catalogEvents := s.catalogEvents.delete fun _ e => e.caseId = target.caseId
    evidence := s.evidence.delete fun _ e => e.caseId = target.caseId
    lifecycleEvents := s.lifecycleEvents.insert
      ⟨target.ownerScopeId, target.publicId, now, s.removedCounts target.caseId⟩ }

/-- `session.add_all(checkpoints)`. -/
def withCheckpoints (s : Store) (rows : List CheckpointRow) : Store :=
  { s with checkpoints := rows.foldl Table.insert s.checkpoints }

/-- The publication of a run whose fence holds. -/
def published (s : Store) (p : Publication) : Store :=
  ({ s with
    runs := s.runs.insert p.run
    syncs := s.syncs.update fun id row =>
      if p.selects id row then some (p.published s.runs.nextId row) else none
    manifests := s.manifests.insert p.manifest }.withCheckpoints p.checkpoints).touched p.caseId
      true p.now fun c => { c with updatedAt := p.now }

end Store

/-- The foreign keys of an inserted verification fail. -/
def EvidenceWrite.orphaned (w : EvidenceWrite) (s : Store) : Bool :=
  match w with
  | .enqueue row => (s.cases.get? row.caseId).isNone ||
      (s.syncs.get? row.snapshotSyncId).isNone || (s.syncs.get? row.sourceSyncId).isNone
  | _ => false

open Store in
/-- The transaction on the store. -/
def Write.commit : Write → Store → WriteResult × Store
  | createCase row, s =>
      if s.caseCollides row then (.integrityError, s)
      else
        (.inserted s.cases.nextId,
          { s with
            cases := s.cases.insert row
            catalogEvents := s.catalogEvents.insert ⟨s.cases.nextId, row.createdAt, true⟩ })
  | reopenCase caseId now, s =>
      s.touch caseId true now fun c => { c with archivedAt := none, updatedAt := now }
  | updateMetadata target expected change now, s =>
      s.touchIf target.caseId
        (fun c => target.selects target.caseId c && c.archivedAt.isNone &&
          c.metadataVersion = expected) true now
        fun c => { c with
          metadataVersion := c.metadataVersion + 1
          updatedAt := now
          label := change.label.getD c.label
          note := change.note.getD c.note }
  | archiveCase target now, s =>
      s.touchIf target.caseId
        (fun c => target.selects target.caseId c && c.archivedAt.isNone &&
          !s.busy target.caseId) false now
        fun c => { c with archivedAt := some now, updatedAt := now }
  | restoreCase target now, s =>
      s.touchIf target.caseId
        (fun c => target.selects target.caseId c && c.archivedAt.isSome) true now
        fun c => { c with archivedAt := none, updatedAt := now }
  | deleteCase target now, s =>
      if (s.cases.get? target.caseId).any fun c =>
          c.ownerScopeId = target.ownerScopeId && !s.busy target.caseId then
        (.rows 1, s.deleted target now)
      else (.rows 0, s)
  | insertSync row, s =>
      if s.syncCollides row then (.integrityError, s)
      else if (s.cases.get? row.caseId).isSome then
        (.inserted s.syncs.nextId,
          { s with syncs := s.syncs.insert row }.touched row.caseId true row.createdAt
            fun c => { c with updatedAt := row.createdAt })
      else (.staleData, s)
  | sync w, s =>
      (.rows (s.syncs.rowcount fun id row => (w.apply id row).isSome),
        { s with syncs := s.syncs.update w.apply })
  | publish p, s =>
      if (s.syncs.find? p.selects).isNone then (.rows 0, s)
      else if p.manifestCollides s || p.checkpointsCollide s then (.integrityError, s)
      else if (s.cases.get? p.caseId).isSome then (.rows 1, s.published p)
      else (.staleData, s)
  | evidence w, s =>
      if w.orphaned s then (.integrityError, s)
      else ((w.commit s.evidence).1, { s with evidence := (w.commit s.evidence).2 })
  | startBuilder token, s => (.rows 1, { s with builderStarts := s.builderStarts ++ [token] })

end TonTracker
