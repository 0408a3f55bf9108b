/-
# `Services.WalletCases` — the requests of the case service

`WalletCaseService` (`services/wallet_cases.py`): opening, changing,
archiving, restoring and deleting a case, and the four ways to queue a
sync.  Each request is a sequence of reads, none of which holds a lock,
and at most one transaction; what it read may be out of date when it
commits.
-/
import TonTracker.Services.CaseSyncJobs
import TonTracker.Services.EvidenceJobs

namespace TonTracker

/-- What a request raises. -/
inductive ServiceError where
  | notFound
  | archiveConflict
  | deleteConflict
  | metadataConflict (version : Nat)
  | runtimeConflict (message : Text)
  | idempotencyConflict
  | syncAlreadyActive (publicId : Uuid)
  | planning (error : PlanningError)
  | read (error : ReadError)
  | storedPlan (error : StoredPlanError)
  | resumeUnavailable (message : String)
  | continuationPlanStale (current : HexDigest)
  | backfillScheduleStale (current : HexDigest)
  | backfillScheduleUnavailable (state : ScheduleState)
  | invalidRequest (message : Text)
  | storage

abbrev Request : Type → Type := Raising ServiceError

/-- A `SELECT` of a request. -/
def select {α : Type} (f : Store → α) : Request α := do
  if ← askFlag .storageFails then throw .storage
  let s ← readR
  return f s

/-- A `SELECT` that verifies what it reads. -/
def selectVerified {α : Type} (f : Store → Except ReadError α) : Request α := do
  match ← select f with
  | .ok value => return value
  | .error error => throw (.read error)

/-- A transaction of a request. -/
def transact (w : Write) : Request WriteResult := do
  if ← askFlag .storageFails then throw .storage
  commitR w

/-- `_required_case`. -/
def requiredCase (owner : Text) (publicId : Uuid) : Request (Nat × CaseRow) := do
  match ← select fun s => s.caseByPublicId? owner publicId with
  | some found => return found
  | none => throw .notFound

/-- `_settings_for_case`, `_settings_for_scope`. -/
def runtimeSettings : Request RuntimeSettings := do
  match ← askR .settings with
  | .ok settings => return settings
  | .error message => throw (.runtimeConflict message)

/-! ## Cases -/

/-- `WalletCaseCreateRequest`. -/
structure CaseCreateRequest where
  owner : Text
  network : Network
  dataEnvironment : DataEnvironment
  walletAddress : Text
  label : Option Text
  note : Option Text

/-- The row `create_or_open_case` inserts. -/
def CaseCreateRequest.row (request : CaseCreateRequest) (canonical : Text) (publicId : Uuid)
    (now : Instant) : CaseRow :=
  { publicId := publicId
    ownerScopeId := request.owner
    scope := ⟨request.network, request.dataEnvironment, canonical, request.walletAddress⟩
    label := request.label
    note := request.note
    createdAt := now
    updatedAt := now
    archivedAt := none
    metadataVersion := 1 }

/-- `create_or_open_case`. -/
def createOrOpenCase (request : CaseCreateRequest) : Request Unit := do
  match ← askR .canonicalWallet with
  | .error message => throw (.invalidRequest message)
  | .ok canonical =>
      match ← select fun s => s.caseByIdentity? request.owner request.network
          request.dataEnvironment canonical with
      | some (caseId, c) =>
          if c.archivedAt.isSome then
            let tick ← askR .clock
            let _ ← transact (.reopenCase caseId tick.now)
      | none =>
          let _ ← runtimeSettings
          let tick ← askR .clock
          let publicId ← askR .publicId
          let _ ← transact (.createCase (request.row canonical publicId tick.now))

/-- `update_case_metadata`. -/
def updateCaseMetadata (owner : Text) (publicId : Uuid) (expected : Nat)
    (change : MetadataChange) : Request Unit := do
  let (caseId, _) ← requiredCase owner publicId
  let tick ← askR .clock
  match ← transact (.updateMetadata ⟨caseId, owner, publicId⟩ expected change tick.now) with
  | .rows 1 =>
      -- `refreshed`, which others may have archived or deleted by now.
      let _ ← requiredCase owner publicId
      return
  | _ =>
      let (_, current) ← requiredCase owner publicId
      throw (.metadataConflict current.metadataVersion)

/-- `_raise_if_archive_conflicts`, `_raise_if_delete_conflicts`. -/
def raiseIfBusy (caseId : Nat) (conflict : ServiceError) : Request Unit := do
  let activeSync ← select fun s => s.hasActiveSync caseId
  let activeEvidence ← select fun s => s.hasActiveEvidence caseId
  if activeSync || activeEvidence then throw conflict

/-- `get_any_by_public_id`, which must find the case. -/
def anyCase (owner : Text) (publicId : Uuid) : Request (Nat × CaseRow) := do
  match ← select fun s => s.anyCaseByPublicId? owner publicId with
  | some found => return found
  | none => throw .notFound

/-- `archive_case`. -/
def archiveCase (owner : Text) (publicId : Uuid) : Request Unit := do
  let (caseId, c) ← anyCase owner publicId
  if c.archivedAt.isSome then return
  raiseIfBusy caseId .archiveConflict
  let tick ← askR .clock
  match ← transact (.archiveCase ⟨caseId, owner, publicId⟩ tick.now) with
  | .rows 1 =>
      let _ ← anyCase owner publicId
      return
  | _ =>
      let (currentId, current) ← anyCase owner publicId
      if current.archivedAt.isSome then return
      raiseIfBusy currentId .archiveConflict
      throw (.runtimeConflict "Wallet Case changed while archival was being prepared.".toList)

/-- `restore_case`. -/
def restoreCase (owner : Text) (publicId : Uuid) : Request Unit := do
  let (caseId, c) ← anyCase owner publicId
  if c.archivedAt.isNone then return
  let tick ← askR .clock
  match ← transact (.restoreCase ⟨caseId, owner, publicId⟩ tick.now) with
  | .rows 1 =>
      let _ ← requiredCase owner publicId
      return
  | _ =>
      let (_, current) ← anyCase owner publicId
      if current.archivedAt.isNone then return
      throw (.runtimeConflict "Wallet Case changed while restoration was being prepared.".toList)

/-- `delete_case`. -/
def deleteCase (owner : Text) (publicId : Uuid) : Request Unit := do
  let (caseId, _) ← requiredCase owner publicId
  raiseIfBusy caseId .deleteConflict
  let tick ← askR .clock
  match ← transact (.deleteCase ⟨caseId, owner, publicId⟩ tick.now) with
  | .rows 1 => return
  | _ =>
      let (currentId, _) ← requiredCase owner publicId
      raiseIfBusy currentId .deleteConflict
      throw (.runtimeConflict "Wallet Case changed while deletion was being prepared.".toList)

/-! ## Queueing a sync -/

/-- The sync a request was accepted as. -/
structure AcceptedSync where
  publicId : Uuid
  replayed : Bool
deriving DecidableEq

/-- `_sync_response`, as far as it can fail. -/
def syncResponse (row : SyncRow) (replayed : Bool) : Request AcceptedSync :=
  match row.acquisitionPlan with
  | .ok _ => return ⟨row.publicId, replayed⟩
  | .error error => throw (.storedPlan error)

/-- A replay by key: the same request, or a conflict. -/
def replaySync (row : SyncRow) (fingerprint : HexDigest) : Request AcceptedSync :=
  if row.requestFingerprint = fingerprint then syncResponse row true
  else throw .idempotencyConflict

/-- The row a planned request inserts. -/
def queuedSync (planned : PlannedSync Uuid HexDigest) (caseId : Nat) (c : CaseRow)
    (publicId : Uuid) (settings : RuntimeSettings) (key : Text) (fingerprint : HexDigest)
    (message : String) (now : Instant) : SyncRow :=
  { publicId := publicId
    caseId := caseId
    ingestionRunId := none
    timeWindow := planned.timeWindow
    dataMode := c.scope.dataEnvironment.dataMode
    provider := settings.queuedProvider
    requestedStart := planned.requestedStart
    requestedEnd := planned.requestedEnd
    ordered := planned.ordered
    requestedSurfaces := planned.surfaces
    state := .queued
    stage := .queued
    progressCurrent := 0
    plan := planned.plan
    errorCode := none
    errorDetailSafe := none
    messageSafe := message.toList
    createdAt := now
    updatedAt := now
    startedAt := none
    completedAt := none
    statusVersion := 1
    idempotencyKey := key
    requestFingerprint := fingerprint
    attemptCount := 0
    maxAttempts := settings.maxAttempts
    nextAttemptAt := some now
    cancelRequestedAt := none
    leaseToken := none
    leaseExpiresAt := none
    heartbeatAt := none
    checkpoint := ⟨.queued, false⟩
    claims := [] }

/-- The insert of a queued sync, and its `IntegrityError` branch. -/
def insertQueued (row : SyncRow) : Request AcceptedSync := do
  match ← transact (.insertSync row) with
  | .inserted _ => syncResponse row false
  | .integrityError =>
      match ← select fun s => s.syncByIdempotencyKey? row.caseId row.idempotencyKey with
      | some (_, replay) => replaySync replay row.requestFingerprint
      | none =>
          match ← select fun s => s.activeSync? row.caseId with
          | some (_, active) => throw (.syncAlreadyActive active.publicId)
          | none => throw .storage
  | _ => throw .storage

/-- `_sync_request_fingerprint`. -/
def syncRequestFingerprint (sha : Sha256) (request : SyncRequest) : Request HexDigest :=
  match syncRequestDocument request with
  | .ok document => return sha (.request document)
  | .error _ => throw (.invalidRequest "Invalid ISO datetime.".toList)

/-- The base of an incremental refresh. -/
def SyncRow.baseSnapshot (row : SyncRow) : BaseSnapshot Uuid :=
  ⟨row.publicId, row.requestedStart, row.requestedEnd, row.ordered, row.requestedSurfaces⟩

/-- A planning step of a request. -/
def planned (plan : Except PlanningError (PlannedSync Uuid HexDigest)) :
    Request (PlannedSync Uuid HexDigest) :=
  match plan with
  | .ok planned => return planned
  | .error error => throw (.planning error)

/-- `enqueue_sync` past the replay and the active sync. -/
def insertSync (caseId : Nat) (c : CaseRow) (request : SyncRequest) (key : Text)
    (fingerprint : HexDigest) : Request AcceptedSync := do
  let tick ← askR .clock
  let settings ← runtimeSettings
  let base ← match request.mode with
    | .incremental => select fun s => s.latestUsableSync? caseId
    | .bounded => pure none
  let plan ← planned (planSync request (base.map fun row => row.2.baseSnapshot) tick.now)
  let publicId ← askR .publicId
  insertQueued (queuedSync plan caseId c publicId settings key fingerprint
    "Wallet Case synchronization is queued." tick.now)

/-- `enqueue_sync`. -/
def enqueueSync (sha : Sha256) (owner : Text) (casePublicId : Uuid) (request : SyncRequest)
    (key : Text) : Request AcceptedSync := do
  let (caseId, c) ← requiredCase owner casePublicId
  let fingerprint ← syncRequestFingerprint sha request
  match ← select fun s => s.syncByIdempotencyKey? caseId key with
  | some (_, replay) => replaySync replay fingerprint
  | none =>
      match ← select fun s => s.activeSync? caseId with
      | some (_, active) =>
          -- a caller with the same key may have committed since
          match ← select fun s => s.syncByIdempotencyKey? caseId key with
          | some (_, replay) => replaySync replay fingerprint
          | none => throw (.syncAlreadyActive active.publicId)
      | none => insertSync caseId c request key fingerprint

/-! ## Queueing a continuation -/

/-- What a resume reads of its checkpoint. -/
def resumeSource (caseId : Nat) (row : CheckpointRow) (response : VerifiedCheckpoint) :
    ResumeSource Uuid HexDigest :=
  { checkpoint := row.publicId
    streamKey := row.streamKey
    resumeState := row.resumeState
    periodStart := response.document.requestedPeriod.startAt
    periodEnd := response.document.requestedPeriod.endAt
    continuationCursor := response.document.continuation.continuationCursor.map (·.text)
    continuationPageIndex := response.document.continuation.continuationPageIndex
    sourceSync := response.source.publicId
    sourcePublished := response.source.caseId = caseId && response.source.state.usable &&
      response.source.ingestionRunId.isSome
    sourceSurfaces := response.source.requestedSurfaces
    sourceRow := response.source.storedPlan }

/-- The plan `enqueue_checkpoint_resume` makes of a checkpoint. -/
def plannedResume (caseId : Nat) (casePublicId : Uuid) (checkpoint : HexDigest) (sha : Sha256)
    (authority : ResumeAuthority HexDigest) : Request (PlannedSync Uuid HexDigest) := do
  match ← select fun s => s.streamCheckpoint? caseId checkpoint with
  | none => throw .notFound
  | some (checkpointId, row) =>
      let response ← selectVerified fun s => streamCheckpointResponse sha s casePublicId row
      let tip ← select fun s => s.streamTip? caseId none row.streamKey
      if tip.map (·.1) = some checkpointId then
        planned (planResume (resumeSource caseId row response) authority)
      else throw (.resumeUnavailable
        "Only the latest verified checkpoint for a provider stream can be resumed.")

/-- `enqueue_checkpoint_resume`. -/
def enqueueCheckpointResume (sha : Sha256) (owner : Text) (casePublicId : Uuid)
    (checkpoint : HexDigest) (authority : ResumeAuthority HexDigest) (key : Text) :
    Request AcceptedSync := do
  let (caseId, c) ← requiredCase owner casePublicId
  let plan ← plannedResume caseId casePublicId checkpoint sha authority
  let fingerprint := sha (.request (.checkpointResume checkpoint authority))
  match ← select fun s => s.syncByIdempotencyKey? caseId key with
  | some (_, replay) => replaySync replay fingerprint
  | none =>
      match ← select fun s => s.activeSync? caseId with
      | some (_, active) => throw (.syncAlreadyActive active.publicId)
      | none =>
          let tick ← askR .clock
          let settings ← runtimeSettings
          let publicId ← askR .publicId
          insertQueued (queuedSync plan caseId c publicId settings key fingerprint
            "Wallet Case checkpoint continuation is queued." tick.now)

/-- `_checkpoint_continuation_plan_response` of the newest checkpoints. -/
def currentPlan (sha : Sha256) (caseId : Nat) (casePublicId : Uuid) (s : Store) :
    Except ReadError (Addressed PlanDocument) :=
  checkpointContinuationPlanResponse sha s caseId casePublicId (s.latestStreamCheckpoints caseId)

/-- `get_backfill_progress`. -/
def currentProgress (sha : Sha256) (caseId : Nat) (casePublicId : Uuid) (s : Store) :
    Except ReadError (Addressed ProgressDocument) :=
  backfillProgressResponse sha s caseId casePublicId (s.latestStreamCheckpoints caseId)

/-- The plan a resume authority names. -/
def ResumeAuthority.continuationPlan : ResumeAuthority HexDigest → Option HexDigest
  | .direct => none
  | .plan continuationPlan _ => some continuationPlan
  | .schedule continuationPlan _ _ _ _ => some continuationPlan

/-- `enqueue_checkpoint_plan_resume`, of an authority that names a plan. -/
def enqueuePlanResume (sha : Sha256) (owner : Text) (casePublicId : Uuid)
    (checkpoint : HexDigest) (authority : ResumeAuthority HexDigest) (key : Text) :
    Request AcceptedSync := do
  let (caseId, _) ← requiredCase owner casePublicId
  let fingerprint := sha (.request (.checkpointResume checkpoint authority))
  match ← select fun s => s.syncByIdempotencyKey? caseId key with
  | some (_, replay) => replaySync replay fingerprint
  | none =>
      let plan ← selectVerified (currentPlan sha caseId casePublicId)
      if some plan.publicId = authority.continuationPlan then
        match plan.document.streams.find? fun stream =>
            stream.tipCheckpoint.publicId = checkpoint with
        | none => throw (.resumeUnavailable
            "This checkpoint is not a current Continuation Plan stream tip.")
        | some stream =>
            if stream.resumeState = .ready then
              enqueueCheckpointResume sha owner casePublicId checkpoint authority key
            else throw (.resumeUnavailable
              "This Continuation Plan stream is not ready to resume.")
      else throw (.continuationPlanStale plan.publicId)

/-- `get_backfill_schedule`. -/
def getBackfillSchedule (sha : Sha256) (owner : Text) (casePublicId : Uuid)
    (budget : PageBudget) : Request (Addressed ScheduleDocument) := do
  let (caseId, _) ← requiredCase owner casePublicId
  let progress ← selectVerified (currentProgress sha caseId casePublicId)
  let plan ← selectVerified (currentPlan sha caseId casePublicId)
  let active ← select fun s => s.activeSync? caseId
  match backfillScheduleResponse sha casePublicId progress plan budget
      (active.map fun row => row.2.publicId) with
  | .ok schedule => return schedule
  | .error error => throw (.read error)

/-- The stored plan of a replay is that of the schedule and budget. -/
def replaysSchedule (sha : Sha256) (row : SyncRow) (schedule : HexDigest) (budget : PageBudget) :
    Bool :=
  match row.plan.resume? with
  | some resume =>
      match resume.authority with
      | .schedule _ storedBudget storedSchedule _ _ =>
          storedSchedule = schedule && storedBudget = budget &&
            row.requestFingerprint =
              sha (.request (.checkpointResume resume.sourceCheckpoint resume.authority))
      | _ => false
  | none => false

/-- `enqueue_backfill_schedule`. -/
def enqueueBackfillSchedule (sha : Sha256) (owner : Text) (casePublicId : Uuid)
    (schedule : HexDigest) (budget : PageBudget) (key : Text) : Request AcceptedSync := do
  let (caseId, _) ← requiredCase owner casePublicId
  match ← select fun s => s.syncByIdempotencyKey? caseId key with
  | some (_, replay) =>
      match replay.acquisitionPlan with
      | .error _ => throw .idempotencyConflict
      | .ok _ =>
          if replaysSchedule sha replay schedule budget then syncResponse replay true
          else throw .idempotencyConflict
  | none =>
      let current ← getBackfillSchedule sha owner casePublicId budget
      if current.publicId = schedule then
        match current.document.state, current.document.selection,
            current.document.checkpointCutoff with
        | .ready, some selection, some cutoff =>
            tryCatch
              (enqueuePlanResume sha owner casePublicId selection.checkpoint
                (.schedule current.document.inputPlan budget schedule
                  current.document.inputProgress cutoff) key)
              fun raised =>
                match raised with
                | .continuationPlanStale _ => do
                    let current ← getBackfillSchedule sha owner casePublicId budget
                    throw (.backfillScheduleStale current.publicId)
                | raised => throw raised
        | state, _, _ => throw (.backfillScheduleUnavailable state)
      else throw (.backfillScheduleStale current.publicId)

/-- `cancel_sync`. -/
def cancelSync (owner : Text) (casePublicId publicId : Uuid) : Request Unit := do
  let (caseId, _) ← requiredCase owner casePublicId
  match ← select fun s => s.sync? caseId publicId with
  | none => throw .notFound
  | some (syncId, row) =>
      if row.state.active then
        let tick ← askR .clock
        let _ ← transact (.sync (.cancel syncId tick.now))

/-! ## The system -/

/-- The entry points. -/
inductive Entry where
  | createOrOpenCase (request : CaseCreateRequest)
  | updateCaseMetadata (owner : Text) (publicId : Uuid) (expected : Nat) (change : MetadataChange)
  | archiveCase (owner : Text) (publicId : Uuid)
  | restoreCase (owner : Text) (publicId : Uuid)
  | deleteCase (owner : Text) (publicId : Uuid)
  | enqueueSync (owner : Text) (casePublicId : Uuid) (request : SyncRequest) (key : Text)
  | enqueueCheckpointResume (owner : Text) (casePublicId : Uuid) (checkpoint : HexDigest)
      (key : Text)
  | enqueuePlanResume (owner : Text) (casePublicId : Uuid) (continuationPlan : HexDigest)
      (checkpoint : HexDigest) (budget : PageBudget) (key : Text)
  | enqueueBackfillSchedule (owner : Text) (casePublicId : Uuid) (schedule : HexDigest)
      (budget : PageBudget) (key : Text)
  | cancelSync (owner : Text) (casePublicId publicId : Uuid)
  | runSyncWorker
  | enqueueEvidence (request : EvidenceRequest)
  | cancelEvidence (owner : Text) (casePublicId publicId : Uuid)
  | runEvidenceWorker

/-- What a session returned or raised. -/
inductive Reply where
  | accepted (sync : AcceptedSync)
  | done
  | refused (error : ServiceError)
  | raised

def Request.reply {α : Type} (p : Request α) (f : α → Reply) : Job Reply := do
  match ← p.run with
  | .ok value => return f value
  | .error error => return .refused error

def workerReply {ε : Type} (p : Raising ε Unit) : Job Reply := do
  match ← p.run with
  | .ok _ => return .done
  | .error _ => return .raised

/-- The program of a session; a worker's lease token is its own. -/
def program (sha : Sha256) (sid : Nat) : Entry → Job Reply
  | .createOrOpenCase request => (createOrOpenCase request).reply fun _ => .done
  | .updateCaseMetadata owner publicId expected change =>
      (updateCaseMetadata owner publicId expected change).reply fun _ => .done
  | .archiveCase owner publicId => (archiveCase owner publicId).reply fun _ => .done
  | .restoreCase owner publicId => (restoreCase owner publicId).reply fun _ => .done
  | .deleteCase owner publicId => (deleteCase owner publicId).reply fun _ => .done
  | .enqueueSync owner casePublicId request key =>
      (enqueueSync sha owner casePublicId request key).reply .accepted
  | .enqueueCheckpointResume owner casePublicId checkpoint key =>
      (enqueueCheckpointResume sha owner casePublicId checkpoint .direct key).reply .accepted
  | .enqueuePlanResume owner casePublicId continuationPlan checkpoint budget key =>
      (enqueuePlanResume sha owner casePublicId checkpoint (.plan continuationPlan budget)
        key).reply .accepted
  | .enqueueBackfillSchedule owner casePublicId schedule budget key =>
      (enqueueBackfillSchedule sha owner casePublicId schedule budget key).reply .accepted
  | .cancelSync owner casePublicId publicId =>
      (cancelSync owner casePublicId publicId).reply fun _ => .done
  | .runSyncWorker => workerReply (runSyncOnce sha sid)
  | .enqueueEvidence request => workerReply (enqueueEvidence request)
  | .cancelEvidence owner casePublicId publicId =>
      workerReply (cancelEvidence owner casePublicId publicId)
  | .runEvidenceWorker => workerReply (runEvidenceOnce sid)

/-- The services and workers over one store. -/
def caseSystem (sha : Sha256) : Session.System caseMachine where
  Entry := Entry
  Reply := Reply
  program := program sha

/-- The system before its first session. -/
def start {S : Session.System caseMachine} : Session.World S := ⟨Store.empty, []⟩

end TonTracker
