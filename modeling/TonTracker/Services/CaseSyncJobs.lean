/-
# `Services.CaseSyncJobs` — the sync worker

`services/case_sync_jobs.py`: a worker recovers expired leases, claims the
next sync that is due, validates the scope it was claimed with, builds the
run while it extends the lease, and publishes the run with its manifest
and checkpoints, or ends the attempt in another way.  Every write of a
claimed sync is fenced by the lease.
-/
import TonTracker.Services.Sessions
import TonTracker.Services.CheckpointLineage

namespace TonTracker

/-- What the execution of a claimed sync raises. -/
inductive SyncRaised where
  | stopRequested
  | runtimeConflict (message : Text)
  | scopeMismatch (message : Text)
  | valueError (message : Text)
  | internal
deriving DecidableEq

abbrev SyncStep : Type → Type := Raising SyncRaised

/-- A `SELECT` of the worker. -/
def selectSync {α : Type} (f : Store → α) : SyncStep α := do
  if ← askFlag .storageFails then throw .internal
  let s ← readR
  return f s

/-- A transaction of the worker: how many rows it changed. -/
def transactSync (w : Write) : SyncStep Nat := do
  if ← askFlag .storageFails then throw .internal
  match ← commitR w with
  | .rows count => return count
  | _ => throw .internal

/-- `ClaimedCaseSync`. -/
structure ClaimedCaseSync where
  lease : SyncLease
  publicId : Uuid
  caseId : Nat
  casePublicId : Uuid
  attempt : Nat
  maxAttempts : Nat
  scope : CaseScope
  timeWindow : TimeWindow
  requestedStart : Instant
  requestedEnd : Instant
  requestedSurfaces : List Surface
  plan : Plan
  acquisitionStart : Instant
  acquisitionEnd : Instant
  requestFingerprint : HexDigest

/-! ## Ends of an attempt -/

/-- `_finish_cancelled`. -/
def finishCancelledSync (lease : SyncLease) : SyncStep Unit := do
  let tick ← askR .clock
  let _ ← transactSync (.sync (.finishCancelled lease tick.now))

/-- A fenced end of an attempt: where the fence fails, `_finish_cancelled`. -/
def finishSync (lease : SyncLease) (w : Write) : SyncStep Unit := do
  let count ← transactSync w
  if count ≠ 1 then finishCancelledSync lease

/-- `_fail_without_run`. -/
def failWithoutRun (lease : SyncLease) (code message : Text) (retryable : Bool) :
    SyncStep Unit := do
  let tick ← askR .clock
  finishSync lease (.sync (.failWithoutRun lease code message retryable tick.now))

/-- `_schedule_retry`. -/
def scheduleSyncRetry (lease : SyncLease) (code message : Text) : SyncStep Unit := do
  let tick ← askR .clock
  finishSync lease (.sync (.scheduleRetry lease code message tick.now tick.retryAt))

/-- `_advance`. -/
def advanceSync (lease : SyncLease) (stage : Stage) (progress : Nat) (message : String) :
    SyncStep Bool := do
  let tick ← askR .clock
  let count ← transactSync
    (.sync (.advance lease stage progress message.toList tick.now tick.leaseUntil))
  if count ≠ 1 then finishCancelledSync lease
  return count = 1

/-! ## The source checkpoint of a resume -/

/-- A period whose texts are timestamps. -/
def Period.instants? (period : Period) : Option (Instant × Instant) := do
  let start ← period.startAt
  let stop ← period.endAt
  let start ← (parseCanonicalTimestamp start).toOption
  let stop ← (parseCanonicalTimestamp stop).toOption
  return (start, stop)

def sameSurfaces (a b : List Surface) : Bool := a.all b.contains && b.all a.contains

/-- The last comparison of `_validate_resume_checkpoint`. -/
def resumeMatches (claimed : ClaimedCaseSync) (resume : ResumePlan Uuid HexDigest)
    (checkpoint : CheckpointRow) (response : VerifiedCheckpoint) : Bool :=
  checkpoint.resumeState = .ready && checkpoint.streamKey = resume.streamKey &&
    (checkpoint.continuationCursor.map (·.text)) = some resume.cursor &&
    checkpoint.continuationPageIndex = some resume.pageIndex &&
    response.source.publicId = resume.baseSnapshot && response.source.state.usable &&
    response.source.ingestionRunId.isSome &&
    sameSurfaces claimed.requestedSurfaces
      (resumedSurfaces resume.streamKey response.source.requestedSurfaces) &&
    response.document.requestedPeriod.instants? =
      some (claimed.acquisitionStart, claimed.acquisitionEnd)

/-- The schedule a version-6 plan came from, recomputed at its cutoff. -/
def recomputedSchedule (sha : Sha256) (s : Store) (caseId : Nat) (casePublicId : Uuid)
    (cutoffId : Nat) (budget : PageBudget) :
    Except ReadError (Addressed ScheduleDocument) := do
  let tips := s.latestStreamCheckpointsAtCutoff caseId (some cutoffId)
  let progress ← backfillProgressResponse sha s caseId casePublicId tips
  let plan ← checkpointContinuationPlanResponse sha s caseId casePublicId tips
  backfillScheduleResponse sha casePublicId progress plan budget none

/-- The recomputed schedule is the one the plan names. -/
def scheduleMatches (schedule : Addressed ScheduleDocument) (resume : ResumePlan Uuid HexDigest)
    (continuationPlan backfillSchedule backfillProgress cutoff : HexDigest) : Bool :=
  schedule.document.state = .ready && schedule.publicId = backfillSchedule &&
    schedule.document.inputProgress = backfillProgress &&
    schedule.document.inputPlan = continuationPlan &&
    schedule.document.checkpointCutoff = some cutoff &&
    schedule.document.selection.any fun selection =>
      selection.checkpoint = resume.sourceCheckpoint

/-- `_validate_resume_checkpoint`; `none`: the check passes. -/
def validateResumeCheckpoint (sha : Sha256) (s : Store) (claimed : ClaimedCaseSync)
    (resume : ResumePlan Uuid HexDigest) : Option String :=
  match s.streamCheckpoint? claimed.caseId resume.sourceCheckpoint with
  | none => some "The source stream checkpoint is no longer available."
  | some (checkpointId, checkpoint) =>
      match streamCheckpointResponse sha s claimed.casePublicId checkpoint with
      | .error _ => some "The source stream checkpoint failed integrity validation."
      | .ok response =>
          if (s.streamTip? claimed.caseId none checkpoint.streamKey).map (·.1) =
              some checkpointId && resumeMatches claimed resume checkpoint response then
            match resume.authority with
            | .schedule continuationPlan budget backfillSchedule backfillProgress cutoff =>
                match s.streamCheckpoint? claimed.caseId cutoff with
                | none => some "The scheduled backfill checkpoint boundary is unavailable."
                | some (cutoffId, _) =>
                    match recomputedSchedule sha s claimed.caseId claimed.casePublicId cutoffId
                        budget with
                    | .error _ =>
                        some "The scheduled backfill provenance failed integrity validation."
                    | .ok schedule =>
                        if scheduleMatches schedule resume continuationPlan backfillSchedule
                            backfillProgress cutoff then none
                        else some ("The scheduled backfill provenance no longer matches this " ++
                          "job.")
            | _ => none
          else some "The source stream checkpoint no longer matches this resume job."

/-- The fingerprint check of a scheduled resume. -/
def scheduledFingerprintValid (sha : Sha256) (claimed : ClaimedCaseSync)
    (resume : ResumePlan Uuid HexDigest) : Bool :=
  match resume.authority with
  | .schedule _ _ _ _ _ =>
      claimed.requestFingerprint =
        sha (.request (.checkpointResume resume.sourceCheckpoint resume.authority))
  | _ => true

/-- `_validated_settings`. -/
def validatedSettings (sha : Sha256) (claimed : ClaimedCaseSync) : SyncStep RuntimeSettings := do
  match ← selectSync fun s => (s.cases.get? claimed.caseId).filter fun c =>
      c.publicId = claimed.casePublicId && c.archivedAt.isNone with
  | none => throw (.runtimeConflict "Wallet Case is no longer available.".toList)
  | some c =>
      if c.scope = claimed.scope then
        match ← askR .settings with
        | .error message => throw (.runtimeConflict message)
        | .ok settings =>
            match claimed.plan.resume? with
            | none => return settings
            | some resume =>
                if scheduledFingerprintValid sha claimed resume then
                  match ← selectSync fun s => validateResumeCheckpoint sha s claimed resume with
                  | none => return settings
                  | some message => throw (.runtimeConflict message.toList)
                else throw (.runtimeConflict
                  "Scheduled continuation request fingerprint is invalid.".toList)
      else throw (.runtimeConflict
        "Wallet Case scope changed after this job was queued.".toList)

/-! ## Building -/

/-- The row of a lease while it is owned. -/
def ownedSync (lease : SyncLease) (now : Instant) (s : Store) : Option SyncRow :=
  (s.syncs.get? lease.jobId).filter fun row => row.ownedBy lease.token now

/-- `_heartbeat`: whether the lease was extended, and whether cancellation
was requested. -/
def heartbeatSync (lease : SyncLease) : SyncStep (Bool × Bool) := do
  let tick ← askR .clock
  match ← selectSync (ownedSync lease tick.now) with
  | none => return (false, false)
  | some row =>
      let count ← transactSync (.sync (.heartbeat lease tick.now tick.leaseUntil))
      return (count = 1, row.cancelRequestedAt.isSome)

/-- The loop of `_build_with_heartbeats`, of so many rounds. -/
def watchBuilder (lease : SyncLease) : Nat → Bool → SyncStep (Bool × Bool)
  | 0, seen => return (true, seen)
  | rounds + 1, seen => do
      if ← askFlag .stopRequested then return (false, seen)
      let (owned, cancelRequested) ← heartbeatSync lease
      if owned then watchBuilder lease rounds (seen || cancelRequested)
      else return (false, seen || cancelRequested)

/-- The request of the builder. -/
def ClaimedCaseSync.buildRequest (claimed : ClaimedCaseSync) : BuildRequest :=
  let window := match claimed.plan.mode with
    | .bounded => claimed.timeWindow
    | _ => .custom
  let resume := claimed.plan.resume?
  { dataEnvironment := claimed.scope.dataEnvironment
    timeWindow := window
    customStart := if window = .custom then some claimed.acquisitionStart.isoformat else none
    customEnd := if window = .custom then some claimed.acquisitionEnd.isoformat else none
    surfaces := claimed.requestedSurfaces
    now := claimed.acquisitionEnd
    resumeStreamKey := resume.map (·.streamKey)
    resumeCursor := resume.map (·.cursor)
    resumePageIndex := resume.map (·.pageIndex)
    resumePageBudget := resume.bind fun r => r.authority.pageBudget.map (·.val) }

/-- `_build_with_heartbeats`: the run, whether the lease is still owned, and
whether cancellation was seen. -/
def buildWithHeartbeats (claimed : ClaimedCaseSync) (settings : RuntimeSettings) :
    SyncStep (IngestionRun × Bool × Bool) := do
  if ← askFlag .stopRequested then throw .stopRequested
  let _ ← commitR (.startBuilder claimed.lease.token)
  let answers ← askR .providerAnswers
  let rounds ← askR .heartbeats
  let (owned, seen) ← watchBuilder claimed.lease rounds false
  let stop ← askFlag .stopRequested
  match buildWalletIngestionRun settings.activity claimed.buildRequest answers with
  | .ok run => return (run, owned && !stop, seen)
  | .error (.scopeMismatch message) => throw (.scopeMismatch message)
  | .error (.valueError message) => throw (.valueError message)
  | .error .overflowError => throw .internal

/-- `_cancel_requested`. -/
def syncCancelRequested (lease : SyncLease) : SyncStep Bool := do
  let tick ← askR .clock
  selectSync fun s => (ownedSync lease tick.now s).any fun row => row.cancelRequestedAt.isSome

/-! ## Publication -/

/-- A message that is not blank. -/
def messageOr (message : Text) (fallback : String) : Text :=
  if message = [] then fallback.toList else message

def ClaimedCaseSync.manifestScope (claimed : ClaimedCaseSync) : ManifestScope :=
  { casePublicId := claimed.casePublicId
    syncPublicId := claimed.publicId
    network := claimed.scope.network
    requestedStart := claimed.requestedStart
    requestedEnd := claimed.requestedEnd
    requestedSurfaces := claimed.requestedSurfaces
    plan := claimed.plan }

/-- What `_publish_final_run` commits. -/
def publication (sha : Sha256) (claimed : ClaimedCaseSync) (run : IngestionRun) (now : Instant) :
    Publication :=
  let (state, stage) := syncState run.status
  let (retryable, retryCode) := retrySignal run
  let message := messageOr (boundedMessage run.message)
    "Wallet Case synchronization completed without a provider message."
  let manifest := buildSyncManifest claimed.manifestScope run state
  let manifestId := sha (.manifest manifest)
  { lease := claimed.lease
    caseId := claimed.caseId
    run := run
    provider := actualProvider run
    state := state
    stage := stage
    message := message
    errorCode := if state = .failed then some (messageOr retryCode "ingestion_failed") else none
    errorDetailSafe := if state = .failed then some message else none
    retryable := retryable
    manifest := ⟨manifestId, claimed.lease.jobId, manifest, now⟩
    checkpoints := (buildStreamCheckpoints manifest manifestId).map fun document =>
      document.row sha claimed.caseId claimed.lease.jobId now
    now := now }

/-- `_publish_final_run`. -/
def publishFinalRun (sha : Sha256) (claimed : ClaimedCaseSync) (run : IngestionRun) :
    SyncStep Unit := do
  let tick ← askR .clock
  match ← selectSync fun s => (s.cases.get? claimed.caseId).filter fun c =>
      c.publicId = claimed.casePublicId && c.archivedAt.isNone && c.scope = claimed.scope with
  | none =>
      failWithoutRun claimed.lease "scope_mismatch".toList
        "Wallet Case scope changed before result publication.".toList false
  | some _ => finishSync claimed.lease (.publish (publication sha claimed run tick.now))

/-! ## Execution -/

/-- `execute_claimed` from the built run on. -/
def finishRun (sha : Sha256) (claimed : ClaimedCaseSync) (run : IngestionRun) :
    SyncStep Unit := do
  let (retryable, retryCode) := retrySignal run
  match run.status with
  | .other =>
      failWithoutRun claimed.lease "invalid_builder_status".toList
        "The ingestion builder returned a non-terminal status.".toList false
  | status =>
      if status = .error && retryable && claimed.attempt < claimed.maxAttempts then
        scheduleSyncRetry claimed.lease retryCode (messageOr (boundedMessage run.message)
          "The provider crawl failed temporarily; a bounded retry is scheduled.")
      else if ← advanceSync claimed.lease .finalizing 2
          "Calculating coverage and finalizing the case snapshot." then
        publishFinalRun sha claimed run

/-- `execute_claimed` with its settings. -/
def executeWithSettings (sha : Sha256) (claimed : ClaimedCaseSync) (settings : RuntimeSettings) :
    SyncStep Unit := do
  if ← askFlag .stopRequested then return
  if ← advanceSync claimed.lease .ingesting 1
      "Acquiring and normalizing the bounded provider response." then
    let built ← tryCatch (some <$> buildWithHeartbeats claimed settings) fun raised =>
      match raised with
      | .stopRequested => return none
      | .scopeMismatch message => do
          failWithoutRun claimed.lease "scope_mismatch".toList (messageOr (boundedMessage message)
            "The ingestion result did not match the Wallet Case scope.") false
          return none
      | .valueError message => do
          failWithoutRun claimed.lease "invalid_request".toList (messageOr (boundedMessage message)
            "The bounded synchronization request is invalid.") false
          return none
      | raised => throw raised
    match built with
    | none => return
    | some (run, owned, seen) =>
        if owned then
          let cancelled ← if seen then pure true else syncCancelRequested claimed.lease
          if cancelled then finishCancelledSync claimed.lease
          else finishRun sha claimed run

/-- `execute_claimed`. -/
def executeClaimedSync (sha : Sha256) (claimed : ClaimedCaseSync) : SyncStep Unit := do
  let settings ← tryCatch (some <$> validatedSettings sha claimed) fun raised =>
    match raised with
    | .runtimeConflict message => do
        failWithoutRun claimed.lease "runtime_scope_conflict".toList
          (messageOr (boundedMessage message)
            "Runtime configuration cannot execute this Wallet Case scope.") false
        return none
    | raised => throw raised
  match settings with
  | none => return
  | some settings => executeWithSettings sha claimed settings

/-! ## Claims -/

/-- `ORDER BY next_attempt_at, created_at, id LIMIT 1` of the queued rows
that are due. -/
def nextSync (now : Instant) (s : Store) : Option (Nat × SyncRow) :=
  (s.syncs.select fun _ row => row.state = .queued && row.cancelRequestedAt.isNone &&
    decide (row.attemptCount < row.maxAttempts) && row.nextAttemptAt.any fun t => t ≤ now).foldl
    (fun first row =>
      match first with
      | none => some row
      | some least =>
          if row.2.nextAttemptAt.any (fun t => least.2.nextAttemptAt.any fun u => t < u) ||
              (row.2.nextAttemptAt = least.2.nextAttemptAt &&
                decide (row.2.createdAt < least.2.createdAt)) then some row
          else some least) none

/-- The read of a claimed row with its available case. -/
def claimedRow (syncId : Nat) (token : Token) (s : Store) : Option (SyncRow × CaseRow) := do
  let row ← s.syncs.get? syncId
  let c ← s.cases.get? row.caseId
  if row.leaseToken = some token && c.archivedAt.isNone then some (row, c) else none

/-- `ClaimedCaseSync` of a row; its plan is validated, its interval parsed. -/
def claimedCaseSync (syncId : Nat) (token : Token) (row : SyncRow) (c : CaseRow) :
    Except SyncRaised ClaimedCaseSync :=
  match claimedInterval row.storedPlan with
  | .error _ => .error .internal
  | .ok (start, stop) =>
      .ok
        { lease := ⟨syncId, token⟩
          publicId := row.publicId
          caseId := row.caseId
          casePublicId := c.publicId
          attempt := row.attemptCount
          maxAttempts := row.maxAttempts
          scope := c.scope
          timeWindow := row.timeWindow
          requestedStart := row.requestedStart
          requestedEnd := row.requestedEnd
          requestedSurfaces := row.requestedSurfaces
          plan := row.plan
          acquisitionStart := start
          acquisitionEnd := stop
          requestFingerprint := row.requestFingerprint }

/-- `claim_next`, by the session that draws the token. -/
def claimNextSync (token : Token) : SyncStep (Option ClaimedCaseSync) := do
  if ← askFlag .stopRequested then return none
  let tick ← askR .clock
  match ← selectSync (nextSync tick.now) with
  | none => return none
  | some (syncId, _) =>
      if ← askFlag .stopRequested then return none
      let count ← transactSync (.sync (.claim syncId token tick.now tick.leaseUntil))
      if count = 1 then
        match ← selectSync (claimedRow syncId token) with
        | none =>
            let tick ← askR .clock
            let _ ← transactSync (.sync (.closeUnavailable ⟨syncId, token⟩ tick.now))
            return none
        | some (row, c) => some <$> liftExcept (claimedCaseSync syncId token row c)
      else return none
where
  liftExcept {α : Type} : Except SyncRaised α → SyncStep α
    | .ok value => return value
    | .error raised => throw raised

/-- `run_once`. -/
def runSyncOnce (sha : Sha256) (token : Token) : SyncStep Unit := do
  if !(← askFlag .stopRequested) then
    let tick ← askR .clock
    let _ ← transactSync (.sync (.recoverExpired tick.now))
    if !(← askFlag .stopRequested) then
      match ← claimNextSync token with
      | none => return
      | some claimed =>
          if !(← askFlag .stopRequested) then
            tryCatch (executeClaimedSync sha claimed) fun _ =>
              failWithoutRun claimed.lease "internal_job_error".toList
                "Wallet Case synchronization stopped on an internal error.".toList false

end TonTracker
