/-
# `Services.SyncManifests` — what a published run leaves behind

`build_wallet_case_sync_manifest` and
`build_wallet_case_stream_checkpoints`: the manifest of a run and, for
each of its streams, one checkpoint that says where the stream may
continue.  `_stream_checkpoint_response` reads such a checkpoint back,
checking it against its row, its manifest and the plan of its sync
(`services/wallet_cases.py`).
-/
import TonTracker.Repositories.WalletCases
import TonTracker.Services.IngestionRun

namespace TonTracker

/-! ## Building -/

/-- The decimal text of a logical time. -/
def LogicalTime.text (t : LogicalTime) : Text :=
  (FixedDigits.padded 20 t.val).dropWhile fun c => c == '0'

/-- The surfaces in alphabetical order. -/
def sortedSurfaces (surfaces : List Surface) : List Surface :=
  [Surface.balances, .jettons, .swaps, .transactions, .transfers].filter surfaces.contains

/-- What the manifest of a sync is built from, besides its run. -/
structure ManifestScope where
  casePublicId : Uuid
  syncPublicId : Uuid
  network : Network
  requestedStart : Instant
  requestedEnd : Instant
  requestedSurfaces : List Surface
  plan : Plan

/-- `plan["overlap_seconds"]`. -/
def AcquisitionPlan.overlapSeconds (plan : Plan) : Nat :=
  match plan.mode with
  | .incremental overlap _ => overlap
  | _ => 0

/-- `build_wallet_case_sync_manifest`. -/
def buildSyncManifest (scope : ManifestScope) (run : IngestionRun) (state : SyncState) :
    SyncManifest :=
  { casePublicId := scope.casePublicId
    syncPublicId := scope.syncPublicId
    network := scope.network
    dataMode := run.dataMode
    provider := actualProvider run
    syncState := state
    snapshotStart := scope.requestedStart
    snapshotEnd := scope.requestedEnd
    acquisitionPeriod := scope.plan.period
    acquisitionMode := scope.plan.mode.acquisitionMode
    overlapSeconds := scope.plan.overlapSeconds
    baseSnapshot := scope.plan.baseSnapshot
    requestedSurfaces := sortedSurfaces scope.requestedSurfaces
    streams := run.acquisitionStreams }

/-- `_last_page_record`. -/
def PageEvidence.lastPage (page : PageEvidence HexDigest) : LastPage :=
  { pageIndex := page.pageIndex
    responseCursor := page.responseCursor
    responseDigest := page.responseDigest
    minLogicalTime := page.minLogicalTime
    maxLogicalTime := page.maxLogicalTime
    minTimestamp := page.minTimestamp
    maxTimestamp := page.maxTimestamp
    fetchedAt := page.fetchedAt }

/-- `_build_checkpoint`. -/
def buildCheckpoint (manifest : SyncManifest) (manifestId : HexDigest)
    (stream : StreamEvidence HexDigest) : CheckpointDocument :=
  { casePublicId := manifest.casePublicId
    sourceSync := manifest.syncPublicId
    sourceManifest := manifestId
    streamKey := stream.streamKey
    acquisitionMode := manifest.acquisitionMode
    requestedPeriod := stream.period
    pageSize := stream.pageSize
    pageCap := stream.pageCap
    completionState := stream.completionState
    terminationReason := stream.terminationReason
    pageCount := stream.pageCount
    pagesSucceeded := stream.successfulPages.length
    continuation := continuation stream
    lastSuccessfulPage := (lastSuccessful stream).map (·.lastPage) }

/-- `build_wallet_case_stream_checkpoints`. -/
def buildStreamCheckpoints (manifest : SyncManifest) (manifestId : HexDigest) :
    List CheckpointDocument :=
  manifest.streams.map (buildCheckpoint manifest manifestId)

/-- The row of a checkpoint. -/
def CheckpointDocument.row (sha : Sha256) (document : CheckpointDocument) (caseId syncId : Nat)
    (now : Instant) : CheckpointRow :=
  { publicId := sha (.checkpoint document)
    caseId := caseId
    sourceSyncId := syncId
    streamKey := document.streamKey
    resumeState := document.continuation.resumeState
    continuationCursor := document.continuation.continuationCursor
    continuationPageIndex := document.continuation.continuationPageIndex
    pageCount := document.pageCount
    pagesSucceeded := document.pagesSucceeded
    document := document
    createdAt := now }

/-! ## Reading back -/

/-- What the reads of a case raise. -/
inductive ReadError where
  | notFound (message : String)
  | checkpointCorrupt (message : String)
  | receiptNotFound (message : String)
  | outcomeNotFound (message : String)
  | invalidCursor (message : String)
  | valueError (message : String)
  | overflowError
deriving DecidableEq, Repr

/-- A check of a stored checkpoint. -/
def verify (holds : Bool) (message : String) : Except ReadError Unit :=
  if holds then .ok () else .error (.checkpointCorrupt message)

/-- A lookup whose row must be there. -/
def orCorrupt {α : Type} (row : Option α) (message : String) : Except ReadError α :=
  match row with
  | some row => .ok row
  | none => .error (.checkpointCorrupt message)

/-- `_sync_acquisition_plan` of a row.  The validator returns the object it
was given, and that object is the row's plan. -/
def SyncRow.acquisitionPlan (row : SyncRow) : Except StoredPlanError Plan :=
  (syncAcquisitionPlan row.storedPlan).map fun _ => row.plan

/-- `_sync_acquisition_plan` where a `ValueError` is reported as corruption. -/
def SyncRow.verifiedPlan (row : SyncRow) (message : String) : Except ReadError Plan :=
  match row.acquisitionPlan with
  | .ok plan => .ok plan
  | .error .invalid => .error (.checkpointCorrupt message)
  | .error .overflowError => .error .overflowError

/-- The checks of `_manifest_response`. -/
def ManifestRow.verified (sha : Sha256) (row : ManifestRow) (sync : SyncRow)
    (casePublicId : Uuid) : Bool :=
  sha (.manifest row.document) = row.publicId && row.document.casePublicId = casePublicId &&
    row.document.syncPublicId = sync.publicId

/-- A checkpoint as `_stream_checkpoint_response` returns it, with the sync
it came from. -/
structure VerifiedCheckpoint where
  descriptor : CheckpointDescriptor
  document : CheckpointDocument
  sourceId : Nat
  source : SyncRow
  plan : Plan

/-- The comparison of a checkpoint's document with its row, its manifest
and the plan of its sync. -/
def CheckpointRow.consistent (row : CheckpointRow) (casePublicId : Uuid) (source : SyncRow)
    (plan : Plan) (manifest : ManifestRow) : Bool :=
  row.document.casePublicId = casePublicId &&
    row.document.sourceSync = source.publicId &&
    row.document.streamKey = row.streamKey &&
    row.document.acquisitionMode = plan.mode.acquisitionMode &&
    row.document.requestedPeriod = plan.period &&
    (plan.resume?.all fun r => r.streamKey = row.streamKey) &&
    row.document.continuation.resumeState = row.resumeState &&
    row.document.continuation.continuationCursor = row.continuationCursor &&
    row.document.continuation.continuationPageIndex = row.continuationPageIndex &&
    row.document.pageCount = row.pageCount &&
    row.document.pagesSucceeded = row.pagesSucceeded &&
    row.document.sourceManifest = manifest.publicId

/-- `_stream_checkpoint_response`. -/
def streamCheckpointResponse (sha : Sha256) (s : Store) (casePublicId : Uuid)
    (row : CheckpointRow) : Except ReadError VerifiedCheckpoint := do
  verify (sha (.checkpoint row.document) = row.publicId)
    "Stored Wallet Case stream checkpoint failed integrity validation."
  let source ← orCorrupt (s.syncs.get? row.sourceSyncId)
    "Stored Wallet Case stream checkpoint source sync is foreign."
  verify (source.caseId = row.caseId)
    "Stored Wallet Case stream checkpoint source sync is foreign."
  let plan ← source.verifiedPlan
    "Stored Wallet Case stream checkpoint acquisition plan is invalid."
  let manifest ← orCorrupt (s.manifestForSync? row.sourceSyncId)
    "Stored Wallet Case stream checkpoint has no source manifest."
  verify (manifest.verified sha source casePublicId)
    "Stored Wallet Case stream checkpoint source manifest is invalid."
  verify (row.consistent casePublicId source plan manifest)
    "Stored Wallet Case stream checkpoint identity is inconsistent."
  return ⟨⟨row.publicId, row.streamKey, source.publicId, row.resumeState, row.createdAt⟩,
    row.document, row.sourceSyncId, source, plan⟩

end TonTracker
