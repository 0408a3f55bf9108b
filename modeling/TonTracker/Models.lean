/-
# `Models` — the tables of the Wallet Case store

`models.py`: the rows of cases, syncs, ingestion runs, manifests, stream
checkpoints, evidence verifications and catalog and lifecycle events, with
the columns the services read or write.  The store also records the
builder threads started, and a sync row every lease token it was claimed
with, where the source keeps the current one.
-/
import TonTracker.Lib.Relational
import TonTracker.Services.Documents

namespace TonTracker

open Relational (Table)

/-- `stage`, and `phase` of the checkpoint of a job. -/
inductive Stage where
  | queued
  | validating
  | ingesting
  | finalizing
  | retryWait
  | cancelling
  | cancelled
  | failed
  | completed
  | completedWithLimitations
deriving DecidableEq, Repr

/-- The scope of a case, fixed when it is created. -/
structure CaseScope where
  network : Network
  dataEnvironment : DataEnvironment
  canonicalWalletKey : Text
  displayAddress : Text
deriving DecidableEq

/-- `WalletCase`. -/
structure CaseRow where
  publicId : Uuid
  ownerScopeId : Text
  scope : CaseScope
  label : Option Text
  note : Option Text
  createdAt : Instant
  updatedAt : Instant
  archivedAt : Option Instant
  metadataVersion : Nat
deriving DecidableEq

/-- A lease token: the session that drew it. -/
abbrev Token := Nat

/-- `_checkpoint(phase, retryable=…)`. -/
structure JobCheckpoint where
  phase : Stage
  lastErrorRetryable : Bool
deriving DecidableEq, Repr

/-- `CaseSync`. -/
structure SyncRow where
  publicId : Uuid
  caseId : Nat
  ingestionRunId : Option Nat
  timeWindow : TimeWindow
  dataMode : DataMode
  provider : Text
  requestedStart : Instant
  requestedEnd : Instant
  /-- `ck_wallet_case_syncs_requested_bounds`. -/
  ordered : requestedStart < requestedEnd
  requestedSurfaces : List Surface
  state : SyncState
  stage : Stage
  progressCurrent : Nat
  /-- `coverage_summary_json["_acquisition"]`. -/
  plan : Plan
  errorCode : Option Text
  errorDetailSafe : Option Text
  messageSafe : Text
  createdAt : Instant
  updatedAt : Instant
  startedAt : Option Instant
  completedAt : Option Instant
  statusVersion : Nat
  idempotencyKey : Text
  requestFingerprint : HexDigest
  attemptCount : Nat
  maxAttempts : Nat
  nextAttemptAt : Option Instant
  cancelRequestedAt : Option Instant
  leaseToken : Option Token
  leaseExpiresAt : Option Instant
  heartbeatAt : Option Instant
  checkpoint : JobCheckpoint
  /-- Every token the row was claimed with. -/
  claims : List Token
deriving DecidableEq

/-- The columns `_sync_acquisition_plan` reads. -/
def SyncRow.storedPlan (row : SyncRow) : StoredPlan :=
  ⟨row.requestedStart, row.requestedEnd, .obj (row.plan.toDict plainTexts)⟩

/-- `status` of an ingestion run. -/
inductive RunStatus where
  | success
  | partialResult
  | error
  | other
deriving DecidableEq, Repr

inductive SourceStatus where
  | mock
  | live
  | limited
  | error
deriving DecidableEq, Repr

/-- A row of `WalletTransaction`, `WalletTransfer` or `WalletSwap`: the column
the period of a query is compared with, and the others by name. -/
structure NormalizedRow where
  timestamp : Option Instant
  columns : List (Text × Text)
deriving DecidableEq

/-- The normalized rows of a run, each table in the order of its ids. -/
structure RunRows where
  transactions : List NormalizedRow
  transfers : List NormalizedRow
  swaps : List NormalizedRow
deriving DecidableEq

/-- `WalletIngestionRun`, with the response it is published as and the rows
stored with it. -/
structure IngestionRun where
  status : RunStatus
  dataMode : DataMode
  message : Text
  providerEvidence : List (Text × SourceStatus)
  unavailableSurfaces : List Surface
  incompleteSurfaces : List Surface
  acquisitionStreams : List (StreamEvidence HexDigest)
  rows : RunRows
deriving DecidableEq

/-- `WalletCaseSyncManifest`. -/
structure ManifestRow where
  publicId : HexDigest
  caseSyncId : Nat
  document : SyncManifest
  createdAt : Instant
deriving DecidableEq

/-- `WalletCaseStreamCheckpoint`. -/
structure CheckpointRow where
  publicId : HexDigest
  caseId : Nat
  sourceSyncId : Nat
  streamKey : StreamKey
  resumeState : ResumeState
  continuationCursor : Option LogicalTime
  continuationPageIndex : Option Nat
  pageCount : Nat
  pagesSucceeded : Nat
  document : CheckpointDocument
  createdAt : Instant
deriving DecidableEq

/-! ## Evidence verifications -/

inductive EvidenceStage where
  | queued
  | validating
  | capturingTrace
  | verifyingBocs
  | provingInclusion
  | buildingNativeLedger
  | finalizing
  | retryWait
  | terminal
deriving DecidableEq, Repr

inductive EvidenceLevel where
  | normalized
  | locallyVerified
  | chainInclusionProven
deriving DecidableEq, Repr

/-- `CaseEvidenceVerification`.  The four artifacts are the trace capture,
the BOC verification, the block inclusion and the native ledger. -/
structure EvidenceRow where
  publicId : Uuid
  caseId : Nat
  snapshotSyncId : Nat
  sourceSyncId : Nat
  sourceTransactionId : Nat
  activityPublicId : HexDigest
  activitySemanticFingerprint : HexDigest
  state : SyncState
  stage : EvidenceStage
  progressCurrent : Nat
  statusVersion : Nat
  highestEvidenceLevel : EvidenceLevel
  idempotencyKey : Text
  requestFingerprint : HexDigest
  attemptCount : Nat
  maxAttempts : Nat
  nextAttemptAt : Option Instant
  cancelRequestedAt : Option Instant
  leaseToken : Option Token
  leaseExpiresAt : Option Instant
  heartbeatAt : Option Instant
  traceCaptureId : Option Nat
  traceDigest : Option HexDigest
  traceCompletedAt : Option Instant
  bocVerificationId : Option Nat
  bocDigest : Option HexDigest
  bocCompletedAt : Option Instant
  inclusionCatalogDigest : Option HexDigest
  inclusionCompletedAt : Option Instant
  nativeLedgerId : Option Nat
  nativeLedgerDigest : Option HexDigest
  nativeLedgerCompletedAt : Option Instant
  resultDigest : Option HexDigest
  errorCode : Option Text
  messageSafe : Text
  createdAt : Instant
  startedAt : Option Instant
  completedAt : Option Instant
deriving DecidableEq

/-- `WalletCaseCatalogEvent`. -/
structure CatalogEventRow where
  caseId : Nat
  recordedAt : Instant
  visible : Bool
deriving DecidableEq

/-- `details_json["removed"]`, the counts of the modelled tables. -/
structure RemovedCounts where
  syncs : Nat
  ingestionRuns : Nat
deriving DecidableEq, Repr

/-- `WalletCaseLifecycleEvent`. -/
structure LifecycleEventRow where
  ownerScopeId : Text
  casePublicId : Uuid
  occurredAt : Instant
  removed : RemovedCounts
deriving DecidableEq

structure Store where
  cases : Table CaseRow
  syncs : Table SyncRow
  runs : Table IngestionRun
  manifests : Table ManifestRow
  checkpoints : Table CheckpointRow
  catalogEvents : Table CatalogEventRow
  lifecycleEvents : Table LifecycleEventRow
  evidence : Table EvidenceRow
  /-- The lease tokens under which a builder thread was started. -/
  builderStarts : List Token

namespace Store

def empty : Store :=
  ⟨.empty, .empty, .empty, .empty, .empty, .empty, .empty, .empty, []⟩

end Store

end TonTracker
