/-
# `Services.Documents` — the documents the services address by content

Every public id of a manifest, checkpoint, chain, plan, progress, schedule,
receipt and outcome is the hash of its document, and a request is
fingerprinted the same way (`services/wallet_cases.py`,
`services/wallet_case_sync_manifests.py`,
`services/wallet_case_stream_checkpoints.py`).  The hash is a parameter of
everything that follows.  Fields that the others determine (contract
versions, the provider, the texts of limitations) are left out.
-/
import TonTracker.Services.SyncPlanning

namespace TonTracker

inductive Network where
  | mainnet
  | testnet
deriving DecidableEq, Repr

inductive DataEnvironment where
  | demo
  | live
deriving DecidableEq, Repr

inductive DataMode where
  | mock
  | real
deriving DecidableEq, Repr

/-- `_ENVIRONMENT_DATA_MODE`. -/
def DataEnvironment.dataMode : DataEnvironment → DataMode
  | .demo => .mock
  | .live => .real

inductive SyncState where
  | queued
  | running
  | partialResult
  | succeeded
  | failed
  | cancelled
deriving DecidableEq, Repr

/-- `state IN ('queued', 'running')`. -/
def SyncState.active : SyncState → Bool
  | .queued => true
  | .running => true
  | _ => false

/-- `state IN ('partial', 'succeeded')`. -/
def SyncState.usable : SyncState → Bool
  | .partialResult => true
  | .succeeded => true
  | _ => false

/-- `plan["mode"]`. -/
inductive AcquisitionMode where
  | bounded
  | incremental
  | resume
deriving DecidableEq, Repr

abbrev Plan : Type := AcquisitionPlan Uuid HexDigest

/-- The ids of the store are their own texts. -/
def plainTexts : IdTexts Uuid HexDigest := ⟨id, id⟩

def PlanMode.acquisitionMode : PlanMode Uuid HexDigest → AcquisitionMode
  | .bounded => .bounded
  | .incremental _ _ => .incremental
  | .resume _ => .resume

namespace AcquisitionPlan

/-- `plan["base_snapshot_public_id"]`. -/
def baseSnapshot (plan : Plan) : Option Uuid :=
  match plan.mode with
  | .bounded => none
  | .incremental _ base => some base
  | .resume r => some r.baseSnapshot

/-- The continuation of a resume plan. -/
def resume? (plan : Plan) : Option (ResumePlan Uuid HexDigest) :=
  match plan.mode with
  | .resume r => some r
  | _ => none

/-- `plan.get("source_checkpoint_public_id")`. -/
def sourceCheckpoint (plan : Plan) : Option HexDigest := plan.resume?.map (·.sourceCheckpoint)

end AcquisitionPlan

/-- `{"start_at": …, "end_at": …}`. -/
structure Period where
  startAt : Option Text
  endAt : Option Text
deriving DecidableEq

/-- `plan`'s own period. -/
def AcquisitionPlan.period (plan : Plan) : Period := ⟨some plan.startAt, some plan.endAt⟩

/-- The period of a stream's evidence. -/
def StreamEvidence.period (stream : StreamEvidence HexDigest) : Period :=
  ⟨stream.bounds.map (·.1.isoformat), stream.bounds.map (·.2.isoformat)⟩

/-! ## Manifests and checkpoints -/

/-- The document of `build_wallet_case_sync_manifest`. -/
structure SyncManifest where
  casePublicId : Uuid
  syncPublicId : Uuid
  network : Network
  dataMode : DataMode
  provider : Text
  syncState : SyncState
  snapshotStart : Instant
  snapshotEnd : Instant
  acquisitionPeriod : Period
  acquisitionMode : AcquisitionMode
  overlapSeconds : Nat
  baseSnapshot : Option Uuid
  requestedSurfaces : List Surface
  streams : List (StreamEvidence HexDigest)
deriving DecidableEq

/-- `_last_page_record`. -/
structure LastPage where
  pageIndex : Nat
  responseCursor : Option LogicalTime
  responseDigest : HexDigest
  minLogicalTime : Option LogicalTime
  maxLogicalTime : Option LogicalTime
  minTimestamp : Option Instant
  maxTimestamp : Option Instant
  fetchedAt : Instant
deriving DecidableEq

/-- The document of `_build_checkpoint`. -/
structure CheckpointDocument where
  casePublicId : Uuid
  sourceSync : Uuid
  sourceManifest : HexDigest
  streamKey : StreamKey
  acquisitionMode : AcquisitionMode
  requestedPeriod : Period
  pageSize : Nat
  pageCap : Nat
  completionState : CompletionState
  terminationReason : TerminationReason
  pageCount : Nat
  pagesSucceeded : Nat
  continuation : Continuation
  lastSuccessfulPage : Option LastPage
deriving DecidableEq

/-- `_stream_checkpoint_response(…)["checkpoint"]`. -/
structure CheckpointDescriptor where
  publicId : HexDigest
  streamKey : StreamKey
  sourceSync : Uuid
  resumeState : ResumeState
  createdAt : Instant
deriving DecidableEq

/-! ## Chains, plans, progress and schedules -/

/-- One entry of `revisions` in a chain document; the ordinal is its
place. -/
structure ChainRevision where
  checkpoint : CheckpointDescriptor
  acquisitionMode : AcquisitionMode
  baseSnapshot : Option Uuid
  parentCheckpoint : Option HexDigest
  sourceManifest : HexDigest
  requestedPeriod : Period
  continuationPageIndex : Option Nat
  pageCount : Nat
  pagesSucceeded : Nat
  lastResponseDigest : Option HexDigest
deriving DecidableEq

/-- `aggregate` of a chain. -/
structure ChainAggregate where
  revisionCount : Nat
  pageCount : Nat
  pagesSucceeded : Nat
deriving DecidableEq

/-- The document of `_stream_checkpoint_chain_response`. -/
structure ChainDocument where
  casePublicId : Uuid
  tipCheckpoint : HexDigest
  streamKey : StreamKey
  rootAcquisitionMode : AcquisitionMode
  rootBaseSnapshot : Option Uuid
  currentResumeState : ResumeState
  nextPageIndex : Option Nat
  aggregate : ChainAggregate
  revisions : List ChainRevision
deriving DecidableEq

structure PlanStream where
  tipCheckpoint : CheckpointDescriptor
  chain : HexDigest
  aggregate : ChainAggregate
  resumeState : ResumeState
  nextPageIndex : Option Nat
  resumeBlocker : Option ResumeBlocker
deriving DecidableEq

/-- The document of `_checkpoint_continuation_plan_response`; its aggregate
is that of its streams. -/
structure PlanDocument where
  casePublicId : Uuid
  checkpointCutoff : Option HexDigest
  streams : List PlanStream
deriving DecidableEq

/-- `_backfill_frontier`. -/
structure Frontier where
  checkpoint : HexDigest
  page : LastPage
deriving DecidableEq

structure ProgressStream where
  rootCheckpoint : HexDigest
  tipCheckpoint : CheckpointDescriptor
  chain : HexDigest
  rootAcquisitionMode : AcquisitionMode
  requestedPeriod : Period
  aggregate : ChainAggregate
  initialPageCount : Nat
  initialPagesSucceeded : Nat
  continuationRevisionCount : Nat
  continuationPageCount : Nat
  continuationPagesSucceeded : Nat
  resumeState : ResumeState
  nextPageIndex : Option Nat
  terminationReason : TerminationReason
  resumeBlocker : Option ResumeBlocker
  rootFrontier : Option Frontier
  currentFrontier : Option Frontier
deriving DecidableEq

/-- The document of `_backfill_progress_response`; its aggregate is that of
its streams. -/
structure ProgressDocument where
  casePublicId : Uuid
  checkpointCutoff : Option HexDigest
  streams : List ProgressStream
deriving DecidableEq

inductive ScheduleState where
  | backpressured
  | ready
  | empty
  | blocked
  | complete
deriving DecidableEq, Repr

structure ScheduleSelection where
  streamKey : StreamKey
  checkpoint : HexDigest
  continuationRevisionCount : Nat
  continuationPageCount : Nat
  nextPageIndex : Option Nat
deriving DecidableEq

/-- The document of `_backfill_schedule_response`. -/
structure ScheduleDocument where
  casePublicId : Uuid
  inputProgress : HexDigest
  inputPlan : HexDigest
  checkpointCutoff : Option HexDigest
  pageBudget : PageBudget
  state : ScheduleState
  streamCount : Nat
  readyCount : Nat
  completeCount : Nat
  blockedCount : Nat
  activeSync : Option Uuid
  selection : Option ScheduleSelection
deriving DecidableEq

/-! ## Receipts and outcomes -/

/-- `transition` of a receipt. -/
structure ReceiptTransition where
  revisionDelta : Int
  pageCountDelta : Int
  pagesSucceededDelta : Int
deriving DecidableEq

/-- The document of `get_checkpoint_continuation_receipt`; a schedule makes
it a version-3 receipt, and what is left of the budget follows from the
budget and the transition. -/
structure ReceiptDocument where
  casePublicId : Uuid
  syncPublicId : Uuid
  inputPlan : HexDigest
  inputCheckpoint : CheckpointDescriptor
  inputChain : HexDigest
  inputAggregate : ChainAggregate
  inputNextPageIndex : Option Nat
  pageBudget : PageBudget
  inputSchedule : Option HexDigest
  outputCheckpoint : CheckpointDescriptor
  outputChain : HexDigest
  outputAggregate : ChainAggregate
  outputResumeState : ResumeState
  outputNextPageIndex : Option Nat
  outputResumeBlocker : Option ResumeBlocker
  afterPlanId : HexDigest
  afterPlan : PlanDocument
  transition : ReceiptTransition
deriving DecidableEq

inductive OutcomeState where
  | completed
  | blocked
  | advanced
  | noProgress
deriving DecidableEq, Repr

/-- `transition` of an outcome. -/
structure OutcomeTransition where
  streamKey : StreamKey
  inputCheckpoint : HexDigest
  outputCheckpoint : HexDigest
  beforeResumeState : ResumeState
  afterResumeState : ResumeState
  revisionDelta : Int
  pageCountDelta : Int
  pagesSucceededDelta : Int
  continuationRevisionDelta : Int
  continuationPageCountDelta : Int
  continuationPagesSucceededDelta : Int
  readyCountDelta : Int
  completeCountDelta : Int
  blockedCountDelta : Int
  frontierChanged : Bool
deriving DecidableEq

/-- The document of `get_backfill_outcome`. -/
structure OutcomeDocument where
  casePublicId : Uuid
  syncPublicId : Uuid
  inputScheduleId : HexDigest
  inputSchedule : ScheduleDocument
  inputProgressId : HexDigest
  inputProgress : ProgressDocument
  receiptId : HexDigest
  receipt : ReceiptDocument
  outputProgressId : HexDigest
  outputProgress : ProgressDocument
  outcome : OutcomeState
  transition : OutcomeTransition
deriving DecidableEq

/-! ## Requests -/

/-- What `_sync_request_fingerprint` and `_checkpoint_resume_fingerprint`
hash. -/
inductive RequestDocument where
  | sync (mode : SyncMode) (timeWindow : TimeWindow) (customStart customEnd : Option Text)
      (surfaces : List Surface)
  | checkpointResume (checkpoint : HexDigest) (authority : ResumeAuthority HexDigest)
deriving DecidableEq

inductive Document where
  | request (document : RequestDocument)
  | manifest (document : SyncManifest)
  | checkpoint (document : CheckpointDocument)
  | chain (document : ChainDocument)
  | plan (document : PlanDocument)
  | progress (document : ProgressDocument)
  | schedule (document : ScheduleDocument)
  | receipt (document : ReceiptDocument)
  | outcome (document : OutcomeDocument)
deriving DecidableEq

/-- `sha256(canonical_json(document)).hexdigest()`. -/
abbrev Sha256 : Type := Document → HexDigest

/-- The five surfaces, in the order of `_sync_request_fingerprint`. -/
def surfaceOrder : List Surface := [.transfers, .transactions, .swaps, .balances, .jettons]

/-- `_sync_request_fingerprint`.  A custom bound that is not a timestamp
raises. -/
def syncRequestDocument (request : SyncRequest) : Except TimestampError RequestDocument := do
  let customStart ← request.customStart.mapM canonicalRequestTimestamp
  let customEnd ← request.customEnd.mapM canonicalRequestTimestamp
  return .sync request.mode request.timeWindow customStart customEnd
    (surfaceOrder.filter request.surfaces.contains)

end TonTracker
