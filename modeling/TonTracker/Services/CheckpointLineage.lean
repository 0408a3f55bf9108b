/-
# `Services.CheckpointLineage` — chains, plans, progress and schedules

The reads of `services/wallet_cases.py` that re-verify the checkpoints of
a case: a chain follows a checkpoint's parents down to its root sync, a
continuation plan and a progress report collect the chains of the newest
checkpoints up to a cutoff, and a schedule selects one ready stream from
the two.  Each document is addressed by its hash.
-/
import TonTracker.Services.SyncManifests

namespace TonTracker

/-- A document with its public id. -/
structure Addressed (δ : Type) where
  publicId : HexDigest
  document : δ
deriving DecidableEq

/-! ## Chains -/

/-- One revision of a chain: `{"row", "response", "plan"}`. -/
structure ChainLink where
  row : CheckpointRow
  descriptor : CheckpointDescriptor
  document : CheckpointDocument
  plan : Plan

/-- `_MAX_CHECKPOINT_CHAIN_REVISIONS`. -/
def maxCheckpointChainRevisions : Nat := 100

/-- `_MAX_CHECKPOINT_CONTINUATION_PLAN_STREAMS`. -/
def maxContinuationPlanStreams : Nat := 32

/-- The checks on the base snapshot of an incremental root. -/
def baseSnapshotValid (s : Store) (caseId sourceId : Nat) (base : Uuid) : Bool :=
  match s.sync? caseId base with
  | some (baseId, _) => baseId < sourceId
  | none => false

/-- The checks on the parent of a resumed revision. -/
def parentValid (s : Store) (current : Nat × CheckpointRow) (base : Uuid)
    (parent : Nat × CheckpointRow) : Bool :=
  decide (parent.1 < current.1) &&
    (s.syncs.get? parent.2.sourceSyncId).any (fun source => source.publicId = base) &&
    parent.2.streamKey = current.2.streamKey

/-- The loop of `_verified_stream_checkpoint_chain`, newest revision first:
`remaining` revisions may follow, `seen` have been passed.  The plan of a
revision has been validated with its checkpoint. -/
def descendCheckpointChain (sha : Sha256) (s : Store) (caseId : Nat) (casePublicId : Uuid) :
    Nat → List HexDigest → Nat × CheckpointRow → Except ReadError (List ChainLink)
  | 0, _, _ =>
      .error (.checkpointCorrupt "Stored Wallet Case stream checkpoint lineage is too deep.")
  | remaining + 1, seen, current => do
      verify (!seen.contains current.2.publicId)
        "Stored Wallet Case stream checkpoint lineage contains a cycle."
      let response ← streamCheckpointResponse sha s casePublicId current.2
      let link : ChainLink :=
        ⟨current.2, response.descriptor, response.document, response.plan⟩
      match response.plan.mode with
      | .bounded => return [link]
      | .incremental _ base =>
          verify (baseSnapshotValid s caseId response.sourceId base)
            "Stored Wallet Case stream checkpoint base snapshot is invalid."
          return [link]
      | .resume r =>
          let parent ← orCorrupt (s.streamCheckpoint? caseId r.sourceCheckpoint)
            "Stored Wallet Case stream checkpoint parent is invalid."
          verify (parentValid s current r.baseSnapshot parent)
            "Stored Wallet Case stream checkpoint parent is invalid."
          let rest ← descendCheckpointChain sha s caseId casePublicId remaining
            (current.2.publicId :: seen) parent
          return link :: rest

/-- A chain, root first; it has at least one revision. -/
structure Chain where
  links : List ChainLink
  nonempty : links ≠ []

namespace Chain

def root (chain : Chain) : ChainLink := chain.links.head chain.nonempty

def tip (chain : Chain) : ChainLink := chain.links.getLast chain.nonempty

end Chain

/-- `_verified_stream_checkpoint_chain`. -/
def verifiedStreamCheckpointChain (sha : Sha256) (s : Store) (caseId : Nat) (casePublicId : Uuid)
    (checkpoint : Nat × CheckpointRow) : Except ReadError Chain := do
  let descending ← descendCheckpointChain sha s caseId casePublicId maxCheckpointChainRevisions []
    checkpoint
  if h : descending.reverse ≠ [] then return ⟨descending.reverse, h⟩
  else .error (.checkpointCorrupt "Stored Wallet Case stream checkpoint lineage is invalid.")

/-- One entry of `revisions`. -/
def ChainLink.revision (link : ChainLink) : ChainRevision :=
  { checkpoint := link.descriptor
    acquisitionMode := link.plan.mode.acquisitionMode
    baseSnapshot := link.plan.baseSnapshot
    parentCheckpoint := link.plan.sourceCheckpoint
    sourceManifest := link.document.sourceManifest
    requestedPeriod := link.document.requestedPeriod
    continuationPageIndex := link.document.continuation.continuationPageIndex
    pageCount := link.document.pageCount
    pagesSucceeded := link.document.pagesSucceeded
    lastResponseDigest := link.document.lastSuccessfulPage.map (·.responseDigest) }

/-- `aggregate` of the revisions. -/
def chainAggregate (links : List ChainLink) : ChainAggregate :=
  { revisionCount := links.length
    pageCount := (links.map (·.document.pageCount)).sum
    pagesSucceeded := (links.map (·.document.pagesSucceeded)).sum }

/-- `_stream_checkpoint_chain_response`. -/
def streamCheckpointChainResponse (sha : Sha256) (casePublicId : Uuid) (chain : Chain) :
    Addressed ChainDocument :=
  let document : ChainDocument :=
    { casePublicId := casePublicId
      tipCheckpoint := chain.tip.row.publicId
      streamKey := chain.tip.row.streamKey
      rootAcquisitionMode := chain.root.plan.mode.acquisitionMode
      rootBaseSnapshot := chain.root.plan.baseSnapshot
      currentResumeState := chain.tip.document.continuation.resumeState
      nextPageIndex := chain.tip.document.continuation.continuationPageIndex
      aggregate := chainAggregate chain.links
      revisions := chain.links.map (·.revision) }
  ⟨sha (.chain document), document⟩

/-! ## Plans -/

/-- `max(checkpoints, key=id)`. -/
def newestCheckpoint (checkpoints : List (Nat × CheckpointRow)) : Option (Nat × CheckpointRow) :=
  checkpoints.foldl (fun newest c =>
    match newest with
    | none => some c
    | some n => if n.1 < c.1 then some c else some n) none

/-- One entry of `streams` in a plan. -/
def planStream (sha : Sha256) (casePublicId : Uuid) (chain : Chain) : PlanStream :=
  let response := streamCheckpointChainResponse sha casePublicId chain
  { tipCheckpoint := chain.tip.descriptor
    chain := response.publicId
    aggregate := response.document.aggregate
    resumeState := chain.tip.document.continuation.resumeState
    nextPageIndex := chain.tip.document.continuation.continuationPageIndex
    resumeBlocker := chain.tip.document.continuation.resumeBlocker }

/-- `_checkpoint_continuation_plan_response`. -/
def checkpointContinuationPlanResponse (sha : Sha256) (s : Store) (caseId : Nat)
    (casePublicId : Uuid) (checkpoints : List (Nat × CheckpointRow)) :
    Except ReadError (Addressed PlanDocument) := do
  verify (checkpoints.length ≤ maxContinuationPlanStreams)
    "Wallet Case continuation plan contains too many provider streams."
  let chains ← checkpoints.mapM (verifiedStreamCheckpointChain sha s caseId casePublicId)
  let document : PlanDocument :=
    { casePublicId := casePublicId
      checkpointCutoff := (newestCheckpoint checkpoints).map (·.2.publicId)
      streams := chains.map (planStream sha casePublicId) }
  return ⟨sha (.plan document), document⟩

/-! ## Progress -/

/-- `_backfill_frontier`. -/
def ChainLink.frontier (link : ChainLink) : Option Frontier :=
  link.document.lastSuccessfulPage.map fun page => ⟨link.descriptor.publicId, page⟩

/-- One entry of `streams` in a progress report. -/
def progressStream (sha : Sha256) (casePublicId : Uuid) (chain : Chain) : ProgressStream :=
  let response := streamCheckpointChainResponse sha casePublicId chain
  let initialPageCount := chain.root.document.pageCount
  let initialPagesSucceeded := chain.root.document.pagesSucceeded
  { rootCheckpoint := chain.root.descriptor.publicId
    tipCheckpoint := chain.tip.descriptor
    chain := response.publicId
    rootAcquisitionMode := chain.root.plan.mode.acquisitionMode
    requestedPeriod := chain.root.document.requestedPeriod
    aggregate := response.document.aggregate
    initialPageCount := initialPageCount
    initialPagesSucceeded := initialPagesSucceeded
    continuationRevisionCount := chain.links.length - 1
    continuationPageCount := response.document.aggregate.pageCount - initialPageCount
    continuationPagesSucceeded := response.document.aggregate.pagesSucceeded -
      initialPagesSucceeded
    resumeState := chain.tip.document.continuation.resumeState
    nextPageIndex := chain.tip.document.continuation.continuationPageIndex
    terminationReason := chain.tip.document.terminationReason
    resumeBlocker := chain.tip.document.continuation.resumeBlocker
    rootFrontier := chain.root.frontier
    currentFrontier := chain.links.reverse.findSome? (·.frontier) }

/-- One stream of `_backfill_progress_response`: the period may not change
within a chain. -/
def verifiedProgressStream (sha : Sha256) (s : Store) (caseId : Nat) (casePublicId : Uuid)
    (checkpoint : Nat × CheckpointRow) : Except ReadError ProgressStream := do
  let chain ← verifiedStreamCheckpointChain sha s caseId casePublicId checkpoint
  verify (chain.links.all fun link =>
      link.document.requestedPeriod = chain.root.document.requestedPeriod)
    "Stored Wallet Case backfill period changed within one stream chain."
  return progressStream sha casePublicId chain

/-- `_backfill_progress_response`. -/
def backfillProgressResponse (sha : Sha256) (s : Store) (caseId : Nat) (casePublicId : Uuid)
    (checkpoints : List (Nat × CheckpointRow)) :
    Except ReadError (Addressed ProgressDocument) := do
  verify (checkpoints.length ≤ maxContinuationPlanStreams)
    "Wallet Case backfill progress contains too many provider streams."
  let streams ← checkpoints.mapM (verifiedProgressStream sha s caseId casePublicId)
  let document : ProgressDocument :=
    { casePublicId := casePublicId
      checkpointCutoff := (newestCheckpoint checkpoints).map (·.2.publicId)
      streams := streams }
  return ⟨sha (.progress document), document⟩

/-- How many streams are in a state. -/
def ProgressDocument.count (document : ProgressDocument) (state : ResumeState) : Nat :=
  document.streams.countP fun stream => stream.resumeState = state

/-! ## Schedules -/

/-- The sort key of `ready_streams` before the stream key, by which the
streams are ordered already. -/
def leastContinued (a b : ProgressStream) : Bool :=
  decide (a.continuationPageCount < b.continuationPageCount) ||
    (a.continuationPageCount = b.continuationPageCount &&
      decide (a.continuationRevisionCount ≤ b.continuationRevisionCount))

/-- `ready_streams[0]` after the stable sort. -/
def selectedProgress (document : ProgressDocument) : Option ProgressStream :=
  (document.streams.filter fun stream => stream.resumeState = .ready).foldl
    (fun selected stream =>
      match selected with
      | none => some stream
      | some least => if leastContinued least stream then some least else some stream) none

/-- The selected stream is in the plan, ready at the same place. -/
def selectionAgrees (plan : PlanDocument) (selected : ProgressStream) : Bool :=
  match plan.streams.find? fun stream =>
      stream.tipCheckpoint.streamKey = selected.tipCheckpoint.streamKey with
  | none => false
  | some stream =>
      stream.resumeState = .ready &&
        stream.tipCheckpoint.publicId = selected.tipCheckpoint.publicId &&
        stream.nextPageIndex = selected.nextPageIndex

def ProgressStream.selection (stream : ProgressStream) : ScheduleSelection :=
  { streamKey := stream.tipCheckpoint.streamKey
    checkpoint := stream.tipCheckpoint.publicId
    continuationRevisionCount := stream.continuationRevisionCount
    continuationPageCount := stream.continuationPageCount
    nextPageIndex := stream.nextPageIndex }

/-- The state of a schedule and its selection. -/
def scheduleState (progress : ProgressDocument) (activeSync : Option Uuid) :
    ScheduleState × Option ScheduleSelection :=
  match activeSync, selectedProgress progress with
  | some _, _ => (.backpressured, none)
  | none, some selected => (.ready, some selected.selection)
  | none, none =>
      if progress.streams = [] then (.empty, none)
      else if 0 < progress.count .blocked then (.blocked, none)
      else (.complete, none)

/-- `_backfill_schedule_response`. -/
def backfillScheduleResponse (sha : Sha256) (casePublicId : Uuid)
    (progress : Addressed ProgressDocument) (plan : Addressed PlanDocument)
    (pageBudget : PageBudget) (activeSync : Option Uuid) :
    Except ReadError (Addressed ScheduleDocument) := do
  verify (progress.document.checkpointCutoff = plan.document.checkpointCutoff)
    "Wallet Case backfill schedule inputs have different checkpoint cutoffs."
  verify ((selectedProgress progress.document).all (selectionAgrees plan.document))
    "Wallet Case backfill schedule inputs disagree on the selected stream."
  let (state, selection) := scheduleState progress.document activeSync
  let document : ScheduleDocument :=
    { casePublicId := casePublicId
      inputProgress := progress.publicId
      inputPlan := plan.publicId
      checkpointCutoff := progress.document.checkpointCutoff
      pageBudget := pageBudget
      state := state
      streamCount := progress.document.streams.length
      readyCount := progress.document.count .ready
      completeCount := progress.document.count .complete
      blockedCount := progress.document.count .blocked
      activeSync := activeSync
      selection := selection }
  return ⟨sha (.schedule document), document⟩

end TonTracker
