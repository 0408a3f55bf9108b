/-
# `Services.ContinuationReceipts` — receipts and outcomes of resumed syncs

`get_checkpoint_continuation_receipt` and `get_backfill_outcome`
(`services/wallet_cases.py`): a published resume is read back as the step
from the chain it continued to the chain it published, a scheduled one also
as the step between two progress reports.  Every read recomputes both from
the stored rows.
-/
import TonTracker.Lib.ExceptFold
import TonTracker.Services.CheckpointLineage

namespace TonTracker

open ExceptFold (check present)

/-! ## The case and the sync -/

/-- `_required_case`. -/
def Store.requiredCase (s : Store) (owner : Text) (casePublicId : Uuid) :
    Except ReadError (Nat × CaseRow) :=
  match s.caseByPublicId? owner casePublicId with
  | some found => .ok found
  | none => .error (.notFound "Wallet Case not found")

/-- `get_sync`, of a sync that must be there. -/
def Store.requiredSync (s : Store) (caseId : Nat) (syncPublicId : Uuid) :
    Except ReadError (Nat × SyncRow) :=
  match s.sync? caseId syncPublicId with
  | some found => .ok found
  | none => .error (.notFound "Wallet Case sync not found")

/-- What a resume that a plan or a schedule authorised was bound to. -/
structure PlanBinding where
  continuationPlan : HexDigest
  pageBudget : PageBudget
  schedule : Option HexDigest

/-- What a schedule adds. -/
structure ScheduleBinding where
  continuationPlan : HexDigest
  pageBudget : PageBudget
  schedule : HexDigest
  progress : HexDigest
  checkpointCutoff : HexDigest

def ResumeAuthority.planBinding : ResumeAuthority HexDigest → Option PlanBinding
  | .direct => none
  | .plan continuationPlan budget => some ⟨continuationPlan, budget, none⟩
  | .schedule continuationPlan budget backfillSchedule _ _ =>
      some ⟨continuationPlan, budget, some backfillSchedule⟩

def ResumeAuthority.scheduleBinding : ResumeAuthority HexDigest → Option ScheduleBinding
  | .schedule continuationPlan budget backfillSchedule progress cutoff =>
      some ⟨continuationPlan, budget, backfillSchedule, progress, cutoff⟩
  | _ => none

/-- The resume of a plan of version 4 or 6. -/
def AcquisitionPlan.planBound (plan : Plan) : Option (ResumePlan Uuid HexDigest × PlanBinding) :=
  plan.resume?.bind fun resume => resume.authority.planBinding.map fun bound => (resume, bound)

/-- The resume of a plan of version 6. -/
def AcquisitionPlan.scheduleBound (plan : Plan) :
    Option (ResumePlan Uuid HexDigest × ScheduleBinding) :=
  plan.resume?.bind fun resume => resume.authority.scheduleBinding.map fun bound => (resume, bound)

/-! ## Receipts -/

/-- The checkpoint that was continued, and the only one that was
published. -/
def Store.receiptCheckpoints (s : Store) (caseId syncId : Nat) (source : HexDigest) :
    Option ((Nat × CheckpointRow) × (Nat × CheckpointRow)) :=
  match s.streamCheckpoint? caseId source, s.streamCheckpointsForSync caseId syncId with
  | some source, [output] => some (source, output)
  | _, _ => none

/-- The output is the source and one more revision. -/
def directRevision (source output : Chain) : Bool :=
  (output.links.map (·.row.publicId)).dropLast = source.links.map (·.row.publicId) &&
    decide (output.tip.row.publicId ≠ source.tip.row.publicId)

def receiptTransition (before after : ChainAggregate) : ReceiptTransition :=
  { revisionDelta := (after.revisionCount : Int) - before.revisionCount
    pageCountDelta := (after.pageCount : Int) - before.pageCount
    pagesSucceededDelta := (after.pagesSucceeded : Int) - before.pagesSucceeded }

/-- The document of a receipt. -/
def receiptDocument (sha : Sha256) (casePublicId syncPublicId : Uuid) (bound : PlanBinding)
    (source output : Chain) (afterPlan : Addressed PlanDocument) : ReceiptDocument :=
  let sourceChain := streamCheckpointChainResponse sha casePublicId source
  let outputChain := streamCheckpointChainResponse sha casePublicId output
  { casePublicId := casePublicId
    syncPublicId := syncPublicId
    inputPlan := bound.continuationPlan
    inputCheckpoint := source.tip.descriptor
    inputChain := sourceChain.publicId
    inputAggregate := sourceChain.document.aggregate
    inputNextPageIndex := source.tip.document.continuation.continuationPageIndex
    pageBudget := bound.pageBudget
    inputSchedule := bound.schedule
    outputCheckpoint := output.tip.descriptor
    outputChain := outputChain.publicId
    outputAggregate := outputChain.document.aggregate
    outputResumeState := output.tip.document.continuation.resumeState
    outputNextPageIndex := output.tip.document.continuation.continuationPageIndex
    outputResumeBlocker := output.tip.document.continuation.resumeBlocker
    afterPlanId := afterPlan.publicId
    afterPlan := afterPlan.document
    transition := receiptTransition sourceChain.document.aggregate outputChain.document.aggregate }

/-- One revision more, no page less, and another plan. -/
def ReceiptDocument.advances (document : ReceiptDocument) : Bool :=
  document.transition.revisionDelta = 1 && decide (0 ≤ document.transition.pageCountDelta) &&
    decide (0 ≤ document.transition.pagesSucceededDelta) &&
    decide (document.afterPlanId ≠ document.inputPlan)

/-- The fingerprint of a scheduled request. -/
def scheduledFingerprint (sha : Sha256) (resume : ResumePlan Uuid HexDigest) (row : SyncRow) :
    Bool :=
  resume.authority.scheduleBinding.isNone ||
    decide (row.requestFingerprint =
      sha (.request (.checkpointResume resume.sourceCheckpoint resume.authority)))

/-- What was fetched is within the budget. -/
def ReceiptDocument.budgeted (document : ReceiptDocument) : Bool :=
  decide (document.transition.pageCountDelta ≤ document.pageBudget.val) &&
    decide (document.transition.pagesSucceededDelta ≤ document.transition.pageCountDelta)

/-- `get_checkpoint_continuation_receipt`, of a sync of the case. -/
def continuationReceipt (sha : Sha256) (s : Store) (caseId : Nat) (casePublicId : Uuid)
    (sync : Nat × SyncRow) : Except ReadError (Addressed ReceiptDocument) := do
  let plan ← sync.2.verifiedPlan
    "Stored Wallet Case continuation receipt lineage is invalid."
  let (resume, bound) ← present plan.planBound
    (.receiptNotFound "This sync was not accepted from a verified Continuation Plan.")
  check (sync.2.state.usable = true)
    (.receiptNotFound "This plan-bound continuation has not published a result.")
  let (source, output) ← orCorrupt (s.receiptCheckpoints caseId sync.1 resume.sourceCheckpoint)
    "Stored Wallet Case continuation receipt checkpoints are invalid."
  verify (output.2.streamKey = source.2.streamKey)
    "Stored Wallet Case continuation receipt stream changed identity."
  let sourceChain ← verifiedStreamCheckpointChain sha s caseId casePublicId source
  let outputChain ← verifiedStreamCheckpointChain sha s caseId casePublicId output
  verify (directRevision sourceChain outputChain)
    "Stored Wallet Case continuation receipt is not a direct revision."
  let afterPlan ← checkpointContinuationPlanResponse sha s caseId casePublicId
    (s.latestStreamCheckpointsAtCutoff caseId (some output.1))
  verify (afterPlan.document.checkpointCutoff = some output.2.publicId)
    "Stored Wallet Case continuation receipt cutoff is invalid."
  let document := receiptDocument sha casePublicId sync.2.publicId bound sourceChain
    outputChain afterPlan
  verify document.advances
    "Stored Wallet Case continuation receipt transition is invalid."
  verify (scheduledFingerprint sha resume sync.2)
    "Stored Wallet Case scheduled continuation fingerprint is invalid."
  verify document.budgeted "Stored Wallet Case continuation receipt budget is invalid."
  return ⟨sha (.receipt document), document⟩

/-- `get_checkpoint_continuation_receipt`. -/
def getCheckpointContinuationReceipt (sha : Sha256) (s : Store) (owner : Text)
    (casePublicId syncPublicId : Uuid) : Except ReadError (Addressed ReceiptDocument) := do
  let (caseId, c) ← s.requiredCase owner casePublicId
  let sync ← s.requiredSync caseId syncPublicId
  continuationReceipt sha s caseId c.publicId sync

/-! ## Outcomes -/

/-- A sum over the streams. -/
def ProgressDocument.total (document : ProgressDocument) (f : ProgressStream → Nat) : Nat :=
  (document.streams.map f).sum

/-- A stream of a progress report. -/
def ProgressDocument.stream? (document : ProgressDocument) (key : StreamKey) :
    Option ProgressStream :=
  document.streams.find? fun stream => stream.tipCheckpoint.streamKey = key

def delta (before after : ProgressDocument) (f : ProgressStream → Nat) : Int :=
  (after.total f : Int) - before.total f

def stateDelta (before after : ProgressDocument) (state : ResumeState) : Int :=
  (after.count state : Int) - before.count state

/-- `transition` of `get_backfill_outcome`. -/
def outcomeTransition (selection : ScheduleSelection) (before after : ProgressDocument)
    (beforeStream afterStream : ProgressStream) : OutcomeTransition :=
  { streamKey := selection.streamKey
    inputCheckpoint := selection.checkpoint
    outputCheckpoint := afterStream.tipCheckpoint.publicId
    beforeResumeState := beforeStream.resumeState
    afterResumeState := afterStream.resumeState
    revisionDelta := delta before after (·.aggregate.revisionCount)
    pageCountDelta := delta before after (·.aggregate.pageCount)
    pagesSucceededDelta := delta before after (·.aggregate.pagesSucceeded)
    continuationRevisionDelta := delta before after (·.continuationRevisionCount)
    continuationPageCountDelta := delta before after (·.continuationPageCount)
    continuationPagesSucceededDelta := delta before after (·.continuationPagesSucceeded)
    readyCountDelta := stateDelta before after .ready
    completeCountDelta := stateDelta before after .complete
    blockedCountDelta := stateDelta before after .blocked
    frontierChanged := decide (beforeStream.currentFrontier ≠ afterStream.currentFrontier) }

/-- The transition is the one of the receipt. -/
def OutcomeTransition.agrees (transition : OutcomeTransition) (receipt : ReceiptTransition) :
    Bool :=
  transition.beforeResumeState = .ready && transition.revisionDelta = 1 &&
    transition.continuationRevisionDelta = 1 &&
    transition.pageCountDelta = receipt.pageCountDelta &&
    transition.pagesSucceededDelta = receipt.pagesSucceededDelta &&
    transition.continuationPageCountDelta = transition.pageCountDelta &&
    transition.continuationPagesSucceededDelta = transition.pagesSucceededDelta

def OutcomeTransition.outcomeState (transition : OutcomeTransition) : OutcomeState :=
  if transition.afterResumeState = .complete then .completed
  else if transition.afterResumeState = .blocked then .blocked
  else if 0 < transition.pagesSucceededDelta then .advanced
  else .noProgress

/-- The inputs are the ones the request was accepted with. -/
def outcomeInputs (resume : ResumePlan Uuid HexDigest) (bound : ScheduleBinding)
    (receipt : ReceiptDocument) (inputProgress : Addressed ProgressDocument)
    (inputSchedule : Addressed ScheduleDocument) (outputProgress : Addressed ProgressDocument)
    (outputCutoff : CheckpointRow) : Bool :=
  inputProgress.publicId = bound.progress && inputSchedule.publicId = bound.schedule &&
    inputSchedule.document.inputPlan = bound.continuationPlan &&
    inputSchedule.document.selection.map (·.checkpoint) = some resume.sourceCheckpoint &&
    receipt.inputSchedule = some inputSchedule.publicId &&
    outputProgress.document.checkpointCutoff = some outputCutoff.publicId

/-- The two cutoffs. -/
def Store.outcomeBoundaries (s : Store) (caseId : Nat) (input output : HexDigest) :
    Option ((Nat × CheckpointRow) × (Nat × CheckpointRow)) :=
  match s.streamCheckpoint? caseId input, s.streamCheckpoint? caseId output with
  | some input, some output => some (input, output)
  | _, _ => none

/-- The selected stream before and after. -/
def outcomeStreams (before after : ProgressDocument) (key : StreamKey) :
    Option (ProgressStream × ProgressStream) :=
  match before.stream? key, after.stream? key with
  | some beforeStream, some afterStream => some (beforeStream, afterStream)
  | _, _ => none

/-- The document of an outcome. -/
def outcomeDocument (casePublicId syncPublicId : Uuid) (inputSchedule : Addressed ScheduleDocument)
    (inputProgress : Addressed ProgressDocument) (receipt : Addressed ReceiptDocument)
    (outputProgress : Addressed ProgressDocument) (transition : OutcomeTransition) :
    OutcomeDocument :=
  { casePublicId := casePublicId
    syncPublicId := syncPublicId
    inputScheduleId := inputSchedule.publicId
    inputSchedule := inputSchedule.document
    inputProgressId := inputProgress.publicId
    inputProgress := inputProgress.document
    receiptId := receipt.publicId
    receipt := receipt.document
    outputProgressId := outputProgress.publicId
    outputProgress := outputProgress.document
    outcome := transition.outcomeState
    transition := transition }

/-- `get_backfill_outcome`, of a sync of the case. -/
def backfillOutcome (sha : Sha256) (s : Store) (caseId : Nat) (casePublicId : Uuid)
    (sync : Nat × SyncRow) : Except ReadError (Addressed OutcomeDocument) := do
  let plan ← sync.2.verifiedPlan
    "Stored Wallet Case backfill outcome provenance is invalid."
  let (resume, bound) ← present plan.scheduleBound
    (.outcomeNotFound "This sync has no reproducible Backfill Outcome.")
  check (sync.2.state.usable = true)
    (.outcomeNotFound "This scheduled backfill has not published a result.")
  let receipt ← continuationReceipt sha s caseId casePublicId sync
  verify receipt.document.inputSchedule.isSome
    "Stored Wallet Case backfill outcome receipt is invalid."
  let (inputCutoff, outputCutoff) ← orCorrupt
    (s.outcomeBoundaries caseId bound.checkpointCutoff receipt.document.outputCheckpoint.publicId)
    "Stored Wallet Case backfill outcome boundaries are unavailable."
  let inputTips := s.latestStreamCheckpointsAtCutoff caseId (some inputCutoff.1)
  let outputTips := s.latestStreamCheckpointsAtCutoff caseId (some outputCutoff.1)
  let inputProgress ← backfillProgressResponse sha s caseId casePublicId inputTips
  let inputPlan ← checkpointContinuationPlanResponse sha s caseId casePublicId inputTips
  let inputSchedule ← backfillScheduleResponse sha casePublicId inputProgress inputPlan
    bound.pageBudget none
  let outputProgress ← backfillProgressResponse sha s caseId casePublicId outputTips
  verify (outcomeInputs resume bound receipt.document inputProgress inputSchedule
      outputProgress outputCutoff.2)
    "Stored Wallet Case backfill outcome inputs changed identity."
  let selection ← orCorrupt inputSchedule.document.selection
    "Stored Wallet Case backfill outcome has no input selection."
  let (before, after) ← orCorrupt
    (outcomeStreams inputProgress.document outputProgress.document selection.streamKey)
    "Stored Wallet Case backfill outcome stream is unavailable."
  let transition := outcomeTransition selection inputProgress.document outputProgress.document
    before after
  verify (transition.agrees receipt.document.transition)
    "Stored Wallet Case backfill outcome transition is invalid."
  let document := outcomeDocument casePublicId sync.2.publicId inputSchedule inputProgress
    receipt outputProgress transition
  return ⟨sha (.outcome document), document⟩

/-- `get_backfill_outcome`. -/
def getBackfillOutcome (sha : Sha256) (s : Store) (owner : Text)
    (casePublicId syncPublicId : Uuid) : Except ReadError (Addressed OutcomeDocument) := do
  let (caseId, c) ← s.requiredCase owner casePublicId
  let sync ← s.requiredSync caseId syncPublicId
  backfillOutcome sha s caseId c.publicId sync

end TonTracker
