/-
# `Services.SyncPlanning` — what an accepted request commits

The parts of `enqueue_sync` and `enqueue_checkpoint_resume` between the
checks on the case and the insert: the requested interval, the acquisition
interval inside it, and the plan stored with the row
(`services/wallet_cases.py`).  The rows these functions read are
arguments; every planned interval is nonempty, and says so in its type.
-/
import TonTracker.Services.AcquisitionPlan

namespace TonTracker

inductive Surface where
  | transfers
  | transactions
  | swaps
  | balances
  | jettons
deriving DecidableEq, Repr

inductive SyncMode where
  | bounded
  | incremental
deriving DecidableEq, Repr

/-- `WalletCaseSyncRequest`, past its validators. -/
structure SyncRequest where
  mode : SyncMode
  timeWindow : TimeWindow
  customStart : Option Text
  customEnd : Option Text
  surfaces : List Surface
  /-- `_require_surfaces`. -/
  surfacesValid : surfaces ≠ [] ∧ surfaces.Nodup
  /-- `_validate_window_scope`. -/
  windowValid : match mode with
    | .incremental => timeWindow = .day ∧ customStart = none ∧ customEnd = none
    | .bounded =>
        if timeWindow = .custom then
          (∃ start, customStart = some start ∧ start ≠ []) ∧ ∃ stop, customEnd = some stop ∧ stop ≠ []
        else customStart = none ∧ customEnd = none

/-- The interval and plan of the row an accepted request commits. -/
structure PlannedSync (P D : Type) where
  timeWindow : TimeWindow
  requestedStart : Instant
  requestedEnd : Instant
  ordered : requestedStart < requestedEnd
  surfaces : List Surface
  plan : AcquisitionPlan P D

variable {P D : Type}

/-- The columns of the planned row that the plan reader reads. -/
def PlannedSync.stored (texts : IdTexts P D) (planned : PlannedSync P D) : StoredPlan :=
  ⟨planned.requestedStart, planned.requestedEnd, .obj (planned.plan.toDict texts)⟩

/-! ## Bounded and incremental requests -/

/-- The latest usable sync of a case, as `enqueue_sync` reads it. -/
structure BaseSnapshot (P : Type) where
  publicId : P
  requestedStart : Instant
  requestedEnd : Instant
  ordered : requestedStart < requestedEnd
  surfaces : List Surface

/-- `_INCREMENTAL_OVERLAP`, in microseconds. -/
def incrementalOverlap : Nat := 15 * 60 * microsPerSecond

/-- The bounded branch of `enqueue_sync`. -/
def planBounded (request : SyncRequest) (queuedAt : Instant) :
    Except PlanningError (PlannedSync P D) := do
  let bounds ← resolveWalletAcquisitionBounds request.timeWindow request.customStart
    request.customEnd queuedAt
  .ok
    { timeWindow := request.timeWindow
      requestedStart := bounds.start
      requestedEnd := bounds.stop
      ordered := bounds.ordered
      surfaces := request.surfaces
      plan := ⟨bounds.start.isoformat, bounds.stop.isoformat, .bounded⟩ }

/-- `int((base_end - acquisition_start).total_seconds())`, at least zero. -/
def overlapSeconds (baseEnd acquisitionStart : Instant) : Nat :=
  (baseEnd.micros - acquisitionStart.micros) / microsPerSecond

/-- The incremental branch of `enqueue_sync`. -/
def planIncremental (request : SyncRequest) (base : Option (BaseSnapshot P))
    (queuedAt : Instant) : Except PlanningError (PlannedSync P D) :=
  match base with
  | none =>
      .error (.incrementalUnavailable
        "Build a usable bounded snapshot before requesting an incremental refresh.")
  | some base =>
      if base.surfaces.all request.surfaces.contains && request.surfaces.all base.surfaces.contains
      then
        if h : queuedAt ≤ base.requestedEnd then
          .error (.incrementalUnavailable
            "The base snapshot already reaches or exceeds the current refresh time.")
        else
          match base.requestedEnd.minus incrementalOverlap with
          | none => .error .overflowError
          | some overlapStart =>
              let acquisitionStart := max base.requestedStart overlapStart
              .ok
                { timeWindow := .custom
                  requestedStart := base.requestedStart
                  requestedEnd := queuedAt
                  ordered := lt_trans base.ordered (not_le.mp h)
                  surfaces := request.surfaces
                  plan := ⟨acquisitionStart.isoformat, queuedAt.isoformat,
                    .incremental (overlapSeconds base.requestedEnd acquisitionStart)
                      base.publicId⟩ }
      else
        .error (.incrementalUnavailable
          "Incremental refresh surfaces must match the base snapshot.")

/-- The planning part of `enqueue_sync`. -/
def planSync (request : SyncRequest) (base : Option (BaseSnapshot P)) (queuedAt : Instant) :
    Except PlanningError (PlannedSync P D) :=
  match request.mode with
  | .incremental => planIncremental request base queuedAt
  | .bounded => planBounded request queuedAt

/-! ## Checkpoint resumes -/

/-- The state of a sync whose checkpoint is resumed, as far as it matters. -/
structure ResumeSource (P D : Type) where
  checkpoint : D
  streamKey : StreamKey
  resumeState : ResumeState
  /-- `document["requested_period"]`. -/
  periodStart : Option Text
  periodEnd : Option Text
  continuationCursor : Option Text
  continuationPageIndex : Option Nat
  sourceSync : P
  sourcePublished : Bool
  sourceSurfaces : List Surface
  sourceRow : StoredPlan

/-- A check that raises. -/
def ensure (holds : Bool) (error : PlanningError) : Except PlanningError Unit :=
  if holds then .ok () else .error error

def corrupt {α : Type} (message : String) : Except PlanningError α :=
  .error (.checkpointCorrupt message)

/-- The part of `_stream_checkpoint_response` that reads the source plan:
the checkpoint's period is the plan's. -/
def verifiedPeriod (source : ResumeSource P D) : Except PlanningError (Text × Text) :=
  match syncAcquisitionPlan source.sourceRow with
  | .error .invalid => corrupt "Stored Wallet Case stream checkpoint acquisition plan is invalid."
  | .error .overflowError => .error .overflowError
  | .ok plan =>
      match source.periodStart, source.periodEnd with
      | some start, some stop =>
          if planText plan "start_at" = some start ∧ planText plan "end_at" = some stop then
            .ok (start, stop)
          else corrupt "Stored Wallet Case stream checkpoint identity is inconsistent."
      | _, _ => corrupt "Stored Wallet Case stream checkpoint identity is inconsistent."

/-- The surfaces of the source sync that a stream carries. -/
def resumedSurfaces (streamKey : StreamKey) (surfaces : List Surface) : List Surface :=
  match streamKey with
  | .transactions => surfaces.filter fun s => s == .transactions
  | .accountEvents => surfaces.filter fun s => s == .transfers || s == .swaps

/-- A bound of the checkpoint's period: its canonical text and instant. -/
def periodBound (text : Text) : Except PlanningError (Text × Instant) :=
  match canonicalRequestTimestamp text with
  | .error .valueError => corrupt "Stored Wallet Case stream checkpoint period is invalid."
  | .error .overflowError => .error .overflowError
  | .ok canonical =>
      match parseCanonicalTimestamp canonical with
      | .error .valueError => corrupt "Stored Wallet Case stream checkpoint period is invalid."
      | .error .overflowError => .error .overflowError
      | .ok t => .ok (canonical, t)

/-- The planning part of `enqueue_checkpoint_resume`. -/
def planResume (source : ResumeSource P D) (authority : ResumeAuthority D) :
    Except PlanningError (PlannedSync P D) := do
  let (periodStart, periodEnd) ← verifiedPeriod source
  ensure (source.resumeState = .ready)
    (.resumeUnavailable "This provider stream checkpoint is not ready to resume.")
  ensure source.sourcePublished
    (.checkpointCorrupt "Stored Wallet Case stream checkpoint source sync is unusable.")
  let surfaces := resumedSurfaces source.streamKey source.sourceSurfaces
  ensure (surfaces ≠ [])
    (.checkpointCorrupt "Stored Wallet Case stream checkpoint has no matching source surface.")
  let (startText, acquisitionStart) ← periodBound periodStart
  let (endText, acquisitionEnd) ← periodBound periodEnd
  let requestedStart := source.sourceRow.requestedStart
  let requestedEnd := source.sourceRow.requestedEnd
  if h : requestedStart ≤ acquisitionStart ∧ acquisitionEnd = requestedEnd ∧
      acquisitionStart < acquisitionEnd then
    match source.continuationCursor, source.continuationPageIndex with
    | some cursor, some pageIndex =>
        if isLogicalTimeText (.str cursor) && decide (1 ≤ pageIndex) then
          .ok
            { timeWindow := .custom
              requestedStart := requestedStart
              requestedEnd := requestedEnd
              ordered := h.2.1 ▸ lt_of_le_of_lt h.1 h.2.2
              surfaces := surfaces
              plan := ⟨startText, endText, .resume
                { baseSnapshot := source.sourceSync
                  sourceCheckpoint := source.checkpoint
                  streamKey := source.streamKey
                  cursor := cursor
                  pageIndex := pageIndex
                  authority := authority }⟩ }
        else corrupt "Stored Wallet Case stream checkpoint continuation is invalid."
    | _, _ => corrupt "Stored Wallet Case stream checkpoint continuation is invalid."
  else corrupt "Stored Wallet Case stream checkpoint period escaped its source sync."

/-! ## Requests -/

/-- A request with the rows its entry point reads. -/
inductive EnqueueRequest (P D : Type) where
  | sync (request : SyncRequest) (base : Option (BaseSnapshot P)) (queuedAt : Instant)
  | checkpointResume (source : ResumeSource P D) (authority : ResumeAuthority D)

/-- What an accepted request commits. -/
def EnqueueRequest.planned : EnqueueRequest P D → Except PlanningError (PlannedSync P D)
  | .sync request base queuedAt => planSync request base queuedAt
  | .checkpointResume source authority => planResume source authority

end TonTracker
