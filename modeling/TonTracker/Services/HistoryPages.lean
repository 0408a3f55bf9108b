/-
# `Services.HistoryPages` — the histories of checkpoints and outcomes

`list_stream_checkpoint_history` and `list_backfill_outcome_history`
(`services/wallet_cases.py`) over their queries (`repositories/wallet_cases.py`).
Both are one journal read newest first: the first page takes the newest row
as cutoff, and every cursor names the cutoff and the last row before it.  A
cursor is its decoded document; a row that was selected is not looked up
again by its public id.
-/
import TonTracker.Services.ContinuationReceipts

namespace TonTracker

open ExceptFold (check present)

/-! ## Queries -/

namespace Store

variable (s : Store)

/-- The conditions on an outcome's sync: published, with a plan of version
6. -/
def outcomeEligible (caseId : Nat) (row : SyncRow) : Bool :=
  row.caseId = caseId && row.state.usable && row.plan.version = 6

/-- `latest_backfill_outcome_sync`. -/
def latestBackfillOutcomeSync? (caseId : Nat) : Option (Nat × SyncRow) :=
  s.syncs.latest? fun _ row => outcomeEligible caseId row

/-- `backfill_outcome_sync_history`. -/
def backfillOutcomeSyncHistory (caseId cutoff : Nat) (after : Option Nat) (limit : Nat) :
    List (Nat × SyncRow) :=
  (s.syncs.select fun id row => outcomeEligible caseId row && decide (id ≤ cutoff) &&
    after.all fun bound => id < bound).reverse.take limit

/-- `count_backfill_outcome_sync_history`. -/
def countBackfillOutcomeSyncHistory (caseId cutoff : Nat) : Nat :=
  s.syncs.rowcount fun id row => outcomeEligible caseId row && decide (id ≤ cutoff)

end Store

/-! ## Pages -/

/-- The document of a cursor. -/
structure HistoryCursor (Id : Type) where
  casePublicId : Uuid
  cutoff : Id
  after : Id
deriving DecidableEq

structure HistoryPage (Id Item : Type) where
  cutoff : Option Id
  items : List Item
  total : Nat
  nextCursor : Option (HistoryCursor Id)

/-- A journal of a case. -/
structure History (Id Row Item : Type) where
  name : String
  maximum : Nat
  newest? : Store → Nat → Option (Nat × Row)
  row? : Store → Nat → Id → Option (Nat × Row)
  publicId : Row → Id
  /-- Whether a cursor may name the row. -/
  admits : Row → Except ReadError Bool
  select : Store → Nat → Nat → Option Nat → Nat → List (Nat × Row)
  count : Store → Nat → Nat → Nat
  item : Store → Nat → Uuid → Nat × Row → Except ReadError Item

namespace History

variable {Id Row Item : Type} (h : History Id Row Item)

def invalidCursor (text : String) : ReadError := .invalidCursor (h.name ++ text)

/-- `after`, looked up and checked. -/
def position (s : Store) (caseId : Nat) (cutoff : Nat × Row) :
    Option (HistoryCursor Id) → Except ReadError (Option Nat)
  | none => .ok none
  | some cursor =>
      match h.row? s caseId cursor.after with
      | none => .error (h.invalidCursor " cursor position is unavailable.")
      | some after => do
          check (after.1 ≤ cutoff.1) (h.invalidCursor " cursor position is unavailable.")
          let admitted ← h.admits after.2
          check (admitted = true) (h.invalidCursor " cursor position is unavailable.")
          return some after.1

/-- A page below a cutoff. -/
def page (s : Store) (caseId : Nat) (casePublicId : Uuid) (limit : Nat) (cutoff : Nat × Row)
    (after : Option Nat) : Except ReadError (HistoryPage Id Item) := do
  let rows := h.select s caseId cutoff.1 after (limit + 1)
  let hasMore := decide (limit < rows.length)
  let visible := rows.take limit
  let items ← visible.mapM (h.item s caseId casePublicId)
  return {
    cutoff := some (h.publicId cutoff.2)
    items := items
    total := h.count s caseId cutoff.1
    nextCursor := if hasMore then visible.getLast?.map fun last =>
        ⟨casePublicId, h.publicId cutoff.2, h.publicId last.2⟩
      else none }

/-- What the two list functions have in common. -/
def list (s : Store) (owner : Text) (casePublicId : Uuid) (limit : Nat)
    (cursor : Option (HistoryCursor Id)) : Except ReadError (HistoryPage Id Item) := do
  check (1 ≤ limit ∧ limit ≤ h.maximum)
    (h.invalidCursor (" limit must be between 1 and " ++ toString h.maximum ++ "."))
  let (caseId, c) ← s.requiredCase owner casePublicId
  check (cursor.all (fun given => decide (given.casePublicId = c.publicId)) = true)
    (h.invalidCursor " cursor belongs to another Wallet Case.")
  match (match cursor with
    | none => h.newest? s caseId
    | some given => h.row? s caseId given.cutoff) with
  | none => do
      check (cursor.isNone = true) (h.invalidCursor " cursor cutoff is unavailable.")
      return ⟨none, [], 0, none⟩
  | some cutoff => do
      let admitted ← h.admits cutoff.2
      check (admitted = true) (h.invalidCursor " cursor cutoff is unavailable.")
      let after ← h.position s caseId cutoff cursor
      h.page s caseId c.publicId limit cutoff after

/-- Following `next_cursor`: the pages that are returned of the requests,
and the cursor that is left. -/
def follow (owner : Text) (casePublicId : Uuid) :
    List (Store × Nat) → Option (HistoryCursor Id) →
      Except ReadError (List (HistoryPage Id Item) × Option (HistoryCursor Id))
  | [], cursor => .ok ([], cursor)
  | (s, limit) :: later, cursor => do
      let page ← h.list s owner casePublicId limit cursor
      match page.nextCursor with
      | none => return ([page], none)
      | some next =>
          let (pages, left) ← follow owner casePublicId later (some next)
          return (page :: pages, left)

end History

/-! ## Checkpoints -/

/-- An item of `list_stream_checkpoint_history`, with its lineage. -/
structure CheckpointHistoryItem where
  checkpoint : CheckpointDescriptor
  acquisitionMode : AcquisitionMode
  baseSnapshot : Option Uuid
  parentCheckpoint : Option HexDigest
  chainDepth : Nat
  continuationPageIndex : Option Nat
  pageCount : Nat
  pagesSucceeded : Nat
deriving DecidableEq

def checkpointHistoryItem (sha : Sha256) (s : Store) (caseId : Nat) (casePublicId : Uuid)
    (checkpoint : Nat × CheckpointRow) : Except ReadError CheckpointHistoryItem := do
  let chain ← verifiedStreamCheckpointChain sha s caseId casePublicId checkpoint
  return {
    checkpoint := chain.tip.descriptor
    acquisitionMode := chain.tip.plan.mode.acquisitionMode
    baseSnapshot := chain.tip.plan.baseSnapshot
    parentCheckpoint := chain.tip.plan.sourceCheckpoint
    chainDepth := chain.links.length - 1
    continuationPageIndex := chain.tip.document.continuation.continuationPageIndex
    pageCount := chain.tip.document.pageCount
    pagesSucceeded := chain.tip.document.pagesSucceeded }

/-- `list_stream_checkpoint_history`. -/
def streamCheckpointHistory (sha : Sha256) :
    History HexDigest CheckpointRow CheckpointHistoryItem where
  name := "Checkpoint history"
  maximum := 50
  newest? := Store.latestStreamCheckpoint?
  row? := Store.streamCheckpoint?
  publicId := CheckpointRow.publicId
  admits := fun _ => .ok true
  select := Store.streamCheckpointHistory
  count := Store.countStreamCheckpointHistory
  item := checkpointHistoryItem sha

/-! ## Outcomes -/

/-- An item of `list_backfill_outcome_history`. -/
structure OutcomeHistoryItem where
  outcome : Addressed OutcomeDocument
  completedAt : Instant
  beforeContinuationPagesSucceeded : Nat
  afterContinuationPagesSucceeded : Nat
  frontierChanged : Bool
deriving DecidableEq

/-- `_is_backfill_outcome_history_sync`. -/
def isBackfillOutcomeHistorySync (row : SyncRow) : Except ReadError Bool :=
  if row.state.usable then
    match row.acquisitionPlan with
    | .ok plan => .ok (plan.version = 6)
    | .error .invalid => .ok false
    | .error .overflowError => .error .overflowError
  else .ok false

def outcomeHistoryItem (sha : Sha256) (s : Store) (caseId : Nat) (casePublicId : Uuid)
    (sync : Nat × SyncRow) : Except ReadError OutcomeHistoryItem := do
  let completedAt ← orCorrupt sync.2.completedAt
    "Stored Wallet Case Backfill Outcome history time is invalid."
  let verified ← backfillOutcome sha s caseId casePublicId sync
  return {
    outcome := verified
    completedAt := completedAt
    beforeContinuationPagesSucceeded :=
      verified.document.inputProgress.total (·.continuationPagesSucceeded)
    afterContinuationPagesSucceeded :=
      verified.document.outputProgress.total (·.continuationPagesSucceeded)
    frontierChanged := verified.document.transition.frontierChanged }

/-- `list_backfill_outcome_history`. -/
def backfillOutcomeHistory (sha : Sha256) : History Uuid SyncRow OutcomeHistoryItem where
  name := "Backfill Outcome history"
  maximum := 20
  newest? := Store.latestBackfillOutcomeSync?
  row? := Store.sync?
  publicId := SyncRow.publicId
  admits := isBackfillOutcomeHistorySync
  select := Store.backfillOutcomeSyncHistory
  count := Store.countBackfillOutcomeSyncHistory
  item := outcomeHistoryItem sha

end TonTracker
