/-
# `Client.CoverageTimeline` — the timeline of backfill outcomes

`buildWalletCaseBackfillCoverageTimeline`
(`frontend/src/walletCaseBackfillCoverageTimeline.ts`): the items of the
outcome history, as the pages that were followed returned them, checked and
turned into points, oldest first.  Ids are typed, so their patterns hold;
`Date.parse` keeps milliseconds; a number is an integer that
`Number.isSafeInteger` may refuse.
-/
import Mathlib.Algebra.Order.Ring.Int
import TonTracker.Services.HistoryPages

namespace TonTracker

open ExceptFold (check)

/-! ## Sources -/

/-- A limitation of a document. -/
structure Limitation where
  code : String
  message : String
deriving DecidableEq

/-- `WalletCaseBackfillCoverageSource`. -/
structure CoverageSource where
  casePublicId : Uuid
  syncCutoffPublicId : Option Uuid
  totalOutcomes : Int
  items : List OutcomeHistoryItem
  hasMore : Bool
  limitations : List Limitation

/-- `view`, with the pages that `loadMore` appends. -/
def coverageSource (casePublicId : Uuid) (pages : List (HistoryPage Uuid OutcomeHistoryItem))
    (left : Option (HistoryCursor Uuid)) (limitations : List Limitation) : CoverageSource :=
  { casePublicId := casePublicId
    syncCutoffPublicId := pages.head?.bind (·.cutoff)
    totalOutcomes := (pages.head?.map (·.total)).getD 0
    items := pages.flatMap (·.items)
    hasMore := left.isSome
    limitations := limitations }

/-! ## Checks -/

/-- `Number.MAX_SAFE_INTEGER`. -/
def maxSafeInteger : Int := 2 ^ 53 - 1

def finiteInteger (value : Int) (label : String) : Except String Int :=
  if 0 ≤ value ∧ value ≤ maxSafeInteger then .ok value else .error (label ++ " is invalid.")

/-- `timestamp`, in milliseconds. -/
def timestamp (value : Instant) : Nat := value.micros / 1000

/-- `validateSource`. -/
def validateSource (source : CoverageSource) : Except String Unit := do
  let total ← finiteInteger source.totalOutcomes "Backfill coverage timeline total outcomes"
  check ((source.items.length : Int) ≤ total ∧
      (source.syncCutoffPublicId.isNone = decide (total = 0)) ∧
      source.hasMore = decide ((source.items.length : Int) < total))
    "Backfill coverage timeline window is inconsistent."

/-- What the loop over the items has seen. -/
structure SeenOutcomes where
  outcomeIds : List HexDigest
  syncIds : List Uuid
  previousNewestTimestamp : Option Nat

/-- One round of the loop. -/
def validateOutcome (seen : SeenOutcomes) (entry : OutcomeHistoryItem × Nat) :
    Except String SeenOutcomes := do
  let (item, index) := entry
  let label := "Backfill coverage timeline outcome " ++ toString index
  let completedAt := timestamp item.completedAt
  check (item.outcome.publicId ∉ seen.outcomeIds ∧
      item.outcome.document.syncPublicId ∉ seen.syncIds ∧
      seen.previousNewestTimestamp.all (fun previous => decide (completedAt ≤ previous)) = true)
    (label ++ " is invalid.")
  let before ← finiteInteger item.beforeContinuationPagesSucceeded (label ++ " before pages")
  let after ← finiteInteger item.afterContinuationPagesSucceeded (label ++ " after pages")
  let delta ← finiteInteger item.outcome.document.transition.pagesSucceededDelta
    (label ++ " page delta")
  check (after - before = delta) (label ++ " delta is inconsistent.")
  return ⟨item.outcome.publicId :: seen.outcomeIds,
    item.outcome.document.syncPublicId :: seen.syncIds, some completedAt⟩

/-! ## Points -/

/-- `WalletCaseBackfillCoveragePoint`. -/
structure CoveragePoint where
  sequence : Nat
  outcomePublicId : HexDigest
  syncPublicId : Uuid
  completedAt : Instant
  streamKey : StreamKey
  outcome : OutcomeState
  beforeContinuationPagesSucceeded : Int
  afterContinuationPagesSucceeded : Int
  pagesSucceededDelta : Int
  frontierChanged : Bool
  unrepresentedPageDelta : Int

def coveragePoint (index : Nat) (unrepresented : Int) (item : OutcomeHistoryItem) :
    CoveragePoint :=
  { sequence := index + 1
    outcomePublicId := item.outcome.publicId
    syncPublicId := item.outcome.document.syncPublicId
    completedAt := item.completedAt
    streamKey := item.outcome.document.transition.streamKey
    outcome := item.outcome.document.outcome
    beforeContinuationPagesSucceeded := item.beforeContinuationPagesSucceeded
    afterContinuationPagesSucceeded := item.afterContinuationPagesSucceeded
    pagesSucceededDelta := item.outcome.document.transition.pagesSucceededDelta
    frontierChanged := item.frontierChanged
    unrepresentedPageDelta := unrepresented }

/-- The points of the items from an index on. -/
def coveragePoints : Nat → Option Int → List OutcomeHistoryItem →
    Except String (List CoveragePoint)
  | _, _, [] => .ok []
  | index, previousAfter, item :: rest => do
      let before : Int := item.beforeContinuationPagesSucceeded
      check (previousAfter.all (fun previous => decide (previous ≤ before)) = true)
        ("Backfill coverage timeline point " ++ toString index ++ " regresses.")
      let unrepresented := match previousAfter with
        | none => 0
        | some previous => before - previous
      let points ← coveragePoints (index + 1) (some item.afterContinuationPagesSucceeded) rest
      return coveragePoint index unrepresented item :: points

/-! ## Limitations -/

/-- `Map.set` by the code: the first position, the last value. -/
def setLimitation (known : List Limitation) (item : Limitation) : List Limitation :=
  if known.any (fun other => decide (other.code = item.code)) then
    known.map fun other => if other.code = item.code then item else other
  else known ++ [item]

def limitationSet (limitations : List Limitation) (fullyLoaded : Bool) : List Limitation :=
  let derived : List Limitation :=
    ⟨"backfill_coverage_timeline_is_derived",
      "The timeline is derived from verified Backfill Outcome descriptors; reopen an outcome " ++
        "to verify its complete evidence document."⟩ ::
    if fullyLoaded then []
    else [⟨"backfill_coverage_timeline_is_loaded_window",
      "The timeline covers only the loaded frozen outcome window; older outcomes remain " ++
        "outside this view."⟩]
  (derived ++ limitations).foldl setLimitation []

/-! ## The timeline -/

structure CoverageWindow where
  totalOutcomes : Int
  loadedOutcomes : Nat
  hasOlderOutcomes : Bool
  fullyLoaded : Bool
  oldestCompletedAt : Option Instant
  newestCompletedAt : Option Instant

structure CoverageSummary where
  successfulPagesAdded : Int
  frontierChangeCount : Nat
  advancedCount : Nat
  completedCount : Nat
  blockedCount : Nat
  noProgressCount : Nat
  distinctStreamCount : Nat
  unrepresentedPageDelta : Int

/-- `WalletCaseBackfillCoverageTimeline`. -/
structure CoverageTimeline where
  casePublicId : Uuid
  syncCutoffPublicId : Option Uuid
  window : CoverageWindow
  summary : CoverageSummary
  points : List CoveragePoint
  limitations : List Limitation

def coverageSummary (points : List CoveragePoint) : CoverageSummary :=
  let stateCount (state : OutcomeState) := points.countP fun point => point.outcome = state
  { successfulPagesAdded := (points.map (·.pagesSucceededDelta)).sum
    frontierChangeCount := points.countP (·.frontierChanged)
    advancedCount := stateCount .advanced
    completedCount := stateCount .completed
    blockedCount := stateCount .blocked
    noProgressCount := stateCount .noProgress
    distinctStreamCount := (points.map (·.streamKey)).dedup.length
    unrepresentedPageDelta := (points.map (·.unrepresentedPageDelta)).sum }

/-- `buildWalletCaseBackfillCoverageTimeline`. -/
def buildCoverageTimeline (source : CoverageSource) : Except String CoverageTimeline := do
  validateSource source
  let _ ← source.items.zipIdx.foldlM validateOutcome ⟨[], [], none⟩
  let points ← coveragePoints 0 none source.items.reverse
  let fullyLoaded := !source.hasMore
  return {
    casePublicId := source.casePublicId
    syncCutoffPublicId := source.syncCutoffPublicId
    window :=
      { totalOutcomes := source.totalOutcomes
        loadedOutcomes := points.length
        hasOlderOutcomes := source.hasMore
        fullyLoaded := fullyLoaded
        oldestCompletedAt := points.head?.map (·.completedAt)
        newestCompletedAt := points.getLast?.map (·.completedAt) }
    summary := coverageSummary points
    points := points
    limitations := limitationSet source.limitations fullyLoaded }

end TonTracker
