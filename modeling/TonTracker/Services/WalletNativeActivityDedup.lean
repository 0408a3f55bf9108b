/-
# `Services.WalletNativeActivityDedup` — activities of several runs, each once

What `merge_wallet_native_activity_ledgers` and
`deduplicate_wallet_native_activity` return
(`services/wallet_native_activity_merge.py`, `…_dedup.py`): the rows of the
ledgers in one order with the groups of those that repeat, and then one
activity for each identity with every occurrence it stands for.  Digests of
these documents are left out.
-/
import TonTracker.Lib.FirstOccurrences
import TonTracker.Services.NativeActivityPnlReadiness

namespace TonTracker

open FirstOccurrences (grouped resolve)

variable (lib : LedgerLibrary)

/-! ## The merge -/

/-- An entry of `sources`. -/
structure MergeSource where
  runId : Nat
  ledgerId : Nat
  captureId : Nat
  activityCount : Nat
  evidenceDigest : String

/-- An entry of `duplicate_groups`. -/
structure DuplicateGroup where
  activityIdentityKey : String
  occurrenceCount : Nat
  sourceRunIds : List Nat
  mergeIndexes : List Nat

/-- What `merge_wallet_native_activity_ledgers` returns; an activity is with
its `merge_index`. -/
structure NativeMerge where
  targetRunId : Nat
  selectedRunIds : List Nat
  sources : List MergeSource
  activities : List (MergedActivity × Nat)
  duplicateGroups : List DuplicateGroup
  network : Option Network
  walletAccount : TonAddress
  sourceLedgerCount : Nat
  mergedActivityCount : Nat
  duplicateGroupCount : Nat

/-- `sources`, of the ledgers of the runs. -/
def mergeSources (store : LedgerStore) (runs : List TraceRun) : List MergeSource :=
  runs.flatMap fun run => (runLedgers store run.id).map fun (ledger, _) => {
    runId := run.id
    ledgerId := ledger.id
    captureId := ledger.captureId
    activityCount := ledger.activityCount
    evidenceDigest := ledger.evidenceDigest }

/-- The key a row of the merge is grouped by. -/
def indexedKey (activity : MergedActivity × Nat) : String := activity.1.row.activityIdentityKey

/-- `grouped`. -/
def indexedGroups (activities : List (MergedActivity × Nat)) :
    List (String × List (MergedActivity × Nat)) :=
  grouped indexedKey activities

/-- `duplicate_groups`, in the order of their keys. -/
def duplicateGroups (activities : List (MergedActivity × Nat)) : List DuplicateGroup :=
  (((indexedGroups activities).insertionSort fun a b => a.1 ≤ b.1).filter fun group =>
    1 < group.2.length).map fun group => {
      activityIdentityKey := group.1
      occurrenceCount := group.2.length
      sourceRunIds := (group.2.map (·.1.sourceRunId)).eraseDups.insertionSort (· ≤ ·)
      mergeIndexes := group.2.map (·.2) }

/-- `merge_wallet_native_activity_ledgers`, with all it returns. -/
def mergeWalletNativeActivityLedgers (store : LedgerStore) (targetRunId : Nat)
    (runIds : List Nat) : Except TraceRaised NativeMerge := do
  let (selected, merged) ← mergeLedgers lib store targetRunId runIds
  let sources := mergeSources store selected.runs
  let groups := duplicateGroups merged.zipIdx
  return {
    targetRunId := targetRunId
    selectedRunIds := selected.selectedRunIds
    sources := sources
    activities := merged.zipIdx
    duplicateGroups := groups
    network := selected.network
    walletAccount := selected.walletAccount
    sourceLedgerCount := sources.length
    mergedActivityCount := merged.length
    duplicateGroupCount := groups.length }

/-! ## Deduplication -/

/-- An entry of `source_occurrences`. -/
structure SourceOccurrence where
  sourceRunId : Nat
  sourceLedgerId : Nat
  mergeIndex : Nat

def sourceOccurrence (activity : MergedActivity × Nat) : SourceOccurrence where
  sourceRunId := activity.1.sourceRunId
  sourceLedgerId := activity.1.sourceLedgerId
  mergeIndex := activity.2

/-- An activity of the answer, and the row it is taken from. -/
structure DedupActivity where
  winner : MergedActivity
  dedupIndex : Nat
  occurrenceCount : Nat
  sourceOccurrences : List SourceOccurrence

/-- An entry of `resolutions`. -/
structure DedupResolution where
  activityIdentityKey : String
  winner : SourceOccurrence
  suppressed : List SourceOccurrence
  suppressedCount : Nat

/-- What `deduplicate_wallet_native_activity` returns. -/
structure NativeDedup where
  targetRunId : Nat
  selectedRunIds : List Nat
  activities : List DedupActivity
  resolutions : List DedupResolution
  network : Option Network
  walletAccount : TonAddress
  sourceLedgerCount : Nat
  mergedActivityCount : Nat
  deduplicatedActivityCount : Nat
  suppressedOccurrenceCount : Nat
  resolutionCount : Nat

/-- The activity at an index, of the first row and the others. -/
def dedupActivity (dedupIndex : Nat) (winner : MergedActivity × Nat)
    (others : List (MergedActivity × Nat)) : DedupActivity where
  winner := winner.1
  dedupIndex := dedupIndex
  occurrenceCount := others.length + 1
  sourceOccurrences := (winner :: others).map sourceOccurrence

/-- The resolution of an identity that is there more than once. -/
def dedupResolution (activityIdentityKey : String) (winner : MergedActivity × Nat)
    (others : List (MergedActivity × Nat)) : DedupResolution where
  activityIdentityKey := activityIdentityKey
  winner := sourceOccurrence winner
  suppressed := others.map sourceOccurrence
  suppressedCount := others.length

def dedupRefusal : TraceRaised :=
  .dedupConflict "Duplicate activity identity has conflicting verified semantics."

/-- `deduplicate_wallet_native_activity`, with all it returns. -/
def deduplicateWalletNativeActivity (store : LedgerStore) (targetRunId : Nat)
    (runIds : List Nat) : Except TraceRaised NativeDedup := do
  let merged ← mergeWalletNativeActivityLedgers lib store targetRunId runIds
  let (activities, resolutions) ← (indexedGroups merged.activities).foldlM
    (resolve (fun row => semanticFingerprint row.1) dedupRefusal dedupActivity dedupResolution)
    ([], [])
  return {
    targetRunId := targetRunId
    selectedRunIds := merged.selectedRunIds
    activities := activities
    resolutions := resolutions
    network := merged.network
    walletAccount := merged.walletAccount
    sourceLedgerCount := merged.sourceLedgerCount
    mergedActivityCount := merged.mergedActivityCount
    deduplicatedActivityCount := activities.length
    suppressedOccurrenceCount := merged.mergedActivityCount - activities.length
    resolutionCount := resolutions.length }

end TonTracker
