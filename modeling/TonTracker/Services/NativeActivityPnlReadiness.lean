/-
# `Services.NativeActivityPnlReadiness` — native flows of selected runs

The chain behind `build_native_activity_pnl_readiness`: a ledger of a
capture is derived again from the trace and compared with its rows
(`_revalidate_ledger`), the ledgers of the selected runs are merged and
deduplicated, and the directions are summed
(`services/wallet_native_activity_ledger.py`, `…_merge.py`, `…_dedup.py`,
`…_pnl_readiness.py`).  A capture is read through the transaction it was
captured by.  Digests of documents that nothing compares are left out, and
so are columns that are functions of the others.
-/
import TonTracker.Services.WalletNativeTonFlowObservations

namespace TonTracker

open ExceptFold (check present)

/-! ## Rows -/

/-- `WalletNativeActivityRow`. -/
structure ActivityRow where
  ordinal : Nat
  activityIdentityKey : String
  transactionHash : String
  messageHash : String
  direction : FlowDirection
  counterparty : Option TonAddress
  amountBaseUnits : Nat
  createdLogicalTime : Nat
  unixTime : Int
  bodyHash : String
  opcode : Option Nat
  bounce : Bool
  bounced : Bool
deriving DecidableEq

/-- `WalletNativeActivityLedger`, with its rows. -/
structure NativeLedger where
  id : Nat
  captureId : Nat
  contractVersion : String
  network : Option Network
  walletAccount : TonAddress
  sourceMessageDigest : String
  activityCount : Nat
  incomingNanoton : Nat
  outgoingNanoton : Nat
  selfNanoton : Nat
  evidenceDigest : String
  builtAt : Instant
  rows : List ActivityRow

/-- The rows that PnL readiness reads besides the traces. -/
structure LedgerStore extends TraceStore where
  ledgers : List NativeLedger

/-- The document under a ledger's digest. -/
structure LedgerDocument where
  captureId : Nat
  network : Option Network
  walletAccount : TonAddress
  sourceMessageDigest : String
  builtAt : Instant
  activities : List ActivityRow

/-- Digests of ledgers, besides those of traces. -/
structure LedgerLibrary extends BocLibrary where
  /-- `_digest` of the identity of a flow of a wallet. -/
  digestActivity : Option Network → TonAddress → NativeFlow → String
  digestLedger : LedgerDocument → String

def nativeActivityLedgerContractVersion : String := "ton_native_activity_ledger_v1"

variable (lib : LedgerLibrary)

/-! ## A ledger -/

/-- A row of the ledger, from a flow. -/
def activityRow (source : NativeFlowObservations) (pair : NativeFlow × Nat) : ActivityRow where
  ordinal := pair.2
  activityIdentityKey := lib.digestActivity source.network source.walletAccount pair.1
  transactionHash := pair.1.transactionHash
  messageHash := pair.1.messageHash
  direction := pair.1.direction
  counterparty := pair.1.counterparty
  amountBaseUnits := pair.1.amountNanoton
  createdLogicalTime := pair.1.createdLogicalTime
  unixTime := pair.1.unixTime
  bodyHash := pair.1.bodyHash
  opcode := pair.1.opcode
  bounce := pair.1.bounce
  bounced := pair.1.bounced

/-- `_derive_rows`. -/
def deriveRows (store : LedgerStore) (runId : Nat) (transactionHash : String) :
    Except TraceRaised (NativeFlowObservations × List ActivityRow) := do
  let found ← getWalletNativeTonFlowObservations lib.toBocLibrary store.toTraceStore runId
    transactionHash
  let source ← present found (.ledgerConflict "Verified native TON flow evidence is unavailable.")
  return (source, source.flows.zipIdx.map (activityRow lib source))

/-- `_revalidate_ledger`, which returns the rows. -/
def revalidateLedger (store : LedgerStore) (ledger : NativeLedger) (runId : Nat)
    (transactionHash : String) : Except TraceRaised (List ActivityRow) := do
  let (source, rows) ← deriveRows lib store runId transactionHash
  check (ledger.contractVersion = nativeActivityLedgerContractVersion ∧
      ledger.network = source.network ∧ ledger.walletAccount = source.walletAccount ∧
      ledger.sourceMessageDigest = source.messageDigest ∧ ledger.activityCount = rows.length ∧
      ledger.incomingNanoton = source.incomingNanoton ∧
      ledger.outgoingNanoton = source.outgoingNanoton ∧
      ledger.selfNanoton = source.selfNanoton ∧
      ledger.rows.insertionSort (fun a b => a.ordinal ≤ b.ordinal) = rows ∧
      isHexHash ledger.evidenceDigest ∧
      ledger.evidenceDigest = lib.digestLedger {
        captureId := ledger.captureId
        network := source.network
        walletAccount := source.walletAccount
        sourceMessageDigest := source.messageDigest
        builtAt := ledger.builtAt
        activities := rows })
    (.ledgerConflict "Stored native activity ledger failed local revalidation.")
  return rows

/-! ## The merge -/

/-- An activity of a merge. -/
structure MergedActivity where
  sourceRunId : Nat
  sourceLedgerId : Nat
  row : ActivityRow
deriving DecidableEq

/-- `selected_run_ids`, with the network and wallet they share. -/
structure SelectedRuns where
  selectedRunIds : List Nat
  runs : List TraceRun
  network : Option Network
  walletAccount : TonAddress

/-- The selection checks of `merge_wallet_native_activity_ledgers`. -/
def selectRuns (runs : List TraceRun) (targetRunId : Nat) (runIds : List Nat) :
    Except TraceRaised SelectedRuns := do
  check (2 ≤ runIds.length ∧ runIds.length ≤ 50 ∧ (∀ id ∈ runIds, 0 < id) ∧ runIds.Nodup ∧
      targetRunId ∈ runIds)
    (.mergeConflict "Select 2-50 unique positive run ids including the target run.")
  let selected := runIds.insertionSort (· ≤ ·)
  let found := (runs.filter fun run => run.id ∈ selected).insertionSort fun a b => a.id ≤ b.id
  check (found.map (·.id) = selected)
    (.mergeConflict "One or more selected runs do not exist.")
  let invalid := TraceRaised.mergeConflict
    "Selected runs do not share one eligible wallet/network identity."
  let target ← present (found.find? (·.id = targetRunId)) invalid
  check (target.dataMode = .real ∧ target.walletIdentityStatus = "network_scoped" ∧
      target.walletNetwork ≠ none ∧ ∀ run ∈ found, run.dataMode = .real ∧
        run.walletIdentityStatus = "network_scoped" ∧
        run.walletNetwork = target.walletNetwork ∧
        run.walletAddressCanonical = target.walletAddressCanonical) invalid
  let wallet ← present target.walletAddressCanonical invalid
  return {
    selectedRunIds := selected
    runs := found
    network := target.walletNetwork
    walletAccount := wallet }

/-- The ledgers of the captures of a run, with their captures. -/
def runLedgers (store : LedgerStore) (runId : Nat) : List (NativeLedger × TraceCapture) :=
  (store.ledgers.insertionSort fun a b => a.id ≤ b.id).filterMap fun ledger =>
    (store.captures.find? fun capture => capture.id = ledger.captureId ∧ capture.runId = runId).map
      fun capture => (ledger, capture)

/-- The activities of a ledger, through the transaction of its capture. -/
def ledgerActivities (store : LedgerStore) (runId : Nat) (pair : NativeLedger × TraceCapture) :
    Except TraceRaised (List MergedActivity) := do
  let (ledger, capture) := pair
  let hash ← present ((store.transactions.find? (·.id = capture.capturedViaTransactionId)).bind
      (·.identity.hashCanonical))
    (.mergeConflict "A selected ledger lost its canonical capture anchor.")
  let rows ← revalidateLedger lib store ledger runId hash
  return rows.map fun row => { sourceRunId := runId, sourceLedgerId := ledger.id, row := row }

/-- The activities of a run; the message names the run. -/
def runActivities (store : LedgerStore) (runId : Nat) :
    Except TraceRaised (List MergedActivity) := do
  let ledgers := runLedgers store runId
  check (ledgers ≠ [])
    (.mergeConflict s!"Selected run {runId} has no immutable native activity ledger.")
  return (← ledgers.mapM (ledgerActivities lib store runId)).flatten

/-- The order of a merge. -/
def MergedActivity.le (a b : MergedActivity) : Bool :=
  if a.row.unixTime ≠ b.row.unixTime then a.row.unixTime < b.row.unixTime
  else if a.row.createdLogicalTime ≠ b.row.createdLogicalTime then
    a.row.createdLogicalTime < b.row.createdLogicalTime
  else if a.row.transactionHash ≠ b.row.transactionHash then
    a.row.transactionHash < b.row.transactionHash
  else if a.row.messageHash ≠ b.row.messageHash then a.row.messageHash < b.row.messageHash
  else if a.sourceRunId ≠ b.sourceRunId then a.sourceRunId < b.sourceRunId
  else toString a.sourceLedgerId ≤ toString b.sourceLedgerId

/-- `merge_wallet_native_activity_ledgers`. -/
def mergeLedgers (store : LedgerStore) (targetRunId : Nat) (runIds : List Nat) :
    Except TraceRaised (SelectedRuns × List MergedActivity) := do
  let selected ← selectRuns store.runs targetRunId runIds
  let activities ← selected.runs.mapM fun run => runActivities lib store run.id
  return (selected, activities.flatten.insertionSort fun a b => a.le b = true)

/-! ## Deduplication -/

/-- `_semantic_fingerprint`. -/
def semanticFingerprint (activity : MergedActivity) : ActivityRow :=
  { activity.row with ordinal := 0 }

/-- The first occurrence of each identity, in order. -/
def activityWinners (activities : List MergedActivity) : List MergedActivity :=
  activities.foldl (fun winners activity =>
    if winners.any (·.row.activityIdentityKey = activity.row.activityIdentityKey) then winners
    else winners ++ [activity]) []

/-- `deduplicate_wallet_native_activity`. -/
def deduplicateActivity (store : LedgerStore) (targetRunId : Nat) (runIds : List Nat) :
    Except TraceRaised (SelectedRuns × List MergedActivity × List MergedActivity) := do
  let (selected, merged) ← mergeLedgers lib store targetRunId runIds
  let winners := activityWinners merged
  check (∀ winner ∈ winners, ∀ activity ∈ merged,
      activity.row.activityIdentityKey = winner.row.activityIdentityKey →
        semanticFingerprint activity = semanticFingerprint winner)
    (.dedupConflict "Duplicate activity identity has conflicting verified semantics.")
  return (selected, merged, winners)

/-! ## Readiness -/

/-- What `build_native_activity_pnl_readiness` returns. -/
structure NativeReadiness where
  targetRunId : Nat
  selectedRunIds : List Nat
  network : Option Network
  walletAccount : TonAddress
  mergedActivityCount : Nat
  deduplicatedActivityCount : Nat
  incomingActivityCount : Nat
  outgoingActivityCount : Nat
  selfActivityCount : Nat
  incomingNanoton : Nat
  outgoingNanoton : Nat
  selfNanoton : Nat
deriving DecidableEq

/-- The activities of a direction. -/
def directed (activities : List MergedActivity) (direction : FlowDirection) : List Nat :=
  (activities.filter (·.row.direction = direction)).map (·.row.amountBaseUnits)

/-- `build_native_activity_pnl_readiness`. -/
def buildNativeActivityPnlReadiness (store : LedgerStore) (targetRunId : Nat) (runIds : List Nat) :
    Except TraceRaised NativeReadiness := do
  let (selected, merged, winners) ← deduplicateActivity lib store targetRunId runIds
  return {
    targetRunId := targetRunId
    selectedRunIds := selected.selectedRunIds
    network := selected.network
    walletAccount := selected.walletAccount
    mergedActivityCount := merged.length
    deduplicatedActivityCount := winners.length
    incomingActivityCount := (directed winners .incoming).length
    outgoingActivityCount := (directed winners .outgoing).length
    selfActivityCount := (directed winners .self).length
    incomingNanoton := (directed winners .incoming).sum
    outgoingNanoton := (directed winners .outgoing).sum
    selfNanoton := (directed winners .self).sum }

end TonTracker
