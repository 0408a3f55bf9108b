/-
# `Services.WalletMultiAssetPnlReadiness` — jettons, fees and PnL readiness

`build_multi_asset_pnl_readiness`
(`services/wallet_multi_asset_pnl_readiness.py`): behind native readiness it
indexes the asset snapshots, the verified contracts and the fees of the
selected runs, reads the jetton payloads of every capture, and binds them.
A capture is read here through the root transaction of its trace.  The
decoder of message bodies, the check of a stored contract record and the
identity of an account are parameters (`ReadinessLibrary`).
-/
import TonTracker.Services.NativeActivityPnlReadiness
import Mathlib.Data.Rat.Floor

namespace TonTracker

open ExceptFold (check present)

/-! ## Rows -/

/-- The operations of TEP-74. -/
inductive JettonOperation where
  | transfer
  | transferNotification
  | excesses
  | burn
  | internalTransfer
  | burnNotification
deriving DecidableEq

/-- What `_decode_jetton_payload` returns. -/
structure DecodedPayload where
  operation : JettonOperation
  queryId : Nat
  amountBaseUnits : Option Nat
  destination : Option TonAddress
  responseDestination : Option TonAddress
  sender : Option TonAddress
  fromAccount : Option TonAddress
  forwardTonAmount : Option Nat
  customPayloadHash : Option String
  forwardPayloadInRef : Option Bool
  forwardPayloadHash : Option String
  forwardPayloadBitLength : Option Nat
  forwardPayloadRefCount : Option Nat
deriving DecidableEq

/-- A recognized payload. -/
structure PayloadObservation where
  identity : String
  source : LocatedMessage
  decoded : DecodedPayload
deriving DecidableEq

/-- `raw_json` of a snapshot, where it is an object. -/
structure SnapshotDocument where
  surface : String
  jettonAddress : Option String
  walletContractAddress : Option String
  decimals : Option Int
  symbol : Option String

/-- `WalletBalanceSnapshot`. -/
structure BalanceSnapshot where
  id : Nat
  runId : Nat
  asset : String
  provider : String
  sourceStatus : SourceStatus
  document : Option SnapshotDocument

/-- What `_record_response` returns, as it is read here. -/
structure VerifiedContract where
  network : Option Network
  owner : TonAddress
  master : TonAddress
  wallet : TonAddress
  assetIdentityKey : String
  verificationId : Nat
  evidenceDigest : String

/-- `WalletJettonContractVerification`: its coordinates, and what its
revalidation says. -/
structure ContractRecord where
  id : Nat
  runId : Nat
  response : Except String VerifiedContract

/-- The rows of multi-asset readiness. -/
structure ReadinessStore extends LedgerStore where
  snapshots : List BalanceSnapshot
  contracts : List ContractRecord

structure ReadinessLibrary extends LedgerLibrary where
  /-- `_decode_jetton_payload`. -/
  decodePayload : Cell → Except String (Option DecodedPayload)
  /-- `_digest_json` of the identity of a payload. -/
  digestPayload : Option Network → LocatedMessage → DecodedPayload → String
  /-- `_canonical_account`. -/
  canonicalAccount : String → Option Network → Option TonAddress
  /-- `Decimal(str(value)) * NANOTON_PER_TON`. -/
  scaledFee : String → Option ℚ

def maxSelectedCaptures : Nat := 2500

def maxSourceMessages : Nat := 115200

def maxPayloadOccurrences : Nat := 10000

variable (lib : ReadinessLibrary)

/-! ## Jetton payloads -/

/-- A stored transaction, parsed again. -/
def reparsed (row : BocTransactionRow) : Except TraceRaised (ParsedTransaction lib.Message) :=
  let raised := TraceRaised.payloadConflict
    "Stored transaction BOC could not be reparsed for payload decoding."
  match parseTransaction lib.toBocLibrary row.transactionBocHex with
  | .error _ => .error raised
  | .ok (root, parsed) => do
      check (lib.cellHash root = row.transactionHash) raised
      return parsed

/-- The body of a verified message, found again in its transaction. -/
def verifiedBody (verification : BocVerification) (source : LocatedMessage) :
    Except TraceRaised lib.Cell := do
  let row ← present (verification.transactions.find?
      (·.preorderIndex = source.transactionPreorderIndex))
    (.payloadConflict "Verified payload transaction coordinate is missing.")
  let parsed ← reparsed lib row
  let candidates := if source.message.role = .remainingOutbound then
      parsed.outMsgs.filter fun message =>
        (messageHashes lib.toBocLibrary message).1 = source.message.header.messageHash
    else parsed.inMsg.toList
  match candidates with
  | [message] => do
      let body := lib.body message
      check ((messageHashes lib.toBocLibrary message).1 = source.message.header.messageHash ∧
          lib.cellHash body = source.message.bodyHash ∧
          lib.bitLength body = source.message.bodyBitLength ∧
          lib.refCount body = source.message.bodyRefCount ∧
          bodyOpcode lib.toBocLibrary body = source.message.opcode)
        (.payloadConflict "Verified message body changed during payload decoding.")
      return body
  | _ => throw (.payloadConflict "Verified payload message coordinate is ambiguous.")

/-- The payload of a message, where it is recognized. -/
def payloadObservation (network : Option Network) (source : LocatedMessage) (body : lib.Cell) :
    Except TraceRaised (Option PayloadObservation) :=
  match lib.decodePayload body with
  | .error message => .error (.payloadConflict message)
  | .ok none => .ok none
  | .ok (some decoded) => .ok (some {
      identity := lib.digestPayload network source decoded
      source := source
      decoded := decoded })

/-- What `get_wallet_transaction_jetton_payload_observations` returns. -/
structure JettonPayloads where
  captureId : Nat
  verificationId : Nat
  sourceMessageCount : Nat
  unrecognizedMessageCount : Nat
  observations : List PayloadObservation

/-- `get_wallet_transaction_jetton_payload_observations`, behind the messages
of the trace. -/
def jettonPayloads (store : TraceStore) (evidence : BocMessageEvidence) :
    Except TraceRaised JettonPayloads := do
  let verification ← present (store.verifications.find? (·.id = evidence.verificationId))
    (.payloadConflict "Locally verified BOC storage disappeared during payload decoding.")
  let _ ← verification.transactions.mapM (reparsed lib)
  let bodies ← evidence.messages.mapM (verifiedBody lib verification)
  let found ← (evidence.messages.zip bodies).mapM fun pair =>
    payloadObservation lib evidence.network pair.1 pair.2
  let observations := found.filterMap id
  return {
    captureId := evidence.captureId
    verificationId := evidence.verificationId
    sourceMessageCount := evidence.messages.length
    unrecognizedMessageCount := evidence.messages.length - observations.length
    observations := observations }

/-- `get_wallet_transaction_jetton_payload_observations`. -/
def getJettonPayloadObservations (store : TraceStore) (runId : Nat) (transactionHash : String) :
    Except TraceRaised (Option JettonPayloads) := do
  match ← getWalletTransactionBocMessageEvidence lib.toBocLibrary store runId transactionHash with
  | none => return none
  | some evidence => return some (← jettonPayloads lib store evidence)

/-! ## The captures -/

/-- A payload, where it occurs. -/
structure PayloadOccurrence where
  runId : Nat
  captureId : Nat
  verificationId : Nat
  observation : PayloadObservation

/-- What `_collect_payload_observations` has collected. -/
structure CollectLoop where
  verifiedCaptureCount : Nat
  sourceMessageCount : Nat
  unrecognizedMessageCount : Nat
  occurrences : List PayloadOccurrence

/-- The captures of the selected runs, by `(run_id, capture_slot, id)`. -/
def selectedCaptures (store : TraceStore) (runIds : List Nat) : List TraceCapture :=
  (store.captures.filter fun capture => capture.runId ∈ runIds).insertionSort fun a b =>
    a.runId < b.runId ∨ (a.runId = b.runId ∧ (a.captureSlot < b.captureSlot ∨
      (a.captureSlot = b.captureSlot ∧ a.id ≤ b.id)))

/-- One round of the loop over the captures: each is read through the root
transaction of its trace. -/
def collectCapture (store : TraceStore) (loop : CollectLoop) (capture : TraceCapture) :
    Except TraceRaised CollectLoop := do
  match ← getJettonPayloadObservations lib store capture.runId
      capture.summary.rootTransactionHash with
  | none => return loop
  | some payloads =>
      let sourceMessages := loop.sourceMessageCount + payloads.sourceMessageCount
      check (sourceMessages ≤ maxSourceMessages)
        (.readinessConflict "Selected captures exceed the multi-asset message bound.")
      let occurrences := loop.occurrences ++ payloads.observations.map fun observation =>
        { runId := capture.runId
          captureId := payloads.captureId
          verificationId := payloads.verificationId
          observation := observation }
      check (occurrences.length ≤ maxPayloadOccurrences)
        (.readinessConflict "Selected captures exceed the jetton payload occurrence bound.")
      return {
        verifiedCaptureCount := loop.verifiedCaptureCount + 1
        sourceMessageCount := sourceMessages
        unrecognizedMessageCount :=
          loop.unrecognizedMessageCount + payloads.unrecognizedMessageCount
        occurrences := occurrences }

/-- `_collect_payload_observations`. -/
def collectPayloadObservations (store : TraceStore) (runIds : List Nat) :
    Except TraceRaised CollectLoop := do
  let captures := selectedCaptures store runIds
  check (captures.length ≤ maxSelectedCaptures)
    (.readinessConflict "Selected runs exceed the multi-asset capture bound.")
  captures.foldlM (collectCapture lib store) {
    verifiedCaptureCount := 0
    sourceMessageCount := 0
    unrecognizedMessageCount := 0
    occurrences := [] }

/-! ## Indexes -/

/-- The role of a contract account in the indexes. -/
inductive ContractRole where
  | jettonWallet
  | jettonMaster
deriving DecidableEq

/-- A snapshot in the index: both of its keys share one entry. -/
structure SnapshotEntry where
  master : TonAddress
  wallet : TonAddress
  decimals : Int
  symbol : Option String
  sourceRunIds : List Nat

/-- Entries, and keys with the number of their entry. -/
structure SnapshotIndex where
  entries : List SnapshotEntry
  keys : List ((ContractRole × TonAddress) × Nat)
  snapshotCount : Nat
  validCount : Nat
  invalidCount : Nat

/-- `sorted(set(values))`. -/
def sortedSet (values : List Nat) : List Nat := values.dedup.insertionSort (· ≤ ·)

/-- `index.get(key)`. -/
def SnapshotIndex.get? (index : SnapshotIndex) (key : ContractRole × TonAddress) :
    Option (Nat × SnapshotEntry) :=
  (index.keys.find? (·.1 = key)).bind fun (_, number) =>
    index.entries[number]?.map fun entry => (number, entry)

/-- `_validated_snapshot`. -/
def validatedSnapshot (network : Option Network) (snapshot : BalanceSnapshot) :
    Option SnapshotEntry := do
  guard (snapshot.provider = "tonapi" ∧ snapshot.sourceStatus = .live)
  let raw ← snapshot.document
  guard (raw.surface = "jettons")
  let master ← raw.jettonAddress.bind fun value => lib.canonicalAccount value network
  let wallet ← raw.walletContractAddress.bind fun value => lib.canonicalAccount value network
  let decimals ← raw.decimals
  guard (0 ≤ decimals ∧ decimals ≤ 255)
  return {
    master := master
    wallet := wallet
    decimals := decimals
    symbol := raw.symbol.filter fun symbol => symbol ≠ "" ∧ symbol.length ≤ 64
    sourceRunIds := [snapshot.runId] }

/-- A snapshot under one of its keys; its own entry is the last. -/
def indexSnapshot (entry : SnapshotEntry) (index : SnapshotIndex)
    (key : ContractRole × TonAddress) : Except TraceRaised SnapshotIndex :=
  match index.get? key with
  | none => .ok { index with keys := index.keys ++ [(key, index.entries.length - 1)] }
  | some (number, existing) => do
      check (existing.master = entry.master ∧ existing.decimals = entry.decimals)
        (.readinessConflict "Provider jetton snapshots conflict for one contract account.")
      return { index with entries := index.entries.set number { existing with
        symbol := if existing.symbol = entry.symbol then existing.symbol else none
        sourceRunIds := sortedSet (existing.sourceRunIds ++ entry.sourceRunIds) } }

/-- One round of `_load_asset_snapshot_index`. -/
def loadSnapshot (network : Option Network) (index : SnapshotIndex) (snapshot : BalanceSnapshot) :
    Except TraceRaised SnapshotIndex :=
  if snapshot.asset = "TON" then .ok index
  else
    match validatedSnapshot lib network snapshot with
    | none => .ok { index with
        snapshotCount := index.snapshotCount + 1
        invalidCount := index.invalidCount + 1 }
    | some entry =>
        [(ContractRole.jettonWallet, entry.wallet), (.jettonMaster, entry.master)].foldlM
          (indexSnapshot entry) { index with
            entries := index.entries ++ [entry]
            snapshotCount := index.snapshotCount + 1
            validCount := index.validCount + 1 }

/-- `_load_asset_snapshot_index`. -/
def loadAssetSnapshotIndex (store : ReadinessStore) (runIds : List Nat) (network : Option Network) :
    Except TraceRaised SnapshotIndex :=
  ((store.snapshots.filter fun snapshot => snapshot.runId ∈ runIds).insertionSort fun a b =>
    a.runId < b.runId ∨ (a.runId = b.runId ∧ a.id ≤ b.id)).foldlM (loadSnapshot lib network)
    { entries := [], keys := [], snapshotCount := 0, validCount := 0, invalidCount := 0 }

/-- A verified contract in the index. -/
structure ContractEntry where
  master : TonAddress
  wallet : TonAddress
  assetIdentityKey : String
  verificationIds : List Nat
  verificationDigests : List String
  sourceRunIds : List Nat

/-- A contract under one of its keys. -/
def indexContract (entry : ContractEntry) (index : List ((ContractRole × TonAddress) × ContractEntry))
    (key : ContractRole × TonAddress) :
    Except TraceRaised (List ((ContractRole × TonAddress) × ContractEntry)) :=
  match index.find? (·.1 = key) with
  | none => .ok (index ++ [(key, entry)])
  | some (_, existing) => do
      check (existing.assetIdentityKey = entry.assetIdentityKey ∧ existing.wallet = entry.wallet)
        (.readinessConflict "Verified jetton contract identities conflict.")
      return index.map fun pair => if pair.1 = key then (key, { existing with
        verificationIds := sortedSet (existing.verificationIds ++ entry.verificationIds)
        verificationDigests := (existing.verificationDigests ++
          entry.verificationDigests).dedup.insertionSort (· ≤ ·)
        sourceRunIds := sortedSet (existing.sourceRunIds ++ entry.sourceRunIds) }) else pair

/-- `_record_response`. -/
def ContractRecord.verified (record : ContractRecord) : Except TraceRaised VerifiedContract :=
  match record.response with
  | .ok verified => .ok verified
  | .error message => .error (.contractConflict message)

/-- One round of `_load_verified_contract_index`. -/
def loadContract (network : Option Network) (owner : TonAddress)
    (index : List ((ContractRole × TonAddress) × ContractEntry)) (record : ContractRecord) :
    Except TraceRaised (List ((ContractRole × TonAddress) × ContractEntry)) := do
  let verified ← record.verified
  check (verified.network = network ∧ verified.owner = owner)
    (.readinessConflict "Verified jetton contract scope conflicts with selected runs.")
  [(ContractRole.jettonWallet, verified.wallet), (.jettonMaster, verified.master)].foldlM
    (indexContract {
      master := verified.master
      wallet := verified.wallet
      assetIdentityKey := verified.assetIdentityKey
      verificationIds := [verified.verificationId]
      verificationDigests := [verified.evidenceDigest]
      sourceRunIds := [record.runId] }) index

/-- The records of the selected runs, in order. -/
def selectedContracts (store : ReadinessStore) (runIds : List Nat) : List ContractRecord :=
  (store.contracts.filter fun record => record.runId ∈ runIds).insertionSort fun a b =>
    a.runId < b.runId ∨ (a.runId = b.runId ∧ a.id ≤ b.id)

/-- `_load_verified_contract_index`. -/
def loadVerifiedContractIndex (store : ReadinessStore) (runIds : List Nat)
    (network : Option Network) (owner : TonAddress) :
    Except TraceRaised (List ((ContractRole × TonAddress) × ContractEntry)) :=
  (selectedContracts store runIds).foldlM (loadContract network owner) []

/-- A fee in the index. -/
structure FeeEntry where
  feeNanoton : Int
  sourceRunIds : List Nat

/-- `_fee_nanoton`. -/
def feeNanoton (value : String) : Except TraceRaised Int := do
  let scaled ← present (lib.scaledFee value)
    (.readinessConflict "Persisted transaction fee is not a decimal TON amount.")
  check (0 ≤ scaled ∧ scaled = scaled.floor)
    (.readinessConflict "Persisted transaction fee is not an exact non-negative nanoton amount.")
  return scaled.floor

/-- One round of `_load_transaction_fee_index`. -/
def loadFee (network : Option Network) (index : List (String × FeeEntry))
    (transaction : TraceTransaction) : Except TraceRaised (List (String × FeeEntry)) :=
  if transaction.provider = "tonapi" ∧ transaction.sourceStatus = .live ∧
      transaction.identity.network = network then
    match transaction.identity.hashCanonical, transaction.feeTon with
    | some hash, some value => do
        let fee ← feeNanoton lib value
        match index.find? (·.1 = hash) with
        | none => return index ++ [(hash, { feeNanoton := fee, sourceRunIds := [transaction.runId] })]
        | some (_, existing) =>
            check (existing.feeNanoton = fee)
              (.readinessConflict "Persisted transaction fees conflict for one transaction hash.")
            return index.map fun pair => if pair.1 = hash then (hash, { existing with
              sourceRunIds := sortedSet (existing.sourceRunIds ++ [transaction.runId]) }) else pair
    | _, _ => .ok index
  else .ok index

/-- `_load_transaction_fee_index`. -/
def loadTransactionFeeIndex (store : ReadinessStore) (runIds : List Nat)
    (network : Option Network) : Except TraceRaised (List (String × FeeEntry)) :=
  ((store.transactions.filter fun row => row.runId ∈ runIds).insertionSort fun a b =>
    a.runId < b.runId ∨ (a.runId = b.runId ∧ a.id ≤ b.id)).foldlM (loadFee lib network) []

/-! ## Binding -/

/-- `_observed_contract`, by the role of the operation. -/
def observedContract (observation : PayloadObservation) : Option (ContractRole × TonAddress) :=
  match observation.decoded.operation with
  | .transferNotification =>
      observation.source.message.header.sourceAccount.map (.jettonWallet, ·)
  | .transfer | .internalTransfer | .burn =>
      observation.source.message.header.destinationAccount.map (.jettonWallet, ·)
  | .burnNotification =>
      observation.source.message.header.destinationAccount.map (.jettonMaster, ·)
  | .excesses => none

/-- A row of the evidence: the observation with its occurrences and what it is
bound to. -/
structure JettonEvidence where
  observation : PayloadObservation
  occurrences : List (Nat × Nat × Nat)
  contract : Option ContractEntry
  metadata : Option SnapshotEntry
  fee : Option FeeEntry

/-- The occurrences of a payload, by run, capture and verification. -/
def payloadOccurrences (occurrences : List PayloadOccurrence) (identity : String) :
    List (Nat × Nat × Nat) :=
  ((occurrences.filter (·.observation.identity = identity)).map fun row =>
    (row.runId, row.captureId, row.verificationId)).insertionSort fun a b =>
      a.1 < b.1 ∨ (a.1 = b.1 ∧ (a.2.1 < b.2.1 ∨ (a.2.1 = b.2.1 ∧ a.2.2 ≤ b.2.2)))

/-- A payload with what the indexes have of it. -/
def bindPayload (snapshots : SnapshotIndex)
    (contracts : List ((ContractRole × TonAddress) × ContractEntry))
    (fees : List (String × FeeEntry)) (occurrences : List PayloadOccurrence)
    (observation : PayloadObservation) : Except TraceRaised JettonEvidence := do
  let key := observedContract observation
  let snapshot := key.bind fun key => (snapshots.get? key).map (·.2)
  let contract := key.bind fun key => (contracts.find? (·.1 = key)).map (·.2)
  check (snapshot.all fun s => contract.all fun c => s.master = c.master)
    (.readinessConflict "Provider metadata conflicts with verified jetton identity.")
  return {
    observation := observation
    occurrences := payloadOccurrences occurrences observation.identity
    contract := contract
    metadata := contract.bind fun _ => snapshot
    fee := (fees.find? (·.1 = observation.source.transactionHash)).map (·.2) }

/-- `_deduplicate_and_bind`: the first observation of each identity, in the
order of identities. -/
def deduplicateAndBind (snapshots : SnapshotIndex)
    (contracts : List ((ContractRole × TonAddress) × ContractEntry))
    (fees : List (String × FeeEntry)) (occurrences : List PayloadOccurrence) :
    Except TraceRaised (List JettonEvidence) := do
  let winners := occurrences.foldl (fun found (row : PayloadOccurrence) =>
    if found.any fun w : PayloadObservation => w.identity = row.observation.identity then found
    else found ++ [row.observation]) []
  check (∀ row ∈ occurrences, ∀ winner ∈ winners,
      row.observation.identity = winner.identity → row.observation = winner)
    (.readinessConflict "One jetton payload identity has conflicting semantics.")
  (winners.insertionSort fun a b => a.identity ≤ b.identity).mapM
    (bindPayload snapshots contracts fees occurrences)

/-! ## Readiness -/

/-- What `build_multi_asset_pnl_readiness` returns; the requirements that are
never met and the flags are left out. -/
structure MultiAssetReadiness where
  native : NativeReadiness
  selectedCaptureCount : Nat
  collected : CollectLoop
  snapshotCount : Nat
  validSnapshotCount : Nat
  invalidSnapshotCount : Nat
  verificationCount : Nat
  evidence : List JettonEvidence
  payloadsAvailable : Bool
  assetsAvailable : Bool
  feesAvailable : Bool

/-- `build_multi_asset_pnl_readiness`. -/
def buildMultiAssetPnlReadiness (store : ReadinessStore) (targetRunId : Nat) (runIds : List Nat) :
    Except TraceRaised MultiAssetReadiness := do
  let native ← buildNativeActivityPnlReadiness lib.toLedgerLibrary store.toLedgerStore targetRunId
    runIds
  let snapshots ← loadAssetSnapshotIndex lib store native.selectedRunIds native.network
  let contracts ← loadVerifiedContractIndex store native.selectedRunIds native.network
    native.walletAccount
  let fees ← loadTransactionFeeIndex lib store native.selectedRunIds native.network
  let collected ← collectPayloadObservations lib store.toTraceStore native.selectedRunIds
  let evidence ← deduplicateAndBind snapshots contracts fees collected.occurrences
  return {
    native := native
    selectedCaptureCount := (selectedCaptures store.toTraceStore native.selectedRunIds).length
    collected := collected
    snapshotCount := snapshots.snapshotCount
    validSnapshotCount := snapshots.validCount
    invalidSnapshotCount := snapshots.invalidCount
    verificationCount := (selectedContracts store native.selectedRunIds).length
    evidence := evidence
    payloadsAvailable := evidence ≠ []
    assetsAvailable := evidence ≠ [] ∧ ∀ row ∈ evidence, row.contract.isSome = true
    feesAvailable := evidence ≠ [] ∧ ∀ row ∈ evidence, row.fee.isSome = true }

end TonTracker
