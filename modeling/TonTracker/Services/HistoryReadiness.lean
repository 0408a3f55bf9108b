/-
# `Services.HistoryReadiness` — identities that several runs observed

The identity groups and the coverage counts of
`services/wallet_history_readiness.py`, over the responses of the selected
runs.  A row is the JSON object of the response; how values print and
normalise, SHA-256 and the parser of TON addresses are arguments
(`HistoryReaders`).
-/
import Mathlib.Data.Char
import Mathlib.Data.List.Lex
import TonTracker.Services.IngestionRun

namespace TonTracker

/-! ## Readers -/

/-- `parse_ton_address`. -/
structure ParsedTonAddress where
  isRaw : Bool
  canonicalAddress : Text
  workchainId : Int
  accountIdHex : Text

/-- `str(value)` and `str.upper`; `Decimal(text)` normalised and printed;
`_parse_timestamp` with `_isoformat`; the fingerprint of the stable JSON; the
address parser. -/
structure HistoryReaders where
  str : Json → Text
  upper : Text → Text
  decimalText : Text → Option Text
  timestampText : Text → Option Text
  fingerprint : Json → Text
  parseTonAddress : Text → Option ParsedTonAddress

/-- A JSON object. -/
abbrev JsonObject := List (String × Json)

/-- The selected part of a run response. -/
structure HistoryRun where
  runId : Nat
  fields : JsonObject
  transfers : List JsonObject
  transactions : List JsonObject
  swaps : List JsonObject

namespace Json

/-- The text of a `str`. -/
def text? : Json → Option Text
  | .str text => some text
  | _ => none

def isText (value : Json) (text : String) : Bool := value.text? == some text.toList

def isNull : Json → Bool
  | .null => true
  | _ => false

def isTrue : Json → Bool
  | .bool b => b
  | _ => false

def isFalse : Json → Bool
  | .bool b => !b
  | _ => false

/-- `value if isinstance(value, dict)`. -/
def object? : Json → Option JsonObject
  | .obj fields => some fields
  | _ => none

/-- `bool(value)`. -/
def truthy : Json → Bool
  | .null => false
  | .bool b => b
  | .int i => i ≠ 0
  | .float literal => !(literal.all fun c => c == '0' || c == '.' || c == '-')
  | .str text => !text.isEmpty
  | .arr xs => !xs.isEmpty
  | .obj fields => !fields.isEmpty

end Json

/-- A text, or `None`. -/
def jsonText (value : Option Text) : Json := (value.map .str).getD .null

variable (readers : HistoryReaders)

/-- `_normalized_decimal`. -/
def HistoryReaders.normalizedDecimal (value : Json) : Json :=
  match value with
  | .null => .null
  | .str [] => .null
  | value => .str ((readers.decimalText (readers.str value)).getD (readers.str value))

/-- `_normalized_timestamp`. -/
def HistoryReaders.normalizedTimestamp (value : Json) : Json :=
  match value.text?.bind readers.timestampText with
  | some text => .str text
  | none => if value.truthy then .str (readers.str value) else .null

/-! ## Semantic payloads -/

/-- `_transaction_semantic_payload`. -/
def HistoryReaders.transactionPayload (transaction : JsonObject) : Json :=
  .obj [("logical_time", Json.get transaction "logical_time"),
    ("timestamp", readers.normalizedTimestamp (Json.get transaction "timestamp")),
    ("fee_ton", readers.normalizedDecimal (Json.get transaction "fee_ton")),
    ("success", Json.get transaction "success"),
    ("provider", Json.get transaction "provider"),
    ("source_status", Json.get transaction "source_status")]

/-- `_swap_semantic_payload`. -/
def HistoryReaders.swapPayload (swap : JsonObject) : JsonObject :=
  [("timestamp", readers.normalizedTimestamp (Json.get swap "timestamp")),
    ("dex", Json.get swap "dex"),
    ("token_in", Json.get swap "token_in"),
    ("token_in_address", Json.get swap "token_in_address"),
    ("amount_in", readers.normalizedDecimal (Json.get swap "amount_in")),
    ("token_out", Json.get swap "token_out"),
    ("token_out_address", Json.get swap "token_out_address"),
    ("amount_out", readers.normalizedDecimal (Json.get swap "amount_out")),
    ("estimated_usd", readers.normalizedDecimal (Json.get swap "estimated_usd")),
    ("provider", Json.get swap "provider"),
    ("source_status", Json.get swap "source_status")]

/-- `_transfer_semantic_payload`. -/
def HistoryReaders.transferPayload (transfer : JsonObject) : JsonObject :=
  [("timestamp", readers.normalizedTimestamp (Json.get transfer "timestamp")),
    ("asset", Json.get transfer "asset"),
    ("amount", readers.normalizedDecimal (Json.get transfer "amount")),
    ("direction", Json.get transfer "direction"),
    ("counterparty", Json.get transfer "counterparty"),
    ("provider", Json.get transfer "provider"),
    ("source_status", Json.get transfer "source_status")]

inductive EventSurface where
  | transfers
  | swaps
deriving DecidableEq

def EventSurface.text : EventSurface → String
  | transfers => "transfers"
  | swaps => "swaps"

/-- `row.get("raw")` where it is an object. -/
def rawFields (row : JsonObject) : JsonObject := (Json.get row "raw").object?.getD []

/-- `_event_action_semantic_payload`. -/
def HistoryReaders.eventActionPayload (surface : EventSurface) (row : JsonObject) : Json :=
  .obj ([("surface", .str surface.text.toList),
      ("action_type", Json.get (rawFields row) "action_type")] ++
    match surface with
    | .transfers => readers.transferPayload row
    | .swaps => readers.swapPayload row)

/-! ## Transaction identities -/

/-- `_wallet_identity`; a field that is missing fails every check its default
fails. -/
def walletIdentity (run : HistoryRun) : JsonObject :=
  (Json.get run.fields "wallet_identity").object?.getD []

/-- A canonical raw address with the recorded parts. -/
def HistoryReaders.isCanonicalAccount (identity : JsonObject) (address : Text) : Bool :=
  match readers.parseTonAddress address with
  | none => false
  | some parsed =>
      parsed.isRaw && parsed.canonicalAddress == address &&
        (match Json.get identity "workchain_id" with
          | .int i => i == parsed.workchainId
          | _ => false) &&
        (Json.get identity "account_id_hex").text? == some parsed.accountIdHex

def isNetwork (value : Json) : Bool := value.isText "ton-mainnet" || value.isText "ton-testnet"

/-- `_scoped_wallet_identity_key`. -/
def HistoryReaders.scopedWalletIdentityKey (run : HistoryRun) : Option (Text × Text) := do
  let identity := walletIdentity run
  guard ((Json.get identity "status").isText "network_scoped")
  let version := Json.get identity "version"
  guard (version.isText "ton_std_address_v1" || version.isText "ton_raw_address_v1")
  guard (isNetwork (Json.get identity "network"))
  let network ← (Json.get identity "network").text?
  let address ← (Json.get identity "canonical_address").text?
  guard (!address.isEmpty && readers.isCanonicalAccount identity address)
  return (network, address)

/-- `_canonical_logical_time`. -/
def canonicalLogicalTime (value : Json) : Option Text := do
  let text ← value.text?
  guard (isCanonicalDecimal text && 0 < decimalValue text && decimalValue text ≤ maxLogicalTime)
  return text

/-- `_legacy_transaction_hash`. -/
def legacyTransactionHash (transaction : JsonObject) : Option Text := do
  let txHash ← (Json.get transaction "tx_hash").text?
  let cleaned := strip txHash
  guard (!cleaned.isEmpty)
  return if isHex256 cleaned then lower cleaned else cleaned

/-- `"|".join(…)`. -/
def joinKey (parts : List Text) : Text := ['|'].intercalate parts

/-- `_validated_transaction_identity_key`. -/
def HistoryReaders.validatedTransactionIdentityKey (run : HistoryRun) (transaction : JsonObject) :
    Option Text := do
  let identity ← (Json.get transaction "transaction_identity").object?
  guard ((Json.get identity "status").isText "network_scoped")
  guard ((Json.get identity "version").isText "ton_account_tx_v1")
  guard (Json.get identity "is_deduplication_identity").isTrue
  guard ((Json.get run.fields "data_mode").isText "real")
  guard ((Json.get transaction "provider").isText "tonapi")
  guard ((Json.get transaction "source_status").isText "live")
  let raw ← (Json.get transaction "raw").object?
  guard ((Json.get raw "provider").isText "tonapi" && (Json.get raw "surface").isText "transactions")
  let txHash ← (Json.get transaction "tx_hash").text?
  guard ((Json.get raw "tx_hash").text? == some txHash)
  let logicalTime ← (Json.get transaction "logical_time").text?
  guard ((Json.get raw "logical_time").text? == some logicalTime)
  guard (isNetwork (Json.get identity "network"))
  let network ← (Json.get identity "network").text?
  let account ← (Json.get identity "account_canonical").text?
  guard (readers.scopedWalletIdentityKey run == some (network, account))
  guard ((readers.parseTonAddress account).any fun parsed =>
    parsed.isRaw && parsed.canonicalAddress == account)
  let recordedTime ← canonicalLogicalTime (Json.get identity "logical_time_canonical")
  guard (canonicalLogicalTime (Json.get transaction "logical_time") == some recordedTime)
  let recordedHash ← (Json.get identity "hash_canonical").text?
  guard (isHex256 recordedHash && lower recordedHash == recordedHash)
  guard (isHex256 txHash && lower txHash == recordedHash)
  let expectedKey := joinKey
    ["ton_account_tx_v1".toList, network, account, recordedTime, recordedHash]
  guard ((Json.get identity "key").text? == some expectedKey)
  return expectedKey

/-- `_is_explicit_unavailable_transaction_identity`. -/
def isExplicitUnavailableTransactionIdentity (identity : JsonObject) : Bool :=
  (Json.get identity "status").isText "unavailable" &&
    (Json.get identity "version").isText "unavailable" &&
    (Json.get identity "network").isText "ton-unknown" &&
    (Json.get identity "account_canonical").isNull &&
    (Json.get identity "logical_time_canonical").isNull &&
    (Json.get identity "hash_canonical").isNull && (Json.get identity "key").isNull &&
    (Json.get identity "is_deduplication_identity").isFalse

/-- How a transaction is identified. -/
inductive HistoryTransactionIdentity where
  | exact (key : Text)
  | weak (txHash : Text)
  | unavailable
deriving DecidableEq

/-- A recorded identity that is neither valid nor explicitly unavailable. -/
def isInvalidContract (isExplicitUnavailable : JsonObject → Bool) (identity : Json) : Bool :=
  match identity with
  | .null => false
  | .obj fields => !isExplicitUnavailable fields
  | _ => true

/-- `_transaction_identity_classification`. -/
def HistoryReaders.transactionIdentity (run : HistoryRun) (transaction : JsonObject) :
    HistoryTransactionIdentity × Bool :=
  match readers.validatedTransactionIdentityKey run transaction with
  | some key => (.exact key, false)
  | none =>
      let invalid := isInvalidContract isExplicitUnavailableTransactionIdentity
        (Json.get transaction "transaction_identity")
      match legacyTransactionHash transaction with
      | some txHash => (.weak txHash, invalid)
      | none => (.unavailable, invalid)

/-! ## Event actions -/

/-- A key of `to_public_dict()` and its value. -/
def publicIdentity (status version : String) (provider : Option Text) (network : Text)
    (account eventId logicalTime : Option Text) (actionIndex : Option Int)
    (actionType key : Option Text) (isProviderObservation : Bool) : JsonObject :=
  [("status", .str status.toList), ("version", .str version.toList), ("provider", jsonText provider),
    ("network", .str network), ("account_canonical", jsonText account),
    ("event_id_canonical", jsonText eventId), ("logical_time_canonical", jsonText logicalTime),
    ("action_index", (actionIndex.map .int).getD .null), ("action_type", jsonText actionType),
    ("key", jsonText key), ("is_provider_observation_identity", .bool isProviderObservation),
    ("is_blockchain_proof_verified", .bool false), ("is_authoritative_activity_identity", .bool false),
    ("is_ownership_proof", .bool false), ("eligible_for_cost_basis", .bool false),
    ("deduplication_applied", .bool false), ("used_by_pnl", .bool false)]

/-- `unavailable_ton_event_action_identity().to_public_dict()`. -/
def unavailableEventActionIdentity : JsonObject :=
  publicIdentity "unavailable" "unavailable" none "ton-unknown".toList none none none none none none
    false

/-- Two scalars. -/
def Json.sameScalar : Json → Json → Bool
  | .null, .null => true
  | .bool a, .bool b => a == b
  | .int a, .int b => a == b
  | .str a, .str b => a == b
  | _, _ => false

/-- `identity == expected` for an object of scalars. -/
def sameObject (identity expected : JsonObject) : Bool :=
  identity.length == expected.length && expected.all fun field =>
    (identity.lookup field.1).any fun value => value.sameScalar field.2

/-- `_ACTION_TYPES_BY_SURFACE`. -/
def EventSurface.actionTypes : EventSurface → List String
  | transfers => ["TonTransfer", "JettonTransfer"]
  | swaps => ["JettonSwap"]

def maxActionIndex : Int := 2 ^ 31 - 1

/-- `_canonical_action_index`. -/
def canonicalActionIndex : Json → Option Int
  | .int i => if 0 ≤ i ∧ i ≤ maxActionIndex then some i else none
  | _ => none

/-- `derive_ton_event_action_identity` of a row: its key and its public form,
where it is provider scoped. -/
def HistoryReaders.deriveEventActionIdentity (run : HistoryRun) (surface : EventSurface)
    (row : JsonObject) : Option (Text × JsonObject) := do
  let wallet := walletIdentity run
  let raw ← (Json.get row "raw").object?
  let network ← (Json.get wallet "network").text?
  guard (isNetwork (Json.get wallet "network"))
  guard ((Json.get run.fields "data_mode").isText "real" && (Json.get row "source_status").isText "live")
  guard ((Json.get row "provider").isText "tonapi")
  let actionType ← (Json.get raw "action_type").text?
  guard (surface.actionTypes.any fun name => name.toList == actionType)
  guard ((Json.get raw "provider").isText "tonapi" && (Json.get raw "surface").isText surface.text)
  guard ((Json.get raw "source").isText "tonapi")
  let eventId ← (Json.get row "tx_hash").text?
  guard ((Json.get raw "event_id").text? == some eventId)
  let logicalTime ← (match surface with
    | .transfers => Json.get row "logical_time"
    | .swaps => Json.get raw "lt").text?
  guard ((Json.get raw "lt").text? == some logicalTime)
  let actionIndex ← canonicalActionIndex (Json.get raw "action_index")
  guard ((Json.get wallet "status").isText "network_scoped")
  guard ((Json.get wallet "version").isText "ton_std_address_v1" ||
    (Json.get wallet "version").isText "ton_raw_address_v1")
  let account ← (Json.get wallet "canonical_address").text?
  guard (readers.isCanonicalAccount wallet account)
  guard (isHex256 eventId)
  guard (isCanonicalDecimal logicalTime && logicalTime.length ≤ 20 && 0 < decimalValue logicalTime &&
    decimalValue logicalTime ≤ maxLogicalTime)
  let key := joinKey ["tonapi_event_action_obs_v1".toList, "tonapi".toList, network, account,
    lower eventId, logicalTime, (toString actionIndex).toList]
  guard (key.length ≤ 256)
  return (key, publicIdentity "provider_scoped" "tonapi_event_action_obs_v1" (some "tonapi".toList)
    network (some account) (some (lower eventId)) (some logicalTime) (some actionIndex)
    (some actionType) (some key) true)

/-- `_validated_event_action_identity_key`. -/
def HistoryReaders.validatedEventActionIdentityKey (run : HistoryRun) (surface : EventSurface)
    (row : JsonObject) : Option Text := do
  let identity ← (Json.get row "event_action_identity").object?
  let (key, expected) ← readers.deriveEventActionIdentity run surface row
  guard (sameObject identity expected)
  return key

/-- `_event_action_identity_classification`: the key where the identity is
provider scoped, and whether the recorded contract is invalid. -/
def HistoryReaders.eventActionIdentity (run : HistoryRun) (surface : EventSurface)
    (row : JsonObject) : Option Text × Bool :=
  match readers.validatedEventActionIdentityKey run surface row with
  | some key => (some key, false)
  | none => (none, isInvalidContract (sameObject · unavailableEventActionIdentity)
      (Json.get row "event_action_identity"))

/-! ## Swap identities -/

inductive IdentityStrength where
  | exact
  | providerScoped
  | weak
deriving DecidableEq

/-- An identity: its type and its text. -/
structure IdentityKey where
  identityType : Text
  identity : Text
deriving DecidableEq

def providerEventActionType : Text := "provider_event_action_observation".toList

/-- `value or other`. -/
def Json.orElse (value other : Json) : Json := if value.truthy then value else other

/-- The first ordinal of `_SWAP_ORDINAL_KEYS`. -/
def HistoryReaders.swapOrdinal (raw : JsonObject) : Option (String × Text) :=
  ["action_id", "action_index", "action_ordinal"].findSome? fun key =>
    match Json.get raw key with
    | .null => none
    | value =>
        let ordinal := strip (readers.str value)
        if ordinal.isEmpty then none else some (key, ordinal)

/-- The stripped text of a value that is a text. -/
def strippedText (value : Json) : Text := (value.text?.map strip).getD []

/-- `_legacy_swap_identity`. -/
def HistoryReaders.legacySwapIdentity (swap : JsonObject) : IdentityKey :=
  let raw := rawFields swap
  let provider := ((Json.get swap "provider").text?.map strip).getD "unknown".toList
  let rawEvent := strippedText (Json.get raw "event_id")
  let eventId := if rawEvent.isEmpty then strippedText (Json.get swap "tx_hash") else rawEvent
  if eventId.isEmpty then
    ⟨"swap_fingerprint".toList, "sha256:".toList ++ readers.fingerprint (.obj
      [("timestamp", readers.normalizedTimestamp (Json.get swap "timestamp")),
        ("dex", Json.get swap "dex"),
        ("token_in", (Json.get swap "token_in_address").orElse (Json.get swap "token_in")),
        ("amount_in", readers.normalizedDecimal (Json.get swap "amount_in")),
        ("token_out", (Json.get swap "token_out_address").orElse (Json.get swap "token_out")),
        ("amount_out", readers.normalizedDecimal (Json.get swap "amount_out")),
        ("provider", .str provider)])⟩
  else
    match readers.swapOrdinal raw with
    | some (key, ordinal) =>
        ⟨"event_action".toList, [':'].intercalate [provider, eventId, key.toList, ordinal]⟩
    | none => ⟨"event_reference".toList, [':'].intercalate [provider, eventId]⟩

/-- `_swap_identity`. -/
def HistoryReaders.swapIdentity (run : HistoryRun) (swap : JsonObject) :
    IdentityKey × IdentityStrength :=
  match (readers.eventActionIdentity run .swaps swap).1 with
  | some key => (⟨providerEventActionType, key⟩, .providerScoped)
  | none => (readers.legacySwapIdentity swap, .weak)

/-! ## Groups -/

/-- A row under an identity. -/
structure Observation where
  key : IdentityKey
  runId : Nat
  payload : Json
  strength : IdentityStrength

structure IdentityGroup where
  key : IdentityKey
  identityStrength : IdentityStrength
  runIds : List Nat
  observationCount : Nat
  distinctPayloadCount : Nat
  hasConflict : Bool
deriving DecidableEq

/-- The runs of some observations, each once, in order. -/
def observedRuns (rows : List Observation) : List Nat :=
  (rows.map (·.runId)).dedup.mergeSort fun a b => decide (a ≤ b)

/-- The strength of a group. -/
def groupStrength (rows : List Observation) : IdentityStrength :=
  let strengths := (rows.map (·.strength)).dedup
  if strengths = [.exact] then .exact
  else if strengths = [.providerScoped] then .providerScoped
  else .weak

/-- The fingerprints of the payloads, each once. -/
def HistoryReaders.payloads (rows : List Observation) : List Text :=
  (rows.map fun row => readers.fingerprint row.payload).dedup

/-- The body of the loop of `_identity_groups`. -/
def HistoryReaders.identityGroup (observations : List Observation) (key : IdentityKey) :
    Option IdentityGroup :=
  let rows := observations.filter fun row => row.key = key
  let runIds := observedRuns rows
  if runIds.length < 2 then none
  else
    let strength := groupStrength rows
    let payloads := (readers.payloads rows).length
    some ⟨key, strength, runIds, rows.length, payloads,
      decide (strength ≠ .weak) && decide (1 < payloads)⟩

/-- The order of `(identity_type, identity)`. -/
def IdentityKey.le (a b : IdentityKey) : Bool :=
  decide (a.identityType < b.identityType) ||
    (decide (a.identityType = b.identityType) && decide (a.identity ≤ b.identity))

def sortGroups (groups : List IdentityGroup) : List IdentityGroup :=
  groups.mergeSort fun a b => a.key.le b.key

/-- `_identity_groups`; the observations of a key are its list in the
dictionary. -/
def HistoryReaders.identityGroups (observations : List Observation) : List IdentityGroup :=
  sortGroups ((observations.map (·.key)).dedup.filterMap (readers.identityGroup observations))

/-- The exact observations of the transactions. -/
def HistoryReaders.exactObservations (runs : List HistoryRun) : List Observation :=
  runs.flatMap fun run => run.transactions.filterMap fun transaction =>
    match (readers.transactionIdentity run transaction).1 with
    | .exact key => some ⟨⟨"account_transaction".toList, key⟩, run.runId,
        readers.transactionPayload transaction, .exact⟩
    | _ => none

/-- A transaction under its hash, with its exact key. -/
structure HashCandidate where
  txHash : Text
  runId : Nat
  payload : Json
  exactKey : Option Text

def HistoryTransactionIdentity.exactKey? : HistoryTransactionIdentity → Option Text
  | exact key => some key
  | _ => none

/-- `hash_candidates`. -/
def HistoryReaders.hashCandidates (runs : List HistoryRun) : List HashCandidate :=
  runs.flatMap fun run => run.transactions.filterMap fun transaction =>
    (legacyTransactionHash transaction).map fun txHash =>
      ⟨txHash, run.runId, readers.transactionPayload transaction,
        (readers.transactionIdentity run transaction).1.exactKey?⟩

/-- `all_rows_share_one_exact_key`. -/
def shareOneExactKey (rows : List HashCandidate) : Bool :=
  decide ((rows.filterMap (·.exactKey)).dedup.length = 1) &&
    rows.all fun row => row.exactKey.isSome

/-- `candidate_observations`. -/
def candidateObservations (candidates : List HashCandidate) : List Observation :=
  (candidates.filter fun candidate =>
    !shareOneExactKey (candidates.filter fun row => row.txHash = candidate.txHash)).map
      fun candidate => ⟨⟨"transaction_hash".toList, candidate.txHash⟩, candidate.runId,
        candidate.payload, .weak⟩

/-- `_transaction_groups`. -/
def HistoryReaders.transactionGroups (runs : List HistoryRun) : List IdentityGroup :=
  sortGroups (readers.identityGroups (readers.exactObservations runs) ++
    readers.identityGroups (candidateObservations (readers.hashCandidates runs)))

def HistoryReaders.swapObservations (runs : List HistoryRun) : List Observation :=
  runs.flatMap fun run => run.swaps.map fun swap =>
    let (key, strength) := readers.swapIdentity run swap
    ⟨key, run.runId, .obj (readers.swapPayload swap), strength⟩

/-- `_swap_groups`. -/
def HistoryReaders.swapGroups (runs : List HistoryRun) : List IdentityGroup :=
  readers.identityGroups (readers.swapObservations runs)

/-- The rows of a surface. -/
def HistoryRun.rows (run : HistoryRun) : EventSurface → List JsonObject
  | .transfers => run.transfers
  | .swaps => run.swaps

/-- The event actions of a run. -/
def HistoryRun.eventActions (run : HistoryRun) : List (EventSurface × JsonObject) :=
  [EventSurface.transfers, .swaps].flatMap fun surface => (run.rows surface).map (surface, ·)

def HistoryReaders.eventActionObservations (runs : List HistoryRun) : List Observation :=
  runs.flatMap fun run => run.eventActions.filterMap fun (surface, row) =>
    (readers.eventActionIdentity run surface row).1.map fun key =>
      ⟨⟨providerEventActionType, key⟩, run.runId, readers.eventActionPayload surface row,
        .providerScoped⟩

/-- `_event_action_groups`. -/
def HistoryReaders.eventActionGroups (runs : List HistoryRun) : List IdentityGroup :=
  readers.identityGroups (readers.eventActionObservations runs)

/-! ## Coverage -/

inductive ObservedCoverage where
  | notObserved
  | complete
  | incomplete
deriving DecidableEq

/-- `"not_observed"` of nothing, else whether all are covered. -/
def observedCoverage (total : Nat) (complete : Bool) : ObservedCoverage :=
  if total = 0 then .notObserved else if complete then .complete else .incomplete

/-- The rows of all runs, each with its run. -/
def historyTransactions (runs : List HistoryRun) : List (HistoryRun × JsonObject) :=
  runs.flatMap fun run => run.transactions.map (run, ·)

def historyEventActions (runs : List HistoryRun) :
    List (HistoryRun × EventSurface × JsonObject) :=
  runs.flatMap fun run => run.eventActions.map (run, ·)

def historySwaps (runs : List HistoryRun) : List (HistoryRun × JsonObject) :=
  runs.flatMap fun run => run.swaps.map (run, ·)

/-- `transaction_fees[tx_hash]` where the hash is a key: the last row stays. -/
def recordedFeeValue (run : HistoryRun) (txHash : Text) : Option Json :=
  (run.transactions.reverse.find? fun transaction =>
    !txHash.isEmpty && (Json.get transaction "tx_hash").text? == some txHash).map
      fun transaction => Json.get transaction "fee_ton"

/-- A swap whose transaction has a recorded fee. -/
def hasFeeHashMatch (run : HistoryRun) (swap : JsonObject) : Bool :=
  ((Json.get swap "tx_hash").text?.bind (recordedFeeValue run)).any fun fee =>
    match fee with
    | .null => false
    | .str [] => false
    | _ => true

/-- The addresses of the legs of a swap that are not TON. -/
def HistoryReaders.nonTonLegs (swap : JsonObject) : List Json :=
  [("token_in", "token_in_address"), ("token_out", "token_out_address")].filterMap
    fun (tokenKey, addressKey) =>
      if (Json.get swap tokenKey).text?.any fun token => readers.upper (strip token) == "TON".toList
      then none else some (Json.get swap addressKey)

/-- What `_coverage` returns. -/
structure HistoryCoverage where
  activityObservations : Nat
  timestampedActivityObservations : Nat
  transactionObservations : Nat
  transactionObservationsWithHash : Nat
  exactTransactions : Nat
  weakTransactions : Nat
  unavailableTransactions : Nat
  invalidTransactionContracts : Nat
  transactionIdentityCoverage : ObservedCoverage
  overlappingTransactionGroups : Nat
  conflictingTransactionGroups : Nat
  eventActionObservations : Nat
  providerScopedEventActions : Nat
  unavailableEventActions : Nat
  invalidEventActionContracts : Nat
  eventActionIdentityCoverage : ObservedCoverage
  overlappingEventActionGroups : Nat
  conflictingEventActionGroups : Nat
  swapObservations : Nat
  exactSwaps : Nat
  providerScopedSwaps : Nat
  weakSwaps : Nat
  overlappingExactSwapGroups : Nat
  overlappingProviderScopedSwapGroups : Nat
  overlappingWeakSwapGroups : Nat
  conflictingSwapGroups : Nat
  nonTonSwapLegs : Nat
  addressedNonTonSwapLegs : Nat
  assetAddressCoverage : ObservedCoverage
  feeHashMatches : Nat
  feeHashMatchCoverage : ObservedCoverage
deriving DecidableEq

def hasStrength (strength : IdentityStrength) (group : IdentityGroup) : Bool :=
  decide (group.identityStrength = strength)

/-- `_coverage`. -/
def HistoryReaders.coverage (runs : List HistoryRun)
    (transactionGroups swapGroups eventActionGroups : List IdentityGroup) : HistoryCoverage :=
  let transfers := runs.flatMap (·.transfers)
  let transactions := historyTransactions runs
  let swaps := historySwaps runs
  let eventActions := historyEventActions runs
  let identity := fun row : HistoryRun × JsonObject => readers.transactionIdentity row.1 row.2
  let exact := transactions.countP fun row => (identity row).1.exactKey?.isSome
  let action := fun row : HistoryRun × EventSurface × JsonObject =>
    readers.eventActionIdentity row.1 row.2.1 row.2.2
  let providerScoped := eventActions.countP fun row => (action row).1.isSome
  let invalidActions := eventActions.countP fun row => (action row).2
  let strength := fun row : HistoryRun × JsonObject => (readers.swapIdentity row.1 row.2).2
  let legs := swaps.flatMap fun row => readers.nonTonLegs row.2
  let addressed := legs.countP fun address => !(strippedText address).isEmpty
  let feeMatches := swaps.countP fun row => hasFeeHashMatch row.1 row.2
  let timestamped := fun row : JsonObject =>
    ((Json.get row "timestamp").text?.bind readers.timestampText).isSome
  { activityObservations := transfers.length + transactions.length + swaps.length
    timestampedActivityObservations := transfers.countP timestamped +
      transactions.countP (fun row => timestamped row.2) +
      swaps.countP fun row => timestamped row.2
    transactionObservations := transactions.length
    transactionObservationsWithHash := transactions.countP fun row =>
      !(strippedText (Json.get row.2 "tx_hash")).isEmpty
    exactTransactions := exact
    weakTransactions := transactions.countP fun row =>
      match (identity row).1 with
      | .weak _ => true
      | _ => false
    unavailableTransactions := transactions.countP fun row =>
      decide ((identity row).1 = .unavailable)
    invalidTransactionContracts := transactions.countP fun row => (identity row).2
    transactionIdentityCoverage :=
      observedCoverage transactions.length (decide (exact = transactions.length))
    overlappingTransactionGroups := transactionGroups.countP (hasStrength .exact)
    conflictingTransactionGroups := transactionGroups.countP (·.hasConflict)
    eventActionObservations := eventActions.length
    providerScopedEventActions := providerScoped
    unavailableEventActions := eventActions.countP fun row => (action row).1.isNone
    invalidEventActionContracts := invalidActions
    eventActionIdentityCoverage := observedCoverage eventActions.length
      (decide (providerScoped = eventActions.length) && decide (invalidActions = 0))
    overlappingEventActionGroups := eventActionGroups.countP (hasStrength .providerScoped)
    conflictingEventActionGroups := eventActionGroups.countP fun group =>
      hasStrength .providerScoped group && group.hasConflict
    swapObservations := swaps.length
    exactSwaps := swaps.countP fun row => decide (strength row = .exact)
    providerScopedSwaps := swaps.countP fun row => decide (strength row = .providerScoped)
    weakSwaps := swaps.countP fun row => decide (strength row = .weak)
    overlappingExactSwapGroups := swapGroups.countP (hasStrength .exact)
    overlappingProviderScopedSwapGroups := swapGroups.countP (hasStrength .providerScoped)
    overlappingWeakSwapGroups := swapGroups.countP (hasStrength .weak)
    conflictingSwapGroups := swapGroups.countP (·.hasConflict)
    nonTonSwapLegs := legs.length
    addressedNonTonSwapLegs := addressed
    assetAddressCoverage := observedCoverage legs.length (decide (addressed = legs.length))
    feeHashMatches := feeMatches
    feeHashMatchCoverage := observedCoverage swaps.length (decide (feeMatches = swaps.length)) }

/-! ## The assessment -/

/-- `_MAX_IDENTITY_GROUPS`. -/
def maxIdentityGroups : Nat := 200

/-- The groups of `assess_wallet_history_readiness`, with their totals. -/
structure HistoryGroups where
  transactionGroups : List IdentityGroup
  swapGroups : List IdentityGroup
  eventActionGroups : List IdentityGroup
  coverage : HistoryCoverage
deriving DecidableEq

/-- The selected runs, by their ids. -/
def sortRuns (runs : List HistoryRun) : List HistoryRun :=
  runs.mergeSort fun a b => decide (a.runId ≤ b.runId)

/-- The groups and the coverage of the selected runs; a response shows the
first `maxIdentityGroups` of each list and how many there are. -/
def HistoryReaders.historyGroups (selected : List HistoryRun) : HistoryGroups :=
  let runs := sortRuns selected
  let transactionGroups := readers.transactionGroups runs
  let swapGroups := readers.swapGroups runs
  let eventActionGroups := readers.eventActionGroups runs
  ⟨transactionGroups, swapGroups, eventActionGroups,
    readers.coverage runs transactionGroups swapGroups eventActionGroups⟩

end TonTracker
