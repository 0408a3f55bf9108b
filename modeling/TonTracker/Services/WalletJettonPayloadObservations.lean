/-
# `Services.WalletJettonPayloadObservations` — TEP-74 bodies of verified messages

`_decode_jetton_payload` and `_build_response`
(`services/wallet_jetton_payload_observations.py`).  The loads of a slice
follow TL-B (`Lib.Tlb`); the hashes of cells and the raw texts of addresses
are third-party code (`CellLibrary`).  The bodies of a trace are found again
as multi-asset readiness finds them, whose decoder this is
(`PayloadLibrary`).
-/
import TonTracker.Lib.Tlb
import TonTracker.Services.WalletMultiAssetPnlReadiness

namespace TonTracker

open ExceptFold (check present)
open Tlb (Coins Load MsgAddress Slice Uint)

/-! ## Documents -/

inductive StandardStatus where
  | active
  | suggested
deriving DecidableEq

inductive ContractAccountRole where
  | destinationJettonWalletObserved
  | sourceJettonWalletObserved
  | destinationJettonMasterObserved
  | unresolvedContractRole
deriving DecidableEq

namespace JettonOperation

def opcode : JettonOperation → Uint 32
  | transfer => 0x0F8A7EA5
  | transferNotification => 0x7362D09C
  | excesses => 0xD53276DB
  | burn => 0x595F07BC
  | internalTransfer => 0x178D4519
  | burnNotification => 0x7BDD97DE

/-- The operations, sorted by name. -/
def all : List JettonOperation :=
  [burn, burnNotification, excesses, internalTransfer, transfer, transferNotification]

/-- `_OPCODE_TO_OPERATION.get(opcode)`. -/
def ofOpcode (value : Uint 32) : Option JettonOperation := all.find? (·.opcode = value)

def standardStatus : JettonOperation → StandardStatus
  | transfer | transferNotification | excesses | burn => .active
  | internalTransfer | burnNotification => .suggested

/-- `_contract_role`. -/
def contractRole : JettonOperation → ContractAccountRole
  | transfer | internalTransfer | burn => .destinationJettonWalletObserved
  | transferNotification => .sourceJettonWalletObserved
  | burnNotification => .destinationJettonMasterObserved
  | excesses => .unresolvedContractRole

end JettonOperation

/-- What `_decode_jetton_payload` returns, in full. -/
structure JettonDocument extends DecodedPayload where
  standardStatus : StandardStatus
  customPayloadPresent : Bool
  contractAccountRole : ContractAccountRole
deriving DecidableEq

/-- The document before the fields of the operation are read. -/
def JettonOperation.document (operation : JettonOperation) (queryId : Nat) : JettonDocument where
  operation := operation
  standardStatus := operation.standardStatus
  queryId := queryId
  amountBaseUnits := none
  destination := none
  responseDestination := none
  sender := none
  fromAccount := none
  forwardTonAmount := none
  customPayloadPresent := false
  customPayloadHash := none
  forwardPayloadInRef := none
  forwardPayloadHash := none
  forwardPayloadBitLength := none
  forwardPayloadRefCount := none
  contractAccountRole := operation.contractRole

/-- What the decoder uses of third-party code. -/
structure CellLibrary where
  /-- `cell.hash.hex()`. -/
  hash : Tlb.Cell → String
  /-- `address.to_str(is_user_friendly=False)`, where it returns: an address,
  or a text without a colon. -/
  rawText : MsgAddress → Option (Option TonAddress)

/-! ## A body -/

/-- What a decoder raises: a `WalletJettonPayloadConflict`, or an exception
of the slice. -/
inductive PayloadRaised where
  | conflict (message : String)
  | slice
deriving DecidableEq

section Decoder

variable (lib : CellLibrary)

/-- `_require_consumed`. -/
def requireConsumed : Load PayloadRaised Unit := fun source =>
  if source.bits.isEmpty && source.refs.isEmpty then .ok ((), source)
  else .error (.conflict "A recognized TEP-74 payload contains trailing data.")

/-- What `_forward_payload` says of a payload. -/
def JettonDocument.withForward (document : JettonDocument) (inRef : Bool) (payload : Tlb.Cell) :
    JettonDocument :=
  { document with
    forwardPayloadInRef := some inRef
    forwardPayloadHash := some (lib.hash payload)
    forwardPayloadBitLength := some payload.bits.length
    forwardPayloadRefCount := some payload.refs.length }

/-- `_forward_payload`: whether the payload is in a reference, and the
payload. -/
def forwardPayload : Load PayloadRaised (Bool × Tlb.Cell) := do
  match ← Tlb.loadBit .slice with
  | true => do
      let payload ← Tlb.loadRef .slice
      requireConsumed
      return (true, payload)
  | false => return (false, (← get).toCell)

/-- `_address`; there is no address to write where it is `None`. -/
def addressText (address : MsgAddress) : Except PayloadRaised TonAddress :=
  match address with
  | .addrNone =>
      .error (.conflict "A recognized TEP-74 payload uses a non-canonical address.")
  | _ => do
      let text ← present (lib.rawText address)
        (.conflict "A recognized TEP-74 payload uses a non-canonical address.")
      present text (.conflict "A recognized TEP-74 payload address is not canonical.")

/-- `_address` with `allow_none`. -/
def optionalAddressText (address : MsgAddress) : Except PayloadRaised (Option TonAddress) :=
  match address with
  | .addrNone => .ok none
  | _ => some <$> addressText lib address

def loadAddressText : Load PayloadRaised TonAddress := do
  let address ← Tlb.loadAddress .slice
  StateT.lift (addressText lib address)

def loadOptionalAddressText : Load PayloadRaised (Option TonAddress) := do
  let address ← Tlb.loadAddress .slice
  StateT.lift (optionalAddressText lib address)

/-- The fields of an operation, in the order they are read. -/
def decodeOperation (operation : JettonOperation) (decoded : JettonDocument) :
    Load PayloadRaised JettonDocument :=
  match operation with
  | .transfer => do
      let amount ← Tlb.loadCoins .slice
      let destination ← loadAddressText lib
      let response ← loadOptionalAddressText lib
      let customPayload ← Tlb.loadMaybe .slice (Tlb.loadRef .slice)
      let forwardTonAmount ← Tlb.loadCoins .slice
      let forward ← forwardPayload
      return JettonDocument.withForward lib { decoded with
        amountBaseUnits := some amount.value
        destination := some destination
        responseDestination := response
        customPayloadPresent := customPayload.isSome
        customPayloadHash := customPayload.map lib.hash
        forwardTonAmount := some forwardTonAmount.value } forward.1 forward.2
  | .transferNotification => do
      let amount ← Tlb.loadCoins .slice
      let sender ← loadAddressText lib
      let forward ← forwardPayload
      return JettonDocument.withForward lib { decoded with
        amountBaseUnits := some amount.value
        sender := some sender } forward.1 forward.2
  | .burn => do
      let amount ← Tlb.loadCoins .slice
      let response ← loadOptionalAddressText lib
      let customPayload ← Tlb.loadMaybe .slice (Tlb.loadRef .slice)
      requireConsumed
      return { decoded with
        amountBaseUnits := some amount.value
        responseDestination := response
        customPayloadPresent := customPayload.isSome
        customPayloadHash := customPayload.map lib.hash }
  | .internalTransfer => do
      let amount ← Tlb.loadCoins .slice
      let fromAccount ← loadOptionalAddressText lib
      let response ← loadOptionalAddressText lib
      let forwardTonAmount ← Tlb.loadCoins .slice
      let forward ← forwardPayload
      return JettonDocument.withForward lib { decoded with
        amountBaseUnits := some amount.value
        fromAccount := fromAccount
        responseDestination := response
        forwardTonAmount := some forwardTonAmount.value } forward.1 forward.2
  | .burnNotification => do
      let amount ← Tlb.loadCoins .slice
      let sender ← loadAddressText lib
      let response ← loadOptionalAddressText lib
      requireConsumed
      return { decoded with
        amountBaseUnits := some amount.value
        sender := some sender
        responseDestination := response }
  | .excesses => do
      requireConsumed
      return decoded

/-- The body of the `try`. -/
def decodeRecognized (operation : JettonOperation) : Load PayloadRaised JettonDocument := do
  let opcode ← Tlb.loadUint .slice 32
  StateT.lift (check (opcode = operation.opcode) .slice)
  let queryId ← Tlb.loadUint .slice 64
  decodeOperation lib operation (operation.document queryId)

/-- The `except` clauses: the message of the `WalletJettonPayloadConflict`. -/
def PayloadRaised.message : PayloadRaised → String
  | conflict message => message
  | slice => "A recognized TEP-74 payload failed strict local decoding."

/-- `_decode_jetton_payload`.  A body of 32 bits has an opcode. -/
def decodeJettonPayload (body : Tlb.Cell) : Except String (Option JettonDocument) :=
  if h : 32 ≤ body.bits.length then
    match JettonOperation.ofOpcode (Tlb.uintOfBits 32 body.bits h) with
    | none => .ok none
    | some operation =>
        ((Tlb.result (decodeRecognized lib operation) body.beginParse).mapError
          (·.message)).map some
  else .ok none

end Decoder

/-! ## The messages of a trace -/

/-- The third-party code of multi-asset readiness, with the contents of its
cells; its decoder is this one. -/
structure PayloadLibrary extends ReadinessLibrary, CellLibrary where
  contents : Cell → Tlb.Cell
  decodes : ∀ body, decodePayload body =
    (decodeJettonPayload toCellLibrary (contents body)).map (·.map (·.toDecodedPayload))

variable (lib : PayloadLibrary)

/-- An observation; the coordinates and the header of the message are those
of the source. -/
structure JettonObservation where
  ordinal : Nat
  payloadObservationIdentity : String
  source : LocatedMessage
  decoded : JettonDocument
deriving DecidableEq

/-- What `_build_response` returns; its other fields are constants. -/
structure JettonObservations where
  verificationId : Nat
  captureId : Nat
  runId : Nat
  network : Option Network
  anchor : TraceAnchor
  verificationDigest : String
  messageDigest : String
  sourceMessageCount : Nat
  recognizedMessageCount : Nat
  unrecognizedMessageCount : Nat
  operations : List (JettonOperation × Nat)
  observations : List JettonObservation
  recognizedPayloadSemanticsApplied : Bool
deriving DecidableEq

/-- One round of the loop over the source messages and their bodies. -/
def observePayload (network : Option Network) (observations : List JettonObservation)
    (pair : LocatedMessage × lib.Cell) : Except TraceRaised (List JettonObservation) := do
  let (source, body) := pair
  match decodeJettonPayload lib.toCellLibrary (lib.contents body) with
  | .error message => throw (.payloadConflict message)
  | .ok none => return observations
  | .ok (some decoded) => return observations ++ [{
      ordinal := observations.length
      payloadObservationIdentity := lib.digestPayload network source decoded.toDecodedPayload
      source := source
      decoded := decoded }]

/-- `operations`: how many observations each operation has. -/
def operationCounts (observations : List JettonObservation) : List (JettonOperation × Nat) :=
  (JettonOperation.all.map fun operation =>
    (operation, observations.countP (·.decoded.operation = operation))).filter (·.2 ≠ 0)

/-- `_build_response`, of the bodies of the messages. -/
def buildPayloadResponse (evidence : BocMessageEvidence) (bodies : List lib.Cell) :
    Except TraceRaised JettonObservations := do
  check (bodies.length = evidence.messages.length)
    (.payloadConflict "Verified message body count changed during payload decoding.")
  let observations ←
    (evidence.messages.zip bodies).foldlM (observePayload lib evidence.network) []
  return {
    verificationId := evidence.verificationId
    captureId := evidence.captureId
    runId := evidence.runId
    network := evidence.network
    anchor := evidence.anchor
    verificationDigest := evidence.verificationDigest
    messageDigest := evidence.messageDigest
    sourceMessageCount := evidence.messages.length
    recognizedMessageCount := observations.length
    unrecognizedMessageCount := evidence.messages.length - observations.length
    operations := operationCounts observations
    observations := observations
    recognizedPayloadSemanticsApplied := !observations.isEmpty }

/-- `_load_verified_body_rows`. -/
def loadVerifiedBodies (verification : BocVerification) (messages : List LocatedMessage) :
    Except TraceRaised (List lib.Cell) := do
  let _ ← verification.transactions.mapM (reparsed lib.toReadinessLibrary)
  messages.mapM (verifiedBody lib.toReadinessLibrary verification)

/-- `get_wallet_transaction_jetton_payload_observations`, in full. -/
def getPayloadObservations (store : TraceStore) (runId : Nat) (transactionHash : String) :
    Except TraceRaised (Option JettonObservations) := do
  match ← getWalletTransactionBocMessageEvidence lib.toBocLibrary store runId transactionHash with
  | none => return none
  | some evidence => do
      let verification ← present
        (store.verifications.find? (·.id = evidence.verificationId))
        (.payloadConflict
          "Locally verified BOC storage disappeared during payload decoding.")
      let bodies ← loadVerifiedBodies lib verification evidence.messages
      return some (← buildPayloadResponse lib evidence bodies)

end TonTracker
