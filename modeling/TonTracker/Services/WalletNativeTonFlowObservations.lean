/-
# `Services.WalletNativeTonFlowObservations` — native movements of a wallet

`get_wallet_native_ton_flow_observations`
(`services/wallet_native_ton_flow_observations.py`): the internal messages
of a verified trace that touch the wallet of the run, each with a direction,
and the three totals.
-/
import TonTracker.Services.WalletTraceBocVerification

namespace TonTracker

inductive FlowDirection where
  | incoming
  | outgoing
  | self
deriving DecidableEq

/-- A flow; its identity is a hash of the other fields. -/
structure NativeFlow where
  transactionPreorderIndex : Int
  transactionHash : String
  messageRole : TraceRole
  messageOrdinal : Int
  messageHash : String
  direction : FlowDirection
  counterparty : Option TonAddress
  amountNanoton : Nat
  createdLogicalTime : Nat
  unixTime : Int
  bodyHash : String
  opcode : Option Nat
  bounce : Bool
  bounced : Bool
deriving DecidableEq

/-- What `get_wallet_native_ton_flow_observations` returns. -/
structure NativeFlowObservations where
  verificationId : Nat
  captureId : Nat
  runId : Nat
  network : Option Network
  walletAccount : TonAddress
  anchor : TraceAnchor
  messageDigest : String
  incomingNanoton : Nat
  outgoingNanoton : Nat
  selfNanoton : Nat
  flows : List NativeFlow

/-- The direction of a header for a wallet, where it touches the wallet. -/
def flowDirection (wallet : TonAddress) (header : MessageHeader) : Option FlowDirection :=
  if header.messageType ≠ .intMsg then none
  else if header.sourceAccount ≠ some wallet ∧ header.destinationAccount ≠ some wallet then none
  else if header.sourceAccount = some wallet ∧ header.destinationAccount = some wallet then
    some .self
  else if header.destinationAccount = some wallet then some .incoming
  else some .outgoing

/-- The other end of a movement. -/
def flowCounterparty (wallet : TonAddress) (header : MessageHeader) : FlowDirection → Option TonAddress
  | .self => some wallet
  | .incoming => header.sourceAccount
  | .outgoing => header.destinationAccount

/-- The flow of a message. -/
def nativeFlow (wallet : TonAddress) (located : LocatedMessage) (direction : FlowDirection) :
    NativeFlow where
  transactionPreorderIndex := located.transactionPreorderIndex
  transactionHash := located.transactionHash
  messageRole := located.message.role
  messageOrdinal := located.message.ordinal
  messageHash := located.message.header.messageHash
  direction := direction
  counterparty := flowCounterparty wallet located.message.header direction
  amountNanoton := located.message.header.valueNanoton
  createdLogicalTime := located.message.header.createdLogicalTime
  unixTime := located.message.header.unixTime
  bodyHash := located.message.bodyHash
  opcode := located.message.opcode
  bounce := located.message.header.bounce
  bounced := located.message.header.bounced

/-- The flows and totals so far. -/
structure FlowLoop where
  flows : List NativeFlow
  incoming : Nat
  outgoing : Nat
  selfAmount : Nat

/-- One round of the loop over the messages. -/
def observeFlow (wallet : TonAddress) (loop : FlowLoop) (located : LocatedMessage) : FlowLoop :=
  match flowDirection wallet located.message.header with
  | none => loop
  | some direction =>
      let amount := located.message.header.valueNanoton
      let flows := loop.flows ++ [nativeFlow wallet located direction]
      match direction with
      | .incoming => { loop with flows := flows, incoming := loop.incoming + amount }
      | .outgoing => { loop with flows := flows, outgoing := loop.outgoing + amount }
      | .self => { loop with flows := flows, selfAmount := loop.selfAmount + amount }

/-- The loop over the messages. -/
def observeFlows (wallet : TonAddress) (messages : List LocatedMessage) : FlowLoop :=
  messages.foldl (observeFlow wallet) { flows := [], incoming := 0, outgoing := 0, selfAmount := 0 }

/-- `get_wallet_native_ton_flow_observations`. -/
def getWalletNativeTonFlowObservations (lib : BocLibrary) (store : TraceStore) (runId : Nat)
    (transactionHash : String) : Except TraceRaised (Option NativeFlowObservations) := do
  let (run, transaction) ← resolveTraceAnchor store.runs store.transactions runId transactionHash
  requireEligibleStoredIdentity lib.derive run transaction transactionHash
  match ← getWalletTransactionBocMessageEvidence lib store runId transactionHash,
      run.walletAddressCanonical with
  | some evidence, some wallet =>
      let loop := observeFlows wallet evidence.messages
      return some {
        verificationId := evidence.verificationId
        captureId := evidence.captureId
        runId := evidence.runId
        network := evidence.network
        walletAccount := wallet
        anchor := evidence.anchor
        messageDigest := evidence.messageDigest
        incomingNanoton := loop.incoming
        outgoingNanoton := loop.outgoing
        selfNanoton := loop.selfAmount
        flows := loop.flows }
  | _, _ => return none

end TonTracker
