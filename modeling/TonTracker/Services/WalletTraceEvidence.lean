/-
# `Services.WalletTraceEvidence` — the anchor of a stored trace

A trace is read through a transaction row of its run:
`resolve_wallet_transaction_trace_anchor` finds the row by hash and
`_require_eligible_stored_identity` checks its identity columns against the
derived ones (`services/wallet_trace_evidence.py`).  Columns of decimal
digits are numbers, and raw accounts are a workchain with a hash.
-/
import TonTracker.Models
import TonTracker.Services.TransactionInclusionProof

namespace TonTracker

open ExceptFold (check present)

/-- What the trace readers raise. -/
inductive TraceRaised where
  | notFound (message : String)
  | ineligible (message : String)
  | evidenceConflict (message : String)
  | bocConflict (message : String)
  | bocFailure (message : String)
  | payloadConflict (message : String)
  | ledgerConflict (message : String)
  | mergeConflict (message : String)
  | dedupConflict (message : String)
  | contractConflict (message : String)
  | readinessConflict (message : String)
deriving DecidableEq

/-! ## Rows -/

/-- The identity columns of a transaction row. -/
structure StoredTransactionIdentity where
  networkScoped : Bool
  version : String
  network : Option Network
  accountCanonical : Option TonAddress
  logicalTimeCanonical : Option Nat
  hashCanonical : Option String
  key : Option String
deriving DecidableEq

/-- `WalletIngestionRun`, as the trace readers read it. -/
structure TraceRun where
  id : Nat
  dataMode : DataMode
  walletNetwork : Option Network
  walletAddressCanonical : Option TonAddress
  walletIdentityStatus : String
  walletIdentityVersion : String
  walletWorkchainId : Option Int
  walletAccountIdHex : Option String
deriving DecidableEq

/-- `WalletTransaction`, as the trace readers read it. -/
structure TraceTransaction where
  id : Nat
  runId : Nat
  txHash : String
  logicalTime : Option String
  provider : String
  sourceStatus : SourceStatus
  feeTon : Option String
  rawJson : Option String
  identity : StoredTransactionIdentity
deriving DecidableEq

/-- `derive_ton_transaction_identity` of the columns of a row, and whether the
result is a deduplication identity. -/
abbrev DeriveIdentity : Type := TraceRun → TraceTransaction → StoredTransactionIdentity × Bool

/-! ## Readers -/

/-- `resolve_wallet_transaction_trace_anchor`; the type of `runId` leaves out
what is no positive integer. -/
def resolveTraceAnchor (runs : List TraceRun) (transactions : List TraceTransaction) (runId : Nat)
    (transactionHash : String) : Except TraceRaised (TraceRun × TraceTransaction) := do
  check (1 ≤ runId ∧ runId ≤ 2 ^ 63 - 1) (.notFound "Wallet ingestion run not found")
  check (isHexHash transactionHash) (.notFound "Wallet transaction not found")
  let run ← present (runs.find? (·.id = runId)) (.notFound "Wallet ingestion run not found")
  match transactions.filter fun row => row.runId = runId ∧ row.txHash.toLower = transactionHash with
  | [] => throw (.notFound "Wallet transaction not found")
  | [transaction] => return (run, transaction)
  | _ => throw (.ineligible "Stored transaction identity is ambiguous.")

/-- `_require_eligible_stored_identity`. -/
def requireEligibleStoredIdentity (derive : DeriveIdentity) (run : TraceRun)
    (transaction : TraceTransaction) (requestedHash : String) : Except TraceRaised Unit :=
  let (derived, isDeduplicationIdentity) := derive run transaction
  check (derived.networkScoped = true ∧ isDeduplicationIdentity = true ∧
      transaction.identity = derived ∧ derived.hashCanonical = some requestedHash)
    (.ineligible "Stored transaction lacks a coherent network-scoped identity.")

end TonTracker
