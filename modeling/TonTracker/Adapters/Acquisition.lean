/-
# `Adapters.Acquisition` — what both acquisition streams share

The adapter request with its immutable bounds and its continuation
position, the page and stream evidence, and the clamps the settings pass
through (`adapters/wallet_activity.py`).  Timestamps in evidence are kept
as instants where the source stores their ISO text.
-/
import TonTracker.Adapters.Tonapi

namespace TonTracker

inductive StreamKey where
  | transactions
  | accountEvents
deriving DecidableEq, Repr

inductive Mode where
  | preview
  | ingest
deriving DecidableEq, Repr

inductive CompletionState where
  | previewOnly
  | incomplete
  | complete
  | error
deriving DecidableEq, Repr

inductive TerminationReason where
  | pageCapReached
  | previewPageLimit
  | legacyUnavailable
  | providerTerminal
  | requestedStartCrossed
  | providerEventInProgress
  | providerError
  | protocolError
deriving DecidableEq, Repr

/-- The error code of a page or stream. -/
inductive EvidenceError where
  | protocolError
  | provider (error : ProviderError)
deriving DecidableEq, Repr

/-- The wallet-activity settings the streams read. -/
structure ActivitySettings where
  liveTxLimit : Int
  liveTxMaxPages : Int
  liveEventLimit : Int
  liveEventMaxPages : Int
deriving DecidableEq, Repr

/-- `max(1, min(top, int(value)))`. -/
def clamp (top : Nat) (value : Int) : Nat := (max 1 (min (top : Int) value)).toNat

theorem one_le_clamp (top : Nat) (value : Int) : 1 ≤ clamp top value := by
  unfold clamp; omega

theorem clamp_le {top : Nat} (h : 1 ≤ top) (value : Int) : clamp top value ≤ top := by
  unfold clamp; omega

/-- `WalletActivityAdapterRequest`, the fields the streams read. -/
structure AdapterRequest where
  resolvedStart : Option Instant
  resolvedEnd : Option Instant
  resumeStreamKey : Option StreamKey
  resumeCursor : Option LogicalTime
  resumePageIndex : Option Nat
  resumePageBudget : Option Nat
deriving DecidableEq

/-- `_resolved_transaction_bounds`. -/
def resolvedTransactionBounds (request : AdapterRequest) :
    Except String (Option (Instant × Instant)) :=
  match request.resolvedStart, request.resolvedEnd with
  | none, none => .ok none
  | some start, some stop =>
      if stop ≤ start then .error "resolved_start must be earlier than resolved_end."
      else .ok (some (start, stop))
  | _, _ => .error "resolved_start and resolved_end must be supplied together."

/-- `_resume_position`: where the stream starts, and its first page index. -/
def resumePosition (request : AdapterRequest) (streamKey : StreamKey) :
    Except String (Option LogicalTime × Nat) :=
  match request.resumeStreamKey with
  | none =>
      if request.resumeCursor.isSome || request.resumePageIndex.isSome ||
          request.resumePageBudget.isSome then
        .error "resume cursor, page index, and page budget require a resume stream key."
      else .ok (none, 1)
  | some key =>
      if key ≠ streamKey then
        .error "resume stream key does not match the requested provider surface."
      else match request.resumeCursor with
        | none => .error "resume cursor must be a canonical logical time."
        | some cursor => match request.resumePageIndex with
          | none => .error "resume page index must be a positive integer."
          | some pageIndex =>
              if pageIndex < 1 then .error "resume page index must be a positive integer."
              else if request.resumePageBudget.any fun n => n < 1 || 10 < n then
                .error "resume page budget must be from 1 through 10."
              else .ok (some cursor, pageIndex)

/-- `_effective_resume_page_cap`. -/
def effectiveResumePageCap (request : AdapterRequest) (configuredPageCap : Nat) : Nat :=
  match request.resumeStreamKey, request.resumePageBudget with
  | some _, some pageBudget => min configuredPageCap pageBudget
  | _, _ => configuredPageCap

/-- The local `page_cap` of both streams. -/
def pageCapOf (request : AdapterRequest) (mode : Mode) (bounds : Option (Instant × Instant))
    (configuredPageCap : Nat) : Nat :=
  if mode = .preview ∨ bounds = none then 1
  else effectiveResumePageCap request configuredPageCap

/-- `_transaction_timestamp`. -/
def transactionTimestamp : Option Int → Option Instant
  | some seconds => if 0 ≤ seconds then Instant.fromTimestamp seconds.toNat else none
  | none => none

/-- `WalletActivityAcquisitionPageEvidence`; `D` is the type of the response
digests. -/
structure PageEvidence (D : Type) where
  pageIndex : Nat
  requestCursor : Option LogicalTime
  responseCursor : Option LogicalTime
  requestedLimit : Nat
  rawCount : Nat
  normalizedCount : Nat
  duplicateCount : Nat
  minLogicalTime : Option LogicalTime
  maxLogicalTime : Option LogicalTime
  minTimestamp : Option Instant
  maxTimestamp : Option Instant
  responseDigest : D
  errorCode : Option EvidenceError
  fetchedAt : Instant
deriving DecidableEq

/-- `WalletActivityAcquisitionStreamEvidence`. -/
structure StreamEvidence (D : Type) where
  streamKey : StreamKey
  bounds : Option (Instant × Instant)
  pageSize : Nat
  pageCap : Nat
  completionState : CompletionState
  terminationReason : TerminationReason
  rawCount : Nat
  normalizedCount : Nat
  duplicateCount : Nat
  terminalCursor : Option LogicalTime
  boundsVerified : Bool
  startedAt : Instant
  finishedAt : Instant
  errorCode : Option EvidenceError
  pages : List (PageEvidence D)
deriving DecidableEq

namespace StreamEvidence

variable {D : Type}

/-- `page_count = len(pages)`. -/
def pageCount (stream : StreamEvidence D) : Nat := stream.pages.length

/-- The pages that carry no error. -/
def successfulPages (stream : StreamEvidence D) : List (PageEvidence D) :=
  stream.pages.filter fun page => page.errorCode.isNone

end StreamEvidence

/-- The evidence of a request the stream refuses before its first page. -/
def refusedStream {D : Type} (streamKey : StreamKey) (pageSize : Nat) (startedAt finishedAt : Instant) :
    StreamEvidence D :=
  { streamKey := streamKey, bounds := none, pageSize := pageSize, pageCap := 1
    completionState := .error, terminationReason := .protocolError
    rawCount := 0, normalizedCount := 0, duplicateCount := 0, terminalCursor := none
    boundsVerified := false, startedAt := startedAt, finishedAt := finishedAt
    errorCode := some .protocolError, pages := [] }

/-- `ERROR_PROVIDER_PROTOCOL` is recorded as a protocol error, any other
provider failure under its own code. -/
def evidenceError : ProviderError → EvidenceError
  | .providerProtocol => .protocolError
  | e => .provider e

/-- How the two failures end a stream. -/
def failureReason : ProviderError → TerminationReason
  | .providerProtocol => .protocolError
  | _ => .providerError

end TonTracker
