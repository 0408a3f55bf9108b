/-
# `Services.IngestionRun` — the run builder

`build_wallet_ingestion_run` (`services/wallet_activity_ingestion.py`) and
the guarded TonAPI adapter behind it (`_fetch_live_activity`,
`adapters/wallet_activity.py`): which streams a run carries, its status,
and what of it decides a retry.  The demo environment is served by the
fixture adapter, which has no streams.  What the wallet's identity turns
out to be, what the provider answers and the rows an adapter normalizes
are arguments.
-/
import TonTracker.Adapters.TransactionStream
import TonTracker.Adapters.EventStream
import TonTracker.Models

namespace TonTracker

/-! ## Requests and answers -/

/-- What the builder is called with. -/
structure BuildRequest where
  dataEnvironment : DataEnvironment
  timeWindow : TimeWindow
  customStart : Option Text
  customEnd : Option Text
  surfaces : List Surface
  now : Instant
  resumeStreamKey : Option StreamKey
  resumeCursor : Option Text
  resumePageIndex : Option Nat
  resumePageBudget : Option Nat

/-- The identity check of the builder. -/
inductive WalletIdentity where
  | expected
  | scopeMismatch (message : Text)
  | invalid (message : Text)

/-- What the provider answers to one run. -/
structure ProviderAnswers where
  identity : WalletIdentity
  balancesFound : Bool
  jettonsFound : Bool
  transactions : TransactionFeed HexDigest
  events : EventFeed HexDigest
  rows : RunRows

/-- What a builder thread may raise. -/
inductive BuildError where
  | scopeMismatch (message : Text)
  | valueError (message : Text)
  | overflowError

/-! ## The guarded live adapter -/

/-- The surfaces the event stream carries. -/
def eventSurfaces (surfaces : List Surface) : List Surface :=
  [Surface.transfers, .swaps].filter surfaces.contains

/-- A stream of a live run with the surfaces it serves. -/
structure FetchedStream where
  surfaces : List Surface
  stream : StreamEvidence HexDigest
  fatal : Bool
  /-- The surfaces whose coverage is incomplete. -/
  incomplete : List Surface

/-- The streams `_fetch_live_activity` fetches. -/
def fetchedStreams (settings : ActivitySettings) (request : AdapterRequest)
    (surfaces : List Surface) (answers : ProviderAnswers) : List FetchedStream :=
  (if surfaces.contains .transactions then
    let outcome := fetchTransactionAcquisition answers.transactions settings request .ingest
    [⟨[.transactions], outcome.stream, outcome.fatal,
      if outcome.incomplete then [.transactions] else []⟩]
  else []) ++
  (if eventSurfaces surfaces ≠ [] then
    let outcome := fetchEventAcquisition answers.events settings request .ingest
    -- the provider's events are display data, whatever pages were traversed
    [⟨eventSurfaces surfaces, outcome.stream, outcome.fatal, eventSurfaces surfaces⟩]
  else [])

/-- `limiting_incomplete`. -/
def limitsCoverage (stream : StreamEvidence HexDigest) : Bool :=
  (stream.completionState == .incomplete || stream.completionState == .error) &&
    stream.terminationReason != .legacyUnavailable

/-- `tonapi_wallet_activity_live`. -/
def tonapiLiveProvider : Text := "tonapi_wallet_activity_live".toList

/-- `_fetch_live_activity`, the run of mode `ingest`. -/
def fetchLiveActivity (settings : ActivitySettings) (request : AdapterRequest)
    (surfaces : List Surface) (answers : ProviderAnswers) : IngestionRun :=
  let fetched := fetchedStreams settings request surfaces answers
  let balances := [(Surface.balances, answers.balancesFound), (.jettons, answers.jettonsFound)]
    |>.filter fun surface => surfaces.contains surface.1
  let failed := (balances.filter fun surface => !surface.2).map (·.1) ++
    (fetched.filter (·.fatal)).flatMap (·.surfaces)
  let successful := (balances.filter (·.2)).map (·.1) ++
    (fetched.filter fun f => !f.fatal).flatMap (·.surfaces)
  let displayEvents := eventSurfaces surfaces != []
  let limited := fetched.any fun f => limitsCoverage f.stream
  let incomplete := fetched.flatMap (·.incomplete)
  let streams := (fetched.map (·.stream)).reverse
  if failed ≠ [] ∧ successful = [] then
    { status := .error, dataMode := .real
      message := ("Guarded TonAPI live adapter could not fetch the requested " ++
        "balance, transaction-history, transfer, or swap data. No live " ++
        "wallet activity rows were persisted.").toList
      providerEvidence := [(tonapiLiveProvider, .error)]
      unavailableSurfaces := failed
      incompleteSurfaces := incomplete
      acquisitionStreams := streams
      rows := answers.rows }
  else
    { status := if failed ≠ [] ∨ displayEvents ∨ limited then .partialResult else .success
      dataMode := .real
      message := ("Guarded TonAPI live activity fetched. Scope is native TON " ++
        "balance, account jetton balances, account transaction " ++
        "history, plus display-only TON/jetton transfer and DEX swap " ++
        "actions derived from one bounded account-event stream. " ++
        "Provider event actions remain non-authoritative and cannot " ++
        "establish ownership, complete trade history, or PnL.").toList
      providerEvidence := [(tonapiLiveProvider,
        if failed ≠ [] ∨ displayEvents ∨ limited then .limited else .live)]
      unavailableSurfaces := failed
      incompleteSurfaces := incomplete
      acquisitionStreams := streams
      rows := answers.rows }

/-- `MockWalletActivityAdapter.ingest`. -/
def fetchMockActivity (answers : ProviderAnswers) : IngestionRun :=
  { status := .success, dataMode := .mock
    message := ("Mock-normalized wallet activity ingestion run completed. " ++
      "The rows are deterministic fixtures and are not connected to " ++
      "legacy PnL or clustering yet.").toList
    providerEvidence := [("mock_wallet_activity".toList, .mock)]
    unavailableSurfaces := []
    incompleteSurfaces := []
    acquisitionStreams := []
    rows := answers.rows }

/-! ## The builder -/

/-- `str.strip`. -/
def strip (s : Text) : Text := ((s.dropWhile isSpace).reverse.dropWhile isSpace).reverse

/-- `_bounded_message`. -/
def boundedMessage (s : Text) : Text := (strip s).take 1000

/-- `_parse_datetime` of the payload. -/
def parseDatetime (value : Option Text) : Except BuildError (Option Instant) :=
  match value with
  | none => .ok none
  | some text =>
      if strip text = [] then .ok none
      else
        match parseCanonicalTimestamp (strip text) with
        | .ok t => .ok (some t)
        | .error .valueError => .error (.valueError ("Invalid ISO datetime: ".toList ++ text))
        | .error .overflowError => .error .overflowError

/-- `_validate_window`. -/
def validateWindow (customStart customEnd : Option Text) : Except BuildError Unit := do
  let start ← parseDatetime customStart
  let stop ← parseDatetime customEnd
  match start, stop with
  | some start, some stop =>
      if stop ≤ start then .error (.valueError "custom_end must be after custom_start".toList)
      else .ok ()
  | _, _ => .ok ()

/-- A planning error of the bounds, as the builder raises it. -/
def BuildError.ofPlanning : PlanningError → BuildError
  | .valueError message => .valueError message.toList
  | .overflowError => .overflowError
  | .incrementalUnavailable message => .valueError message.toList
  | .checkpointCorrupt message => .valueError message.toList
  | .resumeUnavailable message => .valueError message.toList

/-- `_adapter_request`. -/
def adapterRequest (request : BuildRequest) (bounds : AcquisitionBounds) : AdapterRequest :=
  { resolvedStart := some bounds.start
    resolvedEnd := some bounds.stop
    resumeStreamKey := request.resumeStreamKey
    resumeCursor := request.resumeCursor.bind fun cursor => strictLogicalTime (.str cursor)
    resumePageIndex := request.resumePageIndex
    resumePageBudget := request.resumePageBudget }

/-- The identity check, before the adapter is called. -/
def checkIdentity : WalletIdentity → Except BuildError Unit
  | .expected => .ok ()
  | .scopeMismatch message => .error (.scopeMismatch message)
  | .invalid message => .error (.valueError message)

/-- `build_wallet_ingestion_run`. -/
def buildWalletIngestionRun (settings : ActivitySettings) (request : BuildRequest)
    (answers : ProviderAnswers) : Except BuildError IngestionRun := do
  validateWindow request.customStart request.customEnd
  let bounds ← (resolveWalletAcquisitionBounds request.timeWindow request.customStart
    request.customEnd request.now).mapError .ofPlanning
  checkIdentity answers.identity
  match request.dataEnvironment with
  | .demo => return fetchMockActivity answers
  | .live =>
      return fetchLiveActivity settings (adapterRequest request bounds) request.surfaces answers

/-! ## What decides a retry -/

def ProviderError.code : ProviderError → Text
  | .http status => "http_".toList ++ Nat.toDigits 10 status
  | .providerError => "provider_error".toList
  | .providerProtocol => "provider_protocol_error".toList
  | .notConfigured => "provider_not_configured".toList

def EvidenceError.code : EvidenceError → Text
  | .protocolError => "protocol_error".toList
  | .provider error => error.code

/-- `_RETRYABLE_CODES`. -/
def retryableCodes : List Text :=
  ["provider_error", "provider_network_error", "provider_timeout", "provider_rate_limited",
    "provider_unavailable", "http_408", "http_425", "http_429", "http_500", "http_502",
    "http_503", "http_504"].map String.toList

/-- `_PERMANENT_CODES`. -/
def permanentCodes : List Text :=
  ["protocol_error", "provider_protocol_error", "provider_not_configured", "invalid_request",
    "scope_mismatch"].map String.toList

/-- `sorted(codes)[0]`. -/
def firstCode (codes : List Text) : Option Text :=
  codes.foldl (fun first code =>
    match first with
    | none => some code
    | some c => if code < c then some code else some c) none

/-- `_retry_signal`: whether the run may be retried, and the code of why. -/
def retrySignal (run : IngestionRun) : Bool × Text :=
  let codes := run.acquisitionStreams.filterMap fun stream => stream.errorCode.map (·.code)
  match firstCode (codes.filter permanentCodes.contains) with
  | some code => (false, code)
  | none =>
      match firstCode (codes.filter retryableCodes.contains) with
      | some code => (true, code)
      | none =>
          if run.status = .error ∨ run.providerEvidence.any fun item => item.2 == .error then
            (true, "provider_error".toList)
          else (false, [])

/-- `_actual_provider`: a run carries one observation, of one provider. -/
def actualProvider (run : IngestionRun) : Text :=
  match (run.providerEvidence.map (·.1)).dedup with
  | [provider] => provider.take 64
  | [] => "unknown".toList
  | _ => "multiple_wallet_activity_providers".toList

/-- `_sync_state`. -/
def syncState : RunStatus → SyncState × Stage
  | .success => (.succeeded, .completed)
  | .partialResult => (.partialResult, .completedWithLimitations)
  | .error => (.failed, .failed)
  | .other => (.failed, .failed)

end TonTracker
