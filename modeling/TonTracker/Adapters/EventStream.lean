/-
# `Adapters.EventStream` — the account-event acquisition

`_fetch_event_acquisition` and `_validate_event_page`
(`adapters/wallet_activity.py`).  The loop is the transaction loop's
sibling with three differences: an event inside the interval that is
still in progress is withheld and remembered for the rest of the run,
the accepted events of a page are decoded into transfers and swaps
before the page counts as taken, and a repeated event must repeat its
whole payload.
-/
import TonTracker.Lib.ForElse
import TonTracker.Adapters.Acquisition

namespace TonTracker

/-! ## Page validation -/

/-- What `_validate_event_page` returns. -/
structure ValidatedEventPage where
  events : List AccountEvent
  rawCount : Nat
  responseCursor : Option LogicalTime
  minLogicalTime : Option LogicalTime
  maxLogicalTime : Option LogicalTime
  timestamps : List Instant
  minTimestamp : Option Instant
  maxTimestamp : Option Instant

/-- The locals of the validation loop. -/
structure EventCheck where
  index : Nat
  priorLt : Option LogicalTime
  priorTimestamp : Option Instant
  timestamps : List Instant

/-- The checks on one event. -/
def checkEventRow (prior : EventCheck) (event : AccountEvent) : Except String EventCheck := do
  if !isHex256 event.eventId then
    throw s!"account event page row {prior.index} has invalid event_id"
  if prior.priorLt.any (· ≤ event.lt) then
    throw "account event page logical times must be strictly descending"
  match transactionTimestamp (some event.timestamp) with
  | none => throw s!"account event page row {prior.index} has invalid timestamp"
  | some timestamp =>
      if prior.priorTimestamp.any (· < timestamp) then
        throw "account event page timestamps must follow logical-time order"
      if !event.actions.all isAction then
        throw s!"account event page row {prior.index} has invalid actions"
      pure ⟨prior.index + 1, some event.lt, some timestamp, prior.timestamps ++ [timestamp]⟩

/-- `_validate_event_page`. -/
def validateEventPage (page : EventPage) (requestCursor : Option LogicalTime)
    (requestedLimit : Nat) : Except String ValidatedEventPage := do
  if page.requestedLimit ≠ requestedLimit then
    throw "account event page requested_limit does not match request"
  if page.requestBeforeLt ≠ requestCursor then
    throw "account event page request cursor does not match request"
  let events := page.events
  if page.rawCount ≠ events.length then
    throw "account event page raw_count does not match events"
  if requestedLimit < page.rawCount then
    throw "account event page returned more rows than requested"
  let checked ← events.foldlM checkEventRow ⟨0, none, none, []⟩
  let times := events.map (·.lt)
  if page.minLogicalTime ≠ times.min? then
    throw "account event page minimum logical time is inconsistent"
  if page.maxLogicalTime ≠ times.max? then
    throw "account event page maximum logical time is inconsistent"
  if events.isEmpty then
    if page.nextBeforeLt.isSome then throw "empty account event page must terminate its cursor"
  else
    if page.nextBeforeLt ≠ times.min? then
      throw "account event page response cursor must equal minimum logical time"
    if didNotAdvance requestCursor times then
      throw "account event page cursor did not advance"
  pure
    { events := events
      rawCount := page.rawCount
      responseCursor := page.nextBeforeLt
      minLogicalTime := times.min?
      maxLogicalTime := times.max?
      timestamps := checked.timestamps
      minTimestamp := checked.timestamps.min?
      maxTimestamp := checked.timestamps.max? }

/-! ## Walking the events of a page -/

/-- What the run is given: the provider's answer to each page request, the
clock, the digests of responses and events, and the decoding of accepted
events into transfer and swap rows, whose decimal scaling may raise. -/
structure EventFeed (D : Type) where
  fetchJson : Nat → EventsQuery → ProviderResult Json
  clock : Nat → Instant
  startedAt : Instant
  finishedAt : Instant
  digest : Option EventPage → D
  fingerprint : AccountEvent → D
  derive : List AccountEvent → Except String (List Json)

/-- What is remembered of an event: its logical time, timestamp and fingerprint. -/
abbrev SeenEvent (D : Type) := LogicalTime × Instant × D

/-- The accumulators of the event loop. -/
structure EventScan (D : Type) where
  seen : List (Text × SeenEvent D)
  lastLt : Option LogicalTime
  lastTimestamp : Option Instant
  duplicates : Nat
  accepted : List AccountEvent
  inProgress : Bool
  crossedStart : Bool

variable {D : Type} [DecidableEq D]

/-- One event against the run so far. -/
def scanEvent (fingerprint : AccountEvent → D) (bounds : Option (Instant × Instant))
    (scan : EventScan D) (item : AccountEvent × Instant) : Except String (EventScan D) :=
  let (event, timestamp) := item
  match scan.seen.lookup (lower event.eventId) with
  | some priorEvent =>
      if priorEvent ≠ (event.lt, timestamp, fingerprint event) then
        .error "duplicate account event changed logical time, timestamp, or payload"
      else .ok { scan with duplicates := scan.duplicates + 1 }
  | none =>
      if scan.lastLt.any (· ≤ event.lt) then
        .error "account event pages are not globally descending"
      else if scan.lastTimestamp.any (· < timestamp) then
        .error "account event timestamps are not globally ordered"
      else
        let passed : EventScan D :=
          { scan with
            seen := (lower event.eventId, event.lt, timestamp, fingerprint event) :: scan.seen
            lastLt := some event.lt
            lastTimestamp := some timestamp }
        -- An event outside the interval is passed over before its progress is looked at.
        if bounds.any fun (start, _) => timestamp < start then
          .ok { passed with crossedStart := true }
        else if bounds.any fun (_, stop) => stop ≤ timestamp then .ok passed
        else if event.inProgress then .ok { passed with inProgress := true }
        else .ok { passed with accepted := passed.accepted ++ [event] }

/-! ## The page loop -/

/-- The arguments the page loop does not change. -/
structure EventRun where
  mode : Mode
  bounds : Option (Instant × Instant)
  pageSize : Nat
deriving DecidableEq

/-- `_event_query_dates`. -/
def eventQueryDates (bounds : Option (Instant × Instant)) : Option Int × Option Int :=
  match bounds with
  | none => (none, none)
  | some (start, stop) => (some start.floorTimestamp, some stop.ceilTimestamp)

/-- The locals the page loop carries. -/
structure EventLoop (D : Type) where
  pageIndex : Nat
  cursor : Option LogicalTime
  pages : List (PageEvidence D)
  acceptedEvents : List AccountEvent
  derived : List Json
  seen : List (Text × SeenEvent D)
  lastLt : Option LogicalTime
  lastTimestamp : Option Instant
  totalRaw : Nat
  totalDuplicates : Nat
  sawInProgress : Bool

/-- The locals after the loop. -/
structure EventEnd (D : Type) where
  loop : EventLoop D
  completionState : CompletionState
  terminationReason : TerminationReason
  errorCode : Option EvidenceError
  fatal : Bool

omit [DecidableEq D] in
/-- `_transaction_error_page_evidence`, for an event page. -/
def eventErrorPage (feed : EventFeed D) (run : EventRun) (s : EventLoop D)
    (response : Option EventPage) (errorCode : EvidenceError) : PageEvidence D :=
  { pageIndex := s.pageIndex
    requestCursor := s.cursor
    responseCursor := response.bind (·.nextBeforeLt)
    requestedLimit := run.pageSize
    rawCount := (response.map (·.rawCount)).getD 0
    normalizedCount := 0
    duplicateCount := 0
    minLogicalTime := response.bind (·.minLogicalTime)
    maxLogicalTime := response.bind (·.maxLogicalTime)
    minTimestamp := none
    maxTimestamp := none
    responseDigest := feed.digest response
    errorCode := some errorCode
    fetchedAt := feed.clock s.pageIndex }

/-- The break on a failed or refused page. -/
def eventFailure (feed : EventFeed D) (run : EventRun) (s : EventLoop D)
    (response : Option EventPage) (errorCode : EvidenceError) (reason : TerminationReason) :
    EventEnd D :=
  let fatal := s.acceptedEvents.isEmpty
  { loop := { s with pages := s.pages ++ [eventErrorPage feed run s response errorCode] }
    completionState := if fatal then .error else .incomplete
    terminationReason := reason
    errorCode := some errorCode
    fatal := fatal }

/-- The page the provider answers. -/
def fetchEventPage (feed : EventFeed D) (run : EventRun) (s : EventLoop D) :
    ProviderResult EventPage :=
  let (queryStart, queryEnd) := eventQueryDates run.bounds
  getAccountEventsPage (feed.fetchJson s.pageIndex) run.pageSize s.cursor queryStart queryEnd

/-- Validation, the event loop and the decoding of one page. -/
def scanEventPage (feed : EventFeed D) (run : EventRun) (s : EventLoop D) (page : EventPage) :
    Except String (ValidatedEventPage × EventScan D × List Json) := do
  let validated ← validateEventPage page s.cursor run.pageSize
  let scan ← (validated.events.zip validated.timestamps).foldlM
    (scanEvent feed.fingerprint run.bounds)
    { seen := s.seen, lastLt := s.lastLt, lastTimestamp := s.lastTimestamp
      duplicates := 0, accepted := [], inProgress := false, crossedStart := false }
  let derived ← feed.derive scan.accepted
  pure (validated, scan, derived)

/-- The loop's locals once a page has been taken in. -/
def absorbEventPage (feed : EventFeed D) (run : EventRun) (s : EventLoop D) (page : EventPage)
    (validated : ValidatedEventPage) (scan : EventScan D) (derived : List Json) : EventLoop D :=
  { pageIndex := s.pageIndex
    cursor := validated.responseCursor
    pages := s.pages ++
      [{ pageIndex := s.pageIndex
         requestCursor := s.cursor
         responseCursor := validated.responseCursor
         requestedLimit := run.pageSize
         rawCount := validated.rawCount
         normalizedCount := scan.accepted.length
         duplicateCount := scan.duplicates
         minLogicalTime := validated.minLogicalTime
         maxLogicalTime := validated.maxLogicalTime
         minTimestamp := validated.minTimestamp
         maxTimestamp := validated.maxTimestamp
         responseDigest := feed.digest (some page)
         errorCode := none
         fetchedAt := feed.clock s.pageIndex }]
    acceptedEvents := s.acceptedEvents ++ scan.accepted
    derived := s.derived ++ derived
    seen := scan.seen
    lastLt := scan.lastLt
    lastTimestamp := scan.lastTimestamp
    totalRaw := s.totalRaw + validated.rawCount
    totalDuplicates := s.totalDuplicates + scan.duplicates
    sawInProgress := s.sawInProgress || scan.inProgress }

/-- One pass of `for page_offset in range(page_cap)`. -/
def eventPass (feed : EventFeed D) (run : EventRun) (s : EventLoop D) :
    EventLoop D ⊕ EventEnd D :=
  match fetchEventPage feed run s with
  | .error failure =>
      .inr (eventFailure feed run s none (evidenceError failure.error)
        (failureReason failure.error))
  | .ok page =>
      match scanEventPage feed run s page with
      | .error _ => .inr (eventFailure feed run s (some page) .protocolError .protocolError)
      | .ok (validated, scan, derived) =>
          let next := absorbEventPage feed run s page validated scan derived
          if run.mode = .preview then
            .inr ⟨next, .previewOnly, .previewPageLimit, none, false⟩
          else if run.bounds.isNone then
            .inr ⟨next, .incomplete, .legacyUnavailable, none, false⟩
          else if validated.rawCount = 0 ∨ scan.crossedStart then
            let ended := { next with
              cursor := if validated.rawCount = 0 then none else validated.responseCursor }
            if next.sawInProgress then
              .inr ⟨ended, .incomplete, .providerEventInProgress, none, false⟩
            else
              .inr ⟨ended, .complete,
                if validated.rawCount = 0 then .providerTerminal else .requestedStartCrossed,
                none, false⟩
          else
            .inl { next with pageIndex := s.pageIndex + 1 }

/-- The `else` arm: every pass ran. -/
def eventPageCap (s : EventLoop D) : EventEnd D :=
  ⟨s, .incomplete, .pageCapReached, none, false⟩

/-- The locals before the loop. -/
def eventStart (cursor : Option LogicalTime) (firstPageIndex : Nat) : EventLoop D :=
  { pageIndex := firstPageIndex, cursor := cursor, pages := [], acceptedEvents := []
    derived := [], seen := [], lastLt := none, lastTimestamp := none
    totalRaw := 0, totalDuplicates := 0, sawInProgress := false }

/-- The page loop under a page cap. -/
def eventLoop (feed : EventFeed D) (run : EventRun) (cursor : Option LogicalTime)
    (firstPageIndex pageCap : Nat) : EventEnd D :=
  ForElse.run (eventPass feed run) eventPageCap pageCap (eventStart cursor firstPageIndex)

/-! ## The acquisition -/

/-- `_EventAcquisitionOutcome`, with the accepted events its rows are
derived from. -/
structure EventOutcome (D : Type) where
  rawCount : Nat
  acceptedEvents : List AccountEvent
  derived : List Json
  stream : StreamEvidence D
  fatal : Bool
  incomplete : Bool

/-- The outcome after the loop. -/
def eventOutcome (feed : EventFeed D) (run : EventRun) (pageCap : Nat) (e : EventEnd D) :
    EventOutcome D :=
  { rawCount := e.loop.totalRaw
    acceptedEvents := e.loop.acceptedEvents
    derived := if run.mode = .ingest then e.loop.derived else []
    stream :=
      { streamKey := .accountEvents
        bounds := run.bounds
        pageSize := run.pageSize
        pageCap := pageCap
        completionState := e.completionState
        terminationReason := e.terminationReason
        rawCount := e.loop.totalRaw
        normalizedCount := e.loop.acceptedEvents.length
        duplicateCount := e.loop.totalDuplicates
        terminalCursor := e.loop.cursor
        boundsVerified := run.bounds.isSome && e.completionState = .complete
        startedAt := feed.startedAt
        finishedAt := feed.finishedAt
        errorCode := e.errorCode
        pages := e.loop.pages }
    fatal := e.fatal
    incomplete := e.completionState ≠ .complete }

/-- `page_size` of the event stream. -/
def eventPageSize (settings : ActivitySettings) : Nat := clamp 100 settings.liveEventLimit

/-- `_fetch_event_acquisition`. -/
def fetchEventAcquisition (feed : EventFeed D) (settings : ActivitySettings)
    (request : AdapterRequest) (mode : Mode) : EventOutcome D :=
  let pageSize := eventPageSize settings
  match resolvedTransactionBounds request, resumePosition request .accountEvents with
  | .ok bounds, .ok (cursor, firstPageIndex) =>
      let pageCap := pageCapOf request mode bounds (clamp 100 settings.liveEventMaxPages)
      let run : EventRun := ⟨mode, bounds, pageSize⟩
      eventOutcome feed run pageCap (eventLoop feed run cursor firstPageIndex pageCap)
  | _, _ =>
      { rawCount := 0, acceptedEvents := [], derived := []
        stream := refusedStream .accountEvents pageSize feed.startedAt feed.finishedAt
        fatal := true, incomplete := true }

end TonTracker
