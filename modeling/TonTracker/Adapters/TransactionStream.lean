/-
# `Adapters.TransactionStream` — the account-transaction acquisition

`_fetch_transaction_acquisition` and `_validate_transaction_page`
(`adapters/wallet_activity.py`).  One page is one pass of a bounded loop:
the pass fetches the page, re-validates it, walks its rows against
everything the run has already seen, and either continues from the next
cursor or breaks with a completion state.
-/
import TonTracker.Lib.ForElse
import TonTracker.Adapters.Acquisition

namespace TonTracker

/-! ## Page validation -/

/-- What `_validate_transaction_page` returns. -/
structure ValidatedTransactionPage where
  rows : List Transaction
  rawCount : Nat
  responseCursor : Option LogicalTime
  minLogicalTime : Option LogicalTime
  maxLogicalTime : Option LogicalTime
  timestamps : List (Option Instant)
  minTimestamp : Option Instant
  maxTimestamp : Option Instant

/-- The locals of the validation loop: the index, and the last logical time
and timestamp it has passed. -/
structure RowCheck where
  index : Nat
  priorLt : Option LogicalTime
  priorTimestamp : Option Instant

/-- The checks on one row. -/
def checkTransactionRow (requireTimestamps : Bool) (prior : RowCheck) (row : Transaction) :
    Except String RowCheck := do
  if row.txHash.isEmpty || !isStripped row.txHash then
    throw s!"transaction page row {prior.index} has invalid transaction hash"
  if prior.priorLt.any (· ≤ row.logicalTime) then
    throw "transaction page logical times must be strictly descending"
  match transactionTimestamp row.utime with
  | none =>
      if requireTimestamps then
        throw s!"transaction page row {prior.index} has invalid timestamp"
      pure ⟨prior.index + 1, some row.logicalTime, prior.priorTimestamp⟩
  | some timestamp =>
      if requireTimestamps && prior.priorTimestamp.any (· < timestamp) then
        throw "transaction page timestamps must follow logical-time order"
      pure ⟨prior.index + 1, some row.logicalTime, some timestamp⟩

/-- `_validate_transaction_page`. -/
def validateTransactionPage (page : TransactionPage) (requestCursor : Option LogicalTime)
    (requestedLimit : Nat) (requireTimestamps : Bool) :
    Except String ValidatedTransactionPage := do
  if page.requestedLimit ≠ requestedLimit then
    throw "transaction page requested_limit does not match request"
  if page.requestBeforeLt ≠ requestCursor then
    throw "transaction page request cursor does not match request"
  let rows := page.transactions
  if page.rawCount ≠ rows.length then
    throw "transaction page raw_count does not match rows"
  if requestedLimit < page.rawCount then
    throw "transaction page returned more rows than requested"
  let _ ← rows.foldlM (checkTransactionRow requireTimestamps) ⟨0, none, none⟩
  let times := rows.map (·.logicalTime)
  if page.minLogicalTime ≠ times.min? then
    throw "transaction page minimum logical time is inconsistent"
  if page.maxLogicalTime ≠ times.max? then
    throw "transaction page maximum logical time is inconsistent"
  if times.isEmpty then
    if page.nextBeforeLt.isSome then throw "empty transaction page must terminate its cursor"
  else
    if page.nextBeforeLt ≠ times.min? then
      throw "transaction page response cursor must equal minimum logical time"
    if requestCursor.any fun before => page.nextBeforeLt.any (before ≤ ·) then
      throw "transaction page cursor did not advance"
  let timestamps := rows.map fun row => transactionTimestamp row.utime
  pure
    { rows := rows
      rawCount := page.rawCount
      responseCursor := page.nextBeforeLt
      minLogicalTime := times.min?
      maxLogicalTime := times.max?
      timestamps := timestamps
      minTimestamp := (timestamps.filterMap id).min?
      maxTimestamp := (timestamps.filterMap id).max? }

/-! ## Walking the rows of a page -/

/-- The identity of a row: its logical time and its hash in lower case. -/
abbrev TransactionIdentity := LogicalTime × Text

def Transaction.identity (row : Transaction) : TransactionIdentity :=
  (row.logicalTime, lower row.txHash)

/-- The accumulators of the row loop. -/
structure TransactionScan where
  seen : List (TransactionIdentity × Option Instant)
  lastLt : Option LogicalTime
  lastTimestamp : Option Instant
  duplicates : Nat
  accepted : List Transaction
  crossedStart : Bool

/-- One row against the run so far. -/
def scanTransaction (bounds : Option (Instant × Instant)) (scan : TransactionScan)
    (item : Transaction × Option Instant) : Except String TransactionScan :=
  let (row, timestamp) := item
  match scan.seen.lookup row.identity with
  | some priorTimestamp =>
      if bounds.isSome && priorTimestamp != timestamp then
        .error "duplicate transaction identity changed timestamp"
      else .ok { scan with duplicates := scan.duplicates + 1 }
  | none =>
      if scan.lastLt.any (· ≤ row.logicalTime) then
        .error "transaction pages are not globally descending by logical time"
      else if bounds.isSome &&
          scan.lastTimestamp.any (fun last => timestamp.any (last < ·)) then
        .error "transaction timestamps are not globally ordered"
      else
        let passed : TransactionScan :=
          { scan with
            seen := (row.identity, timestamp) :: scan.seen
            lastLt := some row.logicalTime
            lastTimestamp := timestamp <|> scan.lastTimestamp }
        match bounds, timestamp with
        | none, _ => .ok { passed with accepted := passed.accepted ++ [row] }
        | some _, none => .error "timestamp is not None"
        | some (start, stop), some t =>
            if t < start then .ok { passed with crossedStart := true }
            else if stop ≤ t then .ok passed
            else .ok { passed with accepted := passed.accepted ++ [row] }

/-! ## The page loop -/

/-- What the run is given: the provider's answer to each page request, the
clock it reads while fetching that page, and the digest of a response. -/
structure TransactionFeed (D : Type) where
  fetchJson : Nat → TransactionsQuery → ProviderResult Json
  clock : Nat → Instant
  startedAt : Instant
  finishedAt : Instant
  digest : Option TransactionPage → D

/-- The arguments the page loop does not change. -/
structure TransactionRun where
  mode : Mode
  bounds : Option (Instant × Instant)
  pageSize : Nat
deriving DecidableEq

/-- The locals the page loop carries. -/
structure TransactionLoop (D : Type) where
  pageIndex : Nat
  cursor : Option LogicalTime
  pages : List (PageEvidence D)
  acceptedRows : List Transaction
  seen : List (TransactionIdentity × Option Instant)
  totalRaw : Nat
  totalDuplicates : Nat
  lastUniqueLt : Option LogicalTime
  lastUniqueTimestamp : Option Instant

/-- The locals after the loop. -/
structure TransactionEnd (D : Type) where
  loop : TransactionLoop D
  completionState : CompletionState
  terminationReason : TerminationReason
  errorCode : Option EvidenceError
  fatal : Bool

variable {D : Type}

/-- `_transaction_error_page_evidence`. -/
def transactionErrorPage (feed : TransactionFeed D) (run : TransactionRun)
    (s : TransactionLoop D) (response : Option TransactionPage) (errorCode : EvidenceError) :
    PageEvidence D :=
  { pageIndex := s.pageIndex
    requestCursor := s.cursor
    responseCursor := response.bind (·.nextBeforeLt)
    requestedLimit := run.pageSize
    rawCount := (response.map (·.rawCount)).getD 0
    normalizedCount := 0
    duplicateCount := 0
    minLogicalTime := response.bind (·.minLogicalTime)
    maxLogicalTime := response.bind (·.maxLogicalTime)
    minTimestamp := none
    maxTimestamp := none
    responseDigest := feed.digest response
    errorCode := some errorCode
    fetchedAt := feed.clock s.pageIndex }

/-- The break on a failed or refused page. -/
def transactionFailure (feed : TransactionFeed D) (run : TransactionRun)
    (s : TransactionLoop D) (response : Option TransactionPage) (errorCode : EvidenceError)
    (reason : TerminationReason) : TransactionEnd D :=
  let fatal := s.acceptedRows.isEmpty
  { loop := { s with pages := s.pages ++ [transactionErrorPage feed run s response errorCode] }
    completionState := if fatal then .error else .incomplete
    terminationReason := reason
    errorCode := some errorCode
    fatal := fatal }

/-- The page the provider answers: the bounded page call, or the preview
whose rows `_legacy_transaction_page_data` dresses as an uncursored page. -/
def fetchTransactionPage (feed : TransactionFeed D) (run : TransactionRun)
    (s : TransactionLoop D) : ProviderResult TransactionPage :=
  if run.bounds.isSome then
    getAccountTransactionsPage (feed.fetchJson s.pageIndex) ⟨run.pageSize, s.cursor⟩
  else
    (getAccountTransactionsPage (feed.fetchJson s.pageIndex) ⟨run.pageSize, none⟩).map
      fun page => transactionPage ⟨run.pageSize, none⟩ (page.transactions.take run.pageSize)

/-- Validation and the row loop of one page. -/
def scanTransactionPage (run : TransactionRun) (s : TransactionLoop D)
    (page : TransactionPage) : Except String (ValidatedTransactionPage × TransactionScan) := do
  let validated ← validateTransactionPage page s.cursor run.pageSize run.bounds.isSome
  let scan ← (validated.rows.zip validated.timestamps).foldlM (scanTransaction run.bounds)
    { seen := s.seen, lastLt := s.lastUniqueLt, lastTimestamp := s.lastUniqueTimestamp
      duplicates := 0, accepted := [], crossedStart := false }
  pure (validated, scan)

/-- The loop's locals once a page has been taken in. -/
def absorbTransactionPage (feed : TransactionFeed D) (run : TransactionRun)
    (s : TransactionLoop D) (page : TransactionPage) (validated : ValidatedTransactionPage)
    (scan : TransactionScan) : TransactionLoop D :=
  { pageIndex := s.pageIndex
    cursor := validated.responseCursor
    pages := s.pages ++
      [{ pageIndex := s.pageIndex
         requestCursor := s.cursor
         responseCursor := validated.responseCursor
         requestedLimit := run.pageSize
         rawCount := validated.rawCount
         normalizedCount := scan.accepted.length
         duplicateCount := scan.duplicates
         minLogicalTime := validated.minLogicalTime
         maxLogicalTime := validated.maxLogicalTime
         minTimestamp := validated.minTimestamp
         maxTimestamp := validated.maxTimestamp
         responseDigest := feed.digest (some page)
         errorCode := none
         fetchedAt := feed.clock s.pageIndex }]
    acceptedRows := s.acceptedRows ++ scan.accepted
    seen := scan.seen
    totalRaw := s.totalRaw + validated.rawCount
    totalDuplicates := s.totalDuplicates + scan.duplicates
    lastUniqueLt := scan.lastLt
    lastUniqueTimestamp := scan.lastTimestamp }

/-- One pass of `for page_offset in range(page_cap)`. -/
def transactionPass (feed : TransactionFeed D) (run : TransactionRun)
    (s : TransactionLoop D) : TransactionLoop D ⊕ TransactionEnd D :=
  match fetchTransactionPage feed run s with
  | .error failure =>
      .inr (transactionFailure feed run s none (evidenceError failure.error)
        (failureReason failure.error))
  | .ok page =>
      match scanTransactionPage run s page with
      | .error _ =>
          .inr (transactionFailure feed run s (some page) .protocolError .protocolError)
      | .ok (validated, scan) =>
          let next := absorbTransactionPage feed run s page validated scan
          if run.mode = .preview then
            .inr ⟨next, .previewOnly, .previewPageLimit, none, false⟩
          else if run.bounds.isNone then
            .inr ⟨next, .incomplete, .legacyUnavailable, none, false⟩
          else if validated.rawCount = 0 then
            .inr ⟨{ next with cursor := none }, .complete, .providerTerminal, none, false⟩
          else if scan.crossedStart then
            .inr ⟨next, .complete, .requestedStartCrossed, none, false⟩
          else
            .inl { next with pageIndex := s.pageIndex + 1 }

/-- The `else` arm: every pass ran. -/
def transactionPageCap (s : TransactionLoop D) : TransactionEnd D :=
  ⟨s, .incomplete, .pageCapReached, none, false⟩

/-- The locals before the loop. -/
def transactionStart (cursor : Option LogicalTime) (firstPageIndex : Nat) :
    TransactionLoop D :=
  { pageIndex := firstPageIndex, cursor := cursor, pages := [], acceptedRows := []
    seen := [], totalRaw := 0, totalDuplicates := 0
    lastUniqueLt := none, lastUniqueTimestamp := none }

/-- The page loop under a page cap. -/
def transactionLoop (feed : TransactionFeed D) (run : TransactionRun)
    (cursor : Option LogicalTime) (firstPageIndex pageCap : Nat) : TransactionEnd D :=
  ForElse.run (transactionPass feed run) transactionPageCap pageCap
    (transactionStart cursor firstPageIndex)

/-! ## The acquisition -/

/-- `_TransactionAcquisitionOutcome`. -/
structure TransactionOutcome (D : Type) where
  rawCount : Nat
  transactions : List Transaction
  stream : StreamEvidence D
  fatal : Bool
  incomplete : Bool

/-- The outcome after the loop. -/
def transactionOutcome (feed : TransactionFeed D) (run : TransactionRun) (pageCap : Nat)
    (e : TransactionEnd D) : TransactionOutcome D :=
  { rawCount := e.loop.totalRaw
    transactions := if run.mode = .ingest then e.loop.acceptedRows else []
    stream :=
      { streamKey := .transactions
        bounds := run.bounds
        pageSize := run.pageSize
        pageCap := pageCap
        completionState := e.completionState
        terminationReason := e.terminationReason
        rawCount := e.loop.totalRaw
        normalizedCount := e.loop.acceptedRows.length
        duplicateCount := e.loop.totalDuplicates
        terminalCursor := e.loop.cursor
        boundsVerified := run.bounds.isSome && e.completionState = .complete
        startedAt := feed.startedAt
        finishedAt := feed.finishedAt
        errorCode := e.errorCode
        pages := e.loop.pages }
    fatal := e.fatal
    incomplete := e.completionState ≠ .complete }

/-- `page_size` of the transaction stream. -/
def transactionPageSize (settings : ActivitySettings) : Nat := clamp 1000 settings.liveTxLimit

/-- `_fetch_transaction_acquisition`. -/
def fetchTransactionAcquisition (feed : TransactionFeed D) (settings : ActivitySettings)
    (request : AdapterRequest) (mode : Mode) : TransactionOutcome D :=
  let pageSize := transactionPageSize settings
  match resolvedTransactionBounds request, resumePosition request .transactions with
  | .ok bounds, .ok (cursor, firstPageIndex) =>
      let pageCap := pageCapOf request mode bounds (clamp 100 settings.liveTxMaxPages)
      let run : TransactionRun := ⟨mode, bounds, pageSize⟩
      transactionOutcome feed run pageCap (transactionLoop feed run cursor firstPageIndex pageCap)
  | _, _ =>
      { rawCount := 0, transactions := []
        stream := refusedStream .transactions pageSize feed.startedAt feed.finishedAt
        fatal := true, incomplete := true }

end TonTracker
