/-
# `Services.WalletNativeActivityLedger` — a ledger of a capture is built once

`build_wallet_native_activity_ledger`
(`services/wallet_native_activity_ledger.py`) over the ledgers and activity
rows of the database.  A call looks the ledger of its capture up, derives
one from the trace where there is none, stages it row by row, revalidates
what it staged and commits; it pauses wherever it reads, asks or writes.
The evidence under the captures does not change.  A statement may fail, and
the process may stop, before any of them.
-/
import TonTracker.Lib.OpenTransactions
import TonTracker.Services.NativeActivityPnlReadiness

namespace TonTracker

open Session (Machine Prog System World)
open OpenTransactions (Db Outcome)
open ExceptFold (check present)

/-! ## Rows -/

/-- The columns of a `WalletNativeActivityLedger`. -/
structure LedgerHeader where
  captureId : Nat
  contractVersion : String
  network : Option Network
  walletAccount : TonAddress
  sourceMessageDigest : String
  activityCount : Nat
  incomingNanoton : Nat
  outgoingNanoton : Nat
  selfNanoton : Nat
  evidenceDigest : String
  builtAt : Instant

/-- A row of either table. -/
inductive LedgerTableRow where
  | ledger (id : Nat) (header : LedgerHeader)
  | activity (ledgerId : Nat) (row : ActivityRow)

/-- The primary key of the ledgers and the three unique indexes. -/
def LedgerTableRow.collides : LedgerTableRow → LedgerTableRow → Bool
  | .ledger id header, .ledger id' header' =>
      id = id' || (header.captureId = header'.captureId &&
        header.contractVersion = header'.contractVersion)
  | .activity ledgerId row, .activity ledgerId' row' =>
      ledgerId = ledgerId' && (row.activityIdentityKey = row'.activityIdentityKey ||
        row.messageHash = row'.messageHash)
  | _, _ => false

/-- `ledger.rows`. -/
def activitiesOf (rows : List LedgerTableRow) (ledgerId : Nat) : List ActivityRow :=
  rows.filterMap fun row => match row with
    | .activity id activity => if id = ledgerId then some activity else none
    | .ledger _ _ => none

/-- A ledger with its rows. -/
def LedgerHeader.withRows (id : Nat) (header : LedgerHeader) (rows : List ActivityRow) :
    NativeLedger where
  id := id
  captureId := header.captureId
  contractVersion := header.contractVersion
  network := header.network
  walletAccount := header.walletAccount
  sourceMessageDigest := header.sourceMessageDigest
  activityCount := header.activityCount
  incomingNanoton := header.incomingNanoton
  outgoingNanoton := header.outgoingNanoton
  selfNanoton := header.selfNanoton
  evidenceDigest := header.evidenceDigest
  builtAt := header.builtAt
  rows := rows

/-- The ledgers of a capture. -/
def ledgersOf (rows : List LedgerTableRow) (captureId : Nat) : List NativeLedger :=
  rows.filterMap fun row => match row with
    | .ledger id header =>
        if header.captureId = captureId ∧
            header.contractVersion = nativeActivityLedgerContractVersion then
          some (header.withRows id (activitiesOf rows id))
        else none
    | .activity _ _ => none

/-! ## Programs -/

inductive LedgerQuery where
  | now
  | ledgerId
  | statement

/-- How a statement goes: it runs, the database fails, or the process stops. -/
inductive StatementFate where
  | runs
  | fails
  | stops

def LedgerQuery.Answer : LedgerQuery → Type
  | now => Instant
  | ledgerId => Nat
  | statement => StatementFate

/-- A statement of a session, with the session. -/
def ledgerMachine : Machine where
  State := Db LedgerTableRow
  Query := LedgerQuery
  Answer := LedgerQuery.Answer
  Write := Nat × OpenTransactions.Statement LedgerTableRow
  Result := fun _ => Outcome
  commit := fun w db => db.execute LedgerTableRow.collides w.1 w.2

/-- What a call raises: an exception of the readers of the evidence, a
`WalletNativeActivityLedgerFailure`, an `IntegrityError`, another
`SQLAlchemyError`; or the process stops. -/
inductive LedgerRaised where
  | evidence (raised : TraceRaised)
  | failure (message : String)
  | integrity
  | storage
  | stopped
deriving DecidableEq

abbrev LedgerJob : Type → Type := ExceptT LedgerRaised (Prog ledgerMachine)

def liftEvidence {α : Type} (read : Except TraceRaised α) : LedgerJob α :=
  ExceptT.mk (.done (read.mapError .evidence))

def askLedger (q : LedgerQuery) : LedgerJob q.Answer :=
  ExceptT.lift (.ask (M := ledgerMachine) q .done)

/-- Before a statement runs. -/
def reachStatement : LedgerJob Unit := do
  let fate : StatementFate ← askLedger .statement
  match fate with
  | .runs => return ()
  | .fails => throw .storage
  | .stops => throw .stopped

def runStatement (sid : Nat) (statement : OpenTransactions.Statement LedgerTableRow) :
    LedgerJob Outcome :=
  ExceptT.lift (.write (M := ledgerMachine) (sid, statement) .done)

/-- `session.rollback()`, of a new session too, and of one that is closed. -/
def rollbackSession (sid : Nat) : LedgerJob Unit := do
  let _ ← runStatement sid .rollback
  return ()

/-- An insert that is flushed. -/
def insertRow (sid : Nat) (row : LedgerTableRow) : LedgerJob Unit := do
  reachStatement
  let outcome ← runStatement sid (.insert row)
  match outcome with
  | .done => return ()
  | .refused => throw .integrity
  | .locked => throw .storage

/-- The loop over the rows. -/
def insertActivities (sid ledgerId : Nat) : List ActivityRow → LedgerJob Unit
  | [] => return ()
  | row :: rows => do
      insertRow sid (.activity ledgerId row)
      insertActivities sid ledgerId rows

/-- The rows the session sees. -/
def readLedgerRows (sid : Nat) : LedgerJob (List LedgerTableRow) :=
  ExceptT.lift (.read (M := ledgerMachine) fun db : Db LedgerTableRow => .done (db.visible sid))

/-- `_find_ledger`. -/
def findLedger (sid captureId : Nat) : LedgerJob (Option NativeLedger) := do
  reachStatement
  let rows ← readLedgerRows sid
  match ledgersOf rows captureId with
  | [] => return none
  | [ledger] => return some ledger
  | _ => throw (.evidence (.ledgerConflict "Activity ledger is ambiguous."))

/-! ## The response -/

/-- What a call returns; its other fields are constants. -/
structure LedgerResponse where
  ledgerId : Nat
  captureId : Nat
  runId : Nat
  network : Option Network
  walletAccount : TonAddress
  anchor : TraceAnchor
  sourceMessageDigest : String
  evidenceDigest : String
  builtAt : Instant
  activityCount : Nat
  incomingNanoton : Nat
  outgoingNanoton : Nat
  selfNanoton : Nat
  activities : List ActivityRow
deriving DecidableEq

variable (lib : LedgerLibrary) (traces : TraceStore)

/-- The evidence, as the readers of ledgers take it. -/
def TraceStore.ledgerStore : LedgerStore := { traces with ledgers := [] }

/-- `_revalidate_ledger`, with what it returns. -/
def ledgerResponse (ledger : NativeLedger) (runId : Nat) (transactionHash : String) :
    Except TraceRaised LedgerResponse := do
  let rows ← revalidateLedger lib traces.ledgerStore ledger runId transactionHash
  let (source, _) ← deriveRows lib traces.ledgerStore runId transactionHash
  return {
    ledgerId := ledger.id
    captureId := ledger.captureId
    runId := runId
    network := ledger.network
    walletAccount := ledger.walletAccount
    anchor := source.anchor
    sourceMessageDigest := ledger.sourceMessageDigest
    evidenceDigest := ledger.evidenceDigest
    builtAt := ledger.builtAt
    activityCount := ledger.activityCount
    incomingNanoton := ledger.incomingNanoton
    outgoingNanoton := ledger.outgoingNanoton
    selfNanoton := ledger.selfNanoton
    activities := rows }

/-! ## Building -/

/-- The ledger of what was derived. -/
def ledgerHeader (capture : TraceCapture) (source : NativeFlowObservations)
    (rows : List ActivityRow) (builtAt : Instant) : LedgerHeader where
  captureId := capture.id
  contractVersion := nativeActivityLedgerContractVersion
  network := source.network
  walletAccount := source.walletAccount
  sourceMessageDigest := source.messageDigest
  activityCount := rows.length
  incomingNanoton := source.incomingNanoton
  outgoingNanoton := source.outgoingNanoton
  selfNanoton := source.selfNanoton
  evidenceDigest := lib.digestLedger {
    captureId := capture.id
    network := source.network
    walletAccount := source.walletAccount
    sourceMessageDigest := source.messageDigest
    builtAt := builtAt
    activities := rows }
  builtAt := builtAt

/-- A call: the transaction it names. -/
structure LedgerCall where
  runId : Nat
  transactionHash : String
deriving DecidableEq

/-- The body of the `try`. -/
def storeLedger (sid : Nat) (call : LedgerCall) (captureId : Nat) (header : LedgerHeader)
    (rows : List ActivityRow) : LedgerJob (LedgerResponse × Bool) := do
  let id : Nat ← askLedger .ledgerId
  insertRow sid (.ledger id header)
  insertActivities sid id rows
  match ← findLedger sid captureId with
  | none => throw (.failure "Activity ledger disappeared before commit.")
  | some stored => do
      let validated ← liftEvidence
        (ledgerResponse lib traces stored call.runId call.transactionHash)
      reachStatement
      let _ ← runStatement sid .commit
      return (validated, true)

/-- The `except` clauses; what none of them names is raised as it is. -/
def recoverLedger (sid : Nat) (call : LedgerCall) (captureId : Nat) :
    LedgerRaised → LedgerJob (LedgerResponse × Bool)
  | .evidence (.ledgerConflict message) => do
      rollbackSession sid
      throw (.evidence (.ledgerConflict message))
  | .integrity => do
      rollbackSession sid
      match ← findLedger sid captureId with
      | some concurrent => do
          let response ← liftEvidence
            (ledgerResponse lib traces concurrent call.runId call.transactionHash)
          return (response, false)
      | none => throw (.failure "Activity ledger conflicted with stored evidence.")
  | .evidence (.notFound message) => throw (.evidence (.notFound message))
  | .evidence (.bocFailure message) => throw (.evidence (.bocFailure message))
  | .evidence _ | .storage => do
      rollbackSession sid
      throw (.failure "Activity ledger could not be stored atomically.")
  | .failure message => throw (.failure message)
  | .stopped => throw .stopped

/-- `build_wallet_native_activity_ledger`. -/
def buildLedger (sid : Nat) (call : LedgerCall) : LedgerJob (LedgerResponse × Bool) := do
  let (run, transaction) ← liftEvidence
    (resolveTraceAnchor traces.runs traces.transactions call.runId call.transactionHash)
  liftEvidence (requireEligibleStoredIdentity lib.derive run transaction call.transactionHash)
  let found ← liftEvidence
    (findCaptureForTransaction traces.captures call.runId call.transactionHash)
  let capture ← liftEvidence (present found
    (.ledgerConflict "Verified trace capture is required before building activity."))
  match ← findLedger sid capture.id with
  | some existing => do
      let response ← liftEvidence
        (ledgerResponse lib traces existing call.runId call.transactionHash)
      return (response, false)
  | none => do
      let (source, rows) ← liftEvidence
        (deriveRows lib traces.ledgerStore call.runId call.transactionHash)
      let builtAt : Instant ← askLedger .now
      tryCatch (storeLedger lib traces sid call capture.id
        (ledgerHeader lib capture source rows builtAt) rows)
        (recoverLedger lib traces sid call capture.id)

/-- A session of the route or of the worker, closed where the call raises. -/
def ledgerSession (sid : Nat) (call : LedgerCall) : LedgerJob (LedgerResponse × Bool) := do
  rollbackSession sid
  tryCatch (buildLedger lib traces sid call) fun raised => do
    rollbackSession sid
    throw raised

/-- What a call of a session returns or raises. -/
structure LedgerReply where
  session : Nat
  call : LedgerCall
  result : Except LedgerRaised (LedgerResponse × Bool)

def ledgerSystem : System ledgerMachine where
  Entry := LedgerCall
  Reply := LedgerReply
  program := fun sid call =>
    (fun result => LedgerReply.mk sid call result) <$> (ledgerSession lib traces sid call).run

end TonTracker
