/-
# `Services.WalletCaseActivity` — the sources of a pinned activity view

`repositories/wallet_case_activity.py` and `list_activity`
(`services/wallet_case_activity.py`): which syncs, runs and normalized rows
the view of a snapshot is built from.  What is built from them
(`_run_matches_case`, and `_build_activity` with the filters, totals and
the page after it) reads nothing else of the store: it is an argument.
-/
import TonTracker.Repositories.WalletCases

namespace TonTracker

open Relational (Table)

/-! ## Queries -/

/-- An interval, where the source has both of its bounds or none. -/
abbrev Interval := Option (Instant × Instant)

/-- `_period_predicate`. -/
def inPeriod (period : Interval) (row : NormalizedRow) : Bool :=
  match period with
  | none => true
  | some (start, stop) => row.timestamp.all fun t => start ≤ t && t < stop

/-- `WalletCaseActivitySources`; a row with the run it is of. -/
structure ActivitySources where
  syncs : List (Nat × SyncRow)
  runs : List (Nat × IngestionRun)
  transactions : List (Nat × NormalizedRow)
  transfers : List (Nat × NormalizedRow)
  swaps : List (Nat × NormalizedRow)

/-- The rows of one table that belong to the runs, in the order of the runs
and, in a run, of their ids. -/
def periodRows (period : Interval) (rows : RunRows → List NormalizedRow)
    (runs : List (Nat × IngestionRun)) : List (Nat × NormalizedRow) :=
  runs.flatMap fun run => ((rows run.2.rows).filter (inPeriod period)).map fun row => (run.1, row)

namespace Store

variable (s : Store)

/-- What `get_snapshot` and `source_syncs` select of a case. -/
def isSource (caseId : Nat) (row : SyncRow) : Bool :=
  row.caseId = caseId && row.state.usable && row.ingestionRunId.isSome

/-- `get_snapshot`. -/
def snapshot? (caseId : Nat) (publicId : Option Uuid) : Option (Nat × SyncRow) :=
  match publicId with
  | some publicId => s.syncs.find? fun _ row => isSource caseId row && row.publicId = publicId
  | none => s.syncs.latest? fun _ row => isSource caseId row

/-- `source_syncs`. -/
def sourceSyncs (snapshot : Nat × SyncRow) (period : Interval) (maximum : Nat) :
    Option (List (Nat × SyncRow)) :=
  let candidates := (s.syncs.select fun id row => isSource snapshot.2.caseId row &&
    id ≤ snapshot.1 && period.all fun bounds =>
      row.requestedStart < bounds.2 && bounds.1 < row.requestedEnd).take (maximum + 1)
  if maximum < candidates.length then none else some candidates

/-- `load_sources`. -/
def loadSources (syncs : List (Nat × SyncRow)) (period : Interval) (maximumRows : Nat) :
    Option ActivitySources :=
  let runIds := syncs.filterMap fun sync => sync.2.ingestionRunId
  if runIds = [] then some ⟨syncs, [], [], [], []⟩
  else
    let runs := s.runs.select fun id _ => runIds.contains id
    let transactions := periodRows period (·.transactions) runs
    let transfers := periodRows period (·.transfers) runs
    let swaps := periodRows period (·.swaps) runs
    if maximumRows < transactions.length + transfers.length + swaps.length then none
    else some ⟨syncs, runs, transactions, transfers, swaps⟩

end Store

/-! ## The service -/

/-- `WalletCaseActivityQuery`, normalized and with the snapshot of its
cursor; `F` is the type of the filters that act on built items. -/
structure ActivityQuery (F : Type) where
  snapshotPublicId : Option Uuid
  period : Interval
  counterpartyNetwork : Option Network
  filters : F

inductive ActivityError where
  | notFound
  | invalidQuery (message : String)
  | snapshotNotFound
  | scopeTooLarge (message : String)
  | snapshotConflict
deriving DecidableEq

/-- The columns of a case that the view reads. -/
structure CaseColumns where
  id : Nat
  publicId : Uuid
  scope : CaseScope

def CaseRow.columns (id : Nat) (c : CaseRow) : CaseColumns := ⟨id, c.publicId, c.scope⟩

/-- What is made of the sources: `_run_matches_case`, and the response. -/
structure ActivityView (F R : Type) where
  runMatchesCase : IngestionRun → Nat × SyncRow → CaseColumns → Bool
  response : CaseColumns → Nat × SyncRow → ActivitySources → ActivityQuery F →
    Instant × Instant → R

/-- `MAX_SOURCE_SYNCS`. -/
def maxSourceSyncs : Nat := 256

/-- `MAX_SOURCE_ROWS`. -/
def maxSourceRows : Nat := 25000

section List

variable {F R : Type}

/-- `_effective_period`. -/
def effectivePeriod (snapshot : SyncRow) (query : ActivityQuery F) : Instant × Instant :=
  query.period.getD (snapshot.requestedStart, snapshot.requestedEnd)

/-- `_row_period`. -/
def rowPeriod (snapshot : SyncRow) (query : ActivityQuery F) : Interval :=
  if snapshot.dataMode = .mock ∧ query.period = none then none
  else some (effectivePeriod snapshot query)

/-- `_validate_query_period`. -/
def periodWithin (snapshot : SyncRow) (query : ActivityQuery F) : Bool :=
  query.period.all fun bounds =>
    snapshot.requestedStart ≤ bounds.1 && bounds.2 ≤ snapshot.requestedEnd

/-- The sources of a snapshot under a query. -/
def Store.activitySources (s : Store) (snapshot : Nat × SyncRow) (query : ActivityQuery F) :
    Except ActivityError ActivitySources :=
  match s.sourceSyncs snapshot (some (effectivePeriod snapshot.2 query)) maxSourceSyncs with
  | none => .error (.scopeTooLarge
      "The pinned activity revision includes too many synchronization sources.")
  | some syncs =>
      match s.loadSources syncs (rowPeriod snapshot.2 query) maxSourceRows with
      | none => .error (.scopeTooLarge
          "The pinned activity revision contains too many normalized rows.")
      | some sources => .ok sources

/-- `list_activity` from the snapshot on. -/
def Store.snapshotActivity (s : Store) (view : ActivityView F R) (c : CaseColumns)
    (snapshot : Nat × SyncRow) (query : ActivityQuery F) : Except ActivityError R := do
  if ! periodWithin snapshot.2 query then
    throw (.invalidQuery "The activity period must stay within the pinned snapshot request.")
  let sources ← s.activitySources snapshot query
  match sources.runs.find? fun run => snapshot.2.ingestionRunId = some run.1 with
  | none => throw .snapshotConflict
  | some run =>
      if view.runMatchesCase run.2 snapshot c then
        return view.response c snapshot sources query (effectivePeriod snapshot.2 query)
      else throw .snapshotConflict

/-- `list_activity`; no response where nothing is synchronized yet. -/
def Store.listActivity (s : Store) (view : ActivityView F R) (owner : Text)
    (casePublicId : Uuid) (query : ActivityQuery F) : Except ActivityError (Option R) := do
  match s.caseByPublicId? owner casePublicId with
  | none => throw .notFound
  | some (caseId, c) =>
      if query.counterpartyNetwork.any fun network => network ≠ c.scope.network then
        throw (.invalidQuery "counterparty address belongs to another TON network.")
      match s.snapshot? caseId query.snapshotPublicId with
      | none =>
          if query.snapshotPublicId.isSome then throw .snapshotNotFound else return none
      | some snapshot => some <$> s.snapshotActivity view (c.columns caseId) snapshot query

end List

end TonTracker
