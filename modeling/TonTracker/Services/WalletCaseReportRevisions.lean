/-
# `Services.WalletCaseReportRevisions` — stored revisions of a case report

`WalletCaseReportRevisionService`
(`services/wallet_case_report_revisions.py`) over its table, which is the
case store's neighbour: a revision goes with its case and with its
snapshot.  A report is what `WalletCaseReportService.build` answers, with
the identity of its case; its public id is `rpt_` and the hash of its
content, so the hash stands for both.  JSON, its schema and SHA-256 are a
library; a cursor is its decoded document; the rows that a capture looks
up before it inserts are read at one store.
-/
import Mathlib.Data.Finset.Sort
import Mathlib.Data.String.Basic
import Mathlib.Data.Fintype.Pi
import TonTracker.Lib.ExceptFold
import TonTracker.Lib.KeysetPages
import TonTracker.Lib.SessionExtension
import TonTracker.Services.Coverage
import TonTracker.Services.WalletCaseActivity
import TonTracker.Services.WalletCases

namespace TonTracker

open Relational (Table)
open Session (Machine Prog)
open ExceptFold (check present)

/-! ## The report -/

/-- `CaseReportAssurance`. -/
inductive Assurance where
  | observed
  | normalized
  | partiallyVerified
  | canonical
deriving DecidableEq

/-- `CanonicalGateCode`. -/
inductive GateCode where
  | liveDataRequired
  | succeededSnapshotRequired
  | activityRequired
  | completeCoverageRequired
  | fullHistoryProofRequired
  | activityGapsMustBeClosed
  | identityConflictsMustBeResolved
  | evidenceHistoryMustBeFullyRevalidated
  | everyTransactionMustBeChainProven
  | everyTransactionNeedsNativeLedger
deriving DecidableEq

instance : Fintype GateCode where
  elems := {.liveDataRequired, .succeededSnapshotRequired, .activityRequired,
    .completeCoverageRequired, .fullHistoryProofRequired, .activityGapsMustBeClosed,
    .identityConflictsMustBeResolved, .evidenceHistoryMustBeFullyRevalidated,
    .everyTransactionMustBeChainProven, .everyTransactionNeedsNativeLedger}
  complete := fun key => by cases key <;> decide

def GateCode.text : GateCode → String
  | liveDataRequired => "live_data_required"
  | succeededSnapshotRequired => "succeeded_snapshot_required"
  | activityRequired => "activity_required"
  | completeCoverageRequired => "complete_coverage_required"
  | fullHistoryProofRequired => "full_history_proof_required"
  | activityGapsMustBeClosed => "activity_gaps_must_be_closed"
  | identityConflictsMustBeResolved => "identity_conflicts_must_be_resolved"
  | evidenceHistoryMustBeFullyRevalidated => "evidence_history_must_be_fully_revalidated"
  | everyTransactionMustBeChainProven => "every_transaction_must_be_chain_proven"
  | everyTransactionNeedsNativeLedger => "every_transaction_needs_native_ledger"

/-- The gaps of an Activity response (`_gaps`). -/
inductive GapCode where
  | coverageUnavailable
  | surfaceUnavailable
  | surfaceIncomplete
  | identitySemanticConflict
  | activityIdentityUnavailable
  | assetIdentityUnavailable
  | activityTimestampUnavailable
  | sourceScopeMismatch
  | sourceProvenanceMismatch
  | demoFixturePeriodNotChainCoverage
deriving DecidableEq

instance : Fintype GapCode where
  elems := {.coverageUnavailable, .surfaceUnavailable, .surfaceIncomplete,
    .identitySemanticConflict, .activityIdentityUnavailable, .assetIdentityUnavailable,
    .activityTimestampUnavailable, .sourceScopeMismatch, .sourceProvenanceMismatch,
    .demoFixturePeriodNotChainCoverage}
  complete := fun key => by cases key <;> decide

def GapCode.text : GapCode → String
  | coverageUnavailable => "coverage_unavailable"
  | surfaceUnavailable => "surface_unavailable"
  | surfaceIncomplete => "surface_incomplete"
  | identitySemanticConflict => "identity_semantic_conflict"
  | activityIdentityUnavailable => "activity_identity_unavailable"
  | assetIdentityUnavailable => "asset_identity_unavailable"
  | activityTimestampUnavailable => "activity_timestamp_unavailable"
  | sourceScopeMismatch => "source_scope_mismatch"
  | sourceProvenanceMismatch => "source_provenance_mismatch"
  | demoFixturePeriodNotChainCoverage => "demo_fixture_period_not_chain_coverage"

/-- The limitations of an Activity response (`_limitations`) and of the
report over it (`_report_limitations`). -/
inductive LimitationCode where
  | boundedIntervalNotFullHistory
  | caseSummaryIsLatestRunBasis
  | proofLedgerNotInActivity
  | cursorLocalProcessScope
  | coverageIsPinnedSnapshotBasis
  | demoFixtureNotChainData
  | coverageUnavailable
  | transactionOutcomeNotRawRevalidated
  | identitySemanticConflict
  | activityIdentityUnavailable
  | assetIdentityUnavailable
  | sourceScopeMismatch
  | sourceProvenanceMismatch
  | unknownTimeRowsExcluded
  | observedDemoReport
  | evidenceHistoryTruncated
  | selectiveEvidenceReport
  | canonicalGateLocked
deriving DecidableEq

instance : Fintype LimitationCode where
  elems := {.boundedIntervalNotFullHistory, .caseSummaryIsLatestRunBasis,
    .proofLedgerNotInActivity, .cursorLocalProcessScope, .coverageIsPinnedSnapshotBasis,
    .demoFixtureNotChainData, .coverageUnavailable, .transactionOutcomeNotRawRevalidated,
    .identitySemanticConflict, .activityIdentityUnavailable, .assetIdentityUnavailable,
    .sourceScopeMismatch, .sourceProvenanceMismatch, .unknownTimeRowsExcluded,
    .observedDemoReport, .evidenceHistoryTruncated, .selectiveEvidenceReport,
    .canonicalGateLocked}
  complete := fun key => by cases key <;> decide

def LimitationCode.text : LimitationCode → String
  | boundedIntervalNotFullHistory => "bounded_interval_not_full_history"
  | caseSummaryIsLatestRunBasis => "case_summary_is_latest_run_basis"
  | proofLedgerNotInActivity => "proof_ledger_not_in_activity"
  | cursorLocalProcessScope => "cursor_local_process_scope"
  | coverageIsPinnedSnapshotBasis => "coverage_is_pinned_snapshot_basis"
  | demoFixtureNotChainData => "demo_fixture_not_chain_data"
  | coverageUnavailable => "coverage_unavailable"
  | transactionOutcomeNotRawRevalidated => "transaction_outcome_not_raw_revalidated"
  | identitySemanticConflict => "identity_semantic_conflict"
  | activityIdentityUnavailable => "activity_identity_unavailable"
  | assetIdentityUnavailable => "asset_identity_unavailable"
  | sourceScopeMismatch => "source_scope_mismatch"
  | sourceProvenanceMismatch => "source_provenance_mismatch"
  | unknownTimeRowsExcluded => "unknown_time_rows_excluded"
  | observedDemoReport => "observed_demo_report"
  | evidenceHistoryTruncated => "evidence_history_truncated"
  | selectiveEvidenceReport => "selective_evidence_report"
  | canonicalGateLocked => "canonical_gate_locked"

/-- A gap, a limitation or an unverified claim: its code, and the canonical
JSON of the whole. -/
structure ReportItem (κ : Type) where
  code : κ
  encoded : String
deriving DecidableEq

/-- `WalletCaseActivityAggregate`. -/
inductive AggregateKey where
  | totalItems
  | transactions
  | transfers
  | swaps
  | failedTransactions
  | sourceSyncCount
  | suppressedDuplicateObservations
  | conflictedIdentityCount
deriving DecidableEq

instance : Fintype AggregateKey where
  elems := {.totalItems, .transactions, .transfers, .swaps, .failedTransactions,
    .sourceSyncCount, .suppressedDuplicateObservations, .conflictedIdentityCount}
  complete := fun key => by cases key <;> decide

/-- The counts of `WalletCaseReportEvidenceRevision`. -/
inductive EvidenceKey where
  | totalAttempts
  | returnedRevalidated
  | selectedActivityCount
  | locallyVerifiedActivityCount
  | chainInclusionProvenActivityCount
  | nativeLedgerActivityCount
deriving DecidableEq

instance : Fintype EvidenceKey where
  elems := {.totalAttempts, .returnedRevalidated, .selectedActivityCount,
    .locallyVerifiedActivityCount, .chainInclusionProvenActivityCount,
    .nativeLedgerActivityCount}
  complete := fun key => by cases key <;> decide

/-- `WalletCaseReportSubject`. -/
structure ReportSubject where
  network : Network
  dataEnvironment : DataEnvironment
  walletAccountCanonical : Text
deriving DecidableEq

/-- What `build` has of Activity and Evidence; `snapshotRecord` is the rest
of the snapshot record. -/
structure ReportBody where
  assurance : Assurance
  snapshotRecord : Text
  activityDigest : HexDigest
  aggregate : AggregateKey → Nat
  observedPeriod : Option (Text × Text)
  evidenceDigest : HexDigest
  evidence : EvidenceKey → Nat
  historyTruncated : Bool
  coverage : Coverage
  gaps : List (ReportItem GapCode)
  eligible : Bool
  unmet : List GateCode
  limitations : List (ReportItem LimitationCode)
  unverifiedClaims : List (ReportItem GateCode)
deriving DecidableEq

/-- `WalletCaseReport`, without its content address. -/
structure ReportContent extends ReportBody where
  casePublicId : Uuid
  snapshotPublicId : Uuid
  subject : ReportSubject
deriving DecidableEq

def CaseRow.subject (c : CaseRow) : ReportSubject :=
  ⟨c.scope.network, c.scope.dataEnvironment, c.scope.canonicalWalletKey⟩

/-- The report over the case. -/
def ReportBody.content (body : ReportBody) (c : CaseRow) (snapshotPublicId : Uuid) :
    ReportContent :=
  { body with casePublicId := c.publicId, snapshotPublicId, subject := c.subject }

namespace ReportContent

variable (r : ReportContent)

/-- `_counts_are_coherent`. -/
def countsCoherent : Bool :=
  r.evidence .returnedRevalidated ≤ r.evidence .totalAttempts &&
    r.historyTruncated = decide (r.evidence .returnedRevalidated < r.evidence .totalAttempts) &&
    r.evidence .nativeLedgerActivityCount ≤ r.evidence .chainInclusionProvenActivityCount &&
    r.evidence .chainInclusionProvenActivityCount ≤ r.evidence .locallyVerifiedActivityCount &&
    r.evidence .locallyVerifiedActivityCount ≤ r.evidence .selectedActivityCount &&
    r.evidence .selectedActivityCount ≤ r.evidence .returnedRevalidated &&
    r.evidence .returnedRevalidated ≤ 50

/-- `_eligibility_matches_unmet`. -/
def gateCoherent : Bool := r.eligible = r.unmet.isEmpty && decide r.unmet.Nodup

/-- The validators of the report's models. -/
def valid : Bool :=
  r.countsCoherent && r.gateCoherent && decide (r.assurance = .canonical) = r.eligible &&
    (r.subject.dataEnvironment ≠ .demo || r.assurance = .observed) &&
    decide (r.limitations.map (·.code)).Nodup && decide (r.unverifiedClaims.map (·.code)).Nodup

end ReportContent

/-- `json`, `hashlib` and the schema: `dump` is the canonical JSON of a
response, and `load` reads it back into the fields of the model, where its
content address is right. -/
structure ReportLibrary where
  contentHash : ReportContent → HexDigest
  Json : Type
  jsonEq : DecidableEq Json
  dump : ReportContent → Json
  load : Json → Option ReportContent
  load_dump : ∀ content, load (dump content) = some content

instance (lib : ReportLibrary) : DecidableEq lib.Json := lib.jsonEq

variable (lib : ReportLibrary)

/-! ## The table -/

/-- `WalletCaseReportRevision`; `publicId` is what follows `rpt_`. -/
structure RevisionRow where
  publicId : HexDigest
  caseId : Nat
  snapshotSyncId : Nat
  contentHash : HexDigest
  assurance : Assurance
  activityDigest : HexDigest
  evidenceDigest : HexDigest
  reportJson : lib.Json
  createdAt : Instant

/-- The case store and the revisions. -/
structure ReportStore where
  base : Store
  revisions : Table (RevisionRow lib)

variable {lib}

/-- `ON DELETE CASCADE`, from the case and from the snapshot. -/
def cascadeRevisions (s : Store) (t : Table (RevisionRow lib)) : Table (RevisionRow lib) :=
  t.delete fun _ row =>
    (s.cases.get? row.caseId).isNone || (s.syncs.get? row.snapshotSyncId).isNone

variable (lib) in
inductive ReportWrite where
  | base (w : Write)
  | insertRevision (row : RevisionRow lib)

/-- What a transaction returns; an insert without a key was refused. -/
def ReportWrite.Result : ReportWrite lib → Type
  | base _ => WriteResult
  | insertRevision _ => Option Nat

/-- The unique indices, the foreign keys and
`ck_wallet_case_report_revisions_identity`. -/
def ReportStore.refuses (s : ReportStore lib) (row : RevisionRow lib) : Bool :=
  (s.revisions.find? fun _ other => other.publicId = row.publicId ||
      (other.caseId = row.caseId && other.contentHash = row.contentHash)).isSome ||
    (s.base.cases.get? row.caseId).isNone || (s.base.syncs.get? row.snapshotSyncId).isNone ||
    row.publicId ≠ row.contentHash

def ReportWrite.commit : (w : ReportWrite lib) → ReportStore lib → w.Result × ReportStore lib
  | base w, s =>
      ((w.commit s.base).1,
        ⟨(w.commit s.base).2, cascadeRevisions (w.commit s.base).2 s.revisions⟩)
  | insertRevision row, s =>
      if s.refuses row then (none, s)
      else (some s.revisions.nextId, ⟨s.base, s.revisions.insert row⟩)

/-! ## The environment -/

inductive RevisionRaised where
  | notFound (message : String)
  | snapshotNotFound (message : String)
  | conflict (message : String)
  | scopeTooLarge (message : String)
  | invalidCursor (message : String)
  | other
deriving DecidableEq

inductive ReportQuery where
  | base (q : Query)
  | build (owner : Text) (casePublicId snapshotPublicId : Uuid)
  | now

/-- What a question is answered with; `build` may raise, or have no
report. -/
def ReportQuery.Answer : ReportQuery → Type
  | base q => q.Answer
  | build _ _ _ => Except RevisionRaised (Option ReportBody)
  | now => Instant

variable (lib) in
def reportMachine : Machine where
  State := ReportStore lib
  Query := ReportQuery
  Answer := ReportQuery.Answer
  Write := ReportWrite lib
  Result := ReportWrite.Result
  commit := ReportWrite.commit

variable (lib) in
/-- The case store in the larger one. -/
def caseExtension : Session.Extension caseMachine (reportMachine lib) where
  view := ReportStore.base
  query := .base
  answer := fun _ answer => answer
  write := .base
  result := fun _ result => result

variable (lib) in
abbrev ReportJob : Type → Type := ExceptT RevisionRaised (Prog (reportMachine lib))

def askReport (q : ReportQuery) : ReportJob lib q.Answer :=
  ExceptT.lift (.ask (M := reportMachine lib) q .done)

def liftRevision {α : Type} (checked : Except RevisionRaised α) : ReportJob lib α :=
  ExceptT.mk (.done checked)

def readReport : ReportJob lib (ReportStore lib) :=
  ExceptT.lift (.read (M := reportMachine lib) .done)

def insertRevision (row : RevisionRow lib) : ReportJob lib (Option Nat) :=
  ExceptT.lift (.write (M := reportMachine lib) (.insertRevision row) .done)

/-! ## Reading a stored revision -/

/-- `WalletCaseReportRevisionSummary`. -/
structure RevisionSummary where
  publicId : HexDigest
  contentHash : HexDigest
  casePublicId : Uuid
  snapshotPublicId : Uuid
  assurance : Assurance
  capturedAt : Instant
  activityDigest : HexDigest
  evidenceDigest : HexDigest
  activityCount : Nat
  evidenceAttemptCount : Nat
  canonicalEligible : Bool
  limitationCount : Nat
  unverifiedClaimCount : Nat
deriving DecidableEq

/-- `WalletCaseReportResponse.model_validate(json.loads(…))`. -/
def loadReport (raw : lib.Json) : Option ReportContent := (lib.load raw).filter (·.valid)

/-- The comparison of a row with its report, its snapshot and its case. -/
def provenanceMatches (caseId : Nat) (c : CaseRow) (snapshot : SyncRow) (row : RevisionRow lib)
    (report : ReportContent) : Bool :=
  snapshot.caseId = caseId && decide (lib.dump report = row.reportJson) &&
    report.casePublicId = c.publicId && report.snapshotPublicId = snapshot.publicId &&
    row.publicId = lib.contentHash report && row.contentHash = lib.contentHash report &&
    row.assurance = report.assurance && row.activityDigest = report.activityDigest &&
    row.evidenceDigest = report.evidenceDigest

/-- The summary of a row. -/
def revisionSummary (c : CaseRow) (snapshot : SyncRow) (row : RevisionRow lib)
    (report : ReportContent) : RevisionSummary where
  publicId := row.publicId
  contentHash := row.contentHash
  casePublicId := c.publicId
  snapshotPublicId := snapshot.publicId
  assurance := row.assurance
  capturedAt := row.createdAt
  activityDigest := row.activityDigest
  evidenceDigest := row.evidenceDigest
  activityCount := report.aggregate .totalItems
  evidenceAttemptCount := report.evidence .totalAttempts
  canonicalEligible := report.eligible
  limitationCount := report.limitations.length
  unverifiedClaimCount := report.unverifiedClaims.length

namespace ReportStore

variable (s : ReportStore lib)

/-- `_stored`. -/
def stored (found : Nat × CaseRow) (row : RevisionRow lib) :
    Except RevisionRaised (RevisionSummary × ReportContent) := do
  let report ← present (loadReport row.reportJson) (.conflict "Stored report revision is invalid.")
  let snapshot ← present (s.base.syncs.get? row.snapshotSyncId)
    (.conflict "Stored report revision no longer matches its public provenance.")
  check (provenanceMatches found.1 found.2 snapshot row report = true)
    (.conflict "Stored report revision no longer matches its public provenance.")
  return (revisionSummary found.2 snapshot row report, report)

/-- `_required_case`. -/
def requiredCase (owner : Text) (casePublicId : Uuid) : Except RevisionRaised (Nat × CaseRow) :=
  present (s.base.caseByPublicId? owner casePublicId) (.notFound "Wallet Case not found.")

/-- The revision of a case under a public id. -/
def revision? (caseId : Nat) (publicId : HexDigest) : Option (Nat × RevisionRow lib) :=
  s.revisions.find? fun _ row => row.caseId = caseId && row.publicId = publicId

/-- `detail`. -/
def detail (owner : Text) (casePublicId : Uuid) (publicId : HexDigest) :
    Except RevisionRaised (RevisionSummary × ReportContent) := do
  let found ← s.requiredCase owner casePublicId
  let row ← present (s.revision? found.1 publicId) (.notFound "Stored report revision not found.")
  s.stored found row.2

end ReportStore

/-! ## Capturing -/

/-- What a capture returns. -/
structure CapturedRevision where
  casePublicId : Uuid
  created : Bool
  revision : RevisionSummary

/-- The row of a new revision. -/
def revisionRow (caseId snapshotId : Nat) (report : ReportContent) (now : Instant) :
    RevisionRow lib where
  publicId := lib.contentHash report
  caseId := caseId
  snapshotSyncId := snapshotId
  contentHash := lib.contentHash report
  assurance := report.assurance
  activityDigest := report.activityDigest
  evidenceDigest := report.evidenceDigest
  reportJson := lib.dump report
  createdAt := now

/-- What `capture` looks up before it inserts. -/
structure CaptureTarget where
  caseId : Nat
  row : CaseRow
  snapshotId : Nat
  report : ReportContent

/-- The case, the validated report over it, and its snapshot. -/
def captureTarget (s : ReportStore lib) (owner : Text) (casePublicId snapshotPublicId : Uuid)
    (body : ReportBody) : Except RevisionRaised CaptureTarget := do
  let found ← s.requiredCase owner casePublicId
  let report := body.content found.2 snapshotPublicId
  check (report.valid = true) .other
  let snapshot ← present (s.base.snapshot? found.1 (some snapshotPublicId))
    (.snapshotNotFound "The requested Wallet Case snapshot is unavailable.")
  return ⟨found.1, found.2, snapshot.1, report⟩

/-- The revision after the insert: by its key where it was inserted, and by
its public id where that was refused. -/
def capturedRow (s : ReportStore lib) (target : CaptureTarget) :
    Option Nat → Except RevisionRaised (RevisionRow lib)
  | some id => present (s.revisions.get? id) .other
  | none => present ((s.revision? target.caseId (lib.contentHash target.report)).map (·.2)) .other

/-- The response after the insert; both rows are read anew. -/
def capturedAfter (s : ReportStore lib) (target : CaptureTarget) (inserted : Option Nat) :
    Except RevisionRaised CapturedRevision := do
  let row ← capturedRow s target inserted
  let c ← present (s.base.cases.get? target.caseId) .other
  let (summary, _) ← s.stored (target.caseId, c) row
  return ⟨c.publicId, inserted.isSome, summary⟩

/-- The insert, and the response. -/
def insertCaptured (target : CaptureTarget) :
    ReportJob lib (CaptureTarget × CapturedRevision) := do
  let now : Instant ← askReport .now
  let inserted ← insertRevision (revisionRow target.caseId target.snapshotId target.report now)
  let after ← readReport
  let captured ← liftRevision (capturedAfter after target inserted)
  return (target, captured)

/-- `capture`, with what it captured. -/
def captureRevision (owner : Text) (casePublicId snapshotPublicId : Uuid) :
    ReportJob lib (CaptureTarget × CapturedRevision) := do
  let built : Except RevisionRaised (Option ReportBody) ←
    askReport (.build owner casePublicId snapshotPublicId)
  let body ← liftRevision (built.bind fun found => present found (.snapshotNotFound
    "Synchronize this Wallet Case before capturing a report revision."))
  let s ← readReport
  let target ← liftRevision (captureTarget s owner casePublicId snapshotPublicId body)
  match s.revision? target.caseId (lib.contentHash target.report) with
  | some existing =>
      let (summary, _) ← liftRevision (s.stored (target.caseId, target.row) existing.2)
      return (target, ⟨target.row.publicId, false, summary⟩)
  | none => insertCaptured target

/-! ## The catalog -/

/-- `_encode_cursor`. -/
structure RevisionCursor where
  casePublicId : Uuid
  cutoff : HexDigest
  after : HexDigest
deriving DecidableEq

/-- `catalog`, without its constant texts. -/
structure RevisionPage where
  cutoff : Option HexDigest
  items : List RevisionSummary
  totalRevisions : Nat
  nextCursor : Option RevisionCursor

namespace ReportStore

variable (s : ReportStore lib)

/-- The cutoff of a page: the newest revision of the case, or that of the
cursor. -/
def revisionCutoff (caseId : Nat) (cursor : Option RevisionCursor) :
    Except RevisionRaised (Option (Nat × RevisionRow lib)) :=
  match cursor with
  | none => .ok (s.revisions.latest? fun _ row => row.caseId = caseId)
  | some given => some <$> present (s.revision? caseId given.cutoff)
      (.invalidCursor "Report revision cursor cutoff is unavailable.")

/-- The key a page starts below. -/
def revisionAfter (caseId cutoff : Nat) (cursor : Option RevisionCursor) :
    Except RevisionRaised (Option Nat) :=
  match cursor with
  | none => .ok none
  | some given => (fun found => some found.1) <$> present
      (s.revisions.find? fun id row => row.caseId = caseId && row.publicId = given.after &&
        id ≤ cutoff) (.invalidCursor "Report revision cursor position is unavailable.")

/-- The revisions of a case up to a cutoff, the newest first. -/
def revisionsUpTo (caseId cutoff : Nat) : List (Nat × RevisionRow lib) :=
  (s.revisions.select fun id row => row.caseId = caseId && id ≤ cutoff).reverse

/-- The page below a cutoff. -/
def pageUpTo (found : Nat × CaseRow) (limit : Nat) (cursor : Option RevisionCursor)
    (cutoff : Nat × RevisionRow lib) : Except RevisionRaised RevisionPage := do
  let after ← s.revisionAfter found.1 cutoff.1 cursor
  let rows := s.revisionsUpTo found.1 cutoff.1
  let page := KeysetPages.page (·.1) limit after rows
  let items ← page.1.mapM fun row => Prod.fst <$> s.stored found row.2
  return ⟨some cutoff.2.publicId, items, rows.length,
    if page.2 then page.1.getLast?.map fun last =>
      ⟨found.2.publicId, cutoff.2.publicId, last.2.publicId⟩ else none⟩

/-- `catalog`. -/
def revisionCatalog (owner : Text) (casePublicId : Uuid) (limit : Nat)
    (cursor : Option RevisionCursor) : Except RevisionRaised RevisionPage := do
  check (1 ≤ limit ∧ limit ≤ 20)
    (.invalidCursor "Report revision limit must be between 1 and 20.")
  let found ← s.requiredCase owner casePublicId
  check ((cursor.all fun given => given.casePublicId = casePublicId) = true)
    (.invalidCursor "Report revision cursor belongs to another Wallet Case.")
  match ← s.revisionCutoff found.1 cursor with
  | none => return ⟨none, [], 0, none⟩
  | some cutoff => s.pageUpTo found limit cursor cutoff

end ReportStore

/-- Following `next_cursor`: the requests with the store each of them finds,
and the cursor of the first; what they list, and the cursor that is left. -/
def followRevisions (owner : Text) (casePublicId : Uuid) :
    List (ReportStore lib × Nat) → Option RevisionCursor →
      Except RevisionRaised (List RevisionSummary × Option RevisionCursor)
  | [], cursor => .ok ([], cursor)
  | (s, limit) :: later, cursor => do
      let page ← s.revisionCatalog owner casePublicId limit cursor
      match page.nextCursor with
      | none => return (page.items, none)
      | some next =>
          let (items, left) ← followRevisions owner casePublicId later (some next)
          return (page.items ++ items, left)

/-! ## Comparing -/

/-- `_integer_delta`. -/
structure IntegerDelta where
  baseline : Nat
  target : Nat
  delta : Int
deriving DecidableEq

def integerDelta (baseline target : Nat) : IntegerDelta := ⟨baseline, target, target - baseline⟩

/-- `_boolean_transition`, and the transition of the assurance. -/
structure Transition (α : Type) where
  baseline : α
  target : α
  changed : Bool
deriving DecidableEq

def transition {α : Type} [DecidableEq α] (baseline target : α) : Transition α :=
  ⟨baseline, target, decide (baseline ≠ target)⟩

/-- `_code_changes`. -/
structure CodeChanges where
  added : List String
  removed : List String
  modified : List String
  unchangedCount : Nat
deriving DecidableEq

section CodeChanges

variable {κ : Type} (text : κ → String)

/-- The encodings of the items of a code, sorted. -/
def codeGroup (items : List (ReportItem κ)) (code : String) : List String :=
  ((items.filter fun item => text item.code = code).map (·.encoded)).mergeSort (· ≤ ·)

def itemCodes (items : List (ReportItem κ)) : Finset String :=
  (items.map fun item => text item.code).toFinset

def codeChanges (baseline target : List (ReportItem κ)) : CodeChanges where
  added := (itemCodes text target \ itemCodes text baseline).sort
  removed := (itemCodes text baseline \ itemCodes text target).sort
  modified := ((itemCodes text baseline ∩ itemCodes text target).filter fun code =>
    codeGroup text baseline code ≠ codeGroup text target code).sort
  unchangedCount := ((itemCodes text baseline ∩ itemCodes text target).filter fun code =>
    codeGroup text baseline code = codeGroup text target code).card

end CodeChanges

/-- `WalletCaseReportRevisionComparison`, without its content address and
its constant texts. -/
structure RevisionComparison where
  baseline : RevisionSummary
  target : RevisionSummary
  sameSnapshot : Bool
  contentChanged : Bool
  assurance : Transition Assurance
  activityDigestChanged : Bool
  observedPeriodChanged : Bool
  activity : AggregateKey → IntegerDelta
  evidenceDigestChanged : Bool
  evidence : EvidenceKey → IntegerDelta
  historyTruncated : Transition Bool
  coverageChanged : Bool
  eligible : Transition Bool
  newlyUnmet : List String
  resolved : List String
  gateUnchangedCount : Nat
  gaps : CodeChanges
  limitations : CodeChanges
  unverifiedClaims : CodeChanges
deriving DecidableEq

/-- The payload of `compare`. -/
def revisionComparison (baselineSummary targetSummary : RevisionSummary)
    (baseline target : ReportContent) : RevisionComparison where
  baseline := baselineSummary
  target := targetSummary
  sameSnapshot := baseline.snapshotPublicId = target.snapshotPublicId
  contentChanged := baselineSummary.publicId ≠ targetSummary.publicId
  assurance := transition baseline.assurance target.assurance
  activityDigestChanged := baseline.activityDigest ≠ target.activityDigest
  observedPeriodChanged := baseline.observedPeriod ≠ target.observedPeriod
  activity := fun key => integerDelta (baseline.aggregate key) (target.aggregate key)
  evidenceDigestChanged := baseline.evidenceDigest ≠ target.evidenceDigest
  evidence := fun key => integerDelta (baseline.evidence key) (target.evidence key)
  historyTruncated := transition baseline.historyTruncated target.historyTruncated
  coverageChanged := baseline.coverage ≠ target.coverage
  eligible := transition baseline.eligible target.eligible
  newlyUnmet := ((target.unmet.map GateCode.text).toFinset \
    (baseline.unmet.map GateCode.text).toFinset).sort
  resolved := ((baseline.unmet.map GateCode.text).toFinset \
    (target.unmet.map GateCode.text).toFinset).sort
  gateUnchangedCount := ((baseline.unmet.map GateCode.text).toFinset ∩
    (target.unmet.map GateCode.text).toFinset).card
  gaps := codeChanges GapCode.text baseline.gaps target.gaps
  limitations := codeChanges LimitationCode.text baseline.limitations target.limitations
  unverifiedClaims := codeChanges GateCode.text baseline.unverifiedClaims target.unverifiedClaims

/-! ## The schema of a comparison -/

def IntegerDelta.exact (d : IntegerDelta) : Bool := d.delta = (d.target : Int) - d.baseline

def Transition.exact {α : Type} [DecidableEq α] (t : Transition α) : Bool :=
  t.changed = decide (t.baseline ≠ t.target)

/-- A list of codes in canonical order. -/
def canonicalCodes (maximum : Nat) (codes : List String) : Bool :=
  codes.length ≤ maximum && decide (codes.Pairwise (· ≤ ·)) && decide codes.Nodup

/-- A code that is not empty, not long and stripped. -/
def plainCode (code : String) : Bool :=
  code ≠ "" && code.length ≤ 64 && decide (strip code.toList = code.toList)

/-- `_codes_are_canonical`. -/
def CodeChanges.valid (changes : CodeChanges) : Bool :=
  [changes.added, changes.removed, changes.modified].all (fun codes =>
      canonicalCodes 64 codes && codes.all plainCode) &&
    decide (Disjoint changes.added.toFinset changes.removed.toFinset) &&
    decide (Disjoint (changes.added.toFinset ∪ changes.removed.toFinset)
      changes.modified.toFinset)

/-- `_summary_is_coherent`. -/
def RevisionSummary.coherent (summary : RevisionSummary) : Bool :=
  summary.publicId = summary.contentHash &&
    decide (summary.assurance = .canonical) = summary.canonicalEligible

namespace RevisionComparison

variable (x : RevisionComparison)

/-- `_gate_codes_are_canonical`. -/
def gateValid : Bool :=
  canonicalCodes 16 x.newlyUnmet && canonicalCodes 16 x.resolved &&
    decide (Disjoint x.newlyUnmet.toFinset x.resolved.toFinset)

/-- `_comparison_is_coherent`, on the summaries. -/
def summariesAgree (casePublicId : Uuid) : Bool :=
  x.baseline.casePublicId = casePublicId && x.target.casePublicId = casePublicId &&
    x.sameSnapshot = decide (x.baseline.snapshotPublicId = x.target.snapshotPublicId) &&
    x.contentChanged = decide (x.baseline.publicId ≠ x.target.publicId) &&
    x.assurance.baseline = x.baseline.assurance && x.assurance.target = x.target.assurance &&
    x.eligible.baseline = x.baseline.canonicalEligible &&
    x.eligible.target = x.target.canonicalEligible

/-- `_comparison_is_coherent`, on the digests and the counts. -/
def deltasAgree : Bool :=
  x.activityDigestChanged = decide (x.baseline.activityDigest ≠ x.target.activityDigest) &&
    x.evidenceDigestChanged = decide (x.baseline.evidenceDigest ≠ x.target.evidenceDigest) &&
    (x.activity .totalItems).baseline = x.baseline.activityCount &&
    (x.activity .totalItems).target = x.target.activityCount &&
    (x.evidence .totalAttempts).baseline = x.baseline.evidenceAttemptCount &&
    (x.evidence .totalAttempts).target = x.target.evidenceAttemptCount

/-- The deltas and transitions of the comparison. -/
def exact : Bool :=
  decide (∀ key, (x.activity key).exact = true) && decide (∀ key, (x.evidence key).exact = true) &&
    x.assurance.exact && x.historyTruncated.exact && x.eligible.exact

/-- `WalletCaseReportRevisionComparison.model_validate`. -/
def valid (casePublicId : Uuid) : Bool :=
  x.baseline.coherent && x.target.coherent && x.exact && x.gateValid &&
    [x.gaps, x.limitations, x.unverifiedClaims].all CodeChanges.valid &&
    x.summariesAgree casePublicId && x.deltasAgree

end RevisionComparison

/-- `compare`; where both ids are the same there is one row. -/
def ReportStore.compare (s : ReportStore lib) (owner : Text) (casePublicId : Uuid)
    (baselineId targetId : HexDigest) : Except RevisionRaised RevisionComparison := do
  let found ← s.requiredCase owner casePublicId
  let baselineRow ← present (s.revision? found.1 baselineId)
    (.notFound "One or both stored report revisions were not found.")
  let targetRow ← present (s.revision? found.1 targetId)
    (.notFound "One or both stored report revisions were not found.")
  let (baselineSummary, baseline) ← s.stored found baselineRow.2
  let (targetSummary, target) ← s.stored found targetRow.2
  check (baseline.subject = target.subject)
    (.conflict "Stored report revisions do not share one public subject identity.")
  let x := revisionComparison baselineSummary targetSummary baseline target
  check (x.valid found.2.publicId = true) .other
  return x

/-! ## The sessions -/

inductive ReportEntry where
  | base (entry : Entry)
  | capture (owner : Text) (casePublicId snapshotPublicId : Uuid)

/-- What a session returned; a capture with what it captured. -/
inductive ReportReply where
  | base (reply : Reply)
  | captured (target : CaptureTarget) (response : CapturedRevision)
  | refused (raised : RevisionRaised)

/-- The reply of a capture. -/
def captureReply (owner : Text) (casePublicId snapshotPublicId : Uuid) :
    Prog (reportMachine lib) ReportReply := do
  match ← (captureRevision owner casePublicId snapshotPublicId : ReportJob lib _).run with
  | .ok (target, response) => return .captured target response
  | .error raised => return .refused raised

variable (lib) in
/-- Captures beside the sessions of the case services. -/
def reportSystem (sha : Sha256) : Session.System (reportMachine lib) where
  Entry := ReportEntry
  Reply := ReportReply
  program := fun sid entry => match entry with
    | .base entry => ReportReply.base <$> (program sha sid entry).lift (caseExtension lib)
    | .capture owner casePublicId snapshotPublicId =>
        captureReply owner casePublicId snapshotPublicId

/-- Before the first session. -/
def reportStart {sha : Sha256} : Session.World (reportSystem lib sha) :=
  ⟨⟨Store.empty, .empty⟩, []⟩

end TonTracker
