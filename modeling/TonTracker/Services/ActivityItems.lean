/-
# `Services.ActivityItems` — what the activity view publishes of its rows

`_build_activity` (`services/wallet_case_activity.py`): each normalized row
of a usable sync is left out with its run, rejected, or an observation;
observations of one validated identity are one item, unless they disagree.
How a row is validated and what its item shows (`_transaction_observation`,
`_transfer_observation`, `_swap_observation`, `_run_matches_case` and
`_row_matches_source_period`) is an argument, and so is SHA-256.
-/
import Mathlib.Data.Prod.Lex
import TonTracker.Services.WalletCaseActivity
import TonTracker.Lib.Groups
import TonTracker.Lib.KeySort

namespace TonTracker

inductive ActivityKind where
  | transaction
  | transfer
  | swap
deriving DecidableEq, Repr

def ActivityKind.text : ActivityKind → Text
  | .transaction => "transaction".toList
  | .transfer => "transfer".toList
  | .swap => "swap".toList

/-- The surface the rows of a kind are requested under. -/
def ActivityKind.surface : ActivityKind → Surface
  | .transaction => .transactions
  | .transfer => .transfers
  | .swap => .swaps

/-- `_activity_kinds_for_surfaces`. -/
def activityKindsForSurfaces (surfaces : List Surface) : List ActivityKind :=
  surfaces.filterMap fun
    | .transactions => some .transaction
    | .transfers => some .transfer
    | .swaps => some .swap
    | _ => none

/-! ## Items -/

inductive ActivityDirection where
  | incoming
  | outgoing
  | unknown
deriving DecidableEq, Repr

inductive ActivityOutcome where
  | success
  | failed
  | unknown
deriving DecidableEq, Repr

inductive ActivityOrigin where
  | demoFixture
  | providerObserved
deriving DecidableEq, Repr

structure ActivityAsset where
  role : Text
  assetId : Option Text
  isNetworkScoped : Bool
  standard : Text
  contractAddress : Option Text
  symbol : Option Text
deriving DecidableEq, Repr

structure ActivityCounterparty where
  displayAddress : Text
  canonicalAddress : Option Text
deriving DecidableEq, Repr

structure ActivityProtocol where
  status : Text
  id : Option Text
  family : Option Text
  version : Option Text
  label : Option Text
deriving DecidableEq, Repr

inductive ActivityDetails where
  | transaction (feeTon : Option Text)
  | transfer (amount : Option Text)
  | swap (amountIn amountOut estimatedUsd : Option Text)
deriving DecidableEq, Repr

/-- `_public_logical_time`: an integer without leading zeros, below 2^64. -/
structure PublicLogicalTime where
  value : Nat
  bounded : value < 2 ^ 64
deriving DecidableEq, Repr

/-- What a row's item shows besides its kind and time. -/
structure ActivityContent where
  logicalTime : Option PublicLogicalTime
  direction : Option ActivityDirection
  outcome : Option ActivityOutcome
  counterparty : Option ActivityCounterparty
  assets : List ActivityAsset
  protocol : Option ActivityProtocol
  linkedToItself : Bool
  transactionHash : Option Text
  eventId : Option Text
  details : ActivityDetails
deriving DecidableEq, Repr

/-- The part of an item its fingerprint is taken of. -/
structure ActivitySemantics extends ActivityContent where
  kind : ActivityKind
  occurredAt : Option Instant
deriving DecidableEq

/-- `_provenance`, before the counts of a group. -/
structure ActivityOriginRecord where
  dataOrigin : ActivityOrigin
  evidenceLevel : Text
  provider : Text
  sourceStatus : Text
  identityAssurance : Text
  deduplicationBasis : Text
deriving DecidableEq, Repr

inductive IdentityNamespace where
  | transaction
  | eventAction
deriving DecidableEq, Repr

def IdentityNamespace.text : IdentityNamespace → Text
  | .transaction => "transaction".toList
  | .eventAction => "event_action".toList

/-- What the validation of a row returns of it. -/
structure ObservationDraft where
  content : ActivityContent
  identity : Option (IdentityNamespace × Text)
  origin : ActivityOriginRecord
  limitations : List Text
deriving DecidableEq

/-- `_Observation`. -/
structure ActivityObservation where
  syncId : Nat
  syncPublicId : Uuid
  rowId : Nat
  identity : Option (IdentityNamespace × Text)
  semanticFingerprint : HexDigest
  semantics : ActivitySemantics
  origin : ActivityOriginRecord
  limitations : List Text
deriving DecidableEq

/-- An item of `_BuiltActivity`, with its `provenance`. -/
structure ActivityItem extends ActivitySemantics where
  publicId : Text
  origin : ActivityOriginRecord
  observationCount : Nat
  suppressedCount : Nat
  firstSeenSyncPublicId : Uuid
  lastSeenSyncPublicId : Uuid
  limitations : List Text
deriving DecidableEq

/-! ## Sources -/

/-- A normalized row, with its id and that of its run. -/
structure ActivitySourceRow where
  id : Nat
  runId : Nat
  row : NormalizedRow
deriving DecidableEq

/-- `WalletCaseActivitySources`. -/
structure ActivityRowSources where
  syncs : List (Nat × SyncRow)
  runs : List (Nat × IngestionRun)
  transactions : List ActivitySourceRow
  transfers : List ActivitySourceRow
  swaps : List ActivitySourceRow

def ActivityRowSources.rows (sources : ActivityRowSources) : ActivityKind → List ActivitySourceRow
  | .transaction => sources.transactions
  | .transfer => sources.transfers
  | .swap => sources.swaps

/-- All rows, in the order the loops meet them. -/
def ActivityRowSources.allRows (sources : ActivityRowSources) :
    List (ActivityKind × ActivitySourceRow) :=
  [ActivityKind.transaction, .transfer, .swap].flatMap fun kind =>
    (sources.rows kind).map fun row => (kind, row)

/-- How rows and runs are validated, and SHA-256 of a semantic record and of
a text. -/
structure ActivityReaders where
  runMatchesCase : IngestionRun → Nat × SyncRow → CaseColumns → Bool
  matchesSourcePeriod : SyncRow → IngestionRun → NormalizedRow → Bool
  observe : ActivityKind → CaseColumns → SyncRow → IngestionRun → NormalizedRow →
    Option ObservationDraft
  fingerprint : ActivitySemantics → HexDigest
  sha256 : Text → HexDigest

variable (readers : ActivityReaders) (c : CaseColumns) (sources : ActivityRowSources)

/-- `sync_by_run`: a run's sync, the last one under its id. -/
def syncByRun : List (Nat × Nat × SyncRow) :=
  (sources.syncs.filterMap fun sync => sync.2.ingestionRunId.map fun runId => (runId, sync)).foldl
    (Groups.upsert fun _ sync => sync) []

/-- A run that matches the case and its sync. -/
def validRun (runId : Nat) (sync : Nat × SyncRow) : Option IngestionRun :=
  (sources.runs.lookup runId).filter fun run => readers.runMatchesCase run sync c

/-- `valid_runs`, with the syncs. -/
def validRuns : List (Nat × (Nat × SyncRow) × IngestionRun) :=
  (syncByRun sources).filterMap fun entry =>
    (validRun readers c sources entry.1 entry.2).map fun run => (entry.1, entry.2, run)

/-- The runs that failed the check, by the kinds their syncs requested. -/
def mismatchedRunKinds : List ActivityKind :=
  (syncByRun sources).flatMap fun entry =>
    if (validRun readers c sources entry.1 entry.2).isNone then
      activityKindsForSurfaces entry.2.2.requestedSurfaces
    else []

/-! ## Rows -/

/-- `_observation`. -/
def activityObservation (kind : ActivityKind) (sync : Nat × SyncRow) (row : ActivitySourceRow)
    (draft : ObservationDraft) : ActivityObservation :=
  let semantics : ActivitySemantics :=
    { draft.content with kind := kind, occurredAt := row.row.timestamp }
  { syncId := sync.1
    syncPublicId := sync.2.publicId
    rowId := row.id
    identity := draft.identity
    semanticFingerprint := readers.fingerprint semantics
    semantics
    origin := draft.origin
    limitations := draft.limitations }

/-- What one round of the loops makes of a row. -/
inductive RowPlace where
  | omitted
  | scopeMismatch
  | invalidProvenance
  | observed (observation : ActivityObservation)
deriving DecidableEq

def placeRow (kind : ActivityKind) (row : ActivitySourceRow) : RowPlace :=
  match (validRuns readers c sources).lookup row.runId with
  | none => .omitted
  | some (sync, run) =>
      if sync.2.requestedSurfaces.contains kind.surface = false then .scopeMismatch
      else if readers.matchesSourcePeriod sync.2 run row.row = false then .invalidProvenance
      else
        match readers.observe kind c sync.2 run row.row with
        | none => .invalidProvenance
        | some draft => .observed (activityObservation readers kind sync row draft)

/-- The places of all rows. -/
def places : List (ActivityKind × RowPlace) :=
  sources.allRows.map fun row => (row.1, placeRow readers c sources row.1 row.2)

/-- `observations`. -/
def activityObservations : List ActivityObservation :=
  (places readers c sources).filterMap fun
    | (_, .observed observation) => some observation
    | _ => none

/-! ## Groups -/

/-- `sorted(occurrences, key=lambda item: (item.sync_id, item.row_id))`. -/
def sortOccurrences (occurrences : List ActivityObservation) : List ActivityObservation :=
  KeySort.sortBy (fun a b => decide (a ≤ b))
    (fun o : ActivityObservation => toLex (o.syncId, o.rowId)) occurrences

/-- `groups`: the observations of each validated identity. -/
def identityGroupsOf (observations : List ActivityObservation) :
    List ((IdentityNamespace × Text) × List ActivityObservation) :=
  (observations.filterMap fun o => o.identity.map fun identity => (identity, o)).foldl
    (Groups.upsert fun group o => group.getD [] ++ [o]) []

/-- Observations of one identity that show the same. -/
def isAgreed (occurrences : List ActivityObservation) : Bool :=
  (occurrences.map (·.semanticFingerprint)).dedup.length = 1

/-- `distinct`. -/
def distinctOccurrences (observations : List ActivityObservation) :
    List (List ActivityObservation) :=
  ((observations.filter fun o => o.identity.isNone).map fun o => [o]) ++
    ((identityGroupsOf observations).map (·.2)).filter isAgreed

/-- `conflicted_groups`. -/
def conflictedGroups (observations : List ActivityObservation) :
    List (List ActivityObservation) :=
  (((identityGroupsOf observations).map (·.2)).filter fun group => !isAgreed group).map
    sortOccurrences

/-! ## Public ids -/

/-- `identity` of `_activity_public_id`. -/
def identityText (o : ActivityObservation) : Text :=
  let unavailable := "unavailable|".toList ++ o.syncPublicId.text ++ '|' ::
    (o.semantics.kind.text ++ '|' :: Nat.toDigits 10 o.rowId)
  match o.identity with
  | some (namespace_, key) =>
      if key ≠ [] then namespace_.text ++ '|' :: key else unavailable
  | none => unavailable

/-- `seed` of `_activity_public_id`. -/
def activitySeed (o : ActivityObservation) : Text :=
  "case_activity_v1|".toList ++ c.publicId.text ++ '|' :: identityText o

/-- `_activity_public_id`. -/
def activityPublicId (o : ActivityObservation) : Text :=
  ['a', 'c', 't', '_'] ++ (readers.sha256 (activitySeed c o)).text

/-- The item of a group of observations, sorted, by its last one. -/
def activityItem (ordered : List ActivityObservation) : Option ActivityItem :=
  match ordered.head?, ordered.getLast? with
  | some first, some winner => some
      { winner.semantics with
        publicId := activityPublicId readers c winner
        origin := winner.origin
        observationCount := ordered.length
        suppressedCount := ordered.length - 1
        firstSeenSyncPublicId := first.syncPublicId
        lastSeenSyncPublicId := winner.syncPublicId
        limitations := winner.limitations }
  | _, _ => none

/-- `_BuiltActivity`. -/
structure BuiltActivity where
  items : List ActivityItem
  observationsByPublicId : List (Text × List ActivityObservation)
  validSyncKinds : List (List ActivityKind)
  scopeMismatchKinds : List ActivityKind
  invalidProvenanceKinds : List ActivityKind
  conflictedGroups : List (List ActivityObservation)

/-- `_build_activity`. -/
def buildActivity : BuiltActivity :=
  let observations := activityObservations readers c sources
  let ordered := (distinctOccurrences observations).map sortOccurrences
  { items := ordered.filterMap (activityItem readers c)
    observationsByPublicId := ordered.filterMap fun occurrences =>
      (activityItem readers c occurrences).map fun item => (item.publicId, occurrences)
    validSyncKinds := (validRuns readers c sources).map fun entry =>
      activityKindsForSurfaces entry.2.1.2.requestedSurfaces
    scopeMismatchKinds := mismatchedRunKinds readers c sources ++
      ((places readers c sources).filter (·.2 = .scopeMismatch)).map (·.1)
    invalidProvenanceKinds :=
      ((places readers c sources).filter (·.2 = .invalidProvenance)).map (·.1)
    conflictedGroups := TonTracker.conflictedGroups observations }

end TonTracker
