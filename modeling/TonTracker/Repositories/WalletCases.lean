/-
# `Repositories.WalletCases` — the queries of the services

`repositories/wallet_cases.py`, with the lookups the services and the
worker write inline.  A query is a function of the store at one moment.
-/
import TonTracker.Models

namespace TonTracker.Store

open Relational (Table)

variable (s : Store)

/-! ## Cases and syncs -/

/-- `get_by_public_id`. -/
def caseByPublicId? (owner : Text) (publicId : Uuid) : Option (Nat × CaseRow) :=
  s.cases.find? fun _ c => c.ownerScopeId = owner && c.publicId = publicId && c.archivedAt.isNone

/-- `get_any_by_public_id`. -/
def anyCaseByPublicId? (owner : Text) (publicId : Uuid) : Option (Nat × CaseRow) :=
  s.cases.find? fun _ c => c.ownerScopeId = owner && c.publicId = publicId

/-- `get_by_identity`. -/
def caseByIdentity? (owner : Text) (network : Network) (dataEnvironment : DataEnvironment)
    (canonicalWalletKey : Text) : Option (Nat × CaseRow) :=
  s.cases.find? fun _ c => c.ownerScopeId = owner && c.scope.network = network &&
    c.scope.dataEnvironment = dataEnvironment && c.scope.canonicalWalletKey = canonicalWalletKey

/-- `get_by_idempotency_key`. -/
def syncByIdempotencyKey? (caseId : Nat) (key : Text) : Option (Nat × SyncRow) :=
  s.syncs.find? fun _ r => r.caseId = caseId && r.idempotencyKey = key

/-- `get_active_sync`. -/
def activeSync? (caseId : Nat) : Option (Nat × SyncRow) :=
  s.syncs.find? fun _ r => r.caseId = caseId && r.state.active

/-- `get_sync`. -/
def sync? (caseId : Nat) (publicId : Uuid) : Option (Nat × SyncRow) :=
  s.syncs.find? fun _ r => r.caseId = caseId && r.publicId = publicId

/-- `latest_usable_syncs`, of one case. -/
def latestUsableSync? (caseId : Nat) : Option (Nat × SyncRow) :=
  s.syncs.latest? fun _ r => r.caseId = caseId && r.state.usable

/-- `source_sync.acquisition_manifest`. -/
def manifestForSync? (syncId : Nat) : Option ManifestRow :=
  (s.manifests.find? fun _ m => m.caseSyncId = syncId).map (·.2)

/-- Whether the case has a queued or running sync. -/
def hasActiveSync (caseId : Nat) : Bool := (s.activeSync? caseId).isSome

/-- `get_active_evidence_verification`. -/
def activeEvidence? (caseId : Nat) : Option (Nat × EvidenceRow) :=
  s.evidence.find? fun _ e => e.caseId = caseId && e.state.active

def hasActiveEvidence (caseId : Nat) : Bool := (s.activeEvidence? caseId).isSome

/-! ## Checkpoints -/

/-- `get_stream_checkpoint`. -/
def streamCheckpoint? (caseId : Nat) (publicId : HexDigest) : Option (Nat × CheckpointRow) :=
  s.checkpoints.find? fun _ c => c.caseId = caseId && c.publicId = publicId

/-- The streams, in the order of their keys. -/
def streamKeys : List StreamKey := [.accountEvents, .transactions]

/-- The newest revision of a stream, up to a cutoff. -/
def streamTip? (caseId : Nat) (cutoff : Option Nat) (key : StreamKey) :
    Option (Nat × CheckpointRow) :=
  s.checkpoints.latest? fun id c =>
    c.caseId = caseId && c.streamKey = key && cutoff.all fun bound => id ≤ bound

/-- `latest_stream_checkpoints_at_cutoff`. -/
def latestStreamCheckpointsAtCutoff (caseId : Nat) (cutoff : Option Nat) :
    List (Nat × CheckpointRow) :=
  streamKeys.filterMap (s.streamTip? caseId cutoff)

/-- `latest_stream_checkpoints`. -/
def latestStreamCheckpoints (caseId : Nat) : List (Nat × CheckpointRow) :=
  s.latestStreamCheckpointsAtCutoff caseId none

/-- `stream_checkpoints_for_sync`. -/
def streamCheckpointsForSync (caseId sourceSyncId : Nat) : List (Nat × CheckpointRow) :=
  streamKeys.flatMap fun key => s.checkpoints.select fun _ c =>
    c.caseId = caseId && c.sourceSyncId = sourceSyncId && c.streamKey = key

/-- `latest_stream_checkpoint`. -/
def latestStreamCheckpoint? (caseId : Nat) : Option (Nat × CheckpointRow) :=
  s.checkpoints.latest? fun _ c => c.caseId = caseId

/-- `stream_checkpoint_history`. -/
def streamCheckpointHistory (caseId cutoff : Nat) (after : Option Nat) (limit : Nat) :
    List (Nat × CheckpointRow) :=
  (s.checkpoints.select fun id c => c.caseId = caseId && decide (id ≤ cutoff) &&
    after.all fun bound => id < bound).reverse.take limit

/-- `count_stream_checkpoint_history`. -/
def countStreamCheckpointHistory (caseId cutoff : Nat) : Nat :=
  s.checkpoints.rowcount fun id c => c.caseId = caseId && decide (id ≤ cutoff)

end TonTracker.Store
