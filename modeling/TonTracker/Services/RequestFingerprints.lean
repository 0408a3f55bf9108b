/-
# `Services.RequestFingerprints` — what the fingerprint of a request is taken of

`_sync_request_fingerprint` and `_checkpoint_resume_fingerprint`
(`services/wallet_cases.py`) write a document in canonical JSON and hash its
octets.  The members stand in the order in which `sort_keys` writes them.
-/
import TonTracker.Services.OpaqueCursors

namespace TonTracker

open Base64 (Octet)

/-! ## Syncs -/

def SyncMode.text : SyncMode → String
  | .bounded => "bounded"
  | .incremental => "incremental"

def TimeWindow.text : TimeWindow → String
  | .day => "24h"
  | .threeDays => "3d"
  | .week => "7d"
  | .custom => "custom"

def Surface.text : Surface → String
  | .transfers => "transfers"
  | .transactions => "transactions"
  | .swaps => "swaps"
  | .balances => "balances"
  | .jettons => "jettons"

/-- The document of `_sync_request_fingerprint`. -/
def syncFingerprintDocument (mode : SyncMode) (timeWindow : TimeWindow)
    (customStart customEnd : Option Text) (surfaces : List Surface) : CursorDocument :=
  [("contract", .str "wallet_case_sync_request_v2".toList),
    ("custom_end", textOrNull customEnd),
    ("custom_start", textOrNull customStart),
    ("mode", .str mode.text.toList),
    ("surfaces", .arr (surfaces.map fun surface => .str surface.text.toList)),
    ("time_window", .str timeWindow.text.toList)]

/-! ## Continuations -/

/-- The arguments of `_checkpoint_resume_fingerprint`. -/
structure ResumeArguments where
  checkpoint : HexDigest
  continuationPlan : Option HexDigest
  pageBudget : Option PageBudget
  backfillSchedule : Option HexDigest
  backfillProgress : Option HexDigest
  checkpointCutoff : Option HexDigest
deriving DecidableEq

/-- An id, or `None`. -/
def idOrNull (tag : String) : Option HexDigest → Json
  | some id => plainTexts.contentId tag id
  | none => .null

/-- A page budget, or `None`. -/
def budgetOrNull : Option PageBudget → Json
  | some budget => .int budget.val
  | none => .null

/-- The document of `_checkpoint_resume_fingerprint`. -/
def ResumeArguments.document (a : ResumeArguments) : CursorDocument :=
  match a.backfillSchedule with
  | some schedule =>
      if a.backfillProgress.isSome || a.checkpointCutoff.isSome then
        [("backfill_checkpoint_cutoff_public_id", idOrNull "scp_" a.checkpointCutoff),
          ("backfill_progress_public_id", idOrNull "bfp_" a.backfillProgress),
          ("backfill_schedule_public_id", plainTexts.contentId "bfs_" schedule),
          ("checkpoint_public_id", plainTexts.contentId "scp_" a.checkpoint),
          ("continuation_plan_public_id", idOrNull "cpl_" a.continuationPlan),
          ("contract", .str "wallet_case_backfill_schedule_run_request_v2".toList),
          ("page_budget", budgetOrNull a.pageBudget)]
      else
        [("backfill_schedule_public_id", plainTexts.contentId "bfs_" schedule),
          ("checkpoint_public_id", plainTexts.contentId "scp_" a.checkpoint),
          ("continuation_plan_public_id", idOrNull "cpl_" a.continuationPlan),
          ("contract", .str "wallet_case_backfill_schedule_run_request_v1".toList),
          ("page_budget", budgetOrNull a.pageBudget)]
  | none =>
      match a.continuationPlan with
      | some plan =>
          match a.pageBudget with
          | none =>
              [("checkpoint_public_id", plainTexts.contentId "scp_" a.checkpoint),
                ("continuation_plan_public_id", plainTexts.contentId "cpl_" plan),
                ("contract", .str "wallet_case_checkpoint_plan_resume_request_v1".toList)]
          | some budget =>
              [("checkpoint_public_id", plainTexts.contentId "scp_" a.checkpoint),
                ("continuation_plan_public_id", plainTexts.contentId "cpl_" plan),
                ("contract", .str "wallet_case_checkpoint_plan_resume_request_v2".toList),
                ("page_budget", .int budget.val)]
      | none =>
          [("checkpoint_public_id", plainTexts.contentId "scp_" a.checkpoint),
            ("contract", .str "wallet_case_checkpoint_resume_request_v1".toList)]

/-- The arguments `enqueue_checkpoint_resume` passes on. -/
def ResumeAuthority.arguments (checkpoint : HexDigest) :
    ResumeAuthority HexDigest → ResumeArguments
  | .direct => ⟨checkpoint, none, none, none, none, none⟩
  | .plan continuationPlan budget =>
      ⟨checkpoint, some continuationPlan, some budget, none, none, none⟩
  | .schedule continuationPlan budget backfillSchedule progress cutoff =>
      ⟨checkpoint, some continuationPlan, some budget, some backfillSchedule, some progress,
        some cutoff⟩

/-! ## Fingerprints -/

/-- What a request hashes. -/
def RequestDocument.members : RequestDocument → CursorDocument
  | .sync mode timeWindow customStart customEnd surfaces =>
      syncFingerprintDocument mode timeWindow customStart customEnd surfaces
  | .checkpointResume checkpoint authority => (authority.arguments checkpoint).document

/-- `json.dumps(document, …).encode("utf-8")`. -/
def canonicalOctets (lib : CursorLibrary) (document : CursorDocument) : Option (List Octet) :=
  (dumpedText lib true (.obj document)).map asciiOctets

/-- `hashlib.sha256(canonical).hexdigest()`. -/
def documentFingerprint (lib : CursorLibrary) (sha256 : List Octet → HexDigest)
    (document : CursorDocument) : Option HexDigest :=
  (canonicalOctets lib document).map sha256

end TonTracker
