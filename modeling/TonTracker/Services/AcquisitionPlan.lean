/-
# `Services.AcquisitionPlan` — the plan a sync row stores, and its reader

What `enqueue_sync` and `enqueue_checkpoint_resume` write under
`acquisition_plan` in the coverage of the row they commit, and
`_sync_acquisition_plan`, which validates that object again every time
the row is read (`services/wallet_cases.py`).  A plan is typed here and
stored as the JSON object the source builds (`toDict`); the reader works
on the JSON.
-/
import TonTracker.Services.AcquisitionBounds
import TonTracker.Services.StreamCheckpoints

namespace TonTracker

/-! ## The ids a plan names -/

/-- `str(uuid4())`. -/
structure Uuid where
  text : Text
  length : text.length = 36
deriving DecidableEq

/-- The lowercase hexadecimal digits. -/
def isLowerHexDigit (c : Char) : Bool := FixedDigits.isDigit c || ('a' ≤ c && c ≤ 'f')

/-- `sha256(…).hexdigest()`. -/
structure HexDigest where
  text : Text
  length : text.length = 64
  hex : text.all isLowerHexDigit = true
deriving DecidableEq

/-- How the ids of rows and of content-addressed documents are written. -/
structure IdTexts (P D : Type) where
  uuid : P → Uuid
  hexdigest : D → HexDigest

variable {P D : Type}

def StreamKey.text : StreamKey → Text
  | .transactions => "transactions".toList
  | .accountEvents => "account_events".toList

/-! ## Plans -/

/-- What a resume was authorised by. -/
inductive ResumeAuthority (D : Type) where
  | direct
  | plan (continuationPlan : D) (pageBudget : PageBudget)
  | schedule (continuationPlan : D) (pageBudget : PageBudget)
      (backfillSchedule backfillProgress checkpointCutoff : D)
deriving DecidableEq

def ResumeAuthority.pageBudget : ResumeAuthority D → Option PageBudget
  | .direct => none
  | .plan _ budget => some budget
  | .schedule _ budget _ _ _ => some budget

/-- The continuation a resume plan copies from its checkpoint. -/
structure ResumePlan (P D : Type) where
  baseSnapshot : P
  sourceCheckpoint : D
  streamKey : StreamKey
  cursor : Text
  pageIndex : Nat
  authority : ResumeAuthority D
deriving DecidableEq

inductive PlanMode (P D : Type) where
  | bounded
  | incremental (overlapSeconds : Nat) (baseSnapshot : P)
  | resume (plan : ResumePlan P D)
deriving DecidableEq

/-- An acquisition plan. -/
structure AcquisitionPlan (P D : Type) where
  startAt : Text
  endAt : Text
  mode : PlanMode P D
deriving DecidableEq

/-- `f"{prefix}_{digest}"`. -/
def IdTexts.contentId (texts : IdTexts P D) (tag : String) (id : D) : Json :=
  .str (tag.toList ++ (texts.hexdigest id).text)

/-- The keys a resume adds to the version-1 plan. -/
def ResumePlan.fields (texts : IdTexts P D) (plan : ResumePlan P D) : List (String × Json) :=
  [("source_checkpoint_public_id", texts.contentId "scp_" plan.sourceCheckpoint),
    ("resume_stream_key", .str plan.streamKey.text),
    ("resume_cursor", .str plan.cursor),
    ("resume_page_index", .int plan.pageIndex)] ++
  match plan.authority with
  | .direct => []
  | .plan continuationPlan budget =>
      [("continuation_plan_public_id", texts.contentId "cpl_" continuationPlan),
        ("resume_page_budget", .int budget.val)]
  | .schedule continuationPlan budget schedule progress cutoff =>
      [("continuation_plan_public_id", texts.contentId "cpl_" continuationPlan),
        ("resume_page_budget", .int budget.val),
        ("backfill_schedule_public_id", texts.contentId "bfs_" schedule),
        ("backfill_progress_public_id", texts.contentId "bfp_" progress),
        ("backfill_checkpoint_cutoff_public_id", texts.contentId "scp_" cutoff)]

/-- `acquisition_plan["version"]`. -/
def AcquisitionPlan.version (plan : AcquisitionPlan P D) : Nat :=
  match plan.mode with
  | .bounded => 1
  | .incremental _ _ => 1
  | .resume r =>
      match r.authority with
      | .direct => 2
      | .plan _ _ => 4
      | .schedule _ _ _ _ _ => 6

/-- The `acquisition_plan` object the enqueue functions store. -/
def AcquisitionPlan.toDict (texts : IdTexts P D) (plan : AcquisitionPlan P D) :
    List (String × Json) :=
  [("version", .int plan.version),
    ("mode", .str
      (match plan.mode with
      | .bounded => "bounded".toList
      | .incremental _ _ => "incremental".toList
      | .resume _ => "resume".toList)),
    ("start_at", .str plan.startAt),
    ("end_at", .str plan.endAt),
    ("overlap_seconds", .int
      (match plan.mode with
      | .incremental overlapSeconds _ => overlapSeconds
      | _ => 0)),
    ("base_snapshot_public_id",
      match plan.mode with
      | .bounded => .null
      | .incremental _ base => .str (texts.uuid base).text
      | .resume r => .str (texts.uuid r.baseSnapshot).text)] ++
  match plan.mode with
  | .resume r => r.fields texts
  | _ => []

/-! ## Reading a stored plan -/

/-- The columns of a sync row that `_sync_acquisition_plan` reads. -/
structure StoredPlan where
  requestedStart : Instant
  requestedEnd : Instant
  /-- `_json_object(coverage_summary_json).get("acquisition_plan")`. -/
  acquisitionPlan : Json

/-- `ValueError("Stored Wallet Case acquisition plan is invalid.")`, or an
`OverflowError` that escapes. -/
inductive StoredPlanError where
  | invalid
  | overflowError
deriving DecidableEq, Repr

def versionOneKeys : List String :=
  ["version", "mode", "start_at", "end_at", "overlap_seconds", "base_snapshot_public_id"]

def versionTwoKeys : List String :=
  versionOneKeys ++ ["source_checkpoint_public_id", "resume_stream_key", "resume_cursor",
    "resume_page_index"]

def versionThreeKeys : List String := versionTwoKeys ++ ["continuation_plan_public_id"]

def versionFourKeys : List String := versionThreeKeys ++ ["resume_page_budget"]

def versionFiveKeys : List String := versionFourKeys ++ ["backfill_schedule_public_id"]

def versionSixKeys : List String :=
  versionFiveKeys ++ ["backfill_progress_public_id", "backfill_checkpoint_cutoff_public_id"]

/-- `expected_keys_by_version`, by a version from 1 through 6. -/
def expectedKeys : Nat → List String
  | 1 => versionOneKeys
  | 2 => versionTwoKeys
  | 3 => versionThreeKeys
  | 4 => versionFourKeys
  | 5 => versionFiveKeys
  | _ => versionSixKeys

/-- A stored version, when it is one of the six; `True` counts as 1. -/
def planVersion : Json → Option Nat
  | .int i => if 1 ≤ i ∧ i ≤ 6 then some i.toNat else none
  | .bool true => some 1
  | _ => none

/-- `frozenset(stored) == expected`. -/
def hasKeys (expected : List String) (stored : List (String × Json)) : Bool :=
  (stored.all fun field => expected.contains field.1) &&
    expected.all fun key => stored.any fun field => field.1 == key

/-- A 68-character id: the prefix and 64 lowercase hexadecimal digits. -/
def isContentId (tag : String) : Json → Bool
  | .str s => s.length == 68 && tag.toList.isPrefixOf s && (s.drop 4).all isLowerHexDigit
  | _ => false

/-- A 36-character id. -/
def isUuidText : Json → Bool
  | .str s => s.length == 36
  | _ => false

def isIntBetween (low high : Int) : Json → Bool
  | .int i => low ≤ i && i ≤ high
  | _ => false

/-- `_strict_logical_time(value) is not None`, which only reads texts. -/
def isLogicalTimeText : Json → Bool
  | .str s => (strictLogicalTime (.str s)).isSome
  | _ => false

def isText (expected : String) : Json → Bool
  | .str s => s == expected.toList
  | _ => false

/-- `mode in {"bounded", "incremental", "resume"}`. -/
def isPlanMode (mode : Json) : Bool :=
  isText "bounded" mode || isText "incremental" mode || isText "resume" mode

/-- The checks of a resume plan, by its version. -/
def resumeFieldsValid (version : Nat) (overlapSeconds : Int) (stored : List (String × Json)) :
    Bool :=
  let field := Json.get stored
  2 ≤ version &&
    isUuidText (field "base_snapshot_public_id") &&
    isContentId "scp_" (field "source_checkpoint_public_id") &&
    (isText "transactions" (field "resume_stream_key") ||
      isText "account_events" (field "resume_stream_key")) &&
    isLogicalTimeText (field "resume_cursor") &&
    (match field "resume_page_index" with
      | .int i => decide (1 ≤ i)
      | _ => false) &&
    overlapSeconds == 0 &&
    (version < 3 || isContentId "cpl_" (field "continuation_plan_public_id")) &&
    (version < 4 || isIntBetween 1 10 (field "resume_page_budget")) &&
    (version < 5 || isContentId "bfs_" (field "backfill_schedule_public_id")) &&
    (version != 6 ||
      (isContentId "bfp_" (field "backfill_progress_public_id") &&
        isContentId "scp_" (field "backfill_checkpoint_cutoff_public_id")))

/-- The checks that depend on the mode. -/
def modeValid (version : Nat) (startAt requestedStart : Text) (overlapSeconds : Int)
    (stored : List (String × Json)) : Bool :=
  let base := Json.get stored "base_snapshot_public_id"
  if isText "bounded" (Json.get stored "mode") then
    version == 1 && startAt == requestedStart && overlapSeconds == 0 &&
      (match base with
        | .null => true
        | _ => false)
  else if isText "incremental" (Json.get stored "mode") then version == 1 && isUuidText base
  else resumeFieldsValid version overlapSeconds stored

/-- A timestamp of the plan, canonicalized: only a `ValueError` is caught. -/
def canonicalPlanTimestamp (text : Text) : Except StoredPlanError Text :=
  match canonicalRequestTimestamp text with
  | .ok canonical => .ok canonical
  | .error .valueError => .error .invalid
  | .error .overflowError => .error .overflowError

/-- The plan of a row that stores none. -/
def defaultPlan (row : StoredPlan) : List (String × Json) :=
  [("version", .int 1), ("mode", .str "bounded".toList),
    ("start_at", .str row.requestedStart.isoformat), ("end_at", .str row.requestedEnd.isoformat),
    ("overlap_seconds", .int 0), ("base_snapshot_public_id", .null)]

/-- `_sync_acquisition_plan` on an object whose version is known.  The
comparisons of the timestamps are comparisons of texts. -/
def checkedPlan (row : StoredPlan) (version : Nat) (stored : List (String × Json)) :
    Except StoredPlanError (List (String × Json)) :=
  match Json.get stored "start_at", Json.get stored "end_at",
      Json.get stored "overlap_seconds" with
  | .str startAt, .str endAt, .int overlapSeconds => do
      if !isPlanMode (Json.get stored "mode") ∨ overlapSeconds < 0 ∨ 86400 < overlapSeconds then
        throw .invalid
      let canonicalStart ← canonicalPlanTimestamp startAt
      let canonicalEnd ← canonicalPlanTimestamp endAt
      let requestedStart := row.requestedStart.isoformat
      let requestedEnd := row.requestedEnd.isoformat
      if canonicalStart ≠ startAt ∨ canonicalEnd ≠ endAt ∨ ¬ canonicalStart < canonicalEnd ∨
          endAt ≠ requestedEnd ∨ canonicalStart < requestedStart then throw .invalid
      if modeValid version startAt requestedStart overlapSeconds stored then return stored
      throw .invalid
  | _, _, _ => throw .invalid

/-- `_sync_acquisition_plan`. -/
def syncAcquisitionPlan (row : StoredPlan) : Except StoredPlanError (List (String × Json)) :=
  match row.acquisitionPlan with
  | .null => .ok (defaultPlan row)
  | .obj stored =>
      match planVersion (Json.get stored "version") with
      | some version =>
          if hasKeys (expectedKeys version) stored then checkedPlan row version stored
          else .error .invalid
      | none => .error .invalid
  | _ => .error .invalid

/-- The text a plan stores under a key. -/
def planText (plan : List (String × Json)) (key : String) : Option Text :=
  match Json.get plan key with
  | .str s => some s
  | _ => none

/-- `_parse_plan_instant` of a text of the plan. -/
def planInstant (plan : List (String × Json)) (key : String) : Except StoredPlanError Instant :=
  match (planText plan key).map parseCanonicalTimestamp with
  | some (.ok t) => .ok t
  | some (.error .overflowError) => .error .overflowError
  | _ => .error .invalid

/-- The acquisition interval of a claimed row (`ClaimedCaseSync`). -/
def claimedInterval (row : StoredPlan) : Except StoredPlanError (Instant × Instant) := do
  let plan ← syncAcquisitionPlan row
  let start ← planInstant plan "start_at"
  let stop ← planInstant plan "end_at"
  return (start, stop)

end TonTracker
