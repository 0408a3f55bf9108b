/-
# `Services.ActivityPages` — the pages of the activity view

`_matches`, `_ordered` and `_page` (`services/wallet_case_activity.py`), with
what `list_activity` checks of a request and its cursor before it reads the
snapshot.  The items of a snapshot are an argument, so are the digest of a
filter record and what the cursor codec takes from the standard library.
-/
import TonTracker.Services.ActivityItems
import TonTracker.Services.OpaqueCursors
import Mathlib.Data.Char
import Mathlib.Data.List.Lex

namespace TonTracker

/-! ## Filters -/

def ActivityDirection.text : ActivityDirection → Text
  | .incoming => "incoming".toList
  | .outgoing => "outgoing".toList
  | .unknown => "unknown".toList

def ActivityOutcome.text : ActivityOutcome → Text
  | .success => "success".toList
  | .failed => "failed".toList
  | .unknown => "unknown".toList

def ActivityOrigin.text : ActivityOrigin → Text
  | .demoFixture => "demo_fixture".toList
  | .providerObserved => "provider_observed".toList

/-- The filters of a normalized `WalletCaseActivityQuery`; an empty list of
choices filters nothing. -/
structure ActivityFilters where
  kinds : List ActivityKind
  directions : List ActivityDirection
  outcomes : List ActivityOutcome
  period : Interval
  assetId : Option Text
  protocolId : Option Text
  counterparty : Option Text
  dataOrigins : List ActivityOrigin

/-- `not choices or value in choices`. -/
def admits {α : Type} [DecidableEq α] (choices : List α) (value : Option α) : Bool :=
  choices.isEmpty || value.any (choices.contains ·)

/-- `_matches`. -/
def matchesFilters (item : ActivityItem) (filters : ActivityFilters) : Bool :=
  admits filters.kinds (some item.kind) &&
    admits filters.directions item.direction &&
    admits filters.outcomes item.outcome &&
    filters.period.all (fun bounds =>
      item.occurredAt.any fun occurred => bounds.1 ≤ occurred && occurred < bounds.2) &&
    filters.assetId.all (fun assetId =>
      item.assets.any fun asset => asset.assetId = some assetId) &&
    filters.protocolId.all (fun protocolId =>
      item.protocol.any fun protocol => protocol.id = some protocolId) &&
    filters.counterparty.all (fun counterparty =>
      item.counterparty.any fun party => party.canonicalAddress = some counterparty) &&
    admits filters.dataOrigins (some item.origin.dataOrigin)

/-- `_filter_record`, by its keys. -/
def filterRecord (filters : ActivityFilters) (sort : ActivitySort) : CursorDocument :=
  [("asset_id", textOrNull filters.assetId), ("counterparty", textOrNull filters.counterparty),
    ("data_origins", .arr (filters.dataOrigins.map fun origin => .str origin.text)),
    ("directions", .arr (filters.directions.map fun direction => .str direction.text)),
    ("from_at", textOrNull (filters.period.map (·.1.isoformat))),
    ("kinds", .arr (filters.kinds.map fun kind => .str kind.text)),
    ("outcomes", .arr (filters.outcomes.map fun outcome => .str outcome.text)),
    ("protocol_id", textOrNull filters.protocolId), ("sort", .str sort.text),
    ("to_at", textOrNull (filters.period.map (·.2.isoformat)))]

/-! ## Order -/

/-- `str(lt)`. -/
def PublicLogicalTime.text (time : PublicLogicalTime) : Text := Nat.toDigits 10 time.value

/-- `_unknown_sort_key`. -/
def unknownSortKey (item : ActivityItem) : Nat ×ₗ Text ×ₗ Text :=
  let logicalTime := (item.logicalTime.map (·.text)).getD []
  toLex (logicalTime.length, toLex (logicalTime, item.publicId))

/-- `_known_sort_key`, of an item with a time. -/
def knownSortKey (item : ActivityItem) : Nat ×ₗ Nat ×ₗ Text ×ₗ Text :=
  toLex ((item.occurredAt.map (·.micros)).getD 0, unknownSortKey item)

/-- The order of a sort by some key: `reverse` for the newest first. -/
def ActivitySort.le {κ : Type} [LinearOrder κ] (sort : ActivitySort) (a b : κ) : Bool :=
  match sort with
  | .newest => decide (b ≤ a)
  | .oldest => decide (a ≤ b)

/-- `_ordered`. -/
def orderedItems (items : List ActivityItem) (sort : ActivitySort) : List ActivityItem :=
  KeySort.sortBy sort.le knownSortKey (items.filter fun item => item.occurredAt.isSome) ++
    KeySort.sortBy sort.le unknownSortKey (items.filter fun item => item.occurredAt.isNone)

/-! ## Pages -/

/-- A normalized query, with the page asked for. -/
structure ActivityPageQuery where
  snapshotPublicId : Option Text
  filters : ActivityFilters
  sort : ActivitySort
  limit : Nat
  cursor : Option Text

inductive ActivityPageRaised where
  | invalidQuery (message : String)
  | invalidCursor (message : String)
  | typeError
  | valueError
deriving DecidableEq

def CursorRaised.activity : CursorRaised → ActivityPageRaised
  | .invalidCursor message => .invalidCursor message
  | .typeError => .typeError
  | .valueError => .valueError

/-- A `str` that is the text. -/
def isTextValue (text : Text) : Json → Bool
  | .str found => found = text
  | _ => false

/-- `value == text_or_none`, for a JSON value. -/
def isTextOrNullValue (text : Option Text) : Json → Bool
  | .str found => text = some found
  | .null => text = none
  | _ => false

/-- `_cursor_position`. -/
def cursorPosition (item : ActivityItem) : CursorPosition where
  occurredAt := item.occurredAt.map (·.isoformat)
  logicalTime := item.logicalTime.map (·.text)
  publicId := item.publicId

/-- `_cursor_position(item) == after`. -/
def isPositionOf (item : ActivityItem) (after : CursorDocument) : Bool :=
  let position := cursorPosition item
  hasCursorKeys ["occurred_at", "logical_time", "public_id"] after &&
    isTextOrNullValue position.occurredAt (Json.get after "occurred_at") &&
    isTextOrNullValue position.logicalTime (Json.get after "logical_time") &&
    isTextValue position.publicId (Json.get after "public_id")

section Page

variable (lib : CursorLibrary) (sha256 : CursorDocument → HexDigest)
  (casePublicId snapshotPublicId : Text) (query : ActivityPageQuery)

/-- `_filter_sha256`. -/
def filterSha256 (filters : ActivityFilters) (sort : ActivitySort) : HexDigest :=
  sha256 (filterRecord filters sort)

/-- Where the page behind a cursor starts. -/
def startAfter (ordered : List ActivityItem) (document : CursorDocument) :
    Except ActivityPageRaised Nat :=
  if isTextValue casePublicId (Json.get document "case") &&
      isTextValue snapshotPublicId (Json.get document "snapshot") &&
      isTextValue (filterSha256 sha256 query.filters query.sort).text
        (Json.get document "filter_sha256") &&
      isTextValue query.sort.text (Json.get document "sort") then
    match Json.get document "after" with
    | .obj after =>
        match ordered.findIdx? fun item => isPositionOf item after with
        | some position => .ok (position + 1)
        | none => .error
            (.invalidCursor "Activity cursor position is no longer present in this snapshot.")
    | _ => .error (.invalidCursor "Activity cursor position is invalid.")
  else .error (.invalidCursor "Activity cursor does not match this case, snapshot, or filter.")

/-- The document of the cursor behind an item. -/
def nextDocument (filters : ActivityFilters) (sort : ActivitySort) (last : ActivityItem) :
    CursorDocument :=
  [("after", .obj (cursorPosition last).document), ("case", .str casePublicId),
    ("filter_sha256", .str (filterSha256 sha256 filters sort).text),
    ("snapshot", .str snapshotPublicId), ("sort", .str sort.text), ("v", .int 1)]

/-- `start` of `_page`. -/
def pageStart (ordered : List ActivityItem) : Except ActivityPageRaised Nat :=
  match query.cursor with
  | none => .ok 0
  | some cursor =>
      match lib.decodeActivityCursor cursor with
      | .error raised => .error raised.activity
      | .ok document => startAfter sha256 casePublicId snapshotPublicId query ordered document

/-- The items from a start on, and the cursor behind them. -/
def pageFrom (ordered : List ActivityItem) (start : Nat) :
    Except ActivityPageRaised (List ActivityItem × Option Text) :=
  let values := (ordered.drop start).take query.limit
  if start + values.length < ordered.length then
    match values.getLast? with
    | none => .ok (values, none)
    | some last =>
        match lib.encodeCursor .activity
            (nextDocument sha256 casePublicId snapshotPublicId query.filters query.sort last) with
        | some cursor => .ok (values, some cursor)
        | none => .error .valueError
  else .ok (values, none)

/-- `_page`. -/
def activityPage (ordered : List ActivityItem) :
    Except ActivityPageRaised (List ActivityItem × Option Text) := do
  let start ← pageStart lib sha256 casePublicId snapshotPublicId query ordered
  pageFrom lib sha256 casePublicId snapshotPublicId query ordered start

/-- The snapshot a request names, by itself or by its cursor. -/
def requestedSnapshot : Except ActivityPageRaised (Option Text) :=
  match query.cursor with
  | none => .ok query.snapshotPublicId
  | some cursor =>
      match lib.decodeActivityCursor cursor with
      | .error raised => .error raised.activity
      | .ok document =>
          if isTextValue casePublicId (Json.get document "case") = false then
            .error (.invalidCursor "Activity cursor belongs to another Wallet Case.")
          else
            match query.snapshotPublicId, Json.get document "snapshot" with
            | none, .str snapshot => .ok (some snapshot)
            | none, _ => .error .typeError
            | some requested, snapshot =>
                if isTextValue requested snapshot then .ok (some requested)
                else .error (.invalidCursor "Activity cursor belongs to another snapshot.")

/-- What `normalize_activity_query` checks of the page asked for. -/
def checkPage : Except ActivityPageRaised Unit :=
  if 1 ≤ query.limit ∧ query.limit ≤ 100 then
    if query.cursor.any fun cursor => 1024 < cursor.length then
      .error (.invalidCursor "Activity cursor is too long.")
    else .ok ()
  else .error (.invalidQuery "limit must be from 1 through 100.")

/-- The filtered items of a snapshot, in the order of the sort. -/
def activityList (items : List ActivityItem) (filters : ActivityFilters) (sort : ActivitySort) :
    List ActivityItem :=
  orderedItems (items.filter (matchesFilters · filters)) sort

/-- `list_activity` over the items of the snapshots, where the latest one is
read if none is named. -/
def listActivity (items : Text → List ActivityItem) (latest : Text) :
    Except ActivityPageRaised (List ActivityItem × Option Text) := do
  let requested ← requestedSnapshot lib casePublicId query
  checkPage query
  let snapshot := requested.getD latest
  activityPage lib sha256 casePublicId snapshot query
    (activityList (items snapshot) query.filters query.sort)

end Page

/-! ## Following the cursor -/

/-- One request of a reader: how much it asks for, and which snapshot is the
latest by then. -/
structure ActivityRequest where
  limit : Nat
  latest : Text

/-- The pages of requests that follow the cursor while there is one, and the
cursor they end with. -/
def followActivity (lib : CursorLibrary) (sha256 : CursorDocument → HexDigest)
    (casePublicId : Text) (items : Text → List ActivityItem) (query : ActivityPageQuery) :
    List ActivityRequest →
      Except ActivityPageRaised (List (List ActivityItem) × Option Text)
  | [] => .ok ([], query.cursor)
  | request :: requests => do
      let (page, next) ← listActivity lib sha256 casePublicId
        { query with limit := request.limit } items request.latest
      match next with
      | none => return ([page], none)
      | some cursor =>
          let (pages, left) ← followActivity lib sha256 casePublicId items
            { query with cursor := some cursor } requests
          return (page :: pages, left)

end TonTracker
