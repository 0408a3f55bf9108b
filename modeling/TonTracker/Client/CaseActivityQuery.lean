/-
# `Client.CaseActivityQuery` — the view state of Activity in its URL

`parseCaseActivitySearch` and `caseActivitySearch`
(`frontend/src/caseActivityQuery.ts`).  Strings are texts of Unicode scalar
values; `length` counts UTF-16 units.  `URLSearchParams` is the list of its
fields, read from bytes as the standard says; the text of bytes that are no
UTF-8 is `replaced`.
-/
import TonTracker.Client.Rfc3339
import TonTracker.Lib.FormUrlencoded
import TonTracker.Services.ActivityItems
import TonTracker.Services.OpaqueCursors

namespace TonTracker

open FixedDigits
open ExceptFold (check)

/-! ## Strings -/

/-- `length`: characters beyond U+FFFF are two units. -/
def utf16Length (text : Text) : Nat :=
  (text.map fun c => if 0x10000 ≤ c.toNat then 2 else 1).sum

/-- White space and line terminators of JavaScript. -/
def isJsSpace (c : Char) : Bool :=
  (9 ≤ c.toNat && c.toNat ≤ 13) || c.toNat = 32 || c.toNat = 0xa0 || c.toNat = 0x1680 ||
    (0x2000 ≤ c.toNat && c.toNat ≤ 0x200a) || c.toNat = 0x2028 || c.toNat = 0x2029 ||
    c.toNat = 0x202f || c.toNat = 0x205f || c.toNat = 0x3000 || c.toNat = 0xfeff

/-- `trim`. -/
def jsTrim (text : Text) : Text := ((text.dropWhile isJsSpace).reverse.dropWhile isJsSpace).reverse

/-- A string that is truthy. -/
def truthyText : Option Text → Option Text
  | some [] => none
  | text => text

/-! ## `URLSearchParams` -/

abbrev SearchParams : Type := List (Text × Text)

namespace SearchParams

/-- `new URLSearchParams(text)`. -/
def ofText (replaced : List UInt8 → Text) : Text → SearchParams
  | '?' :: text => FormUrlencoded.parse replaced text
  | text => FormUrlencoded.parse replaced text

def getAll (params : SearchParams) (name : Text) : List Text :=
  (params.filter fun field => field.1 = name).map (·.2)

def append (params : SearchParams) (name value : Text) : SearchParams := params ++ [(name, value)]

/-- `set`: the first field of the name is kept in its place. -/
def set (params : SearchParams) (name value : Text) : SearchParams :=
  match params with
  | [] => [(name, value)]
  | field :: rest =>
      if field.1 = name then (name, value) :: rest.filter fun field => field.1 ≠ name
      else field :: set rest name value

end SearchParams

/-! ## The state -/

/-- `WalletCaseActivityFilters`. -/
structure ActivityViewFilters where
  kinds : List ActivityKind
  directions : List ActivityDirection
  outcomes : List ActivityOutcome
  fromAt : Option Text
  toAt : Option Text
  assetId : Option Text
  protocolId : Option Text
  counterparty : Option Text
  dataOrigins : List ActivityOrigin
  sort : ActivitySort
deriving DecidableEq

structure CaseActivityUrlState where
  snapshot : Option Text
  filters : ActivityViewFilters
  selectedActivityId : Option Text
deriving DecidableEq

def allowedKeys : List Text :=
  ["snapshot", "kind", "direction", "outcome", "from_at", "to_at", "asset_id", "protocol_id",
    "counterparty", "data_origin", "sort", "activity"].map (·.toList)

/-- A set of values, in its order, with their texts. -/
structure ValueSet (α : Type) where
  values : List α
  text : α → Text

def kindValues : ValueSet ActivityKind := ⟨[.transaction, .transfer, .swap], ActivityKind.text⟩

def directionValues : ValueSet ActivityDirection :=
  ⟨[.incoming, .outgoing, .unknown], fun
    | .incoming => "in".toList
    | .outgoing => "out".toList
    | .unknown => "unknown".toList⟩

def outcomeValues : ValueSet ActivityOutcome :=
  ⟨[.success, .failed, .unknown], fun
    | .success => "success".toList
    | .failed => "failed".toList
    | .unknown => "unknown".toList⟩

def originValues : ValueSet ActivityOrigin :=
  ⟨[.demoFixture, .providerObserved], fun
    | .demoFixture => "demo_fixture".toList
    | .providerObserved => "provider_observed".toList⟩

def activityProtocolIds : List Text :=
  ["dedust", "dedust_v3", "dedust_v3_memepad", "memeslab", "stonfi_v1", "stonfi_v2", "tonco",
    "tonfun"].map (·.toList)

/-- `[...allowed].filter((value) => values.includes(value))`. -/
def ValueSet.canonical {α : Type} [DecidableEq α] (allowed : ValueSet α) (values : List α) :
    List α :=
  allowed.values.filter (· ∈ values)

/-- `canonicalizeCaseActivityFilters`. -/
def canonicalizeFilters (filters : ActivityViewFilters) : ActivityViewFilters :=
  { filters with
    kinds := kindValues.canonical filters.kinds
    directions := directionValues.canonical filters.directions
    outcomes := outcomeValues.canonical filters.outcomes
    dataOrigins := originValues.canonical filters.dataOrigins }

/-! ## Patterns -/

/-- `UUID_V4`. -/
def isUuidV4 (value : Text) : Bool :=
  value.length = 36 && (value.zipIdx.all fun (c, i) =>
    if i = 8 ∨ i = 13 ∨ i = 18 ∨ i = 23 then c = '-'
    else if i = 14 then c = '4'
    else if i = 19 then c = '8' || c = '9' || c = 'a' || c = 'b'
    else isLowerHexDigit c)

/-- A prefix, then 64 hexadecimal digits: `ACTIVITY_ID` and `ASSET_ID`. -/
def isDigestId (start value : Text) : Bool :=
  start.isPrefixOf value && value.length = start.length + 64 &&
    (value.drop start.length).all isLowerHexDigit

def isActivityId : Text → Bool := isDigestId "act_".toList

def isAssetId : Text → Bool := isDigestId "asset_".toList

/-! ## Reading -/

/-- `one`. -/
def oneValue (params : SearchParams) (key : Text) : Except Text (Option Text) :=
  match params.getAll key with
  | [] => .ok none
  | [value] => .ok (some value)
  | _ => .error ("Activity query parameter ".toList ++ key ++ " cannot be repeated".toList)

/-- `repeated`. -/
def repeatedValues {α : Type} (params : SearchParams) (key : Text) (allowed : ValueSet α) :
    Except Text (List α) :=
  let values := params.getAll key
  if (∃ value ∈ values, value ∉ allowed.values.map allowed.text) ∨ ¬ values.Nodup then
    .error ("Activity query parameter ".toList ++ key ++ " is invalid".toList)
  else .ok (allowed.values.filter fun value => allowed.text value ∈ values)

/-- `instantNanoseconds`. -/
def instantNanoseconds (value : Text) (label : String) : Except Text ℤ :=
  match parseRfc3339Instant value true 6 with
  | none => .error (label ++ " is invalid").toList
  | some parsed => .ok parsed

/-- `date`. -/
def dateValue (value : Option Text) (label : String) : Except Text (Option Text) :=
  match value with
  | none => .ok none
  | some value => do
      let _ ← instantNanoseconds value label
      return some value

/-- `boundedRangeText`; `boundedText` is that without a minimum. -/
def boundedRangeText (value : Option Text) (label : String) (minimum maximum : Nat) :
    Except Text (Option Text) :=
  match value with
  | none => .ok none
  | some value =>
      if value = [] ∨ maximum < utf16Length value ∨ jsTrim value ≠ value ∨
          utf16Length value < minimum then
        .error (label ++ " is invalid").toList
      else .ok (some value)

/-- The interval has both ends or none, and increases. -/
def checkInterval (fromAt toAt : Option Text) : Except Text Unit :=
  let refused : Except Text Unit :=
    .error "Activity time filters must form one increasing interval".toList
  if fromAt.isNone ≠ toAt.isNone then refused
  else
    match truthyText fromAt, truthyText toAt with
    | some fromAt, some toAt => do
        let start ← instantNanoseconds fromAt "Activity start time"
        let stop ← instantNanoseconds toAt "Activity end time"
        if stop ≤ start then refused else .ok ()
    | _, _ => .ok ()

/-- `sort`. -/
def sortOf (value : Text) : Except Text ActivitySort :=
  if value = "newest".toList then .ok .newest
  else if value = "oldest".toList then .ok .oldest
  else .error "Activity sort is invalid".toList

/-- `parseCaseActivitySearch`, of the fields of the search. -/
def parseActivityParams (params : SearchParams) : Except Text CaseActivityUrlState := do
  match params.find? fun field => field.1 ∉ allowedKeys with
  | some field => throw ("Unsupported Activity query parameter: ".toList ++ field.1)
  | none =>
      let snapshot ← oneValue params "snapshot".toList
      check (snapshot.all isUuidV4 = true)
        "Activity snapshot id must be a canonical UUIDv4".toList
      let selectedActivityId ← oneValue params "activity".toList
      check (selectedActivityId.all isActivityId = true) "Selected Activity id is invalid".toList
      check (selectedActivityId.isSome = true → snapshot.isSome = true)
        "Selected Activity requires an explicit snapshot".toList
      let fromAt ← oneValue params "from_at".toList
      let fromAt ← dateValue fromAt "Activity start time"
      let toAt ← oneValue params "to_at".toList
      let toAt ← dateValue toAt "Activity end time"
      checkInterval fromAt toAt
      let assetId ← oneValue params "asset_id".toList
      check (assetId.all isAssetId = true) "Activity asset filter must use a server asset id".toList
      let sortValue ← oneValue params "sort".toList
      let sort ← sortOf (sortValue.getD "newest".toList)
      let protocolId ← oneValue params "protocol_id".toList
      let protocolId ← boundedRangeText protocolId "Activity protocol filter" 0 32
      check (∀ id ∈ protocolId, id ∈ activityProtocolIds)
        "Activity protocol filter is not recognized".toList
      let counterparty ← oneValue params "counterparty".toList
      let counterparty ← boundedRangeText counterparty "Activity counterparty filter" 66 76
      check (counterparty.all isCanonicalRawTonAddress = true)
        "Activity counterparty filter must be a canonical raw TON address".toList
      let kinds ← repeatedValues params "kind".toList kindValues
      let directions ← repeatedValues params "direction".toList directionValues
      let outcomes ← repeatedValues params "outcome".toList outcomeValues
      let dataOrigins ← repeatedValues params "data_origin".toList originValues
      return {
        snapshot := snapshot
        selectedActivityId := selectedActivityId
        filters := {
          kinds := kinds
          directions := directions
          outcomes := outcomes
          fromAt := fromAt
          toAt := toAt
          assetId := assetId
          protocolId := protocolId
          counterparty := counterparty
          dataOrigins := dataOrigins
          sort := sort } }

/-- `search.startsWith("?") ? search.slice(1) : search`. -/
def withoutQuestion : Text → Text
  | '?' :: rest => rest
  | text => text

/-- `parseCaseActivitySearch`. -/
def parseCaseActivitySearch (replaced : List UInt8 → Text) (search : Text) :
    Except Text CaseActivityUrlState :=
  parseActivityParams (SearchParams.ofText replaced (withoutQuestion search))

/-! ## Writing -/

/-- `if (value) params.set(name, value)`. -/
def SearchParams.setTruthy (params : SearchParams) (name : Text) (value : Option Text) :
    SearchParams :=
  match truthyText value with
  | some value => params.set name value
  | none => params

/-- `values.forEach((value) => params.append(name, value))`. -/
def SearchParams.appendAll {α : Type} (params : SearchParams) (name : Text) (allowed : ValueSet α)
    (values : List α) : SearchParams :=
  values.foldl (fun params value => params.append name (allowed.text value)) params

/-- The fields of a state. -/
def activityParams (state : CaseActivityUrlState) : SearchParams :=
  let filters := canonicalizeFilters state.filters
  let params : SearchParams := []
  let params := params.setTruthy "snapshot".toList state.snapshot
  let params := params.appendAll "kind".toList kindValues filters.kinds
  let params := params.appendAll "direction".toList directionValues filters.directions
  let params := params.appendAll "outcome".toList outcomeValues filters.outcomes
  let params := params.setTruthy "from_at".toList filters.fromAt
  let params := params.setTruthy "to_at".toList filters.toAt
  let params := params.setTruthy "asset_id".toList filters.assetId
  let params := params.setTruthy "protocol_id".toList filters.protocolId
  let params := params.setTruthy "counterparty".toList filters.counterparty
  let params := params.appendAll "data_origin".toList originValues filters.dataOrigins
  let params := params.set "sort".toList filters.sort.text
  params.setTruthy "activity".toList state.selectedActivityId

/-- `value ? "?" + value : ""`. -/
def searchText (params : SearchParams) : Text :=
  match FormUrlencoded.print params with
  | [] => []
  | value => '?' :: value

/-- `caseActivitySearch`. -/
def caseActivitySearch (state : CaseActivityUrlState) : Text := searchText (activityParams state)

end TonTracker
