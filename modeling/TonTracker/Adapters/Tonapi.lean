/-
# `Adapters.Tonapi` — one strict provider page

`adapters/tonapi.py`, the part the acquisition streams stand on: the two
page calls, `get_account_transactions_page` and `get_account_events_page`,
with the normalisers and the strict readers of provider integers they
use.  The provider itself (`fetch_json`) is a parameter: it may answer
any JSON or fail, and each page call re-checks what it was answered.

A canonical decimal logical time and its value determine each other, so
`_strict_logical_time` returns the value, in the type that carries its
range.
-/
import Mathlib.Order.Nat
import TonTracker.Instant
import TonTracker.Lib.FixedDigits

namespace TonTracker

open FixedDigits (isDigit)

/-- A Python `str`. -/
abbrev Text := List Char

instance : LawfulBEq Text := inferInstance

/-- A decoded JSON value; an object's keys are distinct. -/
inductive Json where
  | null
  | bool (b : Bool)
  | int (i : Int)
  | float (literal : Text)
  | str (s : Text)
  | arr (xs : List Json)
  | obj (fields : List (String × Json))

namespace Json

/-- `dict.get(key)`: a missing key and a null read alike. -/
def get (fields : List (String × Json)) (key : String) : Json :=
  (fields.lookup key).getD .null

end Json

/-- The code points `str.strip` removes. -/
def isSpace (c : Char) : Bool :=
  let n := c.toNat
  (9 ≤ n && n ≤ 13) || (28 ≤ n && n ≤ 32) || n == 0x85 || n == 0xA0 || n == 0x1680 ||
    (0x2000 ≤ n && n ≤ 0x200A) || n == 0x2028 || n == 0x2029 || n == 0x202F || n == 0x205F ||
    n == 0x3000

/-- `value != value.strip()` fails: no space at either end. -/
def isStripped (s : Text) : Bool :=
  !(s.head?.any isSpace) && !(s.getLast?.any isSpace)

/-! ## Provider answers -/

/-- Why a provider call failed (`ProviderResult.error`). -/
inductive ProviderError where
  | http (status : Nat)
  | providerError
  | providerProtocol
  | notConfigured
deriving DecidableEq, Repr

structure ProviderFailure where
  error : ProviderError
  message : String
deriving DecidableEq, Repr

/-- `ProviderResult`. -/
abbrev ProviderResult := Except ProviderFailure

/-- `_provider_error`. -/
def providerError {α : Type} (message : String) : ProviderResult α :=
  .error ⟨.providerError, message⟩

/-- `ProviderResult.failure(ERROR_PROVIDER_PROTOCOL, …)`. -/
def protocolFailure {α : Type} (message : String) : ProviderResult α :=
  .error ⟨.providerProtocol, message⟩

/-! ## Strict readers -/

def maxLogicalTime : Nat := 2 ^ 64 - 1

def maxEventDate : Nat := 2114380800

/-- A logical time the strict readers accept. -/
structure LogicalTime where
  val : Nat
  pos : 1 ≤ val
  bounded : val ≤ maxLogicalTime
deriving Repr

instance : DecidableEq LogicalTime := fun a b =>
  decidable_of_iff (a.val = b.val) (by cases a; cases b; simp only [LogicalTime.mk.injEq])

namespace LogicalTime

theorem val_injective : Function.Injective LogicalTime.val := by
  rintro ⟨m, _, _⟩ ⟨n, _, _⟩ h
  cases h
  rfl

instance : LinearOrder LogicalTime :=
  LinearOrder.lift' LogicalTime.val val_injective

/-- The logical time of a number, when it is in range. -/
def ofNat? (n : Nat) : Option LogicalTime :=
  if h : 1 ≤ n ∧ n ≤ maxLogicalTime then some ⟨n, h.1, h.2⟩ else none

end LogicalTime

/-- `int(text, 10)` of a text of ASCII digits. -/
def decimalValue (digits : Text) : Nat :=
  digits.foldl (fun n c => 10 * n + (c.toNat - '0'.toNat)) 0

/-- `value == "0" or (value.isdigit() and value[0] != "0")`. -/
def isCanonicalDecimal : Text → Bool
  | [] => false
  | ['0'] => true
  | c :: cs => c != '0' && (c :: cs).all isDigit

/-- `_strict_logical_time`. -/
def strictLogicalTime : Json → Option LogicalTime
  | .int i => if 0 ≤ i then LogicalTime.ofNat? i.toNat else none
  | .str s =>
      if isCanonicalDecimal s && s.length ≤ 20 then LogicalTime.ofNat? (decimalValue s)
      else none
  | _ => none

/-- `_strict_nonnegative_integer_string`. -/
def strictNonnegativeInteger : Json → Option Nat
  | .int i => if 0 ≤ i ∧ i ≤ maxLogicalTime then some i.toNat else none
  | .str s =>
      if isCanonicalDecimal s && s.length ≤ 20 && decimalValue s ≤ maxLogicalTime then
        some (decimalValue s)
      else none
  | _ => none

/-- `_optional_int`. -/
def optionalInt : Json → Option Int
  | .int i => some i
  | .str s => if isCanonicalDecimal s then some (decimalValue s) else none
  | _ => none

/-- `_strict_event_date`. -/
def strictEventDate (value : Json) : Option Nat :=
  match optionalInt value with
  | some i => if 0 ≤ i ∧ i ≤ maxEventDate then some i.toNat else none
  | none => none

def isHexDigit (c : Char) : Bool :=
  isDigit c || ('a' ≤ c && c ≤ 'f') || ('A' ≤ c && c ≤ 'F')

/-- `_TRANSACTION_HASH_RE`: 64 hexadecimal digits. -/
def isHex256 (s : Text) : Bool := s.length == 64 && s.all isHexDigit

/-- `text.lower()` of a hexadecimal text. -/
def lower (s : Text) : Text := s.map Char.toLower

/-! ## Transaction pages -/

/-- A normalised transaction row. -/
structure Transaction where
  txHash : Text
  logicalTime : LogicalTime
  utime : Option Int
  totalFees : Option Nat
deriving DecidableEq

/-- A value, or the error a reader raises without it. -/
def require {α : Type} (value : Option α) (message : String) : Except String α :=
  match value with
  | some a => .ok a
  | none => .error message

theorem require_eq_ok {α : Type} {value : Option α} {message : String} {a : α} :
    require value message = .ok a ↔ value = some a := by
  cases value <;> simp [require]

/-- A text of 64 hexadecimal digits. -/
def hex256 : Json → Option Text
  | .str s => if isHex256 s then some s else none
  | _ => none

/-- Absent fees, or a canonical nonnegative integer. -/
def optionalFees : Json → Option (Option Nat)
  | .null => some none
  | fees => (strictNonnegativeInteger fees).map some

/-- `normalize_transaction`. -/
def normalizeTransaction (raw : List (String × Json)) : Except String Transaction := do
  let txHash ← require (hex256 (Json.get raw "hash"))
    "transaction is missing a canonical 32-byte hash"
  let logicalTime ← require (strictLogicalTime (Json.get raw "lt"))
    "transaction is missing or has invalid logical time"
  let totalFees ← require (optionalFees (Json.get raw "total_fees"))
    "transaction has invalid total_fees"
  pure ⟨txHash, logicalTime, optionalInt (Json.get raw "utime"), totalFees⟩

/-- The row of one element of `transactions`, with its index. -/
def normalizeTransactionItem : Json × Nat → Except String Transaction
  | (.obj raw, _) => normalizeTransaction raw
  | (_, index) => throw s!"transaction {index} must be an object"

/-- `normalize_account_transactions_response`. -/
def normalizeAccountTransactions (payload : Json) : Except String (List Transaction) :=
  match payload with
  | .obj fields =>
      match Json.get fields "transactions" with
      | .arr items => items.zipIdx.mapM normalizeTransactionItem
      | _ => throw "transactions must be a list"
  | _ => throw "response must be an object"

/-- Every element is followed by a strictly smaller one
(`not any(previous <= current …)`). -/
def strictlyDescending : List LogicalTime → Bool
  | a :: b :: rest => decide (b < a) && strictlyDescending (b :: rest)
  | _ => true

/-- No element is followed by a larger one. -/
def neverAscending : List Nat → Bool
  | a :: b :: rest => decide (b ≤ a) && neverAscending (b :: rest)
  | _ => true

/-- `max(logical_times) >= int(request_before_lt, 10)`, when both exist. -/
def didNotAdvance (requestBeforeLt : Option LogicalTime) (times : List LogicalTime) : Bool :=
  match requestBeforeLt, times.max? with
  | some before, some newest => decide (before ≤ newest)
  | _, _ => false

structure TransactionPage where
  requestedLimit : Nat
  requestBeforeLt : Option LogicalTime
  rawCount : Nat
  minLogicalTime : Option LogicalTime
  maxLogicalTime : Option LogicalTime
  nextBeforeLt : Option LogicalTime
  transactions : List Transaction
deriving DecidableEq

/-- The query of one transaction page request. -/
structure TransactionsQuery where
  limit : Nat
  beforeLt : Option LogicalTime
deriving DecidableEq

/-- The rows of a response that meet the page contract. -/
def checkedTransactions (query : TransactionsQuery) (payload : Json) :
    Except String (List Transaction) := do
  let transactions ← normalizeAccountTransactions payload
  if query.limit < transactions.length then
    throw "transaction page returned more rows than requested"
  let times := transactions.map (·.logicalTime)
  if !strictlyDescending times then
    throw "transaction logical times must be strictly descending"
  if didNotAdvance query.beforeLt times then
    throw "transaction page did not advance below its before_lt cursor"
  pure transactions

/-- The page record `get_account_transactions_page` returns for its rows. -/
def transactionPage (query : TransactionsQuery) (transactions : List Transaction) :
    TransactionPage :=
  let times := transactions.map (·.logicalTime)
  { requestedLimit := query.limit
    requestBeforeLt := query.beforeLt
    rawCount := transactions.length
    minLogicalTime := times.min?
    maxLogicalTime := times.max?
    nextBeforeLt := times.min?
    transactions := transactions }

/-- `get_account_transactions_page`. -/
def getAccountTransactionsPage (fetchJson : TransactionsQuery → ProviderResult Json)
    (query : TransactionsQuery) : ProviderResult TransactionPage :=
  if 1 ≤ query.limit ∧ query.limit ≤ 1000 then
    match fetchJson query with
    | .error failure => .error failure
    | .ok payload =>
        match checkedTransactions query payload with
        | .ok transactions => .ok (transactionPage query transactions)
        | .error text => protocolFailure
            s!"TonAPI response had an unexpected structure for transaction page: {text}."
  else
    providerError "TonAPI transaction page limit must be between 1 and 1000."

/-! ## Account event pages -/

/-- A normalised account event; `payload` is the whole object the event's
fingerprint is taken of. -/
structure AccountEvent where
  eventId : Text
  lt : LogicalTime
  timestamp : Nat
  actions : List Json
  inProgress : Bool
  payload : List (String × Json)

/-- An action is an object with a nonblank `type`. -/
def isAction : Json → Bool
  | .obj fields =>
      match Json.get fields "type" with
      | .str s => !s.all isSpace
      | _ => false
  | _ => false

/-- A list of actions. -/
def actionList : Json → Option (List Json)
  | .arr xs => if xs.all isAction then some xs else none
  | _ => none

def boolean : Json → Option Bool
  | .bool b => some b
  | _ => none

/-- The checks `normalize_account_events_page_response` makes of one event;
`seen` are the identifiers of the page so far. -/
def normalizeEvent (seen : List Text) : Json × Nat → Except String AccountEvent
  | (.obj raw, index) => do
      let eventId ← require (hex256 (Json.get raw "event_id"))
        s!"event {index} has invalid canonical event_id"
      if lower eventId ∈ seen then
        throw s!"event {index} reuses an event_id inside one page"
      let lt ← require (strictLogicalTime (Json.get raw "lt"))
        s!"event {index} has invalid logical time"
      let timestamp ← require (strictEventDate (Json.get raw "timestamp"))
        s!"event {index} has invalid timestamp"
      let actions ← require (actionList (Json.get raw "actions"))
        s!"event {index} has invalid actions"
      let inProgress ← require (boolean (Json.get raw "in_progress"))
        s!"event {index} has invalid in_progress state"
      pure ⟨eventId, lt, timestamp, actions, inProgress, raw⟩
  | (_, index) => throw s!"event {index} must be an object"

/-- The events of a page, each checked against the identifiers before it. -/
def normalizeEvents (seen : List Text) :
    List (Json × Nat) → Except String (List AccountEvent)
  | [] => pure []
  | item :: items => do
      let event ← normalizeEvent seen item
      let events ← normalizeEvents (lower event.eventId :: seen) items
      pure (event :: events)

/-- `next_from`, where an empty page may end the chain with null or zero. -/
def nextFrom (events : List AccountEvent) (rawNext : Json) :
    Except String (Option LogicalTime) :=
  let terminalZero : Bool := match rawNext with
    | .null => true
    | .int i => i == 0
    | .str s => s == ['0']
    | _ => false
  if events.isEmpty && terminalZero then pure none
  else match strictLogicalTime rawNext with
    | some lt => pure (some lt)
    | none => throw "event page has invalid next_from"

/-- `normalize_account_events_page_response`. -/
def normalizeAccountEventsPage (payload : Json) :
    Except String (List AccountEvent × Option LogicalTime) :=
  match payload with
  | .obj fields =>
      match Json.get fields "events" with
      | .arr items =>
          if (fields.lookup "next_from").isNone then throw "event page is missing next_from"
          else do
            let events ← normalizeEvents [] items.zipIdx
            let next ← nextFrom events (Json.get fields "next_from")
            pure (events, next)
      | _ => throw "events must be a list"
  | _ => throw "response must be an object"

structure EventPage where
  requestedLimit : Nat
  requestBeforeLt : Option LogicalTime
  requestStartDate : Option Nat
  requestEndDate : Option Nat
  rawCount : Nat
  minLogicalTime : Option LogicalTime
  maxLogicalTime : Option LogicalTime
  nextBeforeLt : Option LogicalTime
  events : List AccountEvent

/-- The query of one event page request. -/
structure EventsQuery where
  limit : Nat
  beforeLt : Option LogicalTime
  startDate : Option Nat
  endDate : Option Nat
deriving DecidableEq

/-- The events of a response that meet the page contract, and its cursor. -/
def checkedEvents (query : EventsQuery) (payload : Json) :
    Except String (List AccountEvent × Option LogicalTime) := do
  let (events, next) ← normalizeAccountEventsPage payload
  if query.limit < events.length then
    throw "event page returned more rows than requested"
  let times := events.map (·.lt)
  if !strictlyDescending times then
    throw "event logical times must be strictly descending"
  if !neverAscending (events.map (·.timestamp)) then
    throw "event timestamps must follow logical-time order"
  if didNotAdvance query.beforeLt times then
    throw "event page did not advance below its before_lt cursor"
  if !events.isEmpty && next != times.min? then
    throw "event page next_from must equal minimum logical time"
  if events.isEmpty && next.isSome then
    throw "empty event page must terminate its cursor"
  pure (events, next)

/-- The page record `get_account_events_page` returns for its events. -/
def eventPage (query : EventsQuery) (events : List AccountEvent)
    (next : Option LogicalTime) : EventPage :=
  let times := events.map (·.lt)
  { requestedLimit := query.limit
    requestBeforeLt := query.beforeLt
    requestStartDate := query.startDate
    requestEndDate := query.endDate
    rawCount := events.length
    minLogicalTime := times.min?
    maxLogicalTime := times.max?
    nextBeforeLt := next
    events := events }

/-- A date argument of the events call: absent, in range, or refused. -/
def requestDate : Option Int → Option (Option Nat)
  | none => some none
  | some i => (strictEventDate (.int i)).map some

/-- `get_account_events_page`. -/
def getAccountEventsPage (fetchJson : EventsQuery → ProviderResult Json)
    (limit : Nat) (beforeLt : Option LogicalTime) (startDate endDate : Option Int) :
    ProviderResult EventPage :=
  if 1 ≤ limit ∧ limit ≤ 100 then
    match requestDate startDate, requestDate endDate with
    | none, _ =>
        providerError "TonAPI account event start_date is outside the supported range."
    | _, none =>
        providerError "TonAPI account event end_date is outside the supported range."
    | some startDate, some endDate =>
        if startDate.isSome && endDate.isSome && endDate.getD 0 < startDate.getD 0 then
          providerError "TonAPI account event start_date must not exceed end_date."
        else
          let query : EventsQuery := ⟨limit, beforeLt, startDate, endDate⟩
          match fetchJson query with
          | .error failure => .error failure
          | .ok payload =>
              match checkedEvents query payload with
              | .ok (events, next) => .ok (eventPage query events next)
              | .error text => protocolFailure
                  s!"TonAPI response had an unexpected structure for account event page: {text}."
  else
    providerError "TonAPI account event page limit must be between 1 and 100."

end TonTracker
