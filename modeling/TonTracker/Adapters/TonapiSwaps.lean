/-
# `Adapters.TonapiSwaps` — swap rows from provider events

The swap actions of an account's events (`normalize_swap`, `_swap_side` of
`adapters/tonapi.py`), the rows made of them (`_tonapi_live_swap`) and what a
run response says of a stored row (`_swap_record`).  How a value prints, how
a raw amount is scaled and how a time is written are arguments
(`SwapReaders`).
-/
import TonTracker.Services.IngestionRun
import TonTracker.Services.PnlPreview

namespace TonTracker

/-- `str(value)`, `_scaled_balance_string` and `_utime_to_iso`. -/
structure SwapReaders where
  str : Json → Text
  scaledBalance : Option Text → Option Int → Option Text
  isoTime : Option Int → Option Text

variable (readers : SwapReaders)

/-! ## Provider values -/

/-- `_optional_string`. -/
def SwapReaders.optionalString : Json → Option Text
  | .null => none
  | value =>
      let cleaned := strip (readers.str value)
      if cleaned = [] then none else some cleaned

/-- `_optional_string` of a text read before. -/
def optionalText (value : Option Text) : Option Text :=
  value.bind fun text => if strip text = [] then none else some (strip text)

/-- `value not in (None, "")`. -/
def isGiven : Json → Bool
  | .null => false
  | .str [] => false
  | _ => true

/-- `_account_address`. -/
def SwapReaders.accountAddress : Json → Option Text
  | .obj fields => readers.optionalString (Json.get fields "address")
  | value => readers.optionalString value

/-! ## One swap action -/

inductive SwapEnd where
  | input
  | output
deriving DecidableEq

/-- The keys of a side: the TON amount, the jetton amount and its master. -/
def SwapEnd.keys : SwapEnd → String × String × String
  | .input => ("ton_in", "amount_in", "jetton_master_in")
  | .output => ("ton_out", "amount_out", "jetton_master_out")

inductive TokenStandard where
  | native
  | jetton
deriving DecidableEq

structure SwapSide where
  token : Option Text
  amount : Option Text
  decimals : Option Int
  address : Option Text
deriving DecidableEq

/-- `master if isinstance(master, dict) else {}`. -/
def masterFields : Json → List (String × Json)
  | .obj fields => fields
  | _ => []

/-- `_swap_side`. -/
def SwapReaders.swapSide (detail : List (String × Json)) (side : SwapEnd) : SwapSide :=
  let (tonKey, amountKey, masterKey) := side.keys
  if isGiven (Json.get detail tonKey) then
    ⟨some tonText, readers.optionalString (Json.get detail tonKey), some 9, none⟩
  else
    let master := masterFields (Json.get detail masterKey)
    let address := readers.optionalString (Json.get master "address")
    ⟨(readers.optionalString (Json.get master "symbol")).or address,
      readers.optionalString (Json.get detail amountKey), optionalInt (Json.get master "decimals"),
      address⟩

/-- `token_in_standard`, `token_out_standard`. -/
def tokenStandard (detail : List (String × Json)) (side : SwapEnd) : TokenStandard :=
  if isGiven (Json.get detail side.keys.1) then .native else .jetton

/-- A normalised swap row. -/
structure NormalizedSwap where
  eventId : Option Text
  utime : Option Int
  lt : Option Text
  actionIndex : Nat
  dex : Option Text
  sideIn : SwapSide
  tokenInStandard : TokenStandard
  sideOut : SwapSide
  tokenOutStandard : TokenStandard
  router : Option Text
  status : Option Text
deriving DecidableEq

/-- `normalize_swap`. -/
def SwapReaders.normalizeSwap (detail action : List (String × Json)) (eventId : Option Text)
    (utime : Option Int) (lt : Option Text) (actionIndex : Nat) : NormalizedSwap where
  eventId := eventId
  utime := utime
  lt := lt
  actionIndex := actionIndex
  dex := readers.optionalString (Json.get detail "dex")
  sideIn := readers.swapSide detail .input
  tokenInStandard := tokenStandard detail .input
  sideOut := readers.swapSide detail .output
  tokenOutStandard := tokenStandard detail .output
  router := readers.accountAddress (Json.get detail "router")
  status := readers.optionalString (Json.get action "status")

/-- The body of the loop over the actions of an event. -/
def SwapReaders.normalizeAction (event : List (String × Json)) : Json × Nat → Option NormalizedSwap
  | (.obj action, index) =>
      if readers.optionalString (Json.get action "type") = some "JettonSwap".toList then
        match Json.get action "JettonSwap" with
        | .obj detail => some (readers.normalizeSwap detail action
            (readers.optionalString (Json.get event "event_id"))
            (optionalInt (Json.get event "timestamp"))
            (readers.optionalString (Json.get event "lt")) index)
        | _ => none
      else none
  | _ => none

/-- The swaps of an event. -/
def SwapReaders.eventSwaps : Json → List NormalizedSwap
  | .obj event =>
      match Json.get event "actions" with
      | .arr actions => actions.zipIdx.filterMap (readers.normalizeAction event)
      | _ => []
  | _ => []

/-- `normalize_account_swaps_response`. -/
def SwapReaders.normalizeAccountSwaps (payload : Json) : Except String (List NormalizedSwap) :=
  match payload with
  | .obj fields =>
      match Json.get fields "events" with
      | .arr events => .ok (events.flatMap readers.eventSwaps)
      | _ => throw "events must be a list"
  | _ => throw "response must be an object"

/-! ## Rows of a run -/

/-- A swap of a run response: what the estimates read of it, and the recorded
jetton addresses. -/
structure SwapRecord where
  swap : PnlSwap
  tokenInAddress : Option Text
  tokenOutAddress : Option Text
deriving DecidableEq

/-- `_swap_record` of the row `_tonapi_live_swap` makes. -/
def SwapReaders.swapRecord (row : NormalizedSwap) : SwapRecord where
  swap :=
    { tokenIn := optionalText row.sideIn.token
      tokenOut := optionalText row.sideOut.token
      amountIn := readers.scaledBalance row.sideIn.amount row.sideIn.decimals
      amountOut := readers.scaledBalance row.sideOut.amount row.sideOut.decimals
      timestamp := readers.isoTime row.utime
      txHash := optionalText row.eventId }
  tokenInAddress := optionalText row.sideIn.address
  tokenOutAddress := optionalText row.sideOut.address

end TonTracker
