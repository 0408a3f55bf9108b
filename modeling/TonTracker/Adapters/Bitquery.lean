/-
# `Adapters.Bitquery` — trades of a token from Bitquery

`execute_graphql`, `normalize_trade` and `get_token_trades`
(`adapters/bitquery.py`) in real mode, on the bytes of an answer of status
200.  `json.loads`, `Decimal` of a text and `str` of a value that is no text
are arguments (`BitqueryReaders`), and a value that `json.loads` returns is
not too deep for the stack; a decimal is kept as the number it is.
-/
import TonTracker.Services.HistoryReadiness
import TonTracker.Services.ImportAnalysis

namespace TonTracker

/-! ## What is raised and returned -/

/-- What `json.loads` makes of a text: a value, a `JSONDecodeError`, or an
exception of another class (too many digits, nested too deep). -/
inductive LoadedJson where
  | value (json : Json)
  | decodeError
  | valueError
  | recursionError

/-- An exception that `get_token_trades` or `analyze_token_trades` lets
through. -/
inductive BitqueryRaised where
  | unicodeDecodeError
  | valueError
  | recursionError
  | typeError
  | decimal (signal : ContextDecimal.Signal)
deriving DecidableEq

structure BitqueryReaders where
  loads : Text → LoadedJson
  /-- `str(value)` of a value that is not a text. -/
  shown : Json → Text
  /-- `Decimal(text)`; `none` where it is refused. -/
  decimal : Text → Option ContextDecimal.Decimal
  lower : Text → Text
  /-- `text.replace(api_key, "[redacted]")`. -/
  redacted : Text → Text
  /-- `str` of a list of texts. -/
  shownTexts : List Text → Text

/-- The failure of a `ProviderResult`. -/
structure BitqueryFailure where
  error : String
  message : Text
  diagnostic : Option Text
deriving DecidableEq

/-- `_provider_error`. -/
def bitqueryError (message : Text) : BitqueryFailure := ⟨"provider_error", message, none⟩

/-- `_ton_schema_unavailable`. -/
def tonSchemaUnavailable (diagnostic : Option Text) : BitqueryFailure :=
  ⟨"provider_coverage_unavailable", ("Bitquery is configured, but this account/endpoint does " ++
    "not expose the TON schema. TON DEXTrades may require different Bitquery access, plan, " ++
    "endpoint, or chain coverage.").toList, diagnostic⟩

variable (readers : BitqueryReaders)

/-! ## Values -/

/-- `str(value)`. -/
def BitqueryReaders.str : Json → Text
  | .str text => text
  | value => readers.shown value

mutual

/-- `_string_value`. -/
def BitqueryReaders.stringValue : Json → Option Text
  | .null => none
  | .obj fields =>
      let values := BitqueryReaders.stringValues fields
      ["address", "name", "fullName", "value"].findSome? fun key => (values.lookup key).join
  | value =>
      let cleaned := strip (readers.str value)
      if cleaned = [] then none else some cleaned

/-- The texts of the members of an object. -/
def BitqueryReaders.stringValues : List (String × Json) → List (String × Option Text)
  | [] => []
  | (key, value) :: fields =>
      (key, BitqueryReaders.stringValue value) :: BitqueryReaders.stringValues fields

end

/-- The value at a path; null where there is none. -/
def valueAt (json : Json) (path : List String) : Json :=
  path.foldl (fun current key =>
    match current with
    | .obj fields => Json.get fields key
    | _ => .null) json

/-- `_first_value`. -/
def firstValue (json : Json) (paths : List (List String)) : Json :=
  ((paths.map (valueAt json)).find? fun
    | .null => false
    | _ => true).getD .null

/-- `_required_string`. -/
def BitqueryReaders.requiredText (raw : Json) (field : String) (paths : List (List String)) :
    Except Text Text :=
  match readers.stringValue (firstValue raw paths) with
  | none => .error ("Bitquery trade is missing " ++ field).toList
  | some text => .ok text

/-- `_decimal_value`. -/
def BitqueryReaders.decimalValue (value : Json) (field : String) (allowZero : Bool) :
    Except Text ℚ :=
  match readers.stringValue value with
  | none => .error ("Bitquery trade is missing " ++ field).toList
  | some text =>
      match readers.decimal text with
      | some (.finite parsed) =>
          if parsed < 0 ∨ (parsed = 0 ∧ allowZero = false) then
            .error ("Bitquery trade has invalid " ++ field).toList
          else .ok parsed
      | _ => .error ("Bitquery trade has invalid " ++ field).toList

/-- `_optional_decimal_value`. -/
def BitqueryReaders.optionalDecimalValue (value : Json) (field : String) :
    Except Text (Option ℚ) :=
  match readers.stringValue value with
  | none => .ok none
  | some _ => some <$> readers.decimalValue value field true

/-! ## The answer -/

/-- `_sanitize_diagnostic`. -/
def BitqueryReaders.sanitizeDiagnostic (value : Json) : Option Text :=
  (readers.stringValue value).map fun text => (readers.redacted text).take 500

/-- `_graphql_error_messages`. -/
def BitqueryReaders.graphqlErrorMessages (errors : Json) : List Text :=
  let rawMessages := match errors with
    | .arr errors => errors.map fun error : Json =>
        match error with
        | .obj fields => Json.get fields "message"
        | error => error
    | .obj fields =>
        let message := Json.get fields "message"
        [if message.truthy then message else .obj fields]
    | errors => [errors]
  (rawMessages.filterMap readers.sanitizeDiagnostic).filter (· ≠ [])

/-- `part in text`. -/
def containsText (part text : Text) : Bool := decide (part <:+: text)

/-- `" ".join(…)`. -/
def joinTexts (separator : Text) (texts : List Text) : Text := (texts.intersperse separator).flatten

/-- `_is_ton_schema_unavailable`. -/
def BitqueryReaders.isTonSchemaUnavailable (messages : List Text) : Bool :=
  let combined := readers.lower (joinTexts [' '] messages)
  containsText "cannot query field".toList combined && containsText "\"ton\"".toList combined &&
    containsText "rootquery".toList combined

/-- A payload with `errors`, and why it is refused. -/
def BitqueryReaders.graphqlFailure (errors : Json) : BitqueryFailure :=
  let messages := readers.graphqlErrorMessages errors
  let diagnostic := if messages = [] then none else some (joinTexts [';', ' '] messages)
  if readers.isTonSchemaUnavailable messages then tonSchemaUnavailable diagnostic
  else bitqueryError ("Bitquery GraphQL error: ".toList ++
    (if messages = [] then readers.str errors else readers.shownTexts messages) ++ ['.'])

/-- What follows the reading of the JSON in `execute_graphql`. -/
def BitqueryReaders.graphqlData (payload : Json) : Except BitqueryFailure Json :=
  match payload with
  | .obj fields =>
      if (Json.get fields "errors").truthy then
        .error (readers.graphqlFailure (Json.get fields "errors"))
      else if (fields.map (·.1)).contains "data" then .ok (Json.get fields "data")
      else .error (bitqueryError "Bitquery response is missing data.".toList)
  | _ => .error (bitqueryError "Bitquery response is missing data.".toList)

/-- `execute_graphql`, from the bytes of the answer. -/
def BitqueryReaders.executeGraphql (body : ByteArray) :
    Except BitqueryRaised (Except BitqueryFailure Json) :=
  match String.fromUTF8? body with
  | none => .error .unicodeDecodeError
  | some rawBody =>
      match readers.loads rawBody.toList with
      | .value payload => .ok (readers.graphqlData payload)
      | .decodeError => .ok (.error (bitqueryError "Bitquery returned invalid JSON.".toList))
      | .valueError => .error .valueError
      | .recursionError => .error .recursionError

/-! ## Trades -/

/-- A normalized trade; its decimals as numbers. -/
structure BitqueryTrade where
  txHash : Text
  blockTime : Text
  wallet : Text
  side : TradeSide
  tokenAmount : ℚ
  usdAmount : ℚ
  priceUsd : ℚ
  poolAddress : Option Text
  dex : Option Text

def buyTokenPaths : List (List String) :=
  [["Trade", "Buy", "Currency", "SmartContract", "Address"], ["buyCurrency", "address"],
    ["buy_currency", "address"], ["buy_token_address"], ["buyToken", "address"]]

def sellTokenPaths : List (List String) :=
  [["Trade", "Sell", "Currency", "SmartContract", "Address"], ["sellCurrency", "address"],
    ["sell_currency", "address"], ["sell_token_address"], ["sellToken", "address"]]

/-- Where the values of a side are looked for. -/
structure SidePaths where
  walletField : String
  wallet : List (List String)
  amountField : String
  amount : List (List String)
  usd : List (List String)
  price : List (List String)

def buyPaths : SidePaths where
  walletField := "buyer wallet"
  wallet := [["Trade", "Buy", "Buyer", "Address"], ["buyer", "address"], ["buyer_address"],
    ["buyer"]]
  amountField := "buy amount"
  amount := [["Trade", "Buy", "Amount"], ["buyAmount"], ["buy_amount"]]
  usd := [["Trade", "Buy", "AmountInUSD"], ["Trade", "AmountInUSD"], ["tradeAmount"],
    ["tradeAmount(in: USD)"], ["amount_usd"], ["usd_amount"]]
  price := [["Trade", "Buy", "PriceInUSD"], ["price_usd"], ["priceUsd"], ["priceUSD"]]

def sellPaths : SidePaths where
  walletField := "seller wallet"
  wallet := [["Trade", "Sell", "Seller", "Address"], ["seller", "address"], ["seller_address"],
    ["seller"]]
  amountField := "sell amount"
  amount := [["Trade", "Sell", "Amount"], ["sellAmount"], ["sell_amount"]]
  usd := [["Trade", "Sell", "AmountInUSD"], ["Trade", "AmountInUSD"], ["tradeAmount"],
    ["tradeAmount(in: USD)"], ["amount_usd"], ["usd_amount"]]
  price := [["Trade", "Sell", "PriceInUSD"], ["price_usd"], ["priceUsd"], ["priceUSD"]]

def TradeSide.paths : TradeSide → SidePaths
  | .buy => buyPaths
  | .sell => sellPaths

/-- What a trade is read as before its price is settled. -/
structure TradeReading where
  side : TradeSide
  wallet : Text
  tokenAmount : ℚ
  usdAmount : ℚ
  priceUsd : Option ℚ

/-- The side of the target token. -/
def BitqueryReaders.tradeSide (raw : Json) (target : Text) : Except Text TradeSide := do
  let buyToken ← readers.requiredText raw "buy token address" buyTokenPaths
  let sellToken ← readers.requiredText raw "sell token address" sellTokenPaths
  if buyToken = target then return .buy
  else if sellToken = target then return .sell
  else throw "Target token is not present in Bitquery trade buy/sell side".toList

/-- `normalize_trade` up to the price. -/
def BitqueryReaders.readTrade (raw : Json) (target : Text) : Except Text TradeReading := do
  let side ← readers.tradeSide raw target
  let paths := side.paths
  let wallet ← readers.requiredText raw paths.walletField paths.wallet
  let tokenAmount ← readers.decimalValue (firstValue raw paths.amount) paths.amountField false
  let usdAmount ← readers.decimalValue (firstValue raw paths.usd) "USD amount" true
  let priceUsd ← readers.optionalDecimalValue (firstValue raw paths.price) "price USD"
  return ⟨side, wallet, tokenAmount, usdAmount, priceUsd⟩

/-- An exception inside `normalize_trade`: a `ValueError` with its message,
or a trapped condition. -/
inductive TradeError where
  | valueError (message : Text)
  | decimal (signal : ContextDecimal.Signal)
deriving DecidableEq

/-- `price_usd` if it is given, else `usd_amount / token_amount`. -/
def TradeReading.price (reading : TradeReading) : Except TradeError ℚ :=
  match reading.priceUsd with
  | some price => .ok price
  | none => (defaultContext.round (reading.usdAmount / reading.tokenAmount)).mapError .decimal

/-- `normalize_trade`, with a target token. -/
def BitqueryReaders.normalizeTrade (raw : Json) (targetTokenAddress : Text) :
    Except TradeError BitqueryTrade := do
  match readers.stringValue (.str targetTokenAddress) with
  | none => throw (.valueError "target_token_address is required".toList)
  | some target =>
      let reading ← (readers.readTrade raw target).mapError .valueError
      let price ← reading.price
      let txHash ← (readers.requiredText raw "transaction hash" [["Transaction", "Hash"],
        ["transaction", "hash"], ["tx_hash"], ["transaction_hash"]]).mapError .valueError
      let blockTime ← (readers.requiredText raw "block time" [["Block", "Time"],
        ["block", "timestamp", "time"], ["block_time"], ["timestamp"]]).mapError .valueError
      return {
        txHash := txHash
        blockTime := blockTime
        wallet := reading.wallet
        side := reading.side
        tokenAmount := reading.tokenAmount
        usdAmount := reading.usdAmount
        priceUsd := price
        poolAddress := readers.stringValue (firstValue raw
          [["Trade", "Dex", "SmartContract", "Address"], ["pool", "address"], ["pool_address"]])
        dex := readers.stringValue (firstValue raw
          [["Trade", "Dex", "ProtocolName"], ["dex"], ["protocol"]]) }

/-! ## Responses -/

/-- The trades of a payload. -/
def responseTrades (payload : Json) : Except Text (List Json) :=
  let listed : Json → Except Text (List Json) := fun
    | .arr trades => .ok trades
    | _ => .error "Bitquery DEXTrades response must be a list".toList
  match payload with
  | .null => .ok []
  | .arr trades => .ok trades
  | .obj fields =>
      match firstValue (.obj fields) [["Ton", "DEXTrades"], ["ton", "dexTrades"], ["DEXTrades"],
        ["dexTrades"], ["trades"]] with
      | .null => .ok []
      | trades => listed trades
  | _ => .error "Bitquery trades response must be a dict or list".toList

/-- A trade of the loop of `normalize_token_trades_response`. -/
def BitqueryReaders.normalizeAt (target : Text) (entry : Json × Nat) :
    Except TradeError BitqueryTrade :=
  let refused := "Invalid Bitquery trade at index ".toList ++ Nat.toDigits 10 entry.2
  match entry.1 with
  | .obj fields =>
      match readers.normalizeTrade (.obj fields) target with
      | .error (.valueError message) => .error (.valueError (refused ++ [':', ' '] ++ message))
      | result => result
  | _ => .error (.valueError (refused ++ ": expected dict".toList))

/-- `normalize_token_trades_response`. -/
def BitqueryReaders.normalizeResponse (payload : Json) (target : Text) :
    Except TradeError (List BitqueryTrade) := do
  let trades ← (responseTrades payload).mapError .valueError
  trades.zipIdx.mapM (readers.normalizeAt target)

/-- `get_token_trades` in real mode, with a key and a valid URL, where the
request is answered with status 200. -/
def BitqueryReaders.getTokenTrades (tokenAddress : Text) (body : ByteArray) :
    Except BitqueryRaised (Except BitqueryFailure (List BitqueryTrade)) :=
  if strip tokenAddress = [] then
    .ok (.error (bitqueryError "Bitquery query error: token_address is required.".toList))
  else
    match readers.executeGraphql body with
    | .error raised => .error raised
    | .ok (.error failure) => .ok (.error failure)
    | .ok (.ok payload) =>
        match readers.normalizeResponse payload tokenAddress with
        | .ok trades => .ok (.ok trades)
        | .error (.valueError message) => .ok (.error
            (bitqueryError ("Bitquery normalization error: ".toList ++ message ++ ['.'])))
        | .error (.decimal signal) => .error (.decimal signal)

/-! ## The analysis -/

/-- `_optional_string` of a text. -/
def cleanedText (text : Text) : Option Text :=
  if strip text = [] then none else some (strip text)

/-- A `ValueError` of `_analysis_trade`. -/
def requiredAnalysisText (text : Text) (index : Nat) (problem : String) : Except Text Text :=
  match cleanedText text with
  | none => .error ("trade ".toList ++ Nat.toDigits 10 index ++ problem.toList)
  | some text => .ok text

/-- `_analysis_trade`, of a trade that `get_token_trades` returned: none of
the keys of the mock trades is there, and the side and the decimals are what
they were written of. -/
def analysisTrade (entry : BitqueryTrade × Nat) : Except Text BitqueryTrade := do
  let (trade, index) := entry
  let txHash ← requiredAnalysisText trade.txHash (index + 1) " is missing tx_hash"
  let blockTime ← requiredAnalysisText trade.blockTime (index + 1) " is missing block_time"
  let wallet ← requiredAnalysisText trade.wallet (index + 1) " is missing wallet_address"
  return { trade with
    txHash := txHash
    blockTime := blockTime
    wallet := wallet
    poolAddress := trade.poolAddress.bind cleanedText
    dex := trade.dex.bind cleanedText }

/-- A trade as it is analyzed, with the datetime of its block time
(`_parse_block_time`). -/
def BitqueryTrade.imported (trade : BitqueryTrade) : Except BitqueryRaised ImportedTrade :=
  match fromIsoformat (replaceZulu trade.blockTime) with
  | none => .error .valueError
  | some time => .ok
      { txHash := trade.txHash
        blockTime := time
        wallet := trade.wallet
        side := trade.side
        tokenAmount := trade.tokenAmount
        usdAmount := trade.usdAmount
        priceUsd := trade.priceUsd
        poolAddress := trade.poolAddress
        dex := trade.dex
        source := "bitquery" }

/-- Python compares two datetimes only if both have an offset or neither
has. -/
def sameAwareness (trades : List ImportedTrade) : Bool :=
  trades.all fun a => trades.all fun b =>
    a.wallet ≠ b.wallet || a.blockTime.offset.isSome = b.blockTime.offset.isSome

/-- The response of `analyze_token_trades`. -/
inductive BitqueryAnalysis where
  | failure (failure : BitqueryFailure)
  | success (totalTrades : Nat) (analysis : ImportAnalysis)

/-- `analyze_token_trades`, of the trades it was given.  The analysis raises
for a block time that is no datetime, for two of a wallet that do not
compare, or a trapped condition; which of them comes first is not kept. -/
def analyzeBitqueryTrades (trades : List BitqueryTrade) (previewLimit : Nat) :
    Except BitqueryRaised BitqueryAnalysis :=
  match trades.zipIdx.mapM analysisTrade with
  | .error message => .ok (.failure (bitqueryError ("Bitquery analysis error: ".toList ++ message)))
  | .ok normalized => do
      let imported ← normalized.mapM BitqueryTrade.imported
      if sameAwareness imported = false then throw .typeError
      else
        let analysis ← (analyzeImportedTrades
          ⟨imported, imported.length, imported.length, 0, 0, []⟩ previewLimit
          "bitquery").mapError .decimal
        return .success normalized.length analysis

end TonTracker
