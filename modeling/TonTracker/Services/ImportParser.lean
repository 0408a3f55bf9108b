/-
# `Services.ImportParser` — imported trade rows

`parse_csv_trades` and `parse_json_trades` (`services/import_parser.py`):
rows of a table or of objects, each of which is a trade, a duplicate of one,
or reported with its errors.  How a text is lower-cased, read as a decimal,
and what `str` makes of a value other than a text or an integer, is an
argument (`ImportReaders`).  A block time is kept as the datetime that its
text stands for.
-/
import TonTracker.Lib.CsvReader
import TonTracker.Lib.ExceptFold
import TonTracker.Services.IngestionRun
import TonTracker.Services.PnlPreview
import TonTracker.Services.WalletActivitySignals

namespace TonTracker

open CsvReader (CsvError)

/-! ## Rows -/

/-- What an import raises. -/
inductive ImportException where
  | csv (error : CsvError)
  | valueError
  | decimal (signal : ContextDecimal.Signal)
  | assertion
deriving DecidableEq

structure RowError where
  row : Nat
  field : String
  message : String
deriving DecidableEq

inductive TradeSide where
  | buy
  | sell
deriving DecidableEq

structure ImportedTrade where
  txHash : Text
  blockTime : ParsedDatetime
  wallet : Text
  side : TradeSide
  tokenAmount : ℚ
  usdAmount : ℚ
  priceUsd : ℚ
  poolAddress : Option Text
  dex : Option Text
  source : String

/-- `key` of the rows seen. -/
def ImportedTrade.key (trade : ImportedTrade) : Text × Text × TradeSide × ℚ :=
  (trade.txHash, trade.wallet, trade.side, trade.tokenAmount)

structure ImportResult where
  trades : List ImportedTrade
  totalRows : Nat
  validRows : Nat
  invalidRows : Nat
  duplicateRows : Nat
  errors : List RowError

/-- `row.get`: a missing key and a null read alike. -/
abbrev ImportRow := String → Json

structure ImportReaders where
  lower : Text → Text
  decimal : Text → Option ContextDecimal.Decimal
  /-- `str(value)` of a number that is not an integer, a list or an object,
  where it does not raise. -/
  shown : Json → Option Text

variable (readers : ImportReaders)

/-- `sys.int_info.default_max_str_digits`. -/
def maxStrDigits : Nat := 4300

/-- `str(value)`; an integer with too many digits raises. -/
def ImportReaders.str : Json → Option Text
  | .str text => some text
  | .bool value => some (if value then "True" else "False").toList
  | .int i =>
      let digits := Nat.toDigits 10 i.natAbs
      if digits.length ≤ maxStrDigits then some (if i < 0 then '-' :: digits else digits) else none
  | value => readers.shown value

/-- `_optional_string`. -/
def ImportReaders.optionalString : Json → Except ImportException (Option Text)
  | .null => .ok none
  | value =>
      match readers.str value with
      | none => .error .valueError
      | some text => .ok (if strip text = [] then none else some (strip text))

/-- What a check returns: the value, or none with its errors. -/
abbrev Checked (value : Type) := Option value × List RowError

/-- `_error`, and none. -/
def refused {value : Type} (rowNumber : Nat) (field message : String) : Checked value :=
  (none, [⟨rowNumber, field, message⟩])

def missingValue {value : Type} (rowNumber : Nat) (field : String) : Checked value :=
  refused rowNumber field "Required value is missing"

/-- A check of a value: what is returned where it is missing, and what its
text is read as. -/
def ImportReaders.checkValue {value : Type} (cell : Json) (missing : Checked value)
    (read : Text → Checked value) : Except ImportException (Checked value) := do
  match ← readers.optionalString cell with
  | none => return missing
  | some text => return read text

/-- `_required_string`. -/
def ImportReaders.requiredString (row : ImportRow) (field : String) (rowNumber : Nat) :
    Except ImportException (Checked Text) :=
  readers.checkValue (row field) (missingValue rowNumber field) fun text => (some text, [])

/-- `_normalize_datetime`. -/
def ImportReaders.normalizeDatetime (row : ImportRow) (rowNumber : Nat) :
    Except ImportException (Checked ParsedDatetime) :=
  readers.checkValue (row "block_time") (missingValue rowNumber "block_time") fun text =>
    match fromIsoformat (replaceZulu text) with
    | none => refused rowNumber "block_time" "Invalid ISO datetime"
    | some parsed => (some ⟨parsed.wall, some (parsed.offset.getD 0)⟩, [])

/-- `_normalize_side`. -/
def ImportReaders.normalizeSide (row : ImportRow) (rowNumber : Nat) :
    Except ImportException (Checked TradeSide) :=
  readers.checkValue (row "side") (missingValue rowNumber "side") fun side =>
    if readers.lower side = "buy".toList then (some .buy, [])
    else if readers.lower side = "sell".toList then (some .sell, [])
    else refused rowNumber "side" "Invalid side: expected buy or sell"

/-- `_parse_decimal`, of a stripped text. -/
def ImportReaders.parseDecimal (text : Text) (field : String) (rowNumber : Nat) : Checked ℚ :=
  match readers.decimal text with
  | some (.finite value) => (some value, [])
  | _ => refused rowNumber field "Invalid numeric value"

/-- `_required_decimal`. -/
def ImportReaders.requiredDecimal (row : ImportRow) (field : String) (rowNumber : Nat) :
    Except ImportException (Checked ℚ) :=
  readers.checkValue (row field) (missingValue rowNumber field) fun text =>
    readers.parseDecimal text field rowNumber

/-- `_optional_decimal`. -/
def ImportReaders.optionalDecimal (row : ImportRow) (field : String) (rowNumber : Nat) :
    Except ImportException (Checked ℚ) :=
  readers.checkValue (row field) (none, []) fun text => readers.parseDecimal text field rowNumber

/-- An error of an amount out of range, where there is one. -/
def rangeErrors (rowNumber : Nat) (field message : String) (value : Option ℚ)
    (outOfRange : ℚ → Bool) : List RowError :=
  if value.any outOfRange then [⟨rowNumber, field, message⟩] else []

/-- The values of a row, and its errors. -/
structure RowValues where
  txHash : Option Text
  blockTime : Option ParsedDatetime
  wallet : Option Text
  side : Option TradeSide
  tokenAmount : Option ℚ
  usdAmount : Option ℚ
  priceUsd : Option ℚ
  errors : List RowError

/-- The checks of `_normalize_row`. -/
def ImportReaders.checkRow (row : ImportRow) (rowNumber : Nat) :
    Except ImportException RowValues := do
  let txHash ← readers.requiredString row "tx_hash" rowNumber
  let blockTime ← readers.normalizeDatetime row rowNumber
  let wallet ← readers.requiredString row "wallet" rowNumber
  let side ← readers.normalizeSide row rowNumber
  let tokenAmount ← readers.requiredDecimal row "token_amount" rowNumber
  let usdAmount ← readers.requiredDecimal row "usd_amount" rowNumber
  let priceUsd ← readers.optionalDecimal row "price_usd" rowNumber
  return {
    txHash := txHash.1
    blockTime := blockTime.1
    wallet := wallet.1
    side := side.1
    tokenAmount := tokenAmount.1
    usdAmount := usdAmount.1
    priceUsd := priceUsd.1
    errors := txHash.2 ++ blockTime.2 ++ wallet.2 ++ side.2 ++ tokenAmount.2 ++ usdAmount.2 ++
      priceUsd.2 ++
      rangeErrors rowNumber "token_amount" "Invalid numeric value: must be > 0" tokenAmount.1
        (fun value => value ≤ 0) ++
      rangeErrors rowNumber "usd_amount" "Invalid numeric value: must be >= 0" usdAmount.1
        (fun value => value < 0) ++
      rangeErrors rowNumber "price_usd" "Invalid numeric value: must be >= 0" priceUsd.1
        (fun value => value < 0) }

/-- `usd_amount / token_amount`, where no price is given. -/
def tradePrice (priceUsd : Option ℚ) (usdAmount tokenAmount : ℚ) : Except ImportException ℚ :=
  match priceUsd with
  | some price => .ok price
  | none =>
      match defaultContext.round (usdAmount / tokenAmount) with
      | .ok price => .ok price
      | .error signal => .error (.decimal signal)

/-- `_normalize_row`. -/
def ImportReaders.normalizeRow (row : ImportRow) (rowNumber : Nat) (source : String) :
    Except ImportException (Option ImportedTrade × List RowError) := do
  let values ← readers.checkRow row rowNumber
  if values.errors ≠ [] then return (none, values.errors)
  match values.txHash, values.blockTime, values.wallet, values.side, values.tokenAmount,
      values.usdAmount with
  | some txHash, some blockTime, some wallet, some side, some tokenAmount, some usdAmount =>
      let priceUsd ← tradePrice values.priceUsd usdAmount tokenAmount
      let poolAddress ← readers.optionalString (row "pool_address")
      let dex ← readers.optionalString (row "dex")
      return (some ⟨txHash, blockTime, wallet, side, tokenAmount, usdAmount, priceUsd,
        poolAddress, dex, source⟩, [])
  | _, _, _, _, _, _ => .error .assertion

/-! ## The rows of an import -/

structure ImportState where
  trades : List ImportedTrade
  errors : List RowError
  seen : List (Text × Text × TradeSide × ℚ)
  invalidRows : Nat
  duplicateRows : Nat

/-- A row of the loop of `_parse_rows`. -/
def ImportReaders.importStep (source : String) (state : ImportState) (row : Nat × ImportRow) :
    Except ImportException ImportState := do
  let (trade, rowErrors) ← readers.normalizeRow row.2 row.1 source
  if rowErrors ≠ [] then
    return { state with
      invalidRows := state.invalidRows + 1, errors := state.errors ++ rowErrors }
  match trade with
  | none => .error .assertion
  | some trade =>
      if trade.key ∈ state.seen then
        return { state with duplicateRows := state.duplicateRows + 1 }
      else
        return { state with
          seen := trade.key :: state.seen, trades := state.trades ++ [trade] }

/-- `_parse_rows`. -/
def ImportReaders.parseRows (rows : List (Nat × ImportRow)) (source : String) :
    Except ImportException ImportResult := do
  let state ← rows.foldlM (readers.importStep source) ⟨[], [], [], 0, 0⟩
  return {
    trades := state.trades
    totalRows := rows.length
    validRows := state.trades.length
    invalidRows := state.invalidRows
    duplicateRows := state.duplicateRows
    errors := state.errors }

/-- The objects of a list, numbered from one. -/
def jsonRows (rows : List (List (String × Json))) : List (Nat × ImportRow) :=
  (rows.zipIdx 1).map fun row => (row.2, Json.get row.1)

/-- `parse_json_trades`. -/
def ImportReaders.parseJsonTrades (rows : List (List (String × Json))) :
    Except ImportException ImportResult :=
  readers.parseRows (jsonRows rows) "imported_json"

/-! ## Tables -/

/-- `REQUIRED_COLUMNS`. -/
def requiredColumns : List String :=
  ["tx_hash", "block_time", "wallet", "side", "token_amount", "usd_amount"]

/-- The field size limit of the reader. -/
def fieldLimit : Nat := 131072

/-- `_normalize_header`. -/
def ImportReaders.normalizeHeader (field : Text) : Text :=
  readers.lower (strip (field.dropWhile fun c => c = '\ufeff'))

/-- `_missing_required_columns`. -/
def missingRequiredColumns (fieldnames : List Text) : List String :=
  requiredColumns.filter fun column => column.toList ∉ fieldnames

/-- The items `DictReader` assigns of a record, in order. -/
def recordItems (fieldnames record : List Text) : List (Text × Option Text) :=
  fieldnames.zipIdx.map fun field => (field.1, record[field.2]?)

/-- `row.get`: the last item of a key. -/
def recordRow (fieldnames record : List Text) : ImportRow := fun field =>
  match ((recordItems fieldnames record).reverse.lookup field.toList).join with
  | none => .null
  | some text => .str text

/-- `_is_empty_csv_row`: no column has a value, and none is left over. -/
def isEmptyCsvRow (fieldnames record : List Text) : Bool :=
  record.length ≤ fieldnames.length && fieldnames.all fun field =>
    (((recordItems fieldnames record).reverse.lookup field).join.map strip).getD [] = []

/-- The rows after the header, numbered from two. -/
def csvRows (fieldnames : List Text) (records : List (List Text)) : List (Nat × ImportRow) :=
  (((records.filter fun record => record ≠ []).zipIdx 2).filter fun record =>
    !isEmptyCsvRow fieldnames record.1).map fun record =>
      (record.2, recordRow fieldnames record.1)

/-- What a text is read as. -/
inductive CsvTable where
  | empty
  | missingColumns (columns : List String)
  | rows (rows : List (Nat × ImportRow))

/-- The table of a text; its records are read after the header is checked. -/
def ImportReaders.csvTable (text : Text) : Except ImportException CsvTable :=
  match CsvReader.read fieldLimit (strip text) with
  | ([], none) => .ok .empty
  | ([], some error) => .error (.csv error)
  | (header :: records, ended) =>
      let fieldnames := header.map readers.normalizeHeader
      if header = [] then .ok .empty
      else if missingRequiredColumns fieldnames ≠ [] then
        .ok (.missingColumns (missingRequiredColumns fieldnames))
      else
        match ended with
        | some error => .error (.csv error)
        | none => .ok (.rows (csvRows fieldnames records))

/-- `_header_error_result`. -/
def headerErrorResult (message : String) : ImportResult :=
  ⟨[], 0, 0, 0, 0, [⟨1, "header", message⟩]⟩

/-- `parse_csv_trades`. -/
def ImportReaders.parseCsvTrades (text : Text) : Except ImportException ImportResult := do
  match ← readers.csvTable text with
  | .empty => return ⟨[], 0, 0, 0, 0, []⟩
  | .missingColumns columns =>
      return headerErrorResult ("Missing required columns: " ++ ", ".intercalate columns)
  | .rows rows => readers.parseRows rows "imported_csv"

end TonTracker
