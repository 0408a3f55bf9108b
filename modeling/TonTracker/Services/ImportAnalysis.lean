/-
# `Services.ImportAnalysis` — totals of imported trades

`analyze_imported_trades` (`services/import_analysis.py`): the trades of a
parser result summed by wallet, in the default decimal context.  A decimal of
the response is the number its text stands for; the notes are constants and
left out.
-/
import TonTracker.Lib.KeySort
import TonTracker.Services.ImportParser
import Mathlib.Data.Prod.Lex

namespace TonTracker

/-- The instant of an aware datetime, in microseconds. -/
def ParsedDatetime.instant (d : ParsedDatetime) : ℤ := d.wall.micros - d.offset.getD 0

structure WalletAccumulator where
  wallet : Text
  buyTradesCount : Nat
  sellTradesCount : Nat
  totalBoughtQty : ℚ
  totalBoughtUsd : ℚ
  totalSoldQty : ℚ
  totalSoldUsd : ℚ
  firstTradeTime : Option ParsedDatetime
  lastTradeTime : Option ParsedDatetime

def WalletAccumulator.new (wallet : Text) : WalletAccumulator :=
  ⟨wallet, 0, 0, 0, 0, 0, 0, none, none⟩

/-- The first of two times; the one there is, of two equal instants. -/
def earlier (first : Option ParsedDatetime) (time : ParsedDatetime) : ParsedDatetime :=
  match first with
  | none => time
  | some first => if time.instant < first.instant then time else first

/-- The last of two times; the one there is, of two equal instants. -/
def later (last : Option ParsedDatetime) (time : ParsedDatetime) : ParsedDatetime :=
  match last with
  | none => time
  | some last => if last.instant < time.instant then time else last

/-- The amounts of a trade, on its side. -/
def WalletAccumulator.addAmounts (acc : WalletAccumulator) (trade : ImportedTrade) :
    Except ContextDecimal.Signal WalletAccumulator :=
  match trade.side with
  | .buy => do
      let qty ← defaultContext.round (acc.totalBoughtQty + trade.tokenAmount)
      let usd ← defaultContext.round (acc.totalBoughtUsd + trade.usdAmount)
      return { acc with
        buyTradesCount := acc.buyTradesCount + 1, totalBoughtQty := qty, totalBoughtUsd := usd }
  | .sell => do
      let qty ← defaultContext.round (acc.totalSoldQty + trade.tokenAmount)
      let usd ← defaultContext.round (acc.totalSoldUsd + trade.usdAmount)
      return { acc with
        sellTradesCount := acc.sellTradesCount + 1, totalSoldQty := qty, totalSoldUsd := usd }

/-- `WalletAccumulator.add_trade`. -/
def WalletAccumulator.addTrade (acc : WalletAccumulator) (trade : ImportedTrade) :
    Except ContextDecimal.Signal WalletAccumulator := do
  let acc ← acc.addAmounts trade
  return { acc with
    firstTradeTime := some (earlier acc.firstTradeTime trade.blockTime)
    lastTradeTime := some (later acc.lastTradeTime trade.blockTime) }

/-- Adds a trade to the accumulator of its wallet, in the order the wallets
were met. -/
def addToWallet : List WalletAccumulator → ImportedTrade →
    Except ContextDecimal.Signal (List WalletAccumulator)
  | [], trade => do
      let acc ← (WalletAccumulator.new trade.wallet).addTrade trade
      return [acc]
  | acc :: rest, trade =>
      if acc.wallet = trade.wallet then do
        let acc ← acc.addTrade trade
        return acc :: rest
      else do
        let rest ← addToWallet rest trade
        return acc :: rest

/-! ## Rows -/

inductive WalletStatus where
  | holder
  | partialSeller
  | fullExit
  | sellerOnly
  | unknown
deriving DecidableEq

structure WalletRow where
  wallet : Text
  buyTradesCount : Nat
  sellTradesCount : Nat
  totalBoughtQty : ℚ
  totalBoughtUsd : ℚ
  totalSoldQty : ℚ
  totalSoldUsd : ℚ
  netHoldingQty : ℚ
  avgBuyPriceUsd : Option ℚ
  avgSellPriceUsd : Option ℚ
  realizedPnlUsd : ℚ
  realizedPnlPct : Option ℚ
  status : WalletStatus
  firstTradeTime : Option ParsedDatetime
  lastTradeTime : Option ParsedDatetime

/-- `_status`. -/
def walletStatus (bought sold net : ℚ) : WalletStatus :=
  if 0 < bought ∧ sold = 0 ∧ 0 < net then .holder
  else if 0 < bought ∧ 0 < sold ∧ 0 < net then .partialSeller
  else if 0 < bought ∧ 0 < sold ∧ net ≤ 0 then .fullExit
  else if bought = 0 ∧ 0 < sold then .sellerOnly
  else .unknown

/-- `_ratio`. -/
def totalsRatio (numerator denominator : ℚ) : Except ContextDecimal.Signal (Option ℚ) :=
  if denominator ≤ 0 then .ok none
  else some <$> defaultContext.round (numerator / denominator)

/-- `_decimal_string`: `normalize` rounds. -/
def normalizedDecimal (value : ℚ) : Except ContextDecimal.Signal ℚ :=
  if value = 0 then .ok 0 else defaultContext.round value

/-- `_decimal_string_or_none`. -/
def normalizedDecimal? (value : Option ℚ) : Except ContextDecimal.Signal (Option ℚ) :=
  match value with
  | none => .ok none
  | some value => some <$> normalizedDecimal value

/-- `realised_pnl_usd` and `realised_pnl_pct`. -/
def realisedPnl (acc : WalletAccumulator) (avgBuyPrice : Option ℚ) :
    Except ContextDecimal.Signal (ℚ × Option ℚ) :=
  let unsold : Option ℚ := if acc.sellTradesCount = 0 then some 0 else none
  match avgBuyPrice with
  | none => .ok (0, unsold)
  | some price =>
      if 0 < acc.totalSoldQty then do
        let soldCostBasis ← defaultContext.round (acc.totalSoldQty * price)
        let pnl ← defaultContext.round (acc.totalSoldUsd - soldCostBasis)
        if 0 < soldCostBasis then do
          let share ← defaultContext.round (pnl / soldCostBasis)
          let pct ← defaultContext.round (share * 100)
          return (pnl, some pct)
        else return (pnl, unsold)
      else .ok (0, unsold)

/-- `_wallet_row`. -/
def walletRow (acc : WalletAccumulator) : Except ContextDecimal.Signal WalletRow := do
  let net ← defaultContext.round (acc.totalBoughtQty - acc.totalSoldQty)
  let avgBuyPrice ← totalsRatio acc.totalBoughtUsd acc.totalBoughtQty
  let avgSellPrice ← totalsRatio acc.totalSoldUsd acc.totalSoldQty
  let (pnl, pct) ← realisedPnl acc avgBuyPrice
  return {
    wallet := acc.wallet
    buyTradesCount := acc.buyTradesCount
    sellTradesCount := acc.sellTradesCount
    totalBoughtQty := ← normalizedDecimal acc.totalBoughtQty
    totalBoughtUsd := ← normalizedDecimal acc.totalBoughtUsd
    totalSoldQty := ← normalizedDecimal acc.totalSoldQty
    totalSoldUsd := ← normalizedDecimal acc.totalSoldUsd
    netHoldingQty := ← normalizedDecimal net
    avgBuyPriceUsd := ← normalizedDecimal? avgBuyPrice
    avgSellPriceUsd := ← normalizedDecimal? avgSellPrice
    realizedPnlUsd := ← normalizedDecimal pnl
    realizedPnlPct := ← normalizedDecimal? pct
    status := walletStatus acc.totalBoughtQty acc.totalSoldQty net
    firstTradeTime := acc.firstTradeTime
    lastTradeTime := acc.lastTradeTime }

/-- The sort key of the rows. -/
def WalletRow.sortKey (row : WalletRow) : ℚ ×ₗ Text := toLex (-row.totalBoughtUsd, row.wallet)

/-- `_build_wallet_rows`. -/
def buildWalletRows (trades : List ImportedTrade) :
    Except ContextDecimal.Signal (List WalletRow) := do
  let accumulators ← trades.foldlM addToWallet []
  let rows ← accumulators.mapM walletRow
  return KeySort.sortBy (fun a b => decide (a ≤ b)) WalletRow.sortKey rows

/-! ## The analysis -/

structure ImportAnalysis where
  totalRows : Nat
  validRows : Nat
  invalidRows : Nat
  duplicateRows : Nat
  walletsCount : Nat
  buyTradesCount : Nat
  sellTradesCount : Nat
  errors : List RowError
  wallets : List WalletRow
  tradesPreview : List ImportedTrade
  hasMoreWallets : Bool
  source : String
  pnlConfidence : String

/-- `_json_trade`. -/
def jsonTrade (trade : ImportedTrade) : Except ContextDecimal.Signal ImportedTrade := do
  return { trade with
    tokenAmount := ← normalizedDecimal trade.tokenAmount
    usdAmount := ← normalizedDecimal trade.usdAmount
    priceUsd := ← normalizedDecimal trade.priceUsd }

/-- `analyze_imported_trades`. -/
def analyzeImportedTrades (parsed : ImportResult) (previewLimit : Nat) (source : String) :
    Except ContextDecimal.Signal ImportAnalysis := do
  let wallets ← buildWalletRows parsed.trades
  let tradesPreview ← (parsed.trades.take previewLimit).mapM jsonTrade
  return {
    totalRows := parsed.totalRows
    validRows := parsed.validRows
    invalidRows := parsed.invalidRows
    duplicateRows := parsed.duplicateRows
    walletsCount := wallets.length
    buyTradesCount := parsed.trades.countP fun trade => trade.side = .buy
    sellTradesCount := parsed.trades.countP fun trade => trade.side = .sell
    errors := parsed.errors
    wallets := wallets.take previewLimit
    tradesPreview := tradesPreview
    hasMoreWallets := previewLimit < wallets.length
    source := source
    pnlConfidence :=
      if parsed.invalidRows = 0 ∧ parsed.duplicateRows = 0 then "high" else "medium" }

end TonTracker
