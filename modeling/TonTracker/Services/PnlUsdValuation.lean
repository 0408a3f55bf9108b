/-
# `Services.PnlUsdValuation` — the estimate valued at historical prices

`derive_run_pnl_preview_with_historical` (`services/pnl_usd_valuation.py`):
the TON legs of the estimate at the nearest historical point, the in-window
average cost of each token, and the one place where a preview is labelled
real.  The price source is an argument: called with the first and the last
timestamp of the legs, it returns points or raises.
-/
import TonTracker.Services.PnlPreview

namespace TonTracker

open ContextDecimal (Decimal Signal)

/-! ## Points -/

/-- `MATCH_TOLERANCE_SECONDS`, in microseconds. -/
def matchTolerance : ℤ := 21600 * 1000000

inductive PriceStatus where
  | mock
  | real
  | unavailable
deriving DecidableEq

structure PricePoint where
  timestamp : Option Text
  priceUsd : Option Text
deriving DecidableEq

/-- What the price source returns. -/
structure HistoricalPrices where
  points : List PricePoint
  sourceStatus : PriceStatus
  warnings : List Text

inductive PriceRaised where
  | valueError (message : Text)
  | other

/-- `build_historical_prices_preview("ton", …)` of the window around the
first and the last timestamp. -/
abbrev PriceSource : Type := ℤ → ℤ → Except PriceRaised HistoricalPrices

/-- `_parse_ts`. -/
def PnlReaders.timestamp? (readers : PnlReaders) (value : Option Text) : Option ℤ :=
  value.bind fun text => if text = [] then none else readers.timestamp text

/-- The points with a timestamp and a price. -/
def pricePoints (readers : PnlReaders) (points : List PricePoint) : List (ℤ × Decimal) :=
  points.filterMap fun point => do
    let timestamp ← readers.timestamp? point.timestamp
    let price ← readers.decimal? point.priceUsd
    return (timestamp, price)

/-- The loop of `_nearest_price`: the first point of the least distance. -/
def nearestPoint (points : List (ℤ × Decimal)) (timestamp : ℤ) : Option (ℤ × Decimal) :=
  points.foldl (fun best point =>
    match best with
    | none => some ((point.1 - timestamp).natAbs, point.2)
    | some least =>
        if ((point.1 - timestamp).natAbs : ℤ) < least.1 then
          some ((point.1 - timestamp).natAbs, point.2) else some least) none

/-- `_nearest_price`. -/
def nearestPrice (points : List (ℤ × Decimal)) (timestamp : ℤ) : Option Decimal :=
  (nearestPoint points timestamp).bind fun best =>
    if matchTolerance < best.1 then none else some best.2

/-! ## Legs -/

/-- A leg with its timestamp and the recorded fee. -/
structure UsdLeg where
  leg : TonLeg
  timestamp : Option ℤ
  feeTon : Option Decimal
deriving DecidableEq

/-- The legs of a run. -/
def usdLegs (readers : PnlReaders) (run : PnlRun) : List UsdLeg :=
  run.swaps.filterMap fun swap => (tonLeg readers swap).map fun leg =>
    ⟨leg, readers.timestamp? swap.timestamp, feeOf readers run swap⟩

/-- A leg with its price. -/
structure PricedLeg where
  leg : TonLeg
  timestamp : ℤ
  feeTon : Option Decimal
  priceUsd : Decimal
deriving DecidableEq

/-- A leg where it has a point nearby. -/
def UsdLeg.priced (points : List (ℤ × Decimal)) (leg : UsdLeg) : Option PricedLeg := do
  let timestamp ← leg.timestamp
  let price ← nearestPrice points timestamp
  return ⟨leg.leg, timestamp, leg.feeTon, price⟩

/-! ## Cost basis -/

/-- The variables of one token. -/
structure CostLedger where
  qtyHeld : Decimal
  costTotal : Decimal
  proceedsTotal : Decimal
  basisTotal : Decimal
  realized : Decimal
  sellCount : Nat

def CostLedger.empty : CostLedger := ⟨.zero, .zero, .zero, .zero, .zero, 0⟩

def LegSide.text : LegSide → String
  | .buy => "buy"
  | .sell => "sell"

/-- A leg of positive quantity, bought or covered. -/
def CostLedger.apply (s : CostLedger) (leg : PricedLeg) (qty : Decimal) :
    Except Signal (CostLedger ⊕ Text) := do
  let feeUsd ← (leg.feeTon.getD .zero).mul defaultContext leg.priceUsd
  let usdValue ← leg.leg.tonAmount.mul defaultContext leg.priceUsd
  match leg.leg.side with
  | .buy => do
      let held ← s.qtyHeld.add defaultContext qty
      let spent ← usdValue.add defaultContext feeUsd
      let cost ← s.costTotal.add defaultContext spent
      return .inl { s with qtyHeld := held, costTotal := cost }
  | .sell => do
      if ← s.qtyHeld.lt qty then
        return .inr ("Sold quantity exceeds in-window acquisitions; the cost basis of the sold " ++
          "tokens lies outside this run's window.").toList
      let averageCost ← s.costTotal.div defaultContext s.qtyHeld
      let basis ← averageCost.mul defaultContext qty
      let proceeds ← usdValue.sub defaultContext feeUsd
      let gain ← proceeds.sub defaultContext basis
      let realized ← s.realized.add defaultContext gain
      let proceedsTotal ← s.proceedsTotal.add defaultContext proceeds
      let basisTotal ← s.basisTotal.add defaultContext basis
      let held ← s.qtyHeld.sub defaultContext qty
      let cost ← s.costTotal.sub defaultContext basis
      return .inl ⟨held, cost, proceedsTotal, basisTotal, realized, s.sellCount + 1⟩

/-- The loop over the legs of one token: the ledger at its end, or at the
leg that fails, with the reason. -/
def costBasisLegs : CostLedger → List PricedLeg → Except Signal (CostLedger × Option Text)
  | s, [] => .ok (s, none)
  | s, leg :: legs => do
      let missing := ("A ".toList ++ leg.leg.side.text.toList ++
        " leg lacks a positive token quantity; in-window cost basis cannot be computed.".toList)
      match leg.leg.tokenQty with
      | none => return (s, some missing)
      | some qty =>
          if ← Decimal.zero.lt qty then
            match ← s.apply leg qty with
            | .inl next => costBasisLegs next legs
            | .inr failure => return ({ s with sellCount := s.sellCount + 1 }, some failure)
          else return (s, some missing)

/-- A record of `realized_pnl`; the amounts are those of a computed token. -/
structure CostBasisRecord where
  token : Text
  reason : Option Text
  sellLegCount : Nat
  computed : Option CostLedger

/-- The tokens of the legs, sorted. -/
def legTokens (legs : List PricedLeg) : List Text :=
  (legs.map (·.leg.token)).dedup.mergeSort fun a b => decide (a ≤ b)

/-- The legs of a token by their timestamps. -/
def legsOf (legs : List PricedLeg) (token : Text) : List PricedLeg :=
  (legs.filter fun leg => leg.leg.token = token).mergeSort fun a b =>
    decide (a.timestamp ≤ b.timestamp)

/-- One round of the loop over the tokens. -/
def costBasisRecord (legs : List PricedLeg) (token : Text) : Except Signal CostBasisRecord := do
  let (s, failure) ← costBasisLegs .empty (legsOf legs token)
  return ⟨token, failure, s.sellCount, if failure.isNone then some s else none⟩

/-- What `_compute_in_window_cost_basis` returns. -/
structure CostBasis where
  records : List CostBasisRecord
  available : Bool
  reason : Option Text
  total : Option Decimal

/-- `_compute_in_window_cost_basis`. -/
def computeInWindowCostBasis (legs : List PricedLeg) : Except Signal CostBasis := do
  let records ← (legTokens legs).mapM (costBasisRecord legs)
  let computed := records.filterMap (·.computed)
  let total ← sumDecimals (computed.map (·.realized))
  let unavailable := records.length - computed.length
  let available := decide (0 < computed.length) && decide (unavailable = 0)
  return {
    records := records
    available := available
    reason := if available then none else
      some ("In-window cost basis is unavailable for ".toList ++ countText unavailable ++
        " of ".toList ++ countText records.length ++
        " token(s); per-token reasons are listed in realized_pnl.".toList)
    total := if 0 < computed.length then some total else none }

/-! ## The enriched preview -/

/-- `_evidence`. -/
structure PricingEvidence where
  sourceStatus : PriceStatus
  pointsFetched : Nat
  swapsMatched : Nat
  swapsUnmatched : Nat
  note : Text

structure UsdFlow where
  token : Text
  usdSpent : Decimal
  usdReceived : Decimal
  matchedSwapCount : Nat

/-- An entry of `usd_flows`. -/
structure UsdFlowRecord where
  flow : UsdFlow
  netUsdFlow : Decimal

structure UsdTotals where
  usdFlows : List UsdFlowRecord
  totalUsdSpent : Decimal
  totalUsdReceived : Decimal
  netUsdFlow : Decimal

structure UsdPreview where
  preview : PnlPreview
  historicalPricing : PricingEvidence
  costBasis : Option CostBasis
  totals : Option UsdTotals

/-- `_set_requirement`. -/
def PnlPreview.setRequirement (preview : PnlPreview) (code : RequirementCode) (available : Bool)
    (reason : Option Text) : PnlPreview :=
  let requirements := setRequirementEntry preview.requirements code available reason
  { preview with
    requirements := requirements
    missingEvidence := TonTracker.missingEvidence requirements
    realPnlLocked := TonTracker.realPnlLocked requirements }

/-- A matched leg in the flow of its token. -/
def PricedLeg.flow (leg : PricedLeg) (flow : UsdFlow) : Except Signal UsdFlow := do
  let usdValue ← leg.leg.tonAmount.mul defaultContext leg.priceUsd
  match leg.leg.side with
  | .buy => do
      let spent ← flow.usdSpent.add defaultContext usdValue
      return { flow with usdSpent := spent, matchedSwapCount := flow.matchedSwapCount + 1 }
  | .sell => do
      let received ← flow.usdReceived.add defaultContext usdValue
      return { flow with usdReceived := received, matchedSwapCount := flow.matchedSwapCount + 1 }

/-- The flows of the matched legs, and their totals. -/
def usdTotals (legs : List PricedLeg) : Except Signal UsdTotals := do
  let flows ← legs.foldlM (fun flows leg =>
    updateFlow (·.token) (fun token => (⟨token, .zero, .zero, 0⟩ : UsdFlow)) leg.leg.token leg.flow
      flows) []
  let flows := sortFlows (·.token) flows
  let records ← flows.mapM fun flow => do
    return (⟨flow, ← flow.usdReceived.sub defaultContext flow.usdSpent⟩ : UsdFlowRecord)
  let spent ← sumDecimals (flows.map (·.usdSpent))
  let received ← sumDecimals (flows.map (·.usdReceived))
  return ⟨records, spent, received, ← received.sub defaultContext spent⟩

/-- What ends the derivation without a preview. -/
inductive PnlRaised where
  | signal (signal : Signal)
  | priceSource

def liftSignal {α : Type} (x : Except Signal α) : Except PnlRaised α := x.mapError .signal

def noTimestampText : Text :=
  "No swap has a parseable timestamp to match against historical prices.".toList

/-- The requirements after the prices are matched. -/
def enrichedPreview (preview : PnlPreview) (legs : List UsdLeg) (priced : List PricedLeg)
    (status : PriceStatus) : Except Signal (PnlPreview × Option CostBasis) :=
  let available := decide (priced.length = legs.length) && decide (0 < priced.length) &&
    decide (status ≠ .unavailable)
  let reason := if available then none else
    some ("Only ".toList ++ countText priced.length ++ " of ".toList ++ countText legs.length ++
      " TON-side swap legs have a historical price point within 6h.".toList)
  let preview := preview.setRequirement .historicalPrices available reason
  if available then do
    let basis ← computeInWindowCostBasis priced
    return (preview.setRequirement .costBasis basis.available basis.reason, some basis)
  else
    return (preview.setRequirement .costBasis false
      (some "Cost basis needs a matched historical price for every swap leg.".toList), none)

/-- The label. -/
def PnlPreview.labelled (preview : PnlPreview) : PnlPreview :=
  if preview.realPnlLocked then preview
  else { preview with pnlMode := .realPnl, isRealPnl := true, confidence := .high }

/-- `derive_run_pnl_preview_with_historical`. -/
def deriveRunPnlPreviewWithHistorical (readers : PnlReaders) (prices : PriceSource)
    (run : PnlRun) : Except PnlRaised UsdPreview := do
  let preview ← liftSignal (deriveRunPnlPreview readers run)
  let legs := usdLegs readers run
  let timestamps : List ℤ := legs.filterMap (·.timestamp)
  match legs, timestamps.min?, timestamps.max? with
  | [], _, _ =>
      return ⟨preview, ⟨.unavailable, 0, 0, 0,
        "No TON-side swap legs exist to value in USD.".toList⟩, none, none⟩
  | _, some first, some last =>
      match prices first last with
      | .error .other => .error .priceSource
      | .error (.valueError message) =>
          let preview := preview.setRequirement .historicalPrices false (some message)
          return ⟨{ preview with warnings := preview.warnings ++
              ["Historical price lookup failed: ".toList ++ message ++
                " No fallback data is substituted.".toList] },
            ⟨.unavailable, 0, 0, legs.length, message⟩, none, none⟩
      | .ok found =>
          let points := pricePoints readers found.points
          let priced := legs.filterMap (·.priced points)
          let totals ← liftSignal (usdTotals priced)
          let (preview, basis) ← liftSignal
            (enrichedPreview preview legs priced found.sourceStatus)
          let unmatched := legs.length - priced.length
          let preview := preview.labelled
          return ⟨{ preview with warnings := preview.warnings ++
              (if unmatched ≠ 0 then
                [countText unmatched ++ (" TON-side swap leg(s) have no historical price point " ++
                  "within the matching tolerance; their USD value is not estimated.").toList]
              else []) ++ found.warnings },
            ⟨found.sourceStatus, points.length, priced.length, unmatched,
              ("USD figures value only the TON leg of matched swaps at the nearest historical " ++
                "TON/USD point (6h tolerance). Whether they amount to Real PnL is decided " ++
                "solely by the evidence requirement checklist.").toList⟩,
            basis, some totals⟩
  | _, _, _ =>
      return ⟨preview.setRequirement .historicalPrices false (some noTimestampText),
        ⟨.unavailable, 0, 0, legs.length, noTimestampText⟩, none, none⟩

end TonTracker
