/-
# `Services.PnlPreview` — the TON-denominated estimate of one run

`derive_run_pnl_preview` (`services/pnl_preview.py`): the swap rows of a
run that have one TON side, their flows by token, and the checklist that
keeps Real PnL locked.  Decimals are computed in Python's default context.
How a text is upper-cased, read as a decimal and read as a timestamp is an
argument (`PnlReaders`); amounts are kept as decimals where the source
prints them.
-/
import TonTracker.Lib.ContextDecimal
import TonTracker.Services.Documents
import Mathlib.Data.Char
import Mathlib.Data.List.Lex

namespace TonTracker

open ContextDecimal (Decimal Signal Context)

/-! ## Rows -/

/-- `decimal.DefaultContext`. -/
def defaultContext : Context := ⟨28, -999999, 999999⟩

/-- `str.upper`, `Decimal(str(value))` and `datetime.fromisoformat`, the last
as microseconds. -/
structure PnlReaders where
  upper : Text → Text
  decimal : Text → Option Decimal
  timestamp : Text → Option ℤ

structure PnlTransaction where
  txHash : Option Text
  feeTon : Option Text
deriving DecidableEq

structure PnlSwap where
  tokenIn : Option Text
  tokenOut : Option Text
  amountIn : Option Text
  amountOut : Option Text
  timestamp : Option Text
  txHash : Option Text
deriving DecidableEq

/-- The part of a run response the estimates read. -/
structure PnlRun where
  transactions : List PnlTransaction
  swaps : List PnlSwap
deriving DecidableEq

/-- `_decimal`. -/
def PnlReaders.decimal? (readers : PnlReaders) (value : Option Text) : Option Decimal :=
  value.bind fun text => if text = [] then none else readers.decimal text

/-! ## Requirements -/

inductive RequirementCode where
  | transactionHistory
  | swapEvidence
  | historicalPrices
  | costBasis
  | feeHandling
deriving DecidableEq

def RequirementCode.text : RequirementCode → String
  | transactionHistory => "transaction_history"
  | swapEvidence => "swap_evidence"
  | historicalPrices => "historical_prices"
  | costBasis => "cost_basis"
  | feeHandling => "fee_handling"

structure Requirement where
  code : RequirementCode
  available : Bool
  reason : Option Text
deriving DecidableEq

/-- `build_real_pnl_requirements`. -/
def buildRealPnlRequirements (run : PnlRun) : List Requirement :=
  let hasTransactions := !run.transactions.isEmpty
  let hasSwaps := !run.swaps.isEmpty
  [⟨.transactionHistory, hasTransactions,
      if hasTransactions then none
      else some "No transaction rows were ingested for this run.".toList⟩,
    ⟨.swapEvidence, hasSwaps,
      if hasSwaps then none else some "No DEX swap rows were ingested for this run.".toList⟩,
    ⟨.historicalPrices, false,
      some "Historical enrichment was not requested for this preview.".toList⟩,
    ⟨.costBasis, false, some ("Cost basis requires historical enrichment and sufficient " ++
      "in-window acquisition evidence.").toList⟩,
    ⟨.feeHandling, false, some ("Transaction fees are recorded but not yet incorporated into " ++
      "PnL math.").toList⟩]

/-- `_set_requirement_entry`. -/
def setRequirementEntry (requirements : List Requirement) (code : RequirementCode)
    (available : Bool) (reason : Option Text) : List Requirement :=
  requirements.map fun requirement =>
    if requirement.code = code then { requirement with available := available, reason := reason }
    else requirement

/-- `missing_evidence`. -/
def missingEvidence (requirements : List Requirement) : List Text :=
  (requirements.filter fun requirement => !requirement.available).map fun requirement =>
    requirement.code.text.toList ++ ": ".toList ++ requirement.reason.getD "None".toList

/-- `real_pnl_locked`. -/
def realPnlLocked (requirements : List Requirement) : Bool :=
  requirements.any fun requirement => !requirement.available

/-! ## Legs -/

inductive LegSide where
  | buy
  | sell
deriving DecidableEq

/-- A swap row with one TON side. -/
structure TonLeg where
  token : Text
  side : LegSide
  tonAmount : Decimal
  tokenQty : Option Decimal
deriving DecidableEq

def tonText : Text := "TON".toList

/-- The branches of the loops over the swap rows; the other rows are left
out. -/
def tonLeg (readers : PnlReaders) (swap : PnlSwap) : Option TonLeg :=
  let tokenIn := readers.upper (swap.tokenIn.getD [])
  let tokenOut := readers.upper (swap.tokenOut.getD [])
  let amountIn := readers.decimal? swap.amountIn
  let amountOut := readers.decimal? swap.amountOut
  if tokenIn = tonText ∧ tokenOut ≠ [] ∧ tokenOut ≠ tonText ∧ amountIn.any (·.isTruthy) then
    amountIn.map fun amount => ⟨swap.tokenOut.getD [], .buy, amount, amountOut⟩
  else if tokenOut = tonText ∧ tokenIn ≠ [] ∧ tokenIn ≠ tonText ∧ amountOut.any (·.isTruthy) then
    amountOut.map fun amount => ⟨swap.tokenIn.getD [], .sell, amount, amountIn⟩
  else none

/-- `fee_by_tx_hash`, the entries in the order they are set. -/
def feeByTxHash (readers : PnlReaders) (run : PnlRun) : List (Text × Decimal) :=
  run.transactions.filterMap fun transaction => do
    let txHash ← transaction.txHash
    let fee ← readers.decimal? transaction.feeTon
    if txHash = [] then none else some (txHash, fee)

/-- `fee_by_tx_hash.get(swap.get("tx_hash") or "")`; the last entry of a hash
stays. -/
def feeOf (readers : PnlReaders) (run : PnlRun) (swap : PnlSwap) : Option Decimal :=
  ((feeByTxHash readers run).reverse.find? fun entry => entry.1 = swap.txHash.getD []).map (·.2)

/-! ## The estimate -/

structure TokenFlow where
  token : Text
  buySwapCount : Nat
  sellSwapCount : Nat
  tokenBoughtQty : Decimal
  tokenSoldQty : Decimal
  tonSpent : Decimal
  tonReceived : Decimal
  feeTon : Decimal
deriving DecidableEq

/-- `_empty_flow`. -/
def emptyFlow (token : Text) : TokenFlow := ⟨token, 0, 0, .zero, .zero, .zero, .zero, .zero⟩

/-- `flows.setdefault(token, …)` and the changes to the flow. -/
def updateFlow {σ F : Type} (key : F → Text) (empty : Text → F) (token : Text)
    (change : F → Except σ F) : List F → Except σ (List F)
  | [] => do return [← change (empty token)]
  | flow :: flows =>
      if key flow = token then do return (← change flow) :: flows
      else do return flow :: (← updateFlow key empty token change flows)

structure PreviewLoop where
  flows : List TokenFlow
  swapsUsed : Nat
  swapsExcluded : Nat
  partialQuantityRows : Nat
  feesMatched : Nat

/-- `x += y` where `y` may be missing. -/
def addOptional (x : Decimal) : Option Decimal → Except Signal Decimal
  | none => .ok x
  | some y => x.add defaultContext y

/-- A used row in the flow of its token. -/
def TonLeg.flow (leg : TonLeg) (fee : Option Decimal) (flow : TokenFlow) :
    Except Signal TokenFlow := do
  let flow ← match leg.side with
    | .buy => do
        let spent ← flow.tonSpent.add defaultContext leg.tonAmount
        let bought ← addOptional flow.tokenBoughtQty leg.tokenQty
        pure { flow with
          buySwapCount := flow.buySwapCount + 1, tonSpent := spent, tokenBoughtQty := bought }
    | .sell => do
        let received ← flow.tonReceived.add defaultContext leg.tonAmount
        let sold ← addOptional flow.tokenSoldQty leg.tokenQty
        pure { flow with
          sellSwapCount := flow.sellSwapCount + 1, tonReceived := received, tokenSoldQty := sold }
  let fees ← addOptional flow.feeTon fee
  return { flow with feeTon := fees }

/-- The body of the loop over the swap rows. -/
def previewRow (readers : PnlReaders) (run : PnlRun) (s : PreviewLoop) (swap : PnlSwap) :
    Except Signal PreviewLoop :=
  match tonLeg readers swap with
  | none => .ok { s with swapsExcluded := s.swapsExcluded + 1 }
  | some leg => do
      let fee := feeOf readers run swap
      let flows ← updateFlow (·.token) emptyFlow leg.token (leg.flow fee) s.flows
      return { s with
        flows := flows
        swapsUsed := s.swapsUsed + 1
        partialQuantityRows := s.partialQuantityRows + if leg.tokenQty.isNone then 1 else 0
        feesMatched := s.feesMatched + if fee.isSome then 1 else 0 }

/-- The entry of `fee_handling`. -/
def feeRequirement (s : PreviewLoop) (requirements : List Requirement) : List Requirement :=
  if s.swapsUsed = 0 then
    setRequirementEntry requirements .feeHandling false
      (some "No usable swap rows exist to attach recorded fees to.".toList)
  else if s.feesMatched = s.swapsUsed then setRequirementEntry requirements .feeHandling true none
  else
    setRequirementEntry requirements .feeHandling false
      (some ("Only ".toList ++ Nat.toDigits 10 s.feesMatched ++ " of ".toList ++
        Nat.toDigits 10 s.swapsUsed ++
        " used swap rows have a recorded transaction fee.".toList))

inductive PnlMode where
  | estimatedOnchainPnl
  | realPnlLocked
  | insufficientData
  | realPnl
deriving DecidableEq

inductive PnlConfidence where
  | unavailable
  | low
  | medium
  | high
deriving DecidableEq

/-- An entry of `token_flows`. -/
structure TokenFlowRecord where
  flow : TokenFlow
  netTonFlow : Decimal
  netTonFlowAfterFees : Decimal
deriving DecidableEq

structure PnlPreview where
  pnlMode : PnlMode
  confidence : PnlConfidence
  isRealPnl : Bool
  realPnlLocked : Bool
  tokenFlows : List TokenFlowRecord
  totalTonSpent : Decimal
  totalTonReceived : Decimal
  netTonFlow : Decimal
  totalFeesTon : Decimal
  netTonFlowAfterFees : Decimal
  swapsUsed : Nat
  swapsExcluded : Nat
  requirements : List Requirement
  missingEvidence : List Text
  warnings : List Text

/-- `sorted` of the flows by their tokens. -/
def sortFlows {F : Type} (key : F → Text) (flows : List F) : List F :=
  flows.mergeSort fun a b => decide (key a ≤ key b)

def sumDecimals (values : List Decimal) : Except Signal Decimal :=
  values.foldlM (fun total value => total.add defaultContext value) .zero

def TokenFlow.record (flow : TokenFlow) : Except Signal TokenFlowRecord := do
  let net ← flow.tonReceived.sub defaultContext flow.tonSpent
  let afterFees ← net.sub defaultContext flow.feeTon
  return ⟨flow, net, afterFees⟩

/-- `n`, in a message. -/
def countText (n : Nat) : Text := Nat.toDigits 10 n

/-- The warnings of the estimate. -/
def previewWarnings (run : PnlRun) (s : PreviewLoop) : List Text :=
  (if s.swapsUsed ≠ 0 ∧ s.feesMatched ≠ s.swapsUsed then
    [countText (s.swapsUsed - s.feesMatched) ++ (" used swap row(s) have no recorded " ++
      "transaction fee; after-fee figures are partial.").toList] else []) ++
  (if s.swapsExcluded ≠ 0 then
    [countText s.swapsExcluded ++ (" swap row(s) were excluded from the estimate " ++
      "(non-TON pair or missing amounts).").toList] else []) ++
  (if s.partialQuantityRows ≠ 0 then
    [countText s.partialQuantityRows ++ (" swap row(s) lacked a token-side amount; " ++
      "token quantities are partial.").toList] else []) ++
  (if s.swapsUsed = 0 ∧ run.swaps ≠ [] then
    [("Swap rows exist but none has a TON-denominated side with amounts; no honest estimate " ++
      "is possible without historical prices.").toList] else []) ++
  (if s.swapsUsed = 0 ∧ run.swaps = [] then
    ["No DEX swap rows were ingested for this run; nothing can be estimated.".toList] else [])

/-- `derive_run_pnl_preview`. -/
def deriveRunPnlPreview (readers : PnlReaders) (run : PnlRun) : Except Signal PnlPreview := do
  let s ← run.swaps.foldlM (previewRow readers run) ⟨[], 0, 0, 0, 0⟩
  let requirements := feeRequirement s (buildRealPnlRequirements run)
  let flows := sortFlows (·.token) s.flows
  let records ← flows.mapM (·.record)
  let spent ← sumDecimals (flows.map (·.tonSpent))
  let received ← sumDecimals (flows.map (·.tonReceived))
  let fees ← sumDecimals (flows.map (·.feeTon))
  let net ← received.sub defaultContext spent
  let afterFees ← net.sub defaultContext fees
  return {
    pnlMode :=
      if 0 < s.swapsUsed then .estimatedOnchainPnl
      else if run.swaps ≠ [] then .realPnlLocked else .insufficientData
    confidence :=
      if 0 < s.swapsUsed then if s.swapsUsed < 5 then .low else .medium else .unavailable
    isRealPnl := false
    realPnlLocked := realPnlLocked requirements
    tokenFlows := records
    totalTonSpent := spent
    totalTonReceived := received
    netTonFlow := net
    totalFeesTon := fees
    netTonFlowAfterFees := afterFees
    swapsUsed := s.swapsUsed
    swapsExcluded := s.swapsExcluded
    requirements := requirements
    missingEvidence := missingEvidence requirements
    warnings := previewWarnings run s }

end TonTracker
