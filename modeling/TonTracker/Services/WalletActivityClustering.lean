/-
# `Services.WalletActivityClustering` — comparing wallets in pairs

`pair_similarity` (`services/clustering.py`) and `compare_wallet_activity`
(`services/wallet_activity_clustering.py`), which feeds it from canonical
reports of real runs, or from the rows of fixture runs.  Floats are rational
numbers; decimals are rounded as in the default context.  Warnings, notes and
other texts that no score depends on are left out.
-/
import TonTracker.Lib.Similarity
import TonTracker.Services.IngestionRun
import TonTracker.Services.PnlPreview
import TonTracker.Services.WalletNativeTonFlowObservations

namespace TonTracker

open ContextDecimal (roundHalfEven)
open ExceptFold (check present)
open Similarity (average)

/-! ## The scorer -/

inductive SimilarityFeature where
  | buyTime
  | entryPrice
  | heldTokens
  | partialSellBehavior
  | tonBalance
  | portfolioValue
deriving DecidableEq

/-- The keys of `features`. -/
def similarityFeatures : List SimilarityFeature :=
  [.buyTime, .entryPrice, .heldTokens, .partialSellBehavior, .tonBalance, .portfolioValue]

/-- `FEATURE_WEIGHTS`. -/
def featureWeights : SimilarityFeature → ℚ
  | .buyTime => 20 / 100
  | .entryPrice => 20 / 100
  | .heldTokens => 20 / 100
  | .partialSellBehavior => 15 / 100
  | .tonBalance => 10 / 100
  | .portfolioValue => 15 / 100

/-- The dictionary the scorer expects of a wallet. -/
structure ScorerFeatures where
  buyTimeOffset : ℚ
  avgBuyPrice : ℚ
  commonTokens : List Text
  soldFraction : ℚ
  tonBalance : ℚ
  portfolioValue : ℚ

/-- `_ratio_similarity`. -/
def ratioSimilarity (a b : ℚ) : ℚ :=
  let a := |a|
  let b := |b|
  if a = 0 ∧ b = 0 then 1
  else
    let hi := max a b
    if hi = 0 then 1 else min a b / hi

/-- `_time_similarity`. -/
def timeSimilarity (a b window : ℚ) : ℚ :=
  if window ≤ 0 then if a = b then 1 else 0
  else max 0 (1 - |a - b| / window)

/-- `_jaccard`. -/
def jaccard (a b : List Text) : ℚ :=
  let a := a.toFinset
  let b := b.toFinset
  if a = ∅ ∧ b = ∅ then 1 else (a ∩ b).card / (a ∪ b).card

/-- `_partial_sell_similarity`. -/
def partialSellSimilarity (a b : ℚ) : ℚ := 1 - |a - b|

/-- `features` of a pair of wallets. -/
def featureSimilarity (window : ℚ) (a b : ScorerFeatures) : SimilarityFeature → ℚ
  | .buyTime => timeSimilarity a.buyTimeOffset b.buyTimeOffset window
  | .entryPrice => ratioSimilarity a.avgBuyPrice b.avgBuyPrice
  | .heldTokens => jaccard a.commonTokens b.commonTokens
  | .partialSellBehavior => partialSellSimilarity a.soldFraction b.soldFraction
  | .tonBalance => ratioSimilarity a.tonBalance b.tonBalance
  | .portfolioValue => ratioSimilarity a.portfolioValue b.portfolioValue

/-- The score before it is rounded. -/
def exactScore (window : ℚ) (a b : ScorerFeatures) : ℚ :=
  average featureWeights (featureSimilarity window a b) similarityFeatures * 100

/-- `pair_similarity`. -/
def pairSimilarity (a b : ScorerFeatures) (window : ℚ) : ℚ :=
  roundHalfEven (exactScore window a b * 100) / 100

/-- `score_band_label`. -/
def scoreBandLabel (score : ℚ) : String :=
  if 86 ≤ score then "very high similarity, still not proof"
  else if 71 ≤ score then "likely related behavior"
  else if 51 ≤ score then "possible cluster"
  else if 26 ≤ score then "weak similarity"
  else "weak/no signal"

/-! ## Runs -/

structure ClusterSwap where
  tokenIn : Option Text
  tokenOut : Option Text
  amountIn : Option Text
  timestamp : Option Text

structure ClusterBalance where
  asset : Option Text
  balance : Option Text

/-- The part of a run response the comparison reads, with
`total_balance_usd` of its portfolio. -/
structure ClusterRun where
  walletAddress : Text
  dataMode : Text
  swaps : List ClusterSwap
  balances : List ClusterBalance
  totalBalanceUsd : Option ℚ

/-- An activity of a canonical ledger. -/
structure CanonicalActivity where
  direction : FlowDirection
  counterparty : Text
  amountBaseUnits : Nat
  unixTime : Nat

structure CanonicalLedger where
  network : Text
  walletAccount : Text
  activities : List CanonicalActivity

structure CanonicalReport where
  network : Text
  walletAccount : Text
  activityCount : Nat
  incomingCount : Nat
  outgoingCount : Nat
  incomingNanoton : Nat
  outgoingNanoton : Nat
  counterparties : List Text
  firstUnixTime : Option Nat
  lastUnixTime : Option Nat

/-- `sorted(set(values))`. -/
def sortedTexts (values : List Text) : List Text := values.eraseDups.insertionSort (· ≤ ·)

/-- `build_wallet_canonical_report`. -/
def buildWalletCanonicalReport (ledger : CanonicalLedger) : CanonicalReport :=
  let incoming := ledger.activities.filter fun row => row.direction = .incoming
  let outgoing := ledger.activities.filter fun row => row.direction = .outgoing
  { network := ledger.network
    walletAccount := ledger.walletAccount
    activityCount := ledger.activities.length
    incomingCount := incoming.length
    outgoingCount := outgoing.length
    incomingNanoton := (incoming.map fun row => row.amountBaseUnits).sum
    outgoingNanoton := (outgoing.map fun row => row.amountBaseUnits).sum
    counterparties := sortedTexts (ledger.activities.map fun row => row.counterparty)
    firstUnixTime := (ledger.activities.map fun row => row.unixTime).min?
    lastUnixTime := (ledger.activities.map fun row => row.unixTime).max? }

/-- What the comparison reads runs with: `str.upper`, the number a text
stands for, `session.get` of a run, and the canonical ledger of a run where
it has one. -/
structure ClusterStore where
  upper : Text → Text
  decimal : Text → Option ℚ
  run : Nat → Option ClusterRun
  ledger : Nat → Option CanonicalLedger

inductive CompareError where
  | tooFewRuns
  | tooManyRuns
  | runNotFound (runId : Nat)
  | mixedDataModes
  | noCanonicalLedger (runId : Nat)
  | invalidTimestamp
  | arithmetic (signal : ContextDecimal.Signal)
deriving DecidableEq

/-! ## Features -/

variable (store : ClusterStore)

/-- A result of the default context. -/
def inContext (x : ℚ) : Except CompareError ℚ :=
  match defaultContext.round x with
  | .ok rounded => .ok rounded
  | .error signal => .error (.arithmetic signal)

/-- `_dec`. -/
def ClusterStore.dec (value : Option Text) : ℚ :=
  ((value.filter fun text => text ≠ []).bind store.decimal).getD 0

/-- `_parse_iso_seconds`. -/
def parseIsoSeconds (value : Text) : Except CompareError ℚ :=
  match fromIsoformat (cleaned (strip value)) with
  | some parsed =>
      .ok (((parsed.wall.micros : ℤ) - parsed.offset.getD 0 : ℤ) / microsPerSecond - epochSeconds)
  | none => .error .invalidTimestamp

/-- `(token or "").upper() == "TON"`. -/
def ClusterStore.isTon (token : Option Text) : Bool := store.upper (token.getD []) = "TON".toList

/-- The tokens that are given and not TON. -/
def ClusterStore.touched (tokens : List (Option Text)) : List Text :=
  (tokens.filter fun token => !store.isTon token).filterMap fun token =>
    token.filter fun text => text ≠ []

/-- What is compared of a wallet. -/
structure ComparedWallet where
  runId : Nat
  walletAddress : Text
  distinctTokensTouched : List Text
  counterparties : List Text
  features : ScorerFeatures

/-- `derive_wallet_signals`. -/
structure FixtureSignals where
  runId : Nat
  walletAddress : Text
  tonBalance : ℚ
  portfolioValue : Option ℚ
  distinctTokensTouched : List Text
  buySwapCount : Nat
  sellSwapCount : Nat
  avgTonPerBuySwap : Option ℚ
  firstBuyAt : Option Text

/-- `avg_ton_per_buy_swap`. -/
def avgTonPerBuySwap (buySwaps : List ClusterSwap) : Except CompareError (Option ℚ) :=
  if buySwaps.isEmpty then .ok none
  else do
    let total ← buySwaps.foldlM (fun total s => inContext (total + store.dec s.amountIn)) 0
    some <$> inContext (total / buySwaps.length)

def deriveWalletSignals (runId : Nat) (run : ClusterRun) : Except CompareError FixtureSignals := do
  let buySwaps := run.swaps.filter fun s => store.isTon s.tokenIn
  let sellSwaps := run.swaps.filter fun s => store.isTon s.tokenOut
  let average ← avgTonPerBuySwap store buySwaps
  let timestamps := buySwaps.filterMap fun s => s.timestamp.filter fun text => text ≠ []
  return {
    runId := runId
    walletAddress := run.walletAddress
    tonBalance := ((run.balances.find? fun b => store.isTon b.asset).map fun b =>
      store.dec b.balance).getD 0
    portfolioValue := run.totalBalanceUsd
    distinctTokensTouched := sortedTexts (store.touched
      (run.swaps.flatMap (fun s => [s.tokenIn, s.tokenOut]) ++ run.balances.map fun b => b.asset))
    buySwapCount := buySwaps.length
    sellSwapCount := sellSwaps.length
    avgTonPerBuySwap := average
    firstBuyAt := (timestamps.insertionSort (· ≤ ·)).head? }

/-- `buy_time_offset_s` of `_scorer_features`. -/
def buyTimeOffset (firstBuyAt : Option Text) (t0 : ℚ) : Except CompareError ℚ :=
  match firstBuyAt with
  | none => .ok 0
  | some text => (· - t0) <$> parseIsoSeconds text

/-- `_scorer_features`. -/
def scorerFeatures (signals : FixtureSignals) (t0 : ℚ) : Except CompareError ScorerFeatures := do
  let offset ← buyTimeOffset signals.firstBuyAt t0
  let buy := signals.buySwapCount
  let sell := signals.sellSwapCount
  return {
    buyTimeOffset := offset
    avgBuyPrice := signals.avgTonPerBuySwap.getD 0
    commonTokens := signals.distinctTokensTouched
    soldFraction := if 0 < buy + sell then sell / (buy + sell : Nat) else 0
    tonBalance := signals.tonBalance
    portfolioValue := signals.portfolioValue.getD 0 }

def nanotonPerTon : ℚ := 1000000000

/-- `mean_outgoing_ton`. -/
def meanOutgoingTon (report : CanonicalReport) : Except CompareError ℚ :=
  if report.outgoingCount = 0 then .ok 0
  else do
    let mean ← inContext (report.outgoingNanoton / report.outgoingCount)
    inContext (mean / nanotonPerTon)

/-- `_derive_canonical_wallet_signals`. -/
def deriveCanonicalWalletSignals (runId : Nat) (report : CanonicalReport) :
    Except CompareError ComparedWallet := do
  let incoming := report.incomingCount
  let outgoing := report.outgoingCount
  let mean ← meanOutgoingTon report
  let net ← inContext (report.incomingNanoton - report.outgoingNanoton)
  let netTon ← inContext (net / nanotonPerTon)
  return {
    runId := runId
    walletAddress := report.walletAccount
    distinctTokensTouched :=
      if report.activityCount = 0 then [] else ["ton_native_asset_v1|".toList ++ report.network]
    counterparties := report.counterparties
    features := {
      buyTimeOffset := report.firstUnixTime.getD 0
      avgBuyPrice := mean
      commonTokens := report.counterparties
      soldFraction := if incoming + outgoing = 0 then 0 else outgoing / (incoming + outgoing : Nat)
      tonBalance := netTon
      portfolioValue := report.activityCount } }

/-! ## The comparison -/

def minWindowSeconds : ℚ := 3600

def defaultWindowSeconds : ℚ := 86400

/-- `comparison_window_seconds`. -/
def comparisonWindowSeconds (seconds : List ℚ) : ℚ :=
  if 2 ≤ seconds.length then
    max minWindowSeconds (seconds.max?.getD 0 - seconds.min?.getD 0)
  else defaultWindowSeconds

structure WalletPair where
  runIdA : Nat
  runIdB : Nat
  addressA : Text
  addressB : Text
  score : ℚ
  band : String
  sharedTokens : List Text
  sharedCounterparties : List Text

def walletPair (window : ℚ) (a b : ComparedWallet) : WalletPair :=
  let score := pairSimilarity a.features b.features window
  { runIdA := a.runId
    runIdB := b.runId
    addressA := a.walletAddress
    addressB := b.walletAddress
    score := score
    band := scoreBandLabel score
    sharedTokens := sortedTexts (a.distinctTokensTouched.filter fun token =>
      token ∈ b.distinctTokensTouched)
    sharedCounterparties := sortedTexts (a.counterparties.filter fun account =>
      account ∈ b.counterparties) }

/-- The wallets of every two positions, in order. -/
def comparedPairs : List ComparedWallet → List (ComparedWallet × ComparedWallet)
  | [] => []
  | a :: rest => rest.map (fun b => (a, b)) ++ comparedPairs rest

structure Comparison where
  wallets : List ComparedWallet
  windowSeconds : ℚ

/-- `pairs` of the response. -/
def Comparison.pairs (comparison : Comparison) : List WalletPair :=
  (comparedPairs comparison.wallets).map fun pair =>
    walletPair comparison.windowSeconds pair.1 pair.2

/-- The runs of canonical mode. -/
def compareCanonical (runs : List (Nat × ClusterRun)) : Except CompareError Comparison := do
  let reports ← runs.mapM fun run => do
    let ledger ← present (store.ledger run.1) (.noCanonicalLedger run.1)
    return (run.1, buildWalletCanonicalReport ledger)
  let wallets ← reports.mapM fun report => deriveCanonicalWalletSignals report.1 report.2
  let seconds := reports.flatMap fun report =>
    [report.2.firstUnixTime, report.2.lastUnixTime].filterMap fun value =>
      value.map fun time => (time : ℚ)
  return ⟨wallets, comparisonWindowSeconds seconds⟩

/-- The given timestamps of a run's swaps. -/
def swapSeconds (run : ClusterRun) : Except CompareError (List ℚ) :=
  (run.swaps.filterMap fun s => s.timestamp.filter fun text => text ≠ []).mapM parseIsoSeconds

/-- The runs of any other mode. -/
def compareFixtures (runs : List (Nat × ClusterRun)) : Except CompareError Comparison := do
  let signals ← runs.mapM fun run => deriveWalletSignals store run.1 run.2
  let seconds ← runs.mapM fun run => swapSeconds run.2
  let firstBuys ← (signals.filterMap fun s => s.firstBuyAt).mapM parseIsoSeconds
  let t0 := firstBuys.min?.getD 0
  let wallets ← signals.mapM fun s => do
    let features ← scorerFeatures s t0
    return ComparedWallet.mk s.runId s.walletAddress s.distinctTokensTouched [] features
  return ⟨wallets, comparisonWindowSeconds seconds.flatten⟩

/-- `compare_wallet_activity`. -/
def compareWalletActivity (runIds : List Nat) : Except CompareError Comparison := do
  let uniqueIds := runIds.eraseDups
  check (2 ≤ uniqueIds.length) .tooFewRuns
  check (uniqueIds.length ≤ 25) .tooManyRuns
  let runs ← uniqueIds.mapM fun runId => do
    let run ← present (store.run runId) (.runNotFound runId)
    return (runId, run)
  let modes := (runs.map fun run => run.2.dataMode).eraseDups
  check (modes.length ≤ 1) .mixedDataModes
  if modes = ["real".toList] then compareCanonical store runs else compareFixtures store runs

end TonTracker
