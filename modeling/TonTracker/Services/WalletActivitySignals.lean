/-
# `Services.WalletActivitySignals` — evidence signals of a run

`derive_run_signals` (`services/wallet_activity_signals.py`): six rules over
the rows of a run response, each of which reports a signal with its evidence,
insufficient evidence, or nothing.  Shares are quotients of doubles; how a
double is printed is a parameter.  The notes of the signals and of the layer
are constants and left out.
-/
import TonTracker.Lib.Binary64
import TonTracker.Lib.SlidingWindow
import TonTracker.Lib.Tally
import TonTracker.IsoText
import Mathlib.Data.List.Sort

namespace TonTracker

/-! ## The run response -/

structure RunTransfer where
  counterparty : Option String
  direction : Option String
  asset : Option String
  amount : Option String

structure RunTransaction where
  success : Option String
  timestamp : Option Text

structure RunBalance where
  asset : Option String

structure RunResponse where
  runId : Nat
  walletAddress : String
  transfers : List RunTransfer
  transactions : List RunTransaction
  balances : List RunBalance

/-- `if value`, of a string or `None`. -/
def givenString (value : Option String) : Option String := value.filter fun text => text ≠ ""

/-! ## Signals -/

inductive Confidence where
  | low
  | medium
  | high
deriving DecidableEq

/-- `_confidence_from_sample`. -/
def confidenceFromSample (sample lowMax mediumMax : Nat) : Confidence :=
  if sample ≤ lowMax then .low else if sample ≤ mediumMax then .medium else .high

inductive SignalEvidence where
  | counterparty (counterparty : String) (transferCount totalWithCounterparty : Nat) (share : ℚ)
  | outflow (counterparty : String) (outgoingTransferCount totalOutgoing : Nat) (share : ℚ)
  | failed (failed total : Nat) (share : ℚ)
  | jettons (distinctJettonCount : Nat)
  | amount (asset : Option String) (amount : String) (repeatedCount totalWithAmount : Nat)
      (share : ℚ)
  | burst (burstTransactionCount windowSeconds totalWithTimestamp : Nat) (share : ℚ)
deriving DecidableEq

structure Signal where
  code : String
  title : String
  confidence : Confidence
  observation : String
  evidence : SignalEvidence
deriving DecidableEq

/-- What a rule returns instead of `None`. -/
inductive RuleResult where
  | signal (signal : Signal)
  | insufficient (code reason : String)
deriving DecidableEq

/-- `top_count / total`, and whether it is more than a half. -/
def share (count total : Nat) : ℚ := Binary64.div count total

/-- `round(share, 4)`. -/
def shareField (count total : Nat) : ℚ := Binary64.roundDecimal (share count total) 4

section Rules

-- `repr` of a double
variable (floatText : ℚ → String)

/-- `{pct}%` of `round(share * 100, 1)`. -/
def percent (count total : Nat) : String :=
  s!"{floatText (Binary64.roundDecimal (Binary64.mul (share count total) 100) 1)}%"

/-- `_rule_single_counterparty_dominance`. -/
def ruleSingleCounterpartyDominance (run : RunResponse) : Option RuleResult :=
  let code := "single_counterparty_dominance"
  if run.transfers.isEmpty then
    some (.insufficient code "No transfer data was ingested for this run.")
  else
    let rows := run.transfers.filterMap fun transfer => givenString transfer.counterparty
    let total := ((Tally.countItems rows).map (·.2)).sum
    if total < 3 then
      some (.insufficient code (s!"Only {total} transfer(s) with a known counterparty; " ++
        "insufficient evidence to assess concentration."))
    else
      (Tally.top rows).bind fun (topCounterparty, topCount) =>
        if share topCount total ≤ 1 / 2 then none
        else some (.signal {
          code := code
          title := "Single-counterparty dominance"
          confidence := confidenceFromSample total 4 9
          observation := s!"{topCount} of {total} transfers with a known counterparty " ++
            s!"involve one pseudonymous address ({percent floatText topCount total})."
          evidence := .counterparty topCounterparty topCount total (shareField topCount total) })

/-- `_rule_high_outflow_concentration`. -/
def ruleHighOutflowConcentration (run : RunResponse) : Option RuleResult :=
  let code := "high_outflow_concentration"
  let outgoing := run.transfers.filterMap fun transfer =>
    if transfer.direction = some "out" then givenString transfer.counterparty else none
  if outgoing.length < 3 then
    some (.insufficient code (s!"Only {outgoing.length} outgoing transfer(s) with a known " ++
      "counterparty (transfer direction is often unavailable on-chain); " ++
      "insufficient evidence to assess outflow concentration."))
  else
    let total := outgoing.length
    (Tally.top outgoing).bind fun (topCounterparty, topCount) =>
      if share topCount total ≤ 1 / 2 then none
      else some (.signal {
        code := code
        title := "High outflow concentration"
        confidence := confidenceFromSample total 4 9
        observation := s!"{topCount} of {total} outgoing transfers go to one " ++
          s!"pseudonymous address ({percent floatText topCount total})."
        evidence := .outflow topCounterparty topCount total (shareField topCount total) })

/-- `share <= 0.1`; the constant is the double nearest to a tenth. -/
def failedShareLimit : ℚ := Binary64.round (1 / 10)

/-- `_rule_failed_transaction_ratio`. -/
def ruleFailedTransactionRatio (run : RunResponse) : Option RuleResult :=
  let code := "failed_transaction_ratio"
  let total := run.transactions.length
  if total < 3 then
    some (.insufficient code (s!"Only {total} transaction(s) ingested; insufficient evidence to " ++
      "assess the failure rate."))
  else
    let failed := run.transactions.countP fun tx => tx.success = some "failed"
    if share failed total ≤ failedShareLimit then none
    else some (.signal {
      code := code
      title := "Elevated failed-transaction ratio"
      confidence := confidenceFromSample total 5 19
      observation := s!"{failed} of {total} transactions failed ({percent floatText failed total})."
      evidence := .failed failed total (shareField failed total) })

/-- `asset.upper() == "TON"`; no letter but these six has one of the three in
upper case. -/
def isTon (asset : String) : Bool := asset.toList.map Char.toUpper == ['T', 'O', 'N']

/-- `_rule_many_distinct_jettons`. -/
def ruleManyDistinctJettons (run : RunResponse) : Option RuleResult :=
  let code := "many_distinct_jettons"
  if run.balances.isEmpty then
    some (.insufficient code "No balance data was ingested for this run.")
  else
    let count := run.balances.countP fun balance => !isTon (balance.asset.getD "")
    if count ≤ 10 then none
    else some (.signal {
      code := code
      title := "Many distinct jettons held"
      confidence := confidenceFromSample count 20 50
      observation := s!"The wallet holds {count} distinct non-TON jettons."
      evidence := .jettons count })

/-- `_rule_repeated_identical_transfer_amounts`. -/
def ruleRepeatedIdenticalTransferAmounts (run : RunResponse) : Option RuleResult :=
  let code := "repeated_identical_transfer_amounts"
  let rows := run.transfers.filterMap fun transfer =>
    (givenString transfer.amount).map fun amount => (transfer.asset, amount)
  let total := rows.length
  if total < 3 then
    some (.insufficient code (s!"Only {total} transfer(s) with an amount; insufficient evidence " ++
      "to assess repeated identical amounts."))
  else
    (Tally.top rows).bind fun ((topAsset, topAmount), topCount) =>
      if topCount < 3 ∨ share topCount total ≤ 1 / 2 then none
      else
        let asset := (givenString topAsset).getD "unknown asset"
        some (.signal {
        code := code
        title := "Repeated identical transfer amounts"
        confidence := confidenceFromSample total 4 9
        observation := s!"{topCount} of {total} transfers with an amount repeat the " ++
          s!"exact same value ({topAmount} {asset}, " ++
          s!"{percent floatText topCount total})."
        evidence := .amount topAsset topAmount topCount total (shareField topCount total) })

/-- `value.replace("Z", "+00:00")`. -/
def replaceZulu (text : Text) : Text :=
  text.flatMap fun c => if c = 'Z' then ['+', '0', '0', ':', '0', '0'] else [c]

/-- `_parse_timestamp`: microseconds of the instant, which may lie just
outside the years of a clock. -/
def parseTimestamp (value : Option Text) : Option Int :=
  (value.filter fun text => text ≠ []).bind fun text =>
    (fromIsoformat (replaceZulu text)).map fun parsed =>
      (parsed.wall.micros : Int) - parsed.offset.getD 0

/-- `_BURST_WINDOW_SECONDS`. -/
def burstWindowSeconds : Nat := 600

/-- The window, in microseconds. -/
def burstWidth : Int := burstWindowSeconds * microsPerSecond

/-- The parseable timestamps. -/
def runTimestamps (run : RunResponse) : List Int :=
  run.transactions.filterMap fun tx => parseTimestamp tx.timestamp

/-- The sweep of the rule, whose window is the timestamps from `start` to
`end`.  A difference in seconds, a double, exceeds 600 exactly where it does
in microseconds. -/
def burstCount (timestamps : List Int) : Nat :=
  (SlidingWindow.sweep burstWidth (timestamps.insertionSort (· ≤ ·))).best

/-- `_rule_burst_transaction_activity`. -/
def ruleBurstTransactionActivity (run : RunResponse) : Option RuleResult :=
  let code := "burst_transaction_activity"
  let timestamps := runTimestamps run
  let total := timestamps.length
  if total < 5 then
    some (.insufficient code (s!"Only {total} transaction(s) with a parseable timestamp; " ++
      "insufficient evidence to assess burst activity."))
  else
    let best := burstCount timestamps
    if best < 10 ∨ share best total ≤ 1 / 2 then none
    else some (.signal {
      code := code
      title := "Burst transaction activity"
      confidence := confidenceFromSample total 9 29
      observation := s!"{best} of {total} transactions with a timestamp fall inside one " ++
        s!"{burstWindowSeconds / 60}-minute window ({percent floatText best total})."
      evidence := .burst best burstWindowSeconds total (shareField best total) })

/-- `_RULES`. -/
def signalRules : List (RunResponse → Option RuleResult) :=
  [ruleSingleCounterpartyDominance floatText, ruleHighOutflowConcentration floatText,
    ruleFailedTransactionRatio floatText, ruleManyDistinctJettons,
    ruleRepeatedIdenticalTransferAmounts floatText, ruleBurstTransactionActivity floatText]

/-- What `derive_run_signals` returns; the list of the rules' codes and the
note are constants. -/
structure RunSignals where
  runId : Nat
  walletAddress : String
  signals : List Signal
  insufficientEvidence : List (String × String)
deriving DecidableEq

/-- `derive_run_signals`. -/
def deriveRunSignals (run : RunResponse) : RunSignals :=
  let results := (signalRules floatText).filterMap fun rule => rule run
  { runId := run.runId
    walletAddress := run.walletAddress
    signals := results.filterMap fun result => match result with
      | .signal signal => some signal
      | .insufficient _ _ => none
    insufficientEvidence := results.filterMap fun result => match result with
      | .signal _ => none
      | .insufficient code reason => some (code, reason) }

end Rules

end TonTracker
