/-
# `Signals.Definitions` — signals say what they are defined to say

A share is more than a half only of a majority (`majority_of_share`), and a
majority is the top of the counts in every order of the rows; the other
rules count, and the burst rule sweeps a sorted list.  So the rows may come
in any order (`deriveRunSignals_shuffled`), a reported counterparty or
amount is the only one of most rows, and the burst count is that of the
fullest window.
-/
import TonTracker.Services.WalletActivitySignals

namespace TonTracker

variable {floatText : ℚ → String} {run run' : RunResponse}

/-! ## Shares -/

theorem majority_of_share {count total : Nat} (h : ¬ share count total ≤ 1 / 2) :
    total < 2 * count := by
  by_contra hle
  refine h (Binary64.round_le_half (by positivity) ?_)
  obtain rfl | hpos := Nat.eq_zero_or_pos total
  · norm_num
  · have hpos : (0 : ℚ) < total := by exact_mod_cast hpos
    have hle : (2 : ℚ) * count ≤ total := by exact_mod_cast Nat.not_lt.mp hle
    rw [div_le_iff₀ hpos]
    linarith

/-- A rule that reports majorities only. -/
theorem bind_top_perm {κ β : Type} [DecidableEq κ] {rows rows' : List κ} (h : rows.Perm rows')
    {f : κ × Nat → Option β} (hf : ∀ item : κ × Nat, ¬ rows.length < 2 * item.2 → f item = none) :
    (Tally.top rows).bind f = (Tally.top rows').bind f := by
  have hcount := Tally.topCount_perm h
  cases htop : Tally.top rows with
  | none =>
      rw [htop] at hcount
      rw [Option.map_eq_none_iff.mp hcount.symm]
  | some item =>
      by_cases hhalf : rows.length < 2 * item.2
      · rw [Tally.top_perm h htop hhalf]
      · rw [htop] at hcount
        obtain ⟨item', htop', hitem'⟩ := Option.map_eq_some_iff.mp hcount.symm
        rw [htop', Option.bind_some, Option.bind_some, hf item hhalf,
          hf item' (by rwa [hitem'])]

/-- What such a rule reports. -/
theorem bind_top_some {κ β : Type} [DecidableEq κ] {rows : List κ} {f : κ × Nat → Option β}
    {result : β} (hf : ∀ item : κ × Nat, ¬ rows.length < 2 * item.2 → f item = none)
    (h : (Tally.top rows).bind f = some result) : ∃ key count, f (key, count) = some result ∧
      rows.count key = count ∧ rows.length < 2 * count ∧
      ∀ key', rows.length < 2 * rows.count key' → key' = key := by
  obtain ⟨⟨key, count⟩, htop, hresult⟩ := Option.bind_eq_some_iff.mp h
  have hhalf : rows.length < 2 * count := by
    by_contra hhalf
    rw [hf _ hhalf] at hresult
    cases hresult
  obtain ⟨hcount, hunique⟩ := Tally.majority_unique htop hhalf
  exact ⟨key, count, hresult, hcount, hhalf, hunique⟩

/-! ## Order -/

/-- The same rows in another order. -/
structure Shuffled (run run' : RunResponse) : Prop where
  runId : run.runId = run'.runId
  walletAddress : run.walletAddress = run'.walletAddress
  transfers : run.transfers.Perm run'.transfers
  transactions : run.transactions.Perm run'.transactions
  balances : run.balances.Perm run'.balances

theorem isEmpty_perm {α : Type} {l l' : List α} (h : l.Perm l') : l.isEmpty = l'.isEmpty := by
  rw [Bool.eq_iff_iff, List.isEmpty_iff, List.isEmpty_iff]
  exact ⟨fun hnil => List.perm_nil.mp (hnil ▸ h.symm), fun hnil => List.perm_nil.mp (hnil ▸ h)⟩

theorem ruleSingleCounterpartyDominance_shuffled (h : Shuffled run run') :
    ruleSingleCounterpartyDominance floatText run =
      ruleSingleCounterpartyDominance floatText run' := by
  have hrows := h.transfers.filterMap fun transfer => givenString transfer.counterparty
  unfold ruleSingleCounterpartyDominance
  dsimp only
  rw [isEmpty_perm h.transfers, Tally.sum_countItems, Tally.sum_countItems, hrows.length_eq,
    bind_top_perm hrows]
  rintro ⟨key, count⟩ hhalf
  exact if_pos (by_contra fun hshare => hhalf (hrows.length_eq ▸ majority_of_share hshare))

theorem ruleHighOutflowConcentration_shuffled (h : Shuffled run run') :
    ruleHighOutflowConcentration floatText run = ruleHighOutflowConcentration floatText run' := by
  have hrows := h.transfers.filterMap fun transfer =>
    if transfer.direction = some "out" then givenString transfer.counterparty else none
  unfold ruleHighOutflowConcentration
  dsimp only
  rw [hrows.length_eq, bind_top_perm hrows]
  rintro ⟨key, count⟩ hhalf
  exact if_pos (by_contra fun hshare => hhalf (hrows.length_eq ▸ majority_of_share hshare))

theorem ruleFailedTransactionRatio_shuffled (h : Shuffled run run') :
    ruleFailedTransactionRatio floatText run = ruleFailedTransactionRatio floatText run' := by
  unfold ruleFailedTransactionRatio
  rw [h.transactions.length_eq, h.transactions.countP_eq]

theorem ruleManyDistinctJettons_shuffled (h : Shuffled run run') :
    ruleManyDistinctJettons run = ruleManyDistinctJettons run' := by
  unfold ruleManyDistinctJettons
  rw [isEmpty_perm h.balances, h.balances.countP_eq]

theorem ruleRepeatedIdenticalTransferAmounts_shuffled (h : Shuffled run run') :
    ruleRepeatedIdenticalTransferAmounts floatText run =
      ruleRepeatedIdenticalTransferAmounts floatText run' := by
  have hrows := h.transfers.filterMap fun transfer =>
    (givenString transfer.amount).map fun amount => (transfer.asset, amount)
  unfold ruleRepeatedIdenticalTransferAmounts
  dsimp only
  rw [hrows.length_eq, bind_top_perm hrows]
  rintro ⟨⟨asset, amount⟩, count⟩ hhalf
  exact if_pos (.inr (by_contra fun hshare => hhalf (hrows.length_eq ▸ majority_of_share hshare)))

theorem burstCount_perm {timestamps timestamps' : List Int} (h : timestamps.Perm timestamps') :
    burstCount timestamps = burstCount timestamps' := by
  unfold burstCount
  have hperm : (timestamps.insertionSort (· ≤ ·)).Perm (timestamps'.insertionSort (· ≤ ·)) :=
    (List.perm_insertionSort _ _).trans (h.trans (List.perm_insertionSort _ _).symm)
  have hsorted : timestamps.insertionSort (· ≤ ·) = timestamps'.insertionSort (· ≤ ·) :=
    hperm.eq_of_pairwise (fun _ _ _ _ => le_antisymm) (List.pairwise_insertionSort _ _)
      (List.pairwise_insertionSort _ _)
  rw [hsorted]

theorem ruleBurstTransactionActivity_shuffled (h : Shuffled run run') :
    ruleBurstTransactionActivity floatText run = ruleBurstTransactionActivity floatText run' := by
  have hrows : (runTimestamps run).Perm (runTimestamps run') := h.transactions.filterMap _
  unfold ruleBurstTransactionActivity
  dsimp only
  rw [hrows.length_eq, burstCount_perm hrows]

theorem deriveRunSignals_shuffled (h : Shuffled run run') :
    deriveRunSignals floatText run = deriveRunSignals floatText run' := by
  have hrules : ∀ rule ∈ signalRules floatText, rule run = rule run' := by
    intro rule hrule
    simp only [signalRules, List.mem_cons, List.not_mem_nil, or_false] at hrule
    rcases hrule with rfl | rfl | rfl | rfl | rfl | rfl
    · exact ruleSingleCounterpartyDominance_shuffled h
    · exact ruleHighOutflowConcentration_shuffled h
    · exact ruleFailedTransactionRatio_shuffled h
    · exact ruleManyDistinctJettons_shuffled h
    · exact ruleRepeatedIdenticalTransferAmounts_shuffled h
    · exact ruleBurstTransactionActivity_shuffled h
  unfold deriveRunSignals
  dsimp only
  rw [h.runId, h.walletAddress, List.filterMap_congr hrules]

/-! ## Reports -/

/-- How many parseable timestamps lie in the window of 600 seconds from an
instant. -/
def timestampsWithin (run : RunResponse) (start : Int) : Nat :=
  SlidingWindow.countWithin burstWidth start (runTimestamps run)

/-- What the evidence of a signal claims of the run: its total counts the
rows of the rule, a reported counterparty or amount occurs as often as it
says and is the only one in most rows, and the burst is the fullest window. -/
def SignalEvidence.Holds (run : RunResponse) : SignalEvidence → Prop
  | .counterparty key count total _ =>
      let rows := run.transfers.filterMap fun transfer => givenString transfer.counterparty
      total = rows.length ∧ Tally.occurrences rows key = count ∧ total < 2 * count ∧
        ∀ key', total < 2 * Tally.occurrences rows key' → key' = key
  | .outflow key count total _ =>
      let rows := run.transfers.filterMap fun transfer =>
        if transfer.direction = some "out" then givenString transfer.counterparty else none
      total = rows.length ∧ Tally.occurrences rows key = count ∧ total < 2 * count ∧
        ∀ key', total < 2 * Tally.occurrences rows key' → key' = key
  | .failed count total _ =>
      total = run.transactions.length ∧
        count = run.transactions.countP fun tx => tx.success = some "failed"
  | .jettons count => count = run.balances.countP fun balance => !isTon (balance.asset.getD "")
  | .amount asset value count total _ =>
      let rows := run.transfers.filterMap fun transfer =>
        (givenString transfer.amount).map fun value => (transfer.asset, value)
      total = rows.length ∧ Tally.occurrences rows (asset, value) = count ∧ total < 2 * count ∧
        ∀ key', total < 2 * Tally.occurrences rows key' → key' = (asset, value)
  | .burst count window total _ =>
      window = burstWindowSeconds ∧ total = (runTimestamps run).length ∧
        IsGreatest { n | ∃ start, timestampsWithin run start = n } count

theorem burstCount_isGreatest (h : runTimestamps run ≠ []) :
    IsGreatest { n | ∃ start, timestampsWithin run start = n }
      (burstCount (runTimestamps run)) := by
  have hperm := List.perm_insertionSort (· ≤ ·) (runTimestamps run)
  have hsorted := List.pairwise_insertionSort (· ≤ ·) (runTimestamps run)
  have hwidth : 0 ≤ burstWidth := by decide
  have hgreatest := SlidingWindow.sweep_isGreatest hsorted
    (fun hnil => h (List.perm_nil.mp (hnil ▸ hperm.symm))) hwidth
  have hsets : { n | ∃ start, timestampsWithin run start = n } = { n | ∃ start,
      SlidingWindow.countWithin burstWidth start
        ((runTimestamps run).insertionSort (· ≤ ·)) = n } := by
    ext n
    simp only [Set.mem_ofPred_eq, timestampsWithin, SlidingWindow.countWithin_perm hperm]
  rw [hsets]
  exact hgreatest

example : burstCount [600000001, 0, 600000000] = 2 := by decide

theorem ruleSingleCounterpartyDominance_holds {signal : Signal}
    (h : ruleSingleCounterpartyDominance floatText run = some (.signal signal)) :
    signal.evidence.Holds run := by
  unfold ruleSingleCounterpartyDominance at h
  dsimp only at h
  rw [Tally.sum_countItems] at h
  split at h
  · cases h
  · split at h
    · cases h
    · obtain ⟨key, count, hresult, hcount, hhalf, hunique⟩ := bind_top_some (fun item hitem =>
        if_pos (by_contra fun hshare => hitem (majority_of_share hshare))) h
      split at hresult
      · cases hresult
      · cases hresult
        exact ⟨rfl, hcount, hhalf, hunique⟩

theorem ruleHighOutflowConcentration_holds {signal : Signal}
    (h : ruleHighOutflowConcentration floatText run = some (.signal signal)) :
    signal.evidence.Holds run := by
  unfold ruleHighOutflowConcentration at h
  dsimp only at h
  split at h
  · cases h
  · obtain ⟨key, count, hresult, hcount, hhalf, hunique⟩ := bind_top_some (fun item hitem =>
      if_pos (by_contra fun hshare => hitem (majority_of_share hshare))) h
    split at hresult
    · cases hresult
    · cases hresult
      exact ⟨rfl, hcount, hhalf, hunique⟩

theorem ruleFailedTransactionRatio_holds {signal : Signal}
    (h : ruleFailedTransactionRatio floatText run = some (.signal signal)) :
    signal.evidence.Holds run := by
  unfold ruleFailedTransactionRatio at h
  dsimp only at h
  split at h
  · cases h
  · split at h
    · cases h
    · cases h
      exact ⟨rfl, rfl⟩

theorem ruleManyDistinctJettons_holds {signal : Signal}
    (h : ruleManyDistinctJettons run = some (.signal signal)) : signal.evidence.Holds run := by
  unfold ruleManyDistinctJettons at h
  dsimp only at h
  split at h
  · cases h
  · split at h
    · cases h
    · cases h
      exact rfl

theorem ruleRepeatedIdenticalTransferAmounts_holds {signal : Signal}
    (h : ruleRepeatedIdenticalTransferAmounts floatText run = some (.signal signal)) :
    signal.evidence.Holds run := by
  unfold ruleRepeatedIdenticalTransferAmounts at h
  dsimp only at h
  split at h
  · cases h
  · obtain ⟨key, count, hresult, hcount, hhalf, hunique⟩ := bind_top_some (fun item hitem =>
      if_pos (.inr (by_contra fun hshare => hitem (majority_of_share hshare)))) h
    split at hresult
    · cases hresult
    · cases hresult
      exact ⟨rfl, hcount, hhalf, hunique⟩

theorem ruleBurstTransactionActivity_holds {signal : Signal}
    (h : ruleBurstTransactionActivity floatText run = some (.signal signal)) :
    signal.evidence.Holds run := by
  unfold ruleBurstTransactionActivity at h
  dsimp only at h
  split at h
  · cases h
  · next htotal =>
      split at h
      · cases h
      · cases h
        refine ⟨rfl, rfl, burstCount_isGreatest fun hnil => htotal ?_⟩
        rw [hnil]
        exact Nat.zero_lt_succ 4

/-- Every signal holds of the run. -/
theorem signals_hold {signal : Signal} (h : signal ∈ (deriveRunSignals floatText run).signals) :
    signal.evidence.Holds run := by
  obtain ⟨result, hresult, hsignal⟩ := List.mem_filterMap.mp h
  obtain ⟨rule, hrule, hrun⟩ := List.mem_filterMap.mp hresult
  cases result with
  | insufficient code reason => cases hsignal
  | signal found =>
      cases hsignal
      simp only [signalRules, List.mem_cons, List.not_mem_nil, or_false] at hrule
      rcases hrule with rfl | rfl | rfl | rfl | rfl | rfl
      · exact ruleSingleCounterpartyDominance_holds hrun
      · exact ruleHighOutflowConcentration_holds hrun
      · exact ruleFailedTransactionRatio_holds hrun
      · exact ruleManyDistinctJettons_holds hrun
      · exact ruleRepeatedIdenticalTransferAmounts_holds hrun
      · exact ruleBurstTransactionActivity_holds hrun

/-- The rows may come in any order; the burst count is that of the fullest
window, reported or not; and every signal holds of the run. -/
structure SignalsDefined (floatText : ℚ → String) (run : RunResponse) : Prop where
  shuffled : ∀ run', Shuffled run run' →
    deriveRunSignals floatText run = deriveRunSignals floatText run'
  burst : runTimestamps run ≠ [] → IsGreatest { n | ∃ start, timestampsWithin run start = n }
    (burstCount (runTimestamps run))
  holds : ∀ signal ∈ (deriveRunSignals floatText run).signals, signal.evidence.Holds run

theorem run_signals_defined (floatText : ℚ → String) (run : RunResponse) :
    SignalsDefined floatText run :=
  ⟨fun _ => deriveRunSignals_shuffled, burstCount_isGreatest, fun _ => signals_hold⟩

end TonTracker
