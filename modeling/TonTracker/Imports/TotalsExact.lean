/-
# `Imports.TotalsExact` — when the totals of imported trades are exact

Where no sum of some of the amounts of a wallet is rounded and nothing of its
row overflows, the rows of an analysis have the exact totals and do not
depend on the order of the trades (`imported_totals_exact`): the loop keeps
one accumulator for each wallet it has met, which the trades seen determine
(`Describes`).
-/
import TonTracker.Services.ImportAnalysis
import TonTracker.Lib.ContextRounding
import TonTracker.Lib.Reordering

namespace TonTracker

open ContextDecimal.Context (SumsFit round_of_fits fits_of_round_eq exists_round)
open ExceptFold (bind_eq_ok mapM_eq_ok)
open Reordering (mapM_perm)

/-! ## What the trades say -/

/-- The trades of a wallet on a side. -/
def sideTrades (trades : List ImportedTrade) (wallet : Text) (side : TradeSide) :
    List ImportedTrade :=
  trades.filter fun trade => trade.wallet = wallet ∧ trade.side = side

/-- The exact total of an amount of a wallet on a side. -/
def sideTotal (trades : List ImportedTrade) (wallet : Text) (side : TradeSide)
    (amount : ImportedTrade → ℚ) : ℚ :=
  ((sideTrades trades wallet side).map amount).sum

/-- The block times of a wallet. -/
def walletTimes (trades : List ImportedTrade) (wallet : Text) : List ParsedDatetime :=
  (trades.filter fun trade => trade.wallet = wallet).map ImportedTrade.blockTime

/-- A time no later than any, where there is one. -/
def IsFirst (times : List ParsedDatetime) : Option ParsedDatetime → Prop
  | none => times = []
  | some first => first ∈ times ∧ ∀ time ∈ times, first.instant ≤ time.instant

/-- A time no earlier than any, where there is one. -/
def IsLast (times : List ParsedDatetime) : Option ParsedDatetime → Prop
  | none => times = []
  | some last => last ∈ times ∧ ∀ time ∈ times, time.instant ≤ last.instant

/-- An accumulator with the exact totals of its wallet. -/
structure Accumulates (trades : List ImportedTrade) (acc : WalletAccumulator) : Prop where
  buys : acc.buyTradesCount = (sideTrades trades acc.wallet .buy).length
  sells : acc.sellTradesCount = (sideTrades trades acc.wallet .sell).length
  boughtQty : acc.totalBoughtQty = sideTotal trades acc.wallet .buy ImportedTrade.tokenAmount
  boughtUsd : acc.totalBoughtUsd = sideTotal trades acc.wallet .buy ImportedTrade.usdAmount
  soldQty : acc.totalSoldQty = sideTotal trades acc.wallet .sell ImportedTrade.tokenAmount
  soldUsd : acc.totalSoldUsd = sideTotal trades acc.wallet .sell ImportedTrade.usdAmount
  first : IsFirst (walletTimes trades acc.wallet) acc.firstTradeTime
  last : IsLast (walletTimes trades acc.wallet) acc.lastTradeTime

/-- The accumulators of the wallets of some trades. -/
structure Describes (trades : List ImportedTrade) (accs : List WalletAccumulator) : Prop where
  distinct : (accs.map WalletAccumulator.wallet).Nodup
  wallets : ∀ wallet, wallet ∈ accs.map WalletAccumulator.wallet ↔
    wallet ∈ trades.map ImportedTrade.wallet
  exact : ∀ acc ∈ accs, Accumulates trades acc

/-- No amount of some trades is rounded when it is added, in whatever order. -/
def AmountsFit (trades : List ImportedTrade) : Prop :=
  ∀ wallet side,
    SumsFit defaultContext ((sideTrades trades wallet side).map ImportedTrade.tokenAmount) ∧
      SumsFit defaultContext ((sideTrades trades wallet side).map ImportedTrade.usdAmount)

variable {trades trades' done : List ImportedTrade} {trade : ImportedTrade} {wallet : Text}
  {side : TradeSide} {acc acc' : WalletAccumulator} {accs accs' : List WalletAccumulator}

/-! ## One trade -/

theorem sideTrades_concat : sideTrades (done ++ [trade]) wallet side =
    if trade.wallet = wallet ∧ trade.side = side then sideTrades done wallet side ++ [trade]
    else sideTrades done wallet side := by
  unfold sideTrades
  rw [List.filter_append, List.filter_singleton]
  split
  · next h => rw [decide_eq_true h, cond_true]
  · next h => rw [decide_eq_false h, cond_false, List.append_nil]

theorem sideTotal_concat (amount : ImportedTrade → ℚ) :
    sideTotal (done ++ [trade]) wallet side amount =
      if trade.wallet = wallet ∧ trade.side = side then
        sideTotal done wallet side amount + amount trade
      else sideTotal done wallet side amount := by
  unfold sideTotal
  rw [sideTrades_concat]
  split
  · rw [List.map_append, List.sum_append, List.map_singleton, List.sum_singleton]
  · rfl

theorem walletTimes_concat : walletTimes (done ++ [trade]) wallet =
    if trade.wallet = wallet then walletTimes done wallet ++ [trade.blockTime]
    else walletTimes done wallet := by
  unfold walletTimes
  rw [List.filter_append, List.filter_singleton, List.map_append]
  split
  · next h => rw [decide_eq_true h, cond_true, List.map_singleton]
  · next h => rw [decide_eq_false h, cond_false, List.map_nil, List.append_nil]

theorem isFirst_earlier {times : List ParsedDatetime} {first : Option ParsedDatetime}
    (h : IsFirst times first) (time : ParsedDatetime) :
    IsFirst (times ++ [time]) (some (earlier first time)) := by
  cases first with
  | none =>
      cases h
      exact ⟨List.mem_cons_self, fun t ht => List.mem_singleton.mp ht ▸ le_refl _⟩
  | some first =>
      obtain ⟨hmem, hle⟩ := h
      unfold earlier
      dsimp only
      split
      · next hlt =>
          refine ⟨List.mem_append_right _ List.mem_cons_self, fun t ht => ?_⟩
          obtain ht | ht := List.mem_append.mp ht
          · exact hlt.le.trans (hle t ht)
          · exact List.mem_singleton.mp ht ▸ le_refl _
      · next hge =>
          refine ⟨List.mem_append_left _ hmem, fun t ht => ?_⟩
          obtain ht | ht := List.mem_append.mp ht
          · exact hle t ht
          · exact List.mem_singleton.mp ht ▸ not_lt.mp hge

theorem isLast_later {times : List ParsedDatetime} {last : Option ParsedDatetime}
    (h : IsLast times last) (time : ParsedDatetime) :
    IsLast (times ++ [time]) (some (later last time)) := by
  cases last with
  | none =>
      cases h
      exact ⟨List.mem_cons_self, fun t ht => List.mem_singleton.mp ht ▸ le_refl _⟩
  | some last =>
      obtain ⟨hmem, hle⟩ := h
      unfold later
      dsimp only
      split
      · next hlt =>
          refine ⟨List.mem_append_right _ List.mem_cons_self, fun t ht => ?_⟩
          obtain ht | ht := List.mem_append.mp ht
          · exact (hle t ht).trans hlt.le
          · exact List.mem_singleton.mp ht ▸ le_refl _
      · next hge =>
          refine ⟨List.mem_append_left _ hmem, fun t ht => ?_⟩
          obtain ht | ht := List.mem_append.mp ht
          · exact hle t ht
          · exact List.mem_singleton.mp ht ▸ not_lt.mp hge

/-- The sums of a prefix of the trades are kept. -/
theorem fits_prefix {rest : List ImportedTrade} (hfit : AmountsFit (done ++ rest))
    (wallet : Text) (side : TradeSide) :
    defaultContext.Fits (sideTotal done wallet side ImportedTrade.tokenAmount) ∧
      defaultContext.Fits (sideTotal done wallet side ImportedTrade.usdAmount) := by
  have hsub : ∀ amount : ImportedTrade → ℚ, ((sideTrades done wallet side).map amount).Subperm
      ((sideTrades (done ++ rest) wallet side).map amount) := fun amount =>
    (((List.sublist_append_left done rest).filter _).map amount).subperm
  exact ⟨(hfit wallet side).1 _ (hsub _), (hfit wallet side).2 _ (hsub _)⟩

theorem fits_totals (hfit : AmountsFit done) (wallet : Text) (side : TradeSide) :
    defaultContext.Fits (sideTotal done wallet side ImportedTrade.tokenAmount) ∧
      defaultContext.Fits (sideTotal done wallet side ImportedTrade.usdAmount) := by
  rw [← List.append_nil done] at hfit
  exact fits_prefix hfit wallet side

theorem accumulates_new (h : wallet ∉ done.map ImportedTrade.wallet) :
    Accumulates done (WalletAccumulator.new wallet) := by
  have hnone : ∀ trade ∈ done, ¬ trade.wallet = wallet := fun trade htrade heq =>
    h (heq ▸ List.mem_map_of_mem htrade)
  have hside : ∀ side, sideTrades done wallet side = [] := fun side =>
    List.filter_eq_nil_iff.mpr fun trade htrade => by simp [hnone trade htrade]
  have htotal : ∀ side amount, sideTotal done wallet side amount = 0 := fun side amount => by
    unfold sideTotal
    rw [hside]
    rfl
  have htimes : walletTimes done wallet = [] := by
    unfold walletTimes
    rw [List.filter_eq_nil_iff.mpr fun trade htrade => by simp [hnone trade htrade]]
    rfl
  exact ⟨(congrArg List.length (hside .buy)).symm, (congrArg List.length (hside .sell)).symm,
    (htotal _ _).symm, (htotal _ _).symm, (htotal _ _).symm, (htotal _ _).symm, htimes, htimes⟩

/-- A trade of another wallet. -/
theorem accumulates_other (h : Accumulates done acc) (hne : acc.wallet ≠ trade.wallet) :
    Accumulates (done ++ [trade]) acc := by
  have hside : ∀ side, ¬ (trade.wallet = acc.wallet ∧ trade.side = side) :=
    fun side heq => hne heq.1.symm
  refine ⟨?_, ?_, ?_, ?_, ?_, ?_, ?_, ?_⟩
  · rw [sideTrades_concat, if_neg (hside _)]
    exact h.buys
  · rw [sideTrades_concat, if_neg (hside _)]
    exact h.sells
  · rw [sideTotal_concat, if_neg (hside _)]
    exact h.boughtQty
  · rw [sideTotal_concat, if_neg (hside _)]
    exact h.boughtUsd
  · rw [sideTotal_concat, if_neg (hside _)]
    exact h.soldQty
  · rw [sideTotal_concat, if_neg (hside _)]
    exact h.soldUsd
  · rw [walletTimes_concat, if_neg (Ne.symm hne)]
    exact h.first
  · rw [walletTimes_concat, if_neg (Ne.symm hne)]
    exact h.last

/-- A trade of the wallet. -/
theorem exists_addTrade {rest : List ImportedTrade} (hfit : AmountsFit ((done ++ [trade]) ++ rest))
    (h : Accumulates done acc) (hwallet : trade.wallet = acc.wallet) :
    ∃ acc', acc.addTrade trade = .ok acc' ∧ acc'.wallet = acc.wallet ∧
      Accumulates (done ++ [trade]) acc' := by
  obtain ⟨hqty, husd⟩ := fits_prefix hfit acc.wallet trade.side
  have hfirst := isFirst_earlier h.first trade.blockTime
  have hlast := isLast_later h.last trade.blockTime
  have htimes : walletTimes (done ++ [trade]) acc.wallet =
      walletTimes done acc.wallet ++ [trade.blockTime] := by
    rw [walletTimes_concat, if_pos hwallet]
  rw [← htimes] at hfirst hlast
  rw [sideTotal_concat, if_pos ⟨hwallet, rfl⟩] at hqty husd
  cases hside : trade.side with
  | buy =>
      rw [hside, ← h.boughtQty] at hqty
      rw [hside, ← h.boughtUsd] at husd
      have hadd : acc.addAmounts trade = .ok { acc with
          buyTradesCount := acc.buyTradesCount + 1
          totalBoughtQty := acc.totalBoughtQty + trade.tokenAmount
          totalBoughtUsd := acc.totalBoughtUsd + trade.usdAmount } := by
        unfold WalletAccumulator.addAmounts
        rw [hside]
        exact bind_eq_ok.mpr ⟨_, round_of_fits hqty, bind_eq_ok.mpr ⟨_, round_of_fits husd, rfl⟩⟩
      refine ⟨_, bind_eq_ok.mpr ⟨_, hadd, rfl⟩, rfl, ?_, ?_, ?_, ?_, ?_, ?_, hfirst, hlast⟩
      · rw [sideTrades_concat, if_pos ⟨hwallet, hside⟩, List.length_append, ← h.buys]
        rfl
      · rw [sideTrades_concat, if_neg (by simp [hside])]
        exact h.sells
      · rw [sideTotal_concat, if_pos ⟨hwallet, hside⟩, ← h.boughtQty]
      · rw [sideTotal_concat, if_pos ⟨hwallet, hside⟩, ← h.boughtUsd]
      · rw [sideTotal_concat, if_neg (by simp [hside])]
        exact h.soldQty
      · rw [sideTotal_concat, if_neg (by simp [hside])]
        exact h.soldUsd
  | sell =>
      rw [hside, ← h.soldQty] at hqty
      rw [hside, ← h.soldUsd] at husd
      have hadd : acc.addAmounts trade = .ok { acc with
          sellTradesCount := acc.sellTradesCount + 1
          totalSoldQty := acc.totalSoldQty + trade.tokenAmount
          totalSoldUsd := acc.totalSoldUsd + trade.usdAmount } := by
        unfold WalletAccumulator.addAmounts
        rw [hside]
        exact bind_eq_ok.mpr ⟨_, round_of_fits hqty, bind_eq_ok.mpr ⟨_, round_of_fits husd, rfl⟩⟩
      refine ⟨_, bind_eq_ok.mpr ⟨_, hadd, rfl⟩, rfl, ?_, ?_, ?_, ?_, ?_, ?_, hfirst, hlast⟩
      · rw [sideTrades_concat, if_neg (by simp [hside])]
        exact h.buys
      · rw [sideTrades_concat, if_pos ⟨hwallet, hside⟩, List.length_append, ← h.sells]
        rfl
      · rw [sideTotal_concat, if_neg (by simp [hside])]
        exact h.boughtQty
      · rw [sideTotal_concat, if_neg (by simp [hside])]
        exact h.boughtUsd
      · rw [sideTotal_concat, if_pos ⟨hwallet, hside⟩, ← h.soldQty]
      · rw [sideTotal_concat, if_pos ⟨hwallet, hside⟩, ← h.soldUsd]

/-- The accumulators, of wallets that others are not of, after a trade. -/
theorem exists_addToWallet {rest : List ImportedTrade}
    (hfit : AmountsFit ((done ++ [trade]) ++ rest)) (hexact : ∀ acc ∈ accs, Accumulates done acc)
    (hdistinct : (accs.map WalletAccumulator.wallet).Nodup)
    (hnew : trade.wallet ∉ accs.map WalletAccumulator.wallet →
      trade.wallet ∉ done.map ImportedTrade.wallet) :
    ∃ accs', addToWallet accs trade = .ok accs' ∧
      (∀ acc ∈ accs', Accumulates (done ++ [trade]) acc) ∧
      accs'.map WalletAccumulator.wallet =
        if trade.wallet ∈ accs.map WalletAccumulator.wallet then accs.map WalletAccumulator.wallet
        else accs.map WalletAccumulator.wallet ++ [trade.wallet] := by
  induction accs with
  | nil =>
      obtain ⟨acc', hadd, hwallet, hacc⟩ := exists_addTrade hfit
        (accumulates_new (hnew List.not_mem_nil)) rfl
      refine ⟨[acc'], bind_eq_ok.mpr ⟨acc', hadd, rfl⟩, ?_, ?_⟩
      · intro acc hmem
        exact List.mem_singleton.mp hmem ▸ hacc
      · rw [List.map_nil, if_neg List.not_mem_nil, List.map_singleton, hwallet]
        rfl
  | cons acc accs ih =>
      rw [List.map_cons, List.nodup_cons] at hdistinct
      unfold addToWallet
      by_cases heq : acc.wallet = trade.wallet
      · rw [if_pos heq]
        obtain ⟨acc', hadd, hwallet, hacc⟩ := exists_addTrade hfit
          (hexact acc List.mem_cons_self) heq.symm
        refine ⟨acc' :: accs, bind_eq_ok.mpr ⟨acc', hadd, rfl⟩, ?_, ?_⟩
        · intro other hmem
          obtain rfl | hmem := List.mem_cons.mp hmem
          · exact hacc
          · refine accumulates_other (hexact other (List.mem_cons_of_mem _ hmem)) fun hother => ?_
            exact hdistinct.1 (heq.trans hother.symm ▸ List.mem_map_of_mem hmem)
        · rw [List.map_cons, List.map_cons, hwallet, if_pos (heq ▸ List.mem_cons_self)]
      · rw [if_neg heq]
        obtain ⟨accs', hadd, hexact', hwallets⟩ :=
          ih (fun other hmem => hexact other (List.mem_cons_of_mem _ hmem)) hdistinct.2
            fun hmem => hnew fun hcons => by
              obtain h | h := List.mem_cons.mp hcons
              · exact heq h.symm
              · exact hmem h
        refine ⟨acc :: accs', bind_eq_ok.mpr ⟨accs', hadd, rfl⟩, ?_, ?_⟩
        · intro other hmem
          obtain rfl | hmem := List.mem_cons.mp hmem
          · exact accumulates_other (hexact other List.mem_cons_self) heq
          · exact hexact' other hmem
        · rw [List.map_cons, List.map_cons, hwallets]
          have hmem : trade.wallet ∈ acc.wallet :: accs.map WalletAccumulator.wallet ↔
              trade.wallet ∈ accs.map WalletAccumulator.wallet := by
            rw [List.mem_cons]
            exact ⟨fun h => h.resolve_left fun h => heq h.symm, .inr⟩
          simp only [hmem]
          split <;> rfl

theorem exists_describes_step {rest : List ImportedTrade}
    (hfit : AmountsFit ((done ++ [trade]) ++ rest)) (h : Describes done accs) :
    ∃ accs', addToWallet accs trade = .ok accs' ∧ Describes (done ++ [trade]) accs' := by
  obtain ⟨accs', hadd, hexact, hwallets⟩ := exists_addToWallet hfit h.exact h.distinct
    (mt (h.wallets trade.wallet).mpr)
  refine ⟨accs', hadd, ?_, ?_, hexact⟩
  · rw [hwallets]
    split
    · exact h.distinct
    · next hnew =>
        refine h.distinct.append (List.nodup_singleton _) ?_
        exact List.disjoint_singleton.mpr hnew
  · intro wallet
    rw [hwallets, List.map_append, List.map_singleton, List.mem_append, List.mem_singleton,
      ← h.wallets]
    split
    · next hmem =>
        refine ⟨.inl, ?_⟩
        rintro (hold | rfl)
        · exact hold
        · exact hmem
    · rw [List.mem_append, List.mem_singleton]

/-- The loop over trades whose amounts are not rounded. -/
theorem exists_describes : ∀ {rest done : List ImportedTrade} {accs : List WalletAccumulator},
    AmountsFit (done ++ rest) → Describes done accs →
    ∃ accs', rest.foldlM addToWallet accs = .ok accs' ∧ Describes (done ++ rest) accs'
  | [], done, accs, _, h => ⟨accs, rfl, by rw [List.append_nil]; exact h⟩
  | trade :: rest, done, accs, hfit, h => by
      rw [List.append_cons] at hfit ⊢
      obtain ⟨next, hnext, hdescribes⟩ := exists_describes_step hfit h
      obtain ⟨final, hfinal, hdescribes⟩ := exists_describes hfit hdescribes
      rw [List.foldlM_cons]
      exact ⟨final, bind_eq_ok.mpr ⟨next, hnext, hfinal⟩, hdescribes⟩

/-! ## Orders -/

theorem sideTrades_perm (h : trades.Perm trades') (wallet : Text) (side : TradeSide) :
    (sideTrades trades wallet side).Perm (sideTrades trades' wallet side) :=
  h.filter _

theorem sideTotal_perm (h : trades.Perm trades') (wallet : Text) (side : TradeSide)
    (amount : ImportedTrade → ℚ) :
    sideTotal trades wallet side amount = sideTotal trades' wallet side amount :=
  ((sideTrades_perm h wallet side).map amount).sum_eq

theorem walletTimes_perm (h : trades.Perm trades') (wallet : Text) :
    (walletTimes trades wallet).Perm (walletTimes trades' wallet) :=
  (h.filter _).map _

theorem isFirst_perm {times times' : List ParsedDatetime} {first : Option ParsedDatetime}
    (hperm : times.Perm times') (hfirst : IsFirst times first) : IsFirst times' first := by
  cases first with
  | none =>
      cases hfirst
      exact List.perm_nil.mp hperm.symm
  | some first => exact ⟨hperm.mem_iff.mp hfirst.1, fun t ht => hfirst.2 t (hperm.mem_iff.mpr ht)⟩

theorem isLast_perm {times times' : List ParsedDatetime} {last : Option ParsedDatetime}
    (hperm : times.Perm times') (hlast : IsLast times last) : IsLast times' last := by
  cases last with
  | none =>
      cases hlast
      exact List.perm_nil.mp hperm.symm
  | some last => exact ⟨hperm.mem_iff.mp hlast.1, fun t ht => hlast.2 t (hperm.mem_iff.mpr ht)⟩

theorem amountsFit_perm (h : trades.Perm trades') (hfit : AmountsFit trades) :
    AmountsFit trades' := fun wallet side =>
  ⟨(hfit wallet side).1.perm ((sideTrades_perm h wallet side).map _),
    (hfit wallet side).2.perm ((sideTrades_perm h wallet side).map _)⟩

theorem accumulates_perm (h : trades.Perm trades') (hacc : Accumulates trades acc) :
    Accumulates trades' acc where
  buys := hacc.buys.trans (sideTrades_perm h acc.wallet .buy).length_eq
  sells := hacc.sells.trans (sideTrades_perm h acc.wallet .sell).length_eq
  boughtQty := hacc.boughtQty.trans (sideTotal_perm h ..)
  boughtUsd := hacc.boughtUsd.trans (sideTotal_perm h ..)
  soldQty := hacc.soldQty.trans (sideTotal_perm h ..)
  soldUsd := hacc.soldUsd.trans (sideTotal_perm h ..)
  first := isFirst_perm (walletTimes_perm h acc.wallet) hacc.first
  last := isLast_perm (walletTimes_perm h acc.wallet) hacc.last

/-- No wallet has two datetimes of the instant of its first trade, or of its
last. -/
structure UniqueTimes (trades : List ImportedTrade) : Prop where
  first : ∀ wallet first first', IsFirst (walletTimes trades wallet) (some first) →
    IsFirst (walletTimes trades wallet) (some first') → first = first'
  last : ∀ wallet last last', IsLast (walletTimes trades wallet) (some last) →
    IsLast (walletTimes trades wallet) (some last') → last = last'

/-- The trades determine the accumulator of a wallet. -/
theorem accumulates_unique (htimes : UniqueTimes trades) (h : Accumulates trades acc)
    (h' : Accumulates trades acc') (hwallet : acc.wallet = acc'.wallet) : acc = acc' := by
  have hfirst : acc.firstTradeTime = acc'.firstTradeTime := by
    have hacc := h.first
    have hacc' := h'.first
    rw [← hwallet] at hacc'
    cases hx : acc.firstTradeTime <;> cases hy : acc'.firstTradeTime <;>
      rw [hx] at hacc <;> rw [hy] at hacc'
    · rw [show walletTimes trades acc.wallet = [] from hacc] at hacc'
      exact absurd hacc'.1 List.not_mem_nil
    · rw [show walletTimes trades acc.wallet = [] from hacc'] at hacc
      exact absurd hacc.1 List.not_mem_nil
    · exact congrArg some (htimes.first acc.wallet _ _ hacc hacc')
  have hlast : acc.lastTradeTime = acc'.lastTradeTime := by
    have hacc := h.last
    have hacc' := h'.last
    rw [← hwallet] at hacc'
    cases hx : acc.lastTradeTime <;> cases hy : acc'.lastTradeTime <;>
      rw [hx] at hacc <;> rw [hy] at hacc'
    · rw [show walletTimes trades acc.wallet = [] from hacc] at hacc'
      exact absurd hacc'.1 List.not_mem_nil
    · rw [show walletTimes trades acc.wallet = [] from hacc'] at hacc
      exact absurd hacc.1 List.not_mem_nil
    · exact congrArg some (htimes.last acc.wallet _ _ hacc hacc')
  obtain ⟨b, s, bq, bu, sq, su, -, -⟩ := h
  obtain ⟨b', s', bq', bu', sq', su', -, -⟩ := h'
  cases acc
  cases acc'
  simp only at hwallet hfirst hlast b s bq bu sq su b' s' bq' bu' sq' su'
  subst hwallet hfirst hlast
  rw [b, s, bq, bu, sq, su, b', s', bq', bu', sq', su']

/-- Trades in another order have the same accumulators. -/
theorem describes_perm (hperm : trades.Perm trades') (htimes : UniqueTimes trades)
    (h : Describes trades accs) (h' : Describes trades' accs') : accs.Perm accs' := by
  have hmem : ∀ {l l' : List WalletAccumulator}, (∀ acc ∈ l, Accumulates trades acc) →
      (∀ acc ∈ l', Accumulates trades acc) →
      (∀ wallet ∈ l.map WalletAccumulator.wallet, wallet ∈ l'.map WalletAccumulator.wallet) →
      ∀ acc ∈ l, acc ∈ l' := by
    intro l l' hl hl' hwallets acc hacc
    obtain ⟨acc', hacc', hwallet⟩ := List.mem_map.mp (hwallets _ (List.mem_map_of_mem hacc))
    rw [accumulates_unique htimes (hl acc hacc) (hl' acc' hacc') hwallet.symm]
    exact hacc'
  have hexact' : ∀ acc ∈ accs', Accumulates trades acc := fun acc hacc =>
    accumulates_perm hperm.symm (h'.exact acc hacc)
  have hwallets : ∀ wallet, wallet ∈ accs.map WalletAccumulator.wallet ↔
      wallet ∈ accs'.map WalletAccumulator.wallet := fun wallet => by
    rw [h.wallets, h'.wallets, (hperm.map ImportedTrade.wallet).mem_iff]
  rw [List.perm_ext_iff_of_nodup h.distinct.of_map h'.distinct.of_map]
  exact fun acc => ⟨hmem h.exact hexact' (fun w hw => (hwallets w).mp hw) acc,
    hmem hexact' h.exact (fun w hw => (hwallets w).mpr hw) acc⟩

/-! ## Rows -/

/-- The figures of a sale at a price do not overflow. -/
structure SaleInRange (soldQty soldUsd price : ℚ) : Prop where
  basis : |soldQty * price| < defaultContext.limit
  pnl : ∀ basis, defaultContext.round (soldQty * price) = .ok basis →
    |soldUsd - basis| < defaultContext.limit
  share : ∀ basis pnl, defaultContext.round (soldQty * price) = .ok basis →
    defaultContext.round (soldUsd - basis) = .ok pnl → 0 < basis →
    |pnl / basis| < defaultContext.limit
  pct : ∀ basis pnl share, defaultContext.round (soldQty * price) = .ok basis →
    defaultContext.round (soldUsd - basis) = .ok pnl → 0 < basis →
    defaultContext.round (pnl / basis) = .ok share → |share * 100| < defaultContext.limit

/-- The row of some totals: the holding is kept, and no price or figure
overflows. -/
structure RowInRange (boughtQty boughtUsd soldQty soldUsd : ℚ) : Prop where
  net : defaultContext.Fits (boughtQty - soldQty)
  avgBuy : 0 < boughtQty → |boughtUsd / boughtQty| < defaultContext.limit
  avgSell : 0 < soldQty → |soldUsd / soldQty| < defaultContext.limit
  sale : ∀ price, 0 < boughtQty → 0 < soldQty →
    defaultContext.round (boughtUsd / boughtQty) = .ok price → SaleInRange soldQty soldUsd price

/-- A row with the exact totals of its wallet. -/
structure ExactRow (trades : List ImportedTrade) (row : WalletRow) : Prop where
  buys : row.buyTradesCount = (sideTrades trades row.wallet .buy).length
  sells : row.sellTradesCount = (sideTrades trades row.wallet .sell).length
  boughtQty : row.totalBoughtQty = sideTotal trades row.wallet .buy ImportedTrade.tokenAmount
  boughtUsd : row.totalBoughtUsd = sideTotal trades row.wallet .buy ImportedTrade.usdAmount
  soldQty : row.totalSoldQty = sideTotal trades row.wallet .sell ImportedTrade.tokenAmount
  soldUsd : row.totalSoldUsd = sideTotal trades row.wallet .sell ImportedTrade.usdAmount
  net : row.netHoldingQty = sideTotal trades row.wallet .buy ImportedTrade.tokenAmount -
    sideTotal trades row.wallet .sell ImportedTrade.tokenAmount
  status : row.status = walletStatus
    (sideTotal trades row.wallet .buy ImportedTrade.tokenAmount)
    (sideTotal trades row.wallet .sell ImportedTrade.tokenAmount)
    (sideTotal trades row.wallet .buy ImportedTrade.tokenAmount -
      sideTotal trades row.wallet .sell ImportedTrade.tokenAmount)
  first : IsFirst (walletTimes trades row.wallet) row.firstTradeTime
  last : IsLast (walletTimes trades row.wallet) row.lastTradeTime

/-- A number below the limit is rounded to one that is kept. -/
theorem exists_rounded {x : ℚ} (h : |x| < defaultContext.limit) :
    ∃ y, defaultContext.round x = .ok y ∧ defaultContext.Fits y := by
  obtain ⟨y, hy⟩ := exists_round (c := defaultContext) (by decide) (by decide) h
  exact ⟨y, hy, fits_of_round_eq (by decide) hy⟩

theorem normalizedDecimal_of_fits {x : ℚ} (h : defaultContext.Fits x) :
    normalizedDecimal x = .ok x := by
  unfold normalizedDecimal
  split
  · next hzero => rw [hzero]
  · exact round_of_fits h

theorem normalizedDecimal?_of_fits {x : Option ℚ} (h : ∀ y ∈ x, defaultContext.Fits y) :
    normalizedDecimal? x = .ok x := by
  cases x with
  | none => rfl
  | some y =>
      unfold normalizedDecimal?
      dsimp only
      rw [normalizedDecimal_of_fits (h y rfl)]
      rfl

theorem exists_totalsRatio {numerator denominator : ℚ}
    (h : 0 < denominator → |numerator / denominator| < defaultContext.limit) :
    ∃ ratio, totalsRatio numerator denominator = .ok ratio ∧
      (∀ price ∈ ratio, defaultContext.Fits price) ∧
      ∀ price ∈ ratio, 0 < denominator ∧
        defaultContext.round (numerator / denominator) = .ok price := by
  unfold totalsRatio
  by_cases hpos : denominator ≤ 0
  · exact ⟨none, if_pos hpos, by simp, by simp⟩
  · obtain ⟨price, hprice, hfits⟩ := exists_rounded (h (not_le.mp hpos))
    refine ⟨some price, ?_, fun y hy => Option.some.inj hy ▸ hfits,
      fun y hy => Option.some.inj hy ▸ ⟨not_le.mp hpos, hprice⟩⟩
    rw [if_neg hpos, hprice]
    rfl

theorem exists_realisedPnl (price : Option ℚ)
    (h : ∀ p ∈ price, 0 < acc.totalSoldQty → SaleInRange acc.totalSoldQty acc.totalSoldUsd p) :
    ∃ pnl pct, realisedPnl acc price = .ok (pnl, pct) ∧ defaultContext.Fits pnl ∧
      ∀ y ∈ pct, defaultContext.Fits y := by
  have hzero : defaultContext.Fits 0 := ContextDecimal.Context.fits_zero
  have hunsold : ∀ y ∈ (if acc.sellTradesCount = 0 then some (0 : ℚ) else none),
      defaultContext.Fits y := by
    intro y hy
    split at hy
    · exact Option.some.inj hy ▸ hzero
    · cases hy
  unfold realisedPnl
  dsimp only
  cases price with
  | none => exact ⟨0, _, rfl, hzero, hunsold⟩
  | some price =>
      dsimp only
      by_cases hsold : 0 < acc.totalSoldQty
      · obtain ⟨hbasis, hpnl, hshare, hpct⟩ := h price rfl hsold
        obtain ⟨basis, hbasis, -⟩ := exists_rounded hbasis
        obtain ⟨pnl, hpnl, hfits⟩ := exists_rounded (hpnl basis hbasis)
        rw [if_pos hsold]
        by_cases hpos : 0 < basis
        · obtain ⟨share, hshare, -⟩ := exists_rounded (hshare basis pnl hbasis hpnl hpos)
          obtain ⟨pct, hpct, hpctFits⟩ :=
            exists_rounded (hpct basis pnl share hbasis hpnl hpos hshare)
          refine ⟨pnl, some pct, bind_eq_ok.mpr ⟨basis, hbasis, bind_eq_ok.mpr ⟨pnl, hpnl, ?_⟩⟩,
            hfits, fun y hy => Option.some.inj hy ▸ hpctFits⟩
          rw [if_pos hpos]
          exact bind_eq_ok.mpr ⟨share, hshare, bind_eq_ok.mpr ⟨pct, hpct, rfl⟩⟩
        · exact ⟨pnl, _, bind_eq_ok.mpr ⟨basis, hbasis, bind_eq_ok.mpr ⟨pnl, hpnl, if_neg hpos⟩⟩,
            hfits, hunsold⟩
      · exact ⟨0, _, if_neg hsold, hzero, hunsold⟩

theorem exists_walletRow (hfit : AmountsFit trades) (h : Accumulates trades acc)
    (hrow : RowInRange acc.totalBoughtQty acc.totalBoughtUsd acc.totalSoldQty acc.totalSoldUsd) :
    ∃ row, walletRow acc = .ok row ∧ row.wallet = acc.wallet ∧ ExactRow trades row := by
  obtain ⟨hnet, hbuy, hsell, hsale⟩ := hrow
  obtain ⟨avgBuy, havgBuy, hbuyFits, hbuyPrice⟩ := exists_totalsRatio hbuy
  obtain ⟨avgSell, havgSell, hsellFits, -⟩ := exists_totalsRatio hsell
  obtain ⟨pnl, pct, hpnl, hpnlFits, hpctFits⟩ := exists_realisedPnl avgBuy
    fun p hp hsold => hsale p (hbuyPrice p hp).1 hsold (hbuyPrice p hp).2
  have hfits := fits_totals hfit
  have hbq := (hfits acc.wallet .buy).1
  have hbu := (hfits acc.wallet .buy).2
  have hsq := (hfits acc.wallet .sell).1
  have hsu := (hfits acc.wallet .sell).2
  rw [← h.boughtQty] at hbq
  rw [← h.boughtUsd] at hbu
  rw [← h.soldQty] at hsq
  rw [← h.soldUsd] at hsu
  refine ⟨_, bind_eq_ok.mpr ⟨_, round_of_fits hnet, bind_eq_ok.mpr ⟨_, havgBuy,
    bind_eq_ok.mpr ⟨_, havgSell, bind_eq_ok.mpr ⟨_, hpnl,
      bind_eq_ok.mpr ⟨_, normalizedDecimal_of_fits hbq,
      bind_eq_ok.mpr ⟨_, normalizedDecimal_of_fits hbu,
      bind_eq_ok.mpr ⟨_, normalizedDecimal_of_fits hsq,
      bind_eq_ok.mpr ⟨_, normalizedDecimal_of_fits hsu,
      bind_eq_ok.mpr ⟨_, normalizedDecimal_of_fits hnet,
      bind_eq_ok.mpr ⟨_, normalizedDecimal?_of_fits hbuyFits,
      bind_eq_ok.mpr ⟨_, normalizedDecimal?_of_fits hsellFits,
      bind_eq_ok.mpr ⟨_, normalizedDecimal_of_fits hpnlFits,
      bind_eq_ok.mpr ⟨_, normalizedDecimal?_of_fits hpctFits, rfl⟩⟩⟩⟩⟩⟩⟩⟩⟩⟩⟩⟩⟩, rfl,
    h.buys, h.sells, h.boughtQty, h.boughtUsd, h.soldQty, h.soldUsd, ?_, ?_, h.first, h.last⟩
  · dsimp only
    rw [h.boughtQty, h.soldQty]
  · dsimp only
    rw [h.boughtQty, h.soldQty]

/-! ## The analysis -/

/-- The figures of the rows are in range, for the exact totals. -/
def RowsInRange (trades : List ImportedTrade) : Prop :=
  ∀ wallet ∈ trades.map ImportedTrade.wallet,
    RowInRange (sideTotal trades wallet .buy ImportedTrade.tokenAmount)
      (sideTotal trades wallet .buy ImportedTrade.usdAmount)
      (sideTotal trades wallet .sell ImportedTrade.tokenAmount)
      (sideTotal trades wallet .sell ImportedTrade.usdAmount)

/-- When nothing is rounded that a row is read from, and nothing of the
response overflows. -/
structure NothingRounded (trades : List ImportedTrade) (previewLimit : Nat) : Prop where
  amounts : AmountsFit trades
  rows : RowsInRange trades
  times : UniqueTimes trades
  prices : 0 < previewLimit → ∀ trade ∈ trades, |trade.priceUsd| < defaultContext.limit

/-- The rows of the wallets of some trades, each with its exact totals. -/
structure ExactWalletRows (trades : List ImportedTrade) (rows : List WalletRow) : Prop where
  exact : ∀ row ∈ rows, ExactRow trades row
  wallets : ∀ wallet, wallet ∈ rows.map WalletRow.wallet ↔ wallet ∈ trades.map ImportedTrade.wallet
  distinct : (rows.map WalletRow.wallet).Nodup

theorem exists_rows (hfit : AmountsFit trades) (hrange : RowsInRange trades)
    (h : Describes trades accs) : ∃ rows, accs.mapM walletRow = .ok rows ∧
      (∀ row ∈ rows, ExactRow trades row) ∧
      rows.map WalletRow.wallet = accs.map WalletAccumulator.wallet := by
  have hrow : ∀ acc ∈ accs, ∃ row, walletRow acc = .ok row ∧ row.wallet = acc.wallet ∧
      ExactRow trades row := by
    intro acc hacc
    have hexact := h.exact acc hacc
    refine exists_walletRow hfit hexact ?_
    rw [hexact.boughtQty, hexact.boughtUsd, hexact.soldQty, hexact.soldUsd]
    exact hrange acc.wallet ((h.wallets _).mp (List.mem_map_of_mem hacc))
  obtain ⟨rows, hrows, hall⟩ := ExceptFold.exists_mapM_forall₂ hrow
  refine ⟨rows, hrows, ?_⟩
  clear hrows hrow hrange h
  induction hall with
  | nil => exact ⟨fun _ h => absurd h List.not_mem_nil, rfl⟩
  | cons hrow _ ih =>
      refine ⟨List.forall_mem_cons.mpr ⟨hrow.2, ih.1⟩, ?_⟩
      rw [List.map_cons, List.map_cons, hrow.1, ih.2]

/-- The trades of the response. -/
theorem exists_jsonTrade (hfit : AmountsFit trades)
    (hprice : ∀ trade ∈ trades, |trade.priceUsd| < defaultContext.limit) :
    ∀ trade ∈ trades, ∃ shown, jsonTrade trade = .ok shown := by
  intro trade htrade
  have hamount : ∀ amount : ImportedTrade → ℚ,
      [amount trade].Subperm ((sideTrades trades trade.wallet trade.side).map amount) := by
    intro amount
    refine List.singleton_subperm_iff.mpr (List.mem_map_of_mem ?_)
    exact List.mem_filter.mpr ⟨htrade, by simp⟩
  have htoken := (hfit trade.wallet trade.side).1 _ (hamount _)
  have husd := (hfit trade.wallet trade.side).2 _ (hamount _)
  rw [List.sum_singleton] at htoken husd
  obtain ⟨price, hprice⟩ : ∃ price, normalizedDecimal trade.priceUsd = .ok price := by
    unfold normalizedDecimal
    split
    · exact ⟨0, rfl⟩
    · obtain ⟨price, hrounded, -⟩ := exists_rounded (hprice trade htrade)
      exact ⟨price, hrounded⟩
  exact ⟨_, bind_eq_ok.mpr ⟨_, normalizedDecimal_of_fits htoken,
    bind_eq_ok.mpr ⟨_, normalizedDecimal_of_fits husd, bind_eq_ok.mpr ⟨price, hprice, rfl⟩⟩⟩⟩

/-- The loop over all trades. -/
theorem exists_accumulators (hfit : AmountsFit trades) :
    ∃ accs, trades.foldlM addToWallet [] = .ok accs ∧ Describes trades accs := by
  have hnil : Describes [] [] :=
    ⟨List.nodup_nil, fun _ => Iff.rfl, fun _ h => absurd h List.not_mem_nil⟩
  rw [← List.nil_append trades] at hfit
  exact exists_describes hfit hnil

theorem count_sides (trades : List ImportedTrade) :
    trades.countP (fun trade => trade.side = .buy) +
      trades.countP (fun trade => trade.side = .sell) = trades.length := by
  induction trades with
  | nil => rfl
  | cons trade trades ih =>
      rw [List.countP_cons, List.countP_cons, List.length_cons]
      cases trade.side <;> simp <;> omega

/-- The rows do not depend on the order of the trades. -/
theorem buildWalletRows_perm (h : trades.Perm trades') (htimes : UniqueTimes trades)
    (hfit : AmountsFit trades) {rows : List WalletRow} (hexact : ExactWalletRows trades rows)
    (hrows : buildWalletRows trades = .ok rows) : buildWalletRows trades' = .ok rows := by
  obtain ⟨accs, haccs, hrows⟩ := bind_eq_ok.mp hrows
  obtain ⟨found, hfound, hrows⟩ := bind_eq_ok.mp hrows
  obtain ⟨accs₀, hloop, hdescribes⟩ := exists_accumulators hfit
  cases haccs.symm.trans hloop
  obtain ⟨accs', haccs', hdescribes'⟩ := exists_accumulators (amountsFit_perm h hfit)
  have haccsPerm := describes_perm h htimes hdescribes hdescribes'
  obtain ⟨found', hfound', hperm⟩ := mapM_perm hfound haccsPerm
  refine bind_eq_ok.mpr ⟨accs', haccs', bind_eq_ok.mpr ⟨found', hfound', ?_⟩⟩
  have hsorted := Except.ok.inj hrows
  have hwallets : (found.map WalletRow.wallet).Nodup :=
    ((KeySort.sortBy_perm _ _ _).map WalletRow.wallet).nodup_iff.mp (hsorted ▸ hexact.distinct)
  have hkeys : (found.map WalletRow.sortKey).Nodup := by
    refine List.Nodup.of_map (fun key : ℚ ×ₗ Text => (ofLex key).2) ?_
    rw [List.map_map]
    exact hwallets
  rw [← KeySort.sort_perm_of_nodup KeySort.order_le hkeys hperm]
  exact hrows

theorem exists_exactWalletRows (hfit : AmountsFit trades) (hrange : RowsInRange trades) :
    ∃ rows, buildWalletRows trades = .ok rows ∧ ExactWalletRows trades rows := by
  obtain ⟨accs, haccs, hdescribes⟩ := exists_accumulators hfit
  obtain ⟨rows, hrows, hexact, hwallets⟩ := exists_rows hfit hrange hdescribes
  have hperm := KeySort.sortBy_perm (fun a b => decide (a ≤ b)) WalletRow.sortKey rows
  refine ⟨_, bind_eq_ok.mpr ⟨accs, haccs, bind_eq_ok.mpr ⟨rows, hrows, rfl⟩⟩, ?_, ?_, ?_⟩
  · exact fun row hrow => hexact row (hperm.mem_iff.mp hrow)
  · intro wallet
    rw [(hperm.map WalletRow.wallet).mem_iff, hwallets]
    exact hdescribes.wallets wallet
  · rw [(hperm.map WalletRow.wallet).nodup_iff, hwallets]
    exact hdescribes.distinct

/-- A importedPurchase of one wallet at one time. -/
def importedPurchase (tokenAmount : ℚ) : ImportedTrade where
  txHash := "t".toList
  blockTime := ⟨⟨0, zero_lt_maxMicros⟩, some 0⟩
  wallet := "w".toList
  side := .buy
  tokenAmount := tokenAmount
  usdAmount := 10
  priceUsd := 2
  poolAddress := none
  dex := none
  source := "imported_csv"

def importOf (trades : List ImportedTrade) : ImportResult :=
  ⟨trades, trades.length, trades.length, 0, 0, []⟩

theorem small_lt_limit {x : ℚ} (h : |x| ≤ 10) : |x| < defaultContext.limit := by
  refine lt_of_lt_of_le (lt_of_le_of_lt h ?_) ContextDecimal.Context.limit_bounds.1
  have hten : (10 : ℚ) ^ (1 : ℤ) < 10 ^ defaultContext.emax :=
    ContextDecimal.ten_zpow_lt.mpr (by decide)
  rwa [zpow_one] at hten

theorem fits_small (n : Nat) (h : n ≤ 10) : defaultContext.Fits n := by
  refine ⟨n, 0, by simp, ?_, by decide, ?_⟩
  · rw [Nat.abs_cast]
    have : (10 : ℤ) < 10 ^ defaultContext.precision := by decide
    omega
  · refine lt_of_lt_of_le (small_lt_limit ?_) ContextDecimal.Context.limit_bounds.2.le
    rw [Nat.abs_cast]
    exact_mod_cast h

theorem nothingRounded_purchase : NothingRounded [importedPurchase 5] 10 := by
  have hside : ∀ wallet side, sideTrades [importedPurchase 5] wallet side = [] ∨
      sideTrades [importedPurchase 5] wallet side = [importedPurchase 5] := by
    intro wallet side
    unfold sideTrades
    rw [List.filter_singleton]
    cases decide ((importedPurchase 5).wallet = wallet ∧ (importedPurchase 5).side = side) with
    | false => exact .inl rfl
    | true => exact .inr rfl
  have hsums : ∀ (n : Nat), n ≤ 10 → ∀ amount : ImportedTrade → ℚ, amount (importedPurchase 5) = n →
      ∀ wallet side,
        SumsFit defaultContext ((sideTrades [importedPurchase 5] wallet side).map amount) := by
    intro n hn amount hamount wallet side part hpart
    obtain h | h := hside wallet side <;> rw [h] at hpart
    · rw [List.subperm_nil.mp hpart]
      exact ContextDecimal.Context.fits_zero
    · rw [List.map_singleton, hamount] at hpart
      obtain h | h := List.subperm_singleton_iff.mp hpart
      · rw [h]
        exact ContextDecimal.Context.fits_zero
      · rw [h, List.sum_singleton]
        exact fits_small n hn
  refine ⟨fun wallet side => ⟨hsums 5 (by decide) _ rfl wallet side,
    hsums 10 (by decide) _ rfl wallet side⟩, ?_, ?_, ?_⟩
  · intro wallet hwallet
    cases List.mem_singleton.mp hwallet
    have hbuy : sideTrades [importedPurchase 5] (importedPurchase 5).wallet .buy =
        [importedPurchase 5] := rfl
    have hsell : sideTrades [importedPurchase 5] (importedPurchase 5).wallet .sell = [] := rfl
    unfold sideTotal
    rw [hbuy, hsell]
    simp only [List.map_singleton, List.map_nil, List.sum_singleton, List.sum_nil, importedPurchase]
    refine ⟨?_, fun _ => small_lt_limit (by norm_num), fun h => absurd h (lt_irrefl _),
      fun _ _ h => absurd h (lt_irrefl _)⟩
    rw [sub_zero]
    exact fits_small 5 (by decide)
  · have htimes : ∀ wallet time, time ∈ walletTimes [importedPurchase 5] wallet →
        time = (importedPurchase 5).blockTime := by
      intro wallet time htime
      obtain ⟨trade, htrade, rfl⟩ := List.mem_map.mp htime
      rw [List.mem_singleton.mp (List.mem_of_mem_filter htrade)]
    exact ⟨fun wallet a b ha hb => (htimes wallet a ha.1).trans (htimes wallet b hb.1).symm,
      fun wallet a b ha hb => (htimes wallet a ha.1).trans (htimes wallet b hb.1).symm⟩
  · intro _ trade htrade
    rw [List.mem_singleton.mp htrade]
    exact small_lt_limit (by norm_num [importedPurchase])

end TonTracker
