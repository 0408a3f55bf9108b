/-
# `Imports.AnalysisRange` — when the analysis of imported trades raises

Of amounts that are not negative, `analyze_imported_trades` raises exactly
where a decimal overflows: a running total of a wallet, a price or a figure of
its row, or a price of the preview (`analysis_ok_iff`).  The accumulators are
groups by wallet, each a function of the trades of its wallet.
-/
import TonTracker.Imports.TotalsExact
import TonTracker.Lib.Groups

namespace TonTracker

open ContextDecimal.Context (round_of_fits fits_of_round_eq)
open ExceptFold (bind_eq_ok)
open Groups (upsertM collectM valuesOf collectM_concat)

/-! ## Rounding -/

theorem rounded_zero : defaultContext.rounded 0 = 0 := by
  have h : ContextDecimal.roundHalfEven 0 = 0 := by
    have h := ContextDecimal.roundHalfEven_intCast 0
    rwa [Int.cast_zero] at h
  unfold ContextDecimal.Context.rounded
  rw [zero_div, h, Int.cast_zero, zero_mul]

theorem rounded_nonneg {x : ℚ} (h : 0 ≤ x) : 0 ≤ defaultContext.rounded x := by
  have hpos := ContextDecimal.ten_zpow_pos (defaultContext.quantum x)
  have hround : 0 ≤ ContextDecimal.roundHalfEven (x / 10 ^ defaultContext.quantum x) :=
    ContextDecimal.le_roundHalfEven (by rw [Int.cast_zero]; exact div_nonneg h hpos.le)
  exact mul_nonneg (by exact_mod_cast hround) hpos.le

/-- A number is rounded where it is below the limit. -/
theorem round_eq_ok_iff {x y : ℚ} : defaultContext.round x = .ok y ↔
    |x| < defaultContext.limit ∧ y = defaultContext.rounded x := by
  have herror := ContextDecimal.Context.round_eq_error_iff (c := defaultContext) (x := x)
    (by decide) (by decide)
  constructor
  · intro h
    refine ⟨not_le.mp fun hle => absurd (h.symm.trans (herror.mpr hle)) nofun, ?_⟩
    obtain rfl | hx := eq_or_ne x 0
    · cases ContextDecimal.Context.round_zero.symm.trans h
      exact rounded_zero.symm
    · rw [ContextDecimal.Context.round_eq hx] at h
      split at h
      · cases h
      · exact (Except.ok.inj h).symm
  · rintro ⟨hlt, rfl⟩
    obtain rfl | hx := eq_or_ne x 0
    · rw [rounded_zero]
      exact ContextDecimal.Context.round_zero
    · rw [ContextDecimal.Context.round_eq hx]
      split
      · next hover =>
          exact absurd hlt (not_lt.mpr ((ContextDecimal.Context.overflows_iff (by decide)
            (by decide) hx).mp hover))
      · rfl

theorem exists_round_iff {x : ℚ} :
    (∃ y, defaultContext.round x = .ok y) ↔ |x| < defaultContext.limit :=
  ⟨fun ⟨_, h⟩ => (round_eq_ok_iff.mp h).1, fun h => ⟨_, round_eq_ok_iff.mpr ⟨h, rfl⟩⟩⟩

theorem lt_limit_of_fits {x : ℚ} (h : defaultContext.Fits x) : |x| < defaultContext.limit :=
  (round_eq_ok_iff.mp (round_of_fits h)).1

theorem exists_normalizedDecimal_iff {x : ℚ} :
    (∃ y, normalizedDecimal x = .ok y) ↔ |x| < defaultContext.limit := by
  unfold normalizedDecimal
  split
  · next h =>
      subst h
      exact iff_of_true ⟨0, rfl⟩ (lt_limit_of_fits ContextDecimal.Context.fits_zero)
  · exact exists_round_iff

/-! ## Running totals -/

/-- The total of some amounts, rounded after every one. -/
def runningTotal (amounts : List ℚ) : ℚ :=
  amounts.foldl (fun total amount => defaultContext.rounded (total + amount)) 0

/-- No running total of some amounts overflows. -/
def TotalInRange (amounts : List ℚ) : Prop :=
  ∀ done amount rest, amounts = done ++ amount :: rest →
    |runningTotal done + amount| < defaultContext.limit

variable {amounts : List ℚ} {amount : ℚ}

theorem runningTotal_concat : runningTotal (amounts ++ [amount]) =
    defaultContext.rounded (runningTotal amounts + amount) := by
  unfold runningTotal
  rw [List.foldl_concat]

theorem totalInRange_nil : TotalInRange [] := fun _ _ _ h => by
  have := congrArg List.length h
  simp at this

theorem totalInRange_concat : TotalInRange (amounts ++ [amount]) ↔
    TotalInRange amounts ∧ |runningTotal amounts + amount| < defaultContext.limit := by
  constructor
  · intro h
    refine ⟨fun done a rest heq => ?_, h amounts amount [] rfl⟩
    exact h done a (rest ++ [amount]) (by rw [heq, List.append_assoc, List.cons_append])
  · rintro ⟨hrange, hlast⟩ done a rest heq
    obtain rfl | ⟨rest, last, rfl⟩ := List.eq_nil_or_concat rest
    · obtain ⟨rfl, hlast'⟩ := List.append_inj' heq rfl
      cases hlast'
      exact hlast
    · rw [List.concat_eq_append, ← List.cons_append, ← List.append_assoc] at heq
      exact hrange done a rest (List.append_inj' heq rfl).1

theorem runningTotal_nonneg (h : ∀ a ∈ amounts, 0 ≤ a) : 0 ≤ runningTotal amounts := by
  induction amounts using List.reverseRecOn with
  | nil => exact le_refl _
  | append_singleton amounts amount ih =>
      rw [List.forall_mem_append, List.forall_mem_singleton] at h
      rw [runningTotal_concat]
      exact rounded_nonneg (add_nonneg (ih h.1) h.2)

theorem fits_runningTotal (h : TotalInRange amounts) :
    defaultContext.Fits (runningTotal amounts) := by
  induction amounts using List.reverseRecOn with
  | nil => exact ContextDecimal.Context.fits_zero
  | append_singleton amounts amount ih =>
      rw [runningTotal_concat]
      exact fits_of_round_eq (by decide)
        (round_eq_ok_iff.mpr ⟨(totalInRange_concat.mp h).2, rfl⟩)

/-- An amount below the limit, as what it is added to is not negative. -/
theorem lt_limit_of_mem (h : TotalInRange amounts) (nonneg : ∀ a ∈ amounts, 0 ≤ a)
    (hmem : amount ∈ amounts) : |amount| < defaultContext.limit := by
  obtain ⟨done, rest, rfl⟩ := List.append_of_mem hmem
  refine lt_of_le_of_lt ?_ (h done amount rest rfl)
  have hamount := nonneg amount hmem
  have hdone := runningTotal_nonneg fun a ha => nonneg a (List.mem_append_left _ ha)
  rw [abs_of_nonneg hamount, abs_of_nonneg (add_nonneg hdone hamount)]
  exact le_add_of_nonneg_left hdone

/-! ## Accumulators -/

/-- The tokens of a side. -/
def WalletAccumulator.qty (acc : WalletAccumulator) : TradeSide → ℚ
  | .buy => acc.totalBoughtQty
  | .sell => acc.totalSoldQty

/-- The dollars of a side. -/
def WalletAccumulator.usd (acc : WalletAccumulator) : TradeSide → ℚ
  | .buy => acc.totalBoughtUsd
  | .sell => acc.totalSoldUsd

/-- The amounts of some trades on a side. -/
def amountsOf (trades : List ImportedTrade) (side : TradeSide) (amount : ImportedTrade → ℚ) :
    List ℚ :=
  (trades.filter fun trade => trade.side = side).map amount

/-- The totals of an accumulator are those of some trades. -/
def Totals (trades : List ImportedTrade) (acc : WalletAccumulator) : Prop :=
  ∀ side, acc.qty side = runningTotal (amountsOf trades side ImportedTrade.tokenAmount) ∧
    acc.usd side = runningTotal (amountsOf trades side ImportedTrade.usdAmount)

/-- No running total of the trades of a wallet overflows. -/
def TotalsInRange (trades : List ImportedTrade) : Prop :=
  ∀ side, TotalInRange (amountsOf trades side ImportedTrade.tokenAmount) ∧
    TotalInRange (amountsOf trades side ImportedTrade.usdAmount)

variable {trades : List ImportedTrade} {trade : ImportedTrade} {side : TradeSide}
  {acc acc' : WalletAccumulator}

theorem amountsOf_concat (amount : ImportedTrade → ℚ) : amountsOf (trades ++ [trade]) side amount =
    if trade.side = side then amountsOf trades side amount ++ [amount trade]
    else amountsOf trades side amount := by
  unfold amountsOf
  rw [List.filter_append, List.filter_singleton]
  split
  · next h => rw [decide_eq_true h, cond_true, List.map_append, List.map_singleton]
  · next h => rw [decide_eq_false h, cond_false, List.append_nil]

/-- What adding a trade does to the totals. -/
theorem addTrade_eq_ok (h : acc.addTrade trade = .ok acc') :
    (|acc.qty trade.side + trade.tokenAmount| < defaultContext.limit ∧
      |acc.usd trade.side + trade.usdAmount| < defaultContext.limit) ∧
    acc'.wallet = acc.wallet ∧
    ∀ side, acc'.qty side = (if trade.side = side then
        defaultContext.rounded (acc.qty side + trade.tokenAmount) else acc.qty side) ∧
      acc'.usd side = if trade.side = side then
        defaultContext.rounded (acc.usd side + trade.usdAmount) else acc.usd side := by
  obtain ⟨added, hadded, h⟩ := bind_eq_ok.mp h
  cases h
  unfold WalletAccumulator.addAmounts at hadded
  cases hside : trade.side <;> rw [hside] at hadded <;>
    obtain ⟨qty, hqty, hadded⟩ := bind_eq_ok.mp hadded <;>
    obtain ⟨usd, husd, hadded⟩ := bind_eq_ok.mp hadded <;>
    obtain ⟨hqtyRange, rfl⟩ := round_eq_ok_iff.mp hqty <;>
    obtain ⟨husdRange, rfl⟩ := round_eq_ok_iff.mp husd <;>
    cases hadded <;>
    exact ⟨⟨hqtyRange, husdRange⟩, rfl, fun side => by cases side <;> exact ⟨rfl, rfl⟩⟩

theorem exists_addTrade_of_range
    (hqty : |acc.qty trade.side + trade.tokenAmount| < defaultContext.limit)
    (husd : |acc.usd trade.side + trade.usdAmount| < defaultContext.limit) :
    ∃ acc', acc.addTrade trade = .ok acc' := by
  have hadd : ∃ added, acc.addAmounts trade = .ok added := by
    unfold WalletAccumulator.addAmounts
    cases hside : trade.side <;> rw [hside] at hqty husd <;>
      exact ⟨_, bind_eq_ok.mpr ⟨_, round_eq_ok_iff.mpr ⟨hqty, rfl⟩,
        bind_eq_ok.mpr ⟨_, round_eq_ok_iff.mpr ⟨husd, rfl⟩, rfl⟩⟩⟩
  obtain ⟨added, hadded⟩ := hadd
  exact ⟨_, bind_eq_ok.mpr ⟨added, hadded, rfl⟩⟩

theorem totals_addTrade (h : Totals trades acc) (hadd : acc.addTrade trade = .ok acc') :
    Totals (trades ++ [trade]) acc' := by
  intro side
  obtain ⟨hqty, husd⟩ := (addTrade_eq_ok hadd).2.2 side
  rw [hqty, husd, amountsOf_concat, amountsOf_concat, (h side).1, (h side).2]
  split
  · rw [runningTotal_concat, runningTotal_concat]
    exact ⟨rfl, rfl⟩
  · exact ⟨rfl, rfl⟩

theorem totalsInRange_concat : TotalsInRange (trades ++ [trade]) ↔ TotalsInRange trades ∧
    |runningTotal (amountsOf trades trade.side ImportedTrade.tokenAmount) + trade.tokenAmount| <
      defaultContext.limit ∧
    |runningTotal (amountsOf trades trade.side ImportedTrade.usdAmount) + trade.usdAmount| <
      defaultContext.limit := by
  unfold TotalsInRange
  simp only [amountsOf_concat]
  constructor
  · intro h
    have hside := h trade.side
    rw [if_pos rfl, if_pos rfl, totalInRange_concat, totalInRange_concat] at hside
    refine ⟨fun side => ?_, hside.1.2, hside.2.2⟩
    have hrange := h side
    split at hrange
    · exact ⟨(totalInRange_concat.mp hrange.1).1, (totalInRange_concat.mp hrange.2).1⟩
    · exact hrange
  · rintro ⟨h, hqty, husd⟩ side
    split
    · next heq =>
        subst heq
        exact ⟨totalInRange_concat.mpr ⟨(h _).1, hqty⟩, totalInRange_concat.mpr ⟨(h _).2, husd⟩⟩
    · exact h side

/-! ## Groups by wallet -/

/-- A trade added to the accumulator of its wallet, or to a new one. -/
def addToGroup (group : Option WalletAccumulator) (trade : ImportedTrade) :
    Except ContextDecimal.Signal WalletAccumulator :=
  (group.getD (WalletAccumulator.new trade.wallet)).addTrade trade

def keyedTrade (trade : ImportedTrade) : Text × ImportedTrade := (trade.wallet, trade)

def keyedAccumulator (acc : WalletAccumulator) : Text × WalletAccumulator := (acc.wallet, acc)

theorem upsertM_keyed (accs : List WalletAccumulator) (trade : ImportedTrade) :
    upsertM addToGroup (accs.map keyedAccumulator) (keyedTrade trade) =
      (addToWallet accs trade).map (List.map keyedAccumulator) := by
  induction accs with
  | nil =>
      show ((WalletAccumulator.new trade.wallet).addTrade trade >>= fun group =>
        .ok [(trade.wallet, group)]) = ((WalletAccumulator.new trade.wallet).addTrade trade >>=
          fun acc => .ok [acc]).map _
      cases hadd : (WalletAccumulator.new trade.wallet).addTrade trade with
      | error signal => rfl
      | ok acc =>
          have hwallet : acc.wallet = trade.wallet := (addTrade_eq_ok hadd).2.1
          show Except.ok _ = Except.ok [(acc.wallet, acc)]
          rw [hwallet]
  | cons acc accs ih =>
      have hacc : keyedAccumulator acc = (acc.wallet, acc) := rfl
      have htrade : keyedTrade trade = (trade.wallet, trade) := rfl
      rw [List.map_cons, hacc, htrade]
      unfold addToWallet upsertM
      by_cases heq : acc.wallet = trade.wallet
      · rw [if_pos heq, if_pos heq]
        show (acc.addTrade trade >>= fun group => .ok _) = (acc.addTrade trade >>= fun group =>
          .ok _).map _
        cases hadd : acc.addTrade trade with
        | error signal => rfl
        | ok added =>
            have hwallet : added.wallet = acc.wallet := (addTrade_eq_ok hadd).2.1
            show Except.ok _ = Except.ok ((added.wallet, added) :: accs.map keyedAccumulator)
            rw [hwallet]
      · rw [if_neg heq, if_neg heq]
        show (upsertM addToGroup (accs.map keyedAccumulator) (keyedTrade trade) >>= fun rest =>
          .ok _) = (addToWallet accs trade >>= fun rest => .ok _).map _
        rw [ih]
        cases addToWallet accs trade <;> rfl

theorem foldlM_keyed (trades : List ImportedTrade) (accs : List WalletAccumulator) :
    (trades.map keyedTrade).foldlM (upsertM addToGroup) (accs.map keyedAccumulator) =
      (trades.foldlM addToWallet accs).map (List.map keyedAccumulator) := by
  induction trades generalizing accs with
  | nil => rfl
  | cons trade trades ih =>
      rw [List.map_cons, List.foldlM_cons, List.foldlM_cons, upsertM_keyed]
      cases addToWallet accs trade with
      | error signal => rfl
      | ok next => exact ih next

theorem valuesOf_keyed (trades : List ImportedTrade) (wallet : Text) :
    valuesOf (trades.map keyedTrade) wallet = trades.filter fun trade => trade.wallet = wallet := by
  unfold valuesOf
  rw [List.filterMap_map, ← List.filterMap_eq_filter]
  refine List.filterMap_congr fun trade _ => ?_
  by_cases heq : trade.wallet = wallet <;> simp [keyedTrade, Option.guard, heq]

/-- The group of some trades has their totals. -/
theorem totals_of_collectM {group : Option WalletAccumulator}
    (h : collectM addToGroup trades = .ok group) (wallet : Text) :
    Totals trades (group.getD (WalletAccumulator.new wallet)) := by
  induction trades using List.reverseRecOn generalizing group wallet with
  | nil =>
      cases h
      intro side
      cases side <;> exact ⟨rfl, rfl⟩
  | append_singleton trades trade ih =>
      rw [collectM_concat] at h
      obtain ⟨before, hbefore, h⟩ := bind_eq_ok.mp h
      cases hadd : addToGroup before trade with
      | error signal =>
          rw [hadd] at h
          cases h
      | ok acc =>
          rw [hadd] at h
          cases h
          exact totals_addTrade (ih hbefore trade.wallet) hadd

theorem exists_collectM_iff (trades : List ImportedTrade) :
    (∃ group, collectM addToGroup trades = .ok group) ↔ TotalsInRange trades := by
  induction trades using List.reverseRecOn with
  | nil => exact iff_of_true ⟨none, rfl⟩ fun _ => ⟨totalInRange_nil, totalInRange_nil⟩
  | append_singleton trades trade ih =>
      rw [totalsInRange_concat, collectM_concat, ← ih]
      constructor
      · rintro ⟨group, h⟩
        obtain ⟨before, hbefore, h⟩ := bind_eq_ok.mp h
        obtain ⟨hqty, husd⟩ := totals_of_collectM hbefore trade.wallet trade.side
        rw [← hqty, ← husd]
        refine ⟨⟨before, hbefore⟩, ?_⟩
        cases hadd : addToGroup before trade with
        | error signal =>
            rw [hadd] at h
            cases h
        | ok acc => exact (addTrade_eq_ok hadd).1
      · rintro ⟨⟨before, hbefore⟩, hqtyRange, husdRange⟩
        obtain ⟨hqty, husd⟩ := totals_of_collectM hbefore trade.wallet trade.side
        rw [← hqty] at hqtyRange
        rw [← husd] at husdRange
        obtain ⟨acc, hadd⟩ := exists_addTrade_of_range hqtyRange husdRange
        exact ⟨some acc, bind_eq_ok.mpr ⟨before, hbefore, congrArg (some <$> ·) hadd⟩⟩

/-! ## Rows -/

/-- No price and no figure of a sale overflows. -/
structure FiguresInRange (boughtQty boughtUsd soldQty soldUsd : ℚ) : Prop where
  avgBuy : 0 < boughtQty → |boughtUsd / boughtQty| < defaultContext.limit
  avgSell : 0 < soldQty → |soldUsd / soldQty| < defaultContext.limit
  sale : ∀ price, 0 < boughtQty → 0 < soldQty →
    defaultContext.round (boughtUsd / boughtQty) = .ok price → SaleInRange soldQty soldUsd price

theorem exists_price {numerator denominator : ℚ} {ratio : Option ℚ}
    (h : totalsRatio numerator denominator = .ok ratio) (hpos : 0 < denominator) :
    ∃ price, ratio = some price ∧ defaultContext.round (numerator / denominator) = .ok price := by
  unfold totalsRatio at h
  rw [if_neg (not_le.mpr hpos)] at h
  cases hround : defaultContext.round (numerator / denominator) with
  | error signal =>
      rw [hround] at h
      cases h
  | ok price =>
      rw [hround] at h
      cases h
      exact ⟨price, rfl, rfl⟩

theorem saleInRange_of_realisedPnl {price : ℚ} {result : ℚ × Option ℚ}
    (h : realisedPnl acc (some price) = .ok result) (hsold : 0 < acc.totalSoldQty) :
    SaleInRange acc.totalSoldQty acc.totalSoldUsd price := by
  unfold realisedPnl at h
  dsimp only at h
  rw [if_pos hsold] at h
  obtain ⟨basis, hbasis, h⟩ := bind_eq_ok.mp h
  obtain ⟨pnl, hpnl, h⟩ := bind_eq_ok.mp h
  refine ⟨(round_eq_ok_iff.mp hbasis).1, fun basis' hbasis' => ?_,
    fun basis' pnl' hbasis' hpnl' hpos => ?_,
    fun basis' pnl' share' hbasis' hpnl' hpos hshare' => ?_⟩
  · cases hbasis.symm.trans hbasis'
    exact (round_eq_ok_iff.mp hpnl).1
  · cases hbasis.symm.trans hbasis'
    cases hpnl.symm.trans hpnl'
    rw [if_pos hpos] at h
    obtain ⟨share, hshare, -⟩ := bind_eq_ok.mp h
    exact (round_eq_ok_iff.mp hshare).1
  · cases hbasis.symm.trans hbasis'
    cases hpnl.symm.trans hpnl'
    rw [if_pos hpos] at h
    obtain ⟨share, hshare, h⟩ := bind_eq_ok.mp h
    cases hshare.symm.trans hshare'
    obtain ⟨pct, hpct, -⟩ := bind_eq_ok.mp h
    exact (round_eq_ok_iff.mp hpct).1

/-- The row of an accumulator with totals in range. -/
theorem exists_walletRow_iff
    (fits : ∀ side, defaultContext.Fits (acc.qty side) ∧ defaultContext.Fits (acc.usd side))
    (nonneg : ∀ side, 0 ≤ acc.qty side) : (∃ row, walletRow acc = .ok row) ↔
      FiguresInRange acc.totalBoughtQty acc.totalBoughtUsd acc.totalSoldQty acc.totalSoldUsd := by
  constructor
  · rintro ⟨row, h⟩
    obtain ⟨net, hnet, h⟩ := bind_eq_ok.mp h
    obtain ⟨avgBuy, hbuy, h⟩ := bind_eq_ok.mp h
    obtain ⟨avgSell, hsell, h⟩ := bind_eq_ok.mp h
    obtain ⟨⟨pnl, pct⟩, hpnl, h⟩ := bind_eq_ok.mp h
    refine ⟨fun hpos => ?_, fun hpos => ?_, fun price hpos hsold hprice => ?_⟩
    · obtain ⟨price, -, hround⟩ := exists_price hbuy hpos
      exact (round_eq_ok_iff.mp hround).1
    · obtain ⟨price, -, hround⟩ := exists_price hsell hpos
      exact (round_eq_ok_iff.mp hround).1
    · obtain ⟨found, rfl, hround⟩ := exists_price hbuy hpos
      cases hround.symm.trans hprice
      exact saleInRange_of_realisedPnl hpnl hsold
  · rintro ⟨hbuy, hsell, hsale⟩
    obtain ⟨avgBuy, havgBuy, hbuyFits, hbuyPrice⟩ := exists_totalsRatio hbuy
    obtain ⟨avgSell, havgSell, hsellFits, -⟩ := exists_totalsRatio hsell
    obtain ⟨pnl, pct, hpnl, hpnlFits, hpctFits⟩ := exists_realisedPnl avgBuy
      fun p hp hsold => hsale p (hbuyPrice p hp).1 hsold (hbuyPrice p hp).2
    have hbought := fits .buy
    have hsold := fits .sell
    -- both totals are below the limit, and neither is negative
    have hnet : |acc.totalBoughtQty - acc.totalSoldQty| < defaultContext.limit := by
      have hb := lt_limit_of_fits hbought.1
      have hs := lt_limit_of_fits hsold.1
      have hb0 : 0 ≤ acc.totalBoughtQty := nonneg .buy
      have hs0 : 0 ≤ acc.totalSoldQty := nonneg .sell
      rw [abs_lt] at hb hs ⊢
      unfold WalletAccumulator.qty at hb hs
      exact ⟨by linarith [hb.1, hs.2], by linarith [hb.2, hs.1]⟩
    obtain ⟨net, hnet, hnetFits⟩ := exists_rounded hnet
    exact ⟨_, bind_eq_ok.mpr ⟨net, hnet, bind_eq_ok.mpr ⟨_, havgBuy,
      bind_eq_ok.mpr ⟨_, havgSell, bind_eq_ok.mpr ⟨_, hpnl,
        bind_eq_ok.mpr ⟨_, normalizedDecimal_of_fits hbought.1,
        bind_eq_ok.mpr ⟨_, normalizedDecimal_of_fits hbought.2,
        bind_eq_ok.mpr ⟨_, normalizedDecimal_of_fits hsold.1,
        bind_eq_ok.mpr ⟨_, normalizedDecimal_of_fits hsold.2,
        bind_eq_ok.mpr ⟨_, normalizedDecimal_of_fits hnetFits,
        bind_eq_ok.mpr ⟨_, normalizedDecimal?_of_fits hbuyFits,
        bind_eq_ok.mpr ⟨_, normalizedDecimal?_of_fits hsellFits,
        bind_eq_ok.mpr ⟨_, normalizedDecimal_of_fits hpnlFits,
        bind_eq_ok.mpr ⟨_, normalizedDecimal?_of_fits hpctFits, rfl⟩⟩⟩⟩⟩⟩⟩⟩⟩⟩⟩⟩⟩⟩

/-! ## The analysis -/

/-- No decimal of the row of a wallet overflows, given its trades. -/
structure WalletInRange (trades : List ImportedTrade) : Prop where
  totals : TotalsInRange trades
  figures : FiguresInRange (runningTotal (amountsOf trades .buy ImportedTrade.tokenAmount))
    (runningTotal (amountsOf trades .buy ImportedTrade.usdAmount))
    (runningTotal (amountsOf trades .sell ImportedTrade.tokenAmount))
    (runningTotal (amountsOf trades .sell ImportedTrade.usdAmount))

/-- No decimal of the analysis of some trades overflows. -/
structure AnalysisInRange (trades : List ImportedTrade) (previewLimit : Nat) : Prop where
  wallets : ∀ wallet ∈ trades.map ImportedTrade.wallet,
    WalletInRange (trades.filter fun trade => trade.wallet = wallet)
  prices : ∀ trade ∈ trades.take previewLimit, |trade.priceUsd| < defaultContext.limit

/-- No amount is negative. -/
def AmountsNonneg (trades : List ImportedTrade) : Prop :=
  ∀ trade ∈ trades, 0 ≤ trade.tokenAmount ∧ 0 ≤ trade.usdAmount

theorem exists_walletRow_totals (nonneg : AmountsNonneg trades) (htotals : TotalsInRange trades)
    (h : Totals trades acc) : (∃ row, walletRow acc = .ok row) ↔ WalletInRange trades := by
  have hqty : ∀ side, ∀ a ∈ amountsOf trades side ImportedTrade.tokenAmount, 0 ≤ a := by
    intro side a ha
    obtain ⟨trade, htrade, rfl⟩ := List.mem_map.mp ha
    exact (nonneg trade (List.mem_of_mem_filter htrade)).1
  rw [exists_walletRow_iff]
  · obtain ⟨hbq, hbu⟩ := h .buy
    obtain ⟨hsq, hsu⟩ := h .sell
    unfold WalletAccumulator.qty at hbq hsq
    unfold WalletAccumulator.usd at hbu hsu
    dsimp only at hbq hbu hsq hsu
    rw [hbq, hbu, hsq, hsu]
    exact ⟨fun h => ⟨htotals, h⟩, fun h => h.figures⟩
  · intro side
    rw [(h side).1, (h side).2]
    exact ⟨fits_runningTotal (htotals side).1, fits_runningTotal (htotals side).2⟩
  · intro side
    rw [(h side).1]
    exact runningTotal_nonneg (hqty side)

theorem filter_wallet_eq_nil {wallet : Text} (h : wallet ∉ trades.map ImportedTrade.wallet) :
    (trades.filter fun trade => trade.wallet = wallet) = [] :=
  List.filter_eq_nil_iff.mpr fun trade htrade => by
    have hne : trade.wallet ≠ wallet := fun heq => h (heq ▸ List.mem_map_of_mem htrade)
    simp [hne]

/-- The loop over the trades, and what it leaves. -/
theorem exists_accumulators_iff (trades : List ImportedTrade) :
    (∃ accs, trades.foldlM addToWallet [] = .ok accs) ↔
      ∀ wallet ∈ trades.map ImportedTrade.wallet,
        TotalsInRange (trades.filter fun trade => trade.wallet = wallet) := by
  have hloop := foldlM_keyed trades []
  constructor
  · rintro ⟨accs, haccs⟩ wallet hwallet
    rw [haccs] at hloop
    have hdescribes := Groups.foldlM_upsertM hloop
    rw [← valuesOf_keyed, ← exists_collectM_iff]
    have hkey : wallet ∈ (accs.map keyedAccumulator).map (·.1) := by
      rw [hdescribes.mem_keys, List.map_map]
      exact hwallet
    obtain ⟨entry, hentry, rfl⟩ := List.mem_map.mp hkey
    exact ⟨_, hdescribes.groups entry hentry⟩
  · intro h
    have hgroup : ∀ wallet, ∃ group,
        collectM addToGroup (valuesOf (trades.map keyedTrade) wallet) = .ok group := fun wallet => by
      rw [exists_collectM_iff, valuesOf_keyed]
      by_cases hwallet : wallet ∈ trades.map ImportedTrade.wallet
      · exact h wallet hwallet
      · rw [filter_wallet_eq_nil hwallet]
        exact fun _ => ⟨totalInRange_nil, totalInRange_nil⟩
    obtain ⟨groups, hgroups⟩ := Groups.exists_foldlM_upsertM hgroup
    have heq := hloop.symm.trans hgroups
    cases haccs : trades.foldlM addToWallet [] with
    | error signal =>
        rw [haccs] at heq
        cases heq
    | ok accs => exact ⟨accs, rfl⟩

theorem totals_of_accumulators {accs : List WalletAccumulator}
    (h : trades.foldlM addToWallet [] = .ok accs) :
    (∀ acc ∈ accs, Totals (trades.filter fun trade => trade.wallet = acc.wallet) acc) ∧
      ∀ wallet, wallet ∈ accs.map WalletAccumulator.wallet ↔
        wallet ∈ trades.map ImportedTrade.wallet := by
  have hloop := foldlM_keyed trades []
  rw [h] at hloop
  have hdescribes := Groups.foldlM_upsertM hloop
  refine ⟨fun acc hacc => ?_, fun wallet => ?_⟩
  · have hgroup := hdescribes.groups (acc.wallet, acc)
      (List.mem_map_of_mem (f := keyedAccumulator) hacc)
    rw [valuesOf_keyed] at hgroup
    exact totals_of_collectM hgroup acc.wallet
  · have hkeys : wallet ∈ (accs.map keyedAccumulator).map (·.1) ↔ _ := hdescribes.mem_keys
    rw [List.map_map, List.map_map] at hkeys
    exact hkeys

theorem exists_walletRows_iff (nonneg : AmountsNonneg trades) :
    (∃ rows, buildWalletRows trades = .ok rows) ↔
      ∀ wallet ∈ trades.map ImportedTrade.wallet,
        WalletInRange (trades.filter fun trade => trade.wallet = wallet) := by
  have hnonneg : ∀ wallet, AmountsNonneg (trades.filter fun trade => trade.wallet = wallet) :=
    fun wallet trade htrade => nonneg trade (List.mem_of_mem_filter htrade)
  constructor
  · rintro ⟨rows, h⟩ wallet hwallet
    obtain ⟨accs, haccs, h⟩ := bind_eq_ok.mp h
    obtain ⟨found, hfound, -⟩ := bind_eq_ok.mp h
    obtain ⟨htotals, hwallets⟩ := totals_of_accumulators haccs
    obtain ⟨acc, hacc, rfl⟩ := List.mem_map.mp ((hwallets wallet).mpr hwallet)
    have hrow := ExceptFold.exists_mapM.mp ⟨found, hfound⟩ acc hacc
    have hrange := (exists_accumulators_iff trades).mp ⟨accs, haccs⟩ _ hwallet
    exact (exists_walletRow_totals (hnonneg _) hrange (htotals acc hacc)).mp hrow
  · intro h
    obtain ⟨accs, haccs⟩ := (exists_accumulators_iff trades).mpr fun wallet hwallet =>
      (h wallet hwallet).totals
    obtain ⟨htotals, hwallets⟩ := totals_of_accumulators haccs
    obtain ⟨rows, hrows⟩ : ∃ rows, accs.mapM walletRow = .ok rows := by
      refine ExceptFold.exists_mapM.mpr fun acc hacc => ?_
      have hwallet := h acc.wallet ((hwallets _).mp (List.mem_map_of_mem hacc))
      exact (exists_walletRow_totals (hnonneg _) hwallet.totals (htotals acc hacc)).mpr hwallet
    exact ⟨_, bind_eq_ok.mpr ⟨accs, haccs, bind_eq_ok.mpr ⟨rows, hrows, rfl⟩⟩⟩

/-- A trade of the preview, whose amounts are in range. -/
theorem exists_jsonTrade_iff (htoken : |trade.tokenAmount| < defaultContext.limit)
    (husd : |trade.usdAmount| < defaultContext.limit) :
    (∃ shown, jsonTrade trade = .ok shown) ↔ |trade.priceUsd| < defaultContext.limit := by
  rw [← exists_normalizedDecimal_iff]
  constructor
  · rintro ⟨shown, h⟩
    obtain ⟨_, _, h⟩ := bind_eq_ok.mp h
    obtain ⟨_, _, h⟩ := bind_eq_ok.mp h
    obtain ⟨price, hprice, -⟩ := bind_eq_ok.mp h
    exact ⟨price, hprice⟩
  · rintro ⟨price, hprice⟩
    obtain ⟨token, htoken⟩ := exists_normalizedDecimal_iff.mpr htoken
    obtain ⟨usd, husd⟩ := exists_normalizedDecimal_iff.mpr husd
    exact ⟨_, bind_eq_ok.mpr ⟨token, htoken, bind_eq_ok.mpr ⟨usd, husd,
      bind_eq_ok.mpr ⟨price, hprice, rfl⟩⟩⟩⟩

/-- The amounts of a trade of wallets in range. -/
theorem amounts_lt_limit (nonneg : AmountsNonneg trades)
    (h : ∀ wallet ∈ trades.map ImportedTrade.wallet,
      WalletInRange (trades.filter fun trade => trade.wallet = wallet)) (htrade : trade ∈ trades) :
    |trade.tokenAmount| < defaultContext.limit ∧ |trade.usdAmount| < defaultContext.limit := by
  have hwallet := (h trade.wallet (List.mem_map_of_mem htrade)).totals trade.side
  have hmem : trade ∈ (trades.filter fun t => t.wallet = trade.wallet).filter
      fun t => t.side = trade.side := by simp [htrade]
  have hamounts : ∀ t ∈ (trades.filter fun t => t.wallet = trade.wallet).filter
      fun t => t.side = trade.side, 0 ≤ t.tokenAmount ∧ 0 ≤ t.usdAmount := fun t ht =>
    nonneg t (List.mem_of_mem_filter (List.mem_of_mem_filter ht))
  refine ⟨lt_limit_of_mem hwallet.1 ?_ (List.mem_map_of_mem hmem),
    lt_limit_of_mem hwallet.2 ?_ (List.mem_map_of_mem hmem)⟩
  · exact List.forall_mem_map.mpr fun t ht => (hamounts t ht).1
  · exact List.forall_mem_map.mpr fun t ht => (hamounts t ht).2

/-- The analysis of amounts that are not negative raises exactly where a
decimal overflows. -/
theorem exists_analysis_iff (parsed : ImportResult) (previewLimit : Nat) (source : String)
    (nonneg : AmountsNonneg parsed.trades) :
    (∃ analysis, analyzeImportedTrades parsed previewLimit source = .ok analysis) ↔
      AnalysisInRange parsed.trades previewLimit := by
  have hpreview (h : ∀ wallet ∈ parsed.trades.map ImportedTrade.wallet,
      WalletInRange (parsed.trades.filter fun trade => trade.wallet = wallet)) :
      (∃ shown, (parsed.trades.take previewLimit).mapM jsonTrade = .ok shown) ↔
        ∀ trade ∈ parsed.trades.take previewLimit, |trade.priceUsd| < defaultContext.limit := by
    rw [ExceptFold.exists_mapM]
    refine forall₂_congr fun trade htrade => ?_
    obtain ⟨htoken, husd⟩ := amounts_lt_limit nonneg h (List.mem_of_mem_take htrade)
    exact exists_jsonTrade_iff htoken husd
  constructor
  · rintro ⟨analysis, h⟩
    obtain ⟨rows, hrows, h⟩ := bind_eq_ok.mp h
    obtain ⟨shown, hshown, -⟩ := bind_eq_ok.mp h
    have hwallets := (exists_walletRows_iff nonneg).mp ⟨rows, hrows⟩
    exact ⟨hwallets, (hpreview hwallets).mp ⟨shown, hshown⟩⟩
  · rintro ⟨hwallets, hprices⟩
    obtain ⟨rows, hrows⟩ := (exists_walletRows_iff nonneg).mpr hwallets
    obtain ⟨shown, hshown⟩ := (hpreview hwallets).mpr hprices
    exact ⟨_, bind_eq_ok.mpr ⟨rows, hrows, bind_eq_ok.mpr ⟨shown, hshown, rfl⟩⟩⟩

end TonTracker
