/-
# `Pnl.RealLabel` — what the label of Real PnL rests on

The label is set where all five requirements are available, and each of
them says something of the used legs only: `isRealPnl_iff_unlocked` turns
the flags into that.  A swap row that is no leg is counted as excluded and
locks nothing, so the label is sound exactly where no row is left out (and
the context's rounding covers no sale of its own).
-/
import TonTracker.Services.PnlUsdValuation
import TonTracker.Lib.ExceptFold
import Mathlib.Data.List.Dedup

namespace TonTracker

open ContextDecimal (Decimal Signal)

variable {readers : PnlReaders} {prices : PriceSource} {run : PnlRun}

/-! ## The base estimate -/

/-- A leg with a recorded fee. -/
def hasFee (readers : PnlReaders) (run : PnlRun) (swap : PnlSwap) : Bool :=
  (tonLeg readers swap).isSome && (feeOf readers run swap).isSome

theorem previewRow_counts {s s' : PreviewLoop} {swap : PnlSwap}
    (h : previewRow readers run s swap = .ok s') :
    s'.swapsUsed = s.swapsUsed + (if (tonLeg readers swap).isSome then 1 else 0) ∧
      s'.swapsExcluded = s.swapsExcluded + (if (tonLeg readers swap).isNone then 1 else 0) ∧
      s'.feesMatched = s.feesMatched + (if hasFee readers run swap then 1 else 0) := by
  unfold previewRow at h
  unfold hasFee
  cases hleg : tonLeg readers swap with
  | none =>
      rw [hleg] at h
      cases h
      exact ⟨rfl, rfl, rfl⟩
  | some leg =>
      rw [hleg] at h
      obtain ⟨flows, -, h⟩ := ExceptFold.bind_eq_ok.mp h
      cases h
      exact ⟨rfl, rfl, rfl⟩

/-- The counts of the loop. -/
theorem previewRows_counts {swaps : List PnlSwap} {s s' : PreviewLoop}
    (h : swaps.foldlM (previewRow readers run) s = .ok s') :
    s'.swapsUsed = s.swapsUsed + swaps.countP (fun swap => (tonLeg readers swap).isSome) ∧
      s'.swapsExcluded = s.swapsExcluded + swaps.countP (fun swap => (tonLeg readers swap).isNone) ∧
      s'.feesMatched = s.feesMatched + swaps.countP (hasFee readers run) := by
  induction swaps generalizing s with
  | nil =>
      cases h
      exact ⟨rfl, rfl, rfl⟩
  | cons swap swaps ih =>
      rw [List.foldlM_cons] at h
      obtain ⟨next, hnext, h⟩ := ExceptFold.bind_eq_ok.mp h
      obtain ⟨used, excluded, fees⟩ := previewRow_counts hnext
      obtain ⟨used', excluded', fees'⟩ := ih h
      rw [used', excluded', fees', used, excluded, fees, List.countP_cons, List.countP_cons,
        List.countP_cons]
      exact ⟨by ring, by ring, by ring⟩

/-- The legs are those of the rows with one TON side. -/
theorem length_usdLegs : (usdLegs readers run).length =
    run.swaps.countP fun swap => (tonLeg readers swap).isSome := by
  unfold usdLegs
  rw [List.length_filterMap_eq_countP]
  simp

theorem allFees_iff : run.swaps.countP (hasFee readers run) =
      run.swaps.countP (fun swap => (tonLeg readers swap).isSome) ↔
    ∀ leg ∈ usdLegs readers run, leg.feeTon.isSome = true := by
  have hfees : run.swaps.countP (hasFee readers run) =
      (run.swaps.filter fun swap => (tonLeg readers swap).isSome).countP
        fun swap => (feeOf readers run swap).isSome := by
    rw [List.countP_filter]
    exact List.countP_congr fun swap _ => by simp [hasFee, and_comm]
  rw [hfees, List.countP_eq_length_filter (p := fun swap => (tonLeg readers swap).isSome),
    List.countP_eq_length]
  constructor
  · intro h leg hleg
    obtain ⟨swap, hswap, hto⟩ := List.mem_filterMap.mp hleg
    obtain ⟨ton, hton, rfl⟩ := Option.map_eq_some_iff.mp hto
    exact h swap (List.mem_filter.mpr ⟨hswap, by simp [hton]⟩)
  · intro h swap hswap
    obtain ⟨hmem, hsome⟩ := List.mem_filter.mp hswap
    obtain ⟨ton, hton⟩ := Option.isSome_iff_exists.mp hsome
    exact h ⟨ton, readers.timestamp? swap.timestamp, feeOf readers run swap⟩
      (List.mem_filterMap.mpr ⟨swap, hmem, by rw [hton]; rfl⟩)

/-- What the base estimate hands on. -/
theorem deriveRunPnlPreview_ok {preview : PnlPreview}
    (h : deriveRunPnlPreview readers run = .ok preview) :
    preview.isRealPnl = false ∧
      preview.swapsExcluded = run.swaps.countP (fun swap => (tonLeg readers swap).isNone) ∧
      ∃ s : PreviewLoop, s.swapsUsed = (usdLegs readers run).length ∧
        s.feesMatched = run.swaps.countP (hasFee readers run) ∧
        preview.requirements = feeRequirement s (buildRealPnlRequirements run) := by
  unfold deriveRunPnlPreview at h
  obtain ⟨s, hs, h⟩ := ExceptFold.bind_eq_ok.mp h
  obtain ⟨used, excluded, fees⟩ := previewRows_counts hs
  obtain ⟨records, -, h⟩ := ExceptFold.bind_eq_ok.mp h
  obtain ⟨spent, -, h⟩ := ExceptFold.bind_eq_ok.mp h
  obtain ⟨received, -, h⟩ := ExceptFold.bind_eq_ok.mp h
  obtain ⟨fee, -, h⟩ := ExceptFold.bind_eq_ok.mp h
  obtain ⟨net, -, h⟩ := ExceptFold.bind_eq_ok.mp h
  obtain ⟨after, -, h⟩ := ExceptFold.bind_eq_ok.mp h
  cases h
  simp only [Nat.zero_add] at used excluded fees
  exact ⟨rfl, excluded, s, used.trans length_usdLegs.symm, fees, rfl⟩

/-! ## The cost basis -/

/-- A leg of positive quantity. -/
def PricedLeg.Positive (leg : PricedLeg) (qty : Decimal) : Prop :=
  leg.leg.tokenQty = some qty ∧ Decimal.zero.lt qty = .ok true

/-- The balance, kept in the context, covers every sale of the legs. -/
inductive Settles : Decimal → List PricedLeg → Prop
  | nil (held : Decimal) : Settles held []
  | buy {held qty next : Decimal} {leg : PricedLeg} {legs : List PricedLeg}
      (side : leg.leg.side = .buy) (positive : leg.Positive qty)
      (add : held.add defaultContext qty = .ok next) (rest : Settles next legs) :
      Settles held (leg :: legs)
  | sell {held qty next : Decimal} {leg : PricedLeg} {legs : List PricedLeg}
      (side : leg.leg.side = .sell) (positive : leg.Positive qty)
      (covered : held.lt qty = .ok false) (sub : held.sub defaultContext qty = .ok next)
      (rest : Settles next legs) : Settles held (leg :: legs)

/-- One leg in the ledger. -/
theorem apply_ok {s : CostLedger} {leg : PricedLeg} {qty : Decimal} {r : CostLedger ⊕ Text}
    (h : s.apply leg qty = .ok r) :
    (leg.leg.side = .buy ∧ ∃ next, s.qtyHeld.add defaultContext qty = .ok next ∧
        ∃ s', r = .inl s' ∧ s'.qtyHeld = next) ∨
      (leg.leg.side = .sell ∧ s.qtyHeld.lt qty = .ok true ∧ ∃ reason, r = .inr reason) ∨
      (leg.leg.side = .sell ∧ s.qtyHeld.lt qty = .ok false ∧
        ∃ next, s.qtyHeld.sub defaultContext qty = .ok next ∧
          ∃ s', r = .inl s' ∧ s'.qtyHeld = next) := by
  unfold CostLedger.apply at h
  obtain ⟨feeUsd, -, h⟩ := ExceptFold.bind_eq_ok.mp h
  obtain ⟨usdValue, -, h⟩ := ExceptFold.bind_eq_ok.mp h
  cases hside : leg.leg.side with
  | buy =>
      rw [hside] at h
      obtain ⟨next, hadd, h⟩ := ExceptFold.bind_eq_ok.mp h
      obtain ⟨spent, -, h⟩ := ExceptFold.bind_eq_ok.mp h
      obtain ⟨cost, -, h⟩ := ExceptFold.bind_eq_ok.mp h
      cases h
      exact .inl ⟨rfl, next, hadd, _, rfl, rfl⟩
  | sell =>
      rw [hside] at h
      obtain ⟨uncovered, hlt, h⟩ := ExceptFold.bind_eq_ok.mp h
      cases uncovered with
      | true =>
          cases h
          exact .inr (.inl ⟨rfl, hlt, _, rfl⟩)
      | false =>
          obtain ⟨average, -, h⟩ := ExceptFold.bind_eq_ok.mp h
          obtain ⟨basis, -, h⟩ := ExceptFold.bind_eq_ok.mp h
          obtain ⟨proceeds, -, h⟩ := ExceptFold.bind_eq_ok.mp h
          obtain ⟨gain, -, h⟩ := ExceptFold.bind_eq_ok.mp h
          obtain ⟨realized, -, h⟩ := ExceptFold.bind_eq_ok.mp h
          obtain ⟨proceedsTotal, -, h⟩ := ExceptFold.bind_eq_ok.mp h
          obtain ⟨basisTotal, -, h⟩ := ExceptFold.bind_eq_ok.mp h
          obtain ⟨next, hsub, h⟩ := ExceptFold.bind_eq_ok.mp h
          obtain ⟨cost, -, h⟩ := ExceptFold.bind_eq_ok.mp h
          cases h
          exact .inr (.inr ⟨rfl, hlt, next, hsub, _, rfl, rfl⟩)

/-- A token is computed where its legs settle. -/
theorem costBasisLegs_none_iff {s s' : CostLedger} {legs : List PricedLeg} {failure : Option Text}
    (h : costBasisLegs s legs = .ok (s', failure)) :
    failure = none ↔ Settles s.qtyHeld legs := by
  induction legs generalizing s with
  | nil =>
      rw [costBasisLegs] at h
      cases h
      exact iff_of_true rfl (.nil _)
  | cons leg legs ih =>
      rw [costBasisLegs] at h
      cases hqty : leg.leg.tokenQty with
      | none =>
          rw [hqty] at h
          cases h
          refine iff_of_false (Option.some_ne_none _) ?_
          intro hs
          cases hs with
          | buy _ positive => exact Option.some_ne_none _ (positive.1.symm.trans hqty)
          | sell _ positive => exact Option.some_ne_none _ (positive.1.symm.trans hqty)
      | some qty =>
          rw [hqty] at h
          obtain ⟨positive, hlt, h⟩ := ExceptFold.bind_eq_ok.mp h
          have hqtyOf : ∀ other, leg.Positive other → other = qty := fun other hp =>
            Option.some.inj (hp.1.symm.trans hqty)
          cases positive with
          | false =>
              cases h
              refine iff_of_false (Option.some_ne_none _) ?_
              have hnot : ∀ other, ¬ leg.Positive other := by
                intro other hp
                obtain rfl := hqtyOf other hp
                exact absurd (Except.ok.inj (hp.2.symm.trans hlt)) (by decide)
              intro hs
              cases hs with
              | buy _ positive => exact hnot _ positive
              | sell _ positive => exact hnot _ positive
          | true =>
              obtain ⟨r, happly, h⟩ := ExceptFold.bind_eq_ok.mp h
              obtain ⟨hside, next, hadd, s₁, rfl, rfl⟩ | ⟨hside, hlt', reason, rfl⟩ |
                ⟨hside, hlt', next, hsub, s₁, rfl, rfl⟩ := apply_ok happly
              · rw [ih h]
                constructor
                · intro rest
                  exact .buy hside ⟨hqty, hlt⟩ hadd rest
                · intro hs
                  cases hs with
                  | buy _ positive add rest =>
                      obtain rfl := hqtyOf _ positive
                      obtain rfl := Except.ok.inj (add.symm.trans hadd)
                      exact rest
                  | sell side => exact absurd (side.symm.trans hside) (by decide)
              · cases h
                refine iff_of_false (Option.some_ne_none _) ?_
                intro hs
                cases hs with
                | buy side => exact absurd (side.symm.trans hside) (by decide)
                | sell _ positive covered =>
                    obtain rfl := hqtyOf _ positive
                    exact absurd (Except.ok.inj (covered.symm.trans hlt')) (by decide)
              · rw [ih h]
                constructor
                · intro rest
                  exact .sell hside ⟨hqty, hlt⟩ hlt' hsub rest
                · intro hs
                  cases hs with
                  | buy side => exact absurd (side.symm.trans hside) (by decide)
                  | sell _ positive _ sub rest =>
                      obtain rfl := hqtyOf _ positive
                      obtain rfl := Except.ok.inj (sub.symm.trans hsub)
                      exact rest

theorem mem_legTokens {legs : List PricedLeg} {token : Text} :
    token ∈ legTokens legs ↔ ∃ leg ∈ legs, leg.leg.token = token := by
  unfold legTokens
  rw [List.mem_mergeSort, List.mem_dedup, List.mem_map]

theorem mem_legsOf {legs : List PricedLeg} {token : Text} {leg : PricedLeg} :
    leg ∈ legsOf legs token ↔ leg ∈ legs ∧ leg.leg.token = token := by
  unfold legsOf
  rw [List.mem_mergeSort, List.mem_filter, decide_eq_true_iff]

theorem legTokens_eq_nil {legs : List PricedLeg} : legTokens legs = [] ↔ legs = [] := by
  rw [List.eq_nil_iff_forall_not_mem, List.eq_nil_iff_forall_not_mem]
  constructor
  · intro h leg hleg
    exact h leg.leg.token (mem_legTokens.mpr ⟨leg, hleg, rfl⟩)
  · intro h token htoken
    obtain ⟨leg, hleg, -⟩ := mem_legTokens.mp htoken
    exact h leg hleg

theorem legsOf_eq_nil {legs : List PricedLeg} {token : Text} (h : token ∉ legTokens legs) :
    legsOf legs token = [] := by
  rw [List.eq_nil_iff_forall_not_mem]
  intro leg hleg
  obtain ⟨hmem, htoken⟩ := mem_legsOf.mp hleg
  exact h (mem_legTokens.mpr ⟨leg, hmem, htoken⟩)

/-- Every leg has a positive quantity and every sale is covered. -/
theorem costBasis_available_iff {legs : List PricedLeg} {basis : CostBasis}
    (h : computeInWindowCostBasis legs = .ok basis) :
    basis.available = true ↔
      legs ≠ [] ∧ ∀ token, Settles .zero (legsOf legs token) := by
  unfold computeInWindowCostBasis at h
  obtain ⟨records, hrecords, h⟩ := ExceptFold.bind_eq_ok.mp h
  obtain ⟨total, -, h⟩ := ExceptFold.bind_eq_ok.mp h
  cases h
  have hlen : records.length = (legTokens legs).length :=
    (List.Forall₂.length_eq (ExceptFold.mapM_eq_ok.mp hrecords)).symm
  have hall : (∀ record ∈ records, record.computed.isSome = true) ↔
      ∀ token, Settles .zero (legsOf legs token) := by
    have hsettles : (∀ token, Settles .zero (legsOf legs token)) ↔
        ∀ token ∈ legTokens legs, Settles .zero (legsOf legs token) := by
      refine ⟨fun h token _ => h token, fun h token => ?_⟩
      by_cases htoken : token ∈ legTokens legs
      · exact h token htoken
      · rw [legsOf_eq_nil htoken]
        exact .nil _
    rw [hsettles]
    refine ExceptFold.mapM_forall_iff hrecords fun token record hrecord => ?_
    obtain ⟨⟨s, failure⟩, hs, hrecord⟩ := ExceptFold.bind_eq_ok.mp hrecord
    cases hrecord
    refine Iff.trans ?_ (costBasisLegs_none_iff hs)
    cases failure <;> simp
  have hcount : (records.filterMap (·.computed)).length =
      records.countP fun record => record.computed.isSome := List.length_filterMap_eq_countP
  have hle := List.countP_le_length (p := fun r : CostBasisRecord => r.computed.isSome)
    (l := records)
  have heq := List.countP_eq_length (p := fun r : CostBasisRecord => r.computed.isSome)
    (l := records)
  have hlegs : legs ≠ [] ↔ 0 < records.length := by
    rw [hlen, List.length_pos_iff]
    exact legTokens_eq_nil.not.symm
  show (decide _ && decide _) = true ↔ _
  rw [Bool.and_eq_true, decide_eq_true_iff, decide_eq_true_iff, hcount, hlegs]
  refine Iff.trans ?_ (and_congr_right' (heq.trans hall))
  omega

/-! ## The label -/

/-- The matched legs. -/
def pricedLegs (readers : PnlReaders) (run : PnlRun) (found : HistoricalPrices) :
    List PricedLeg :=
  (usdLegs readers run).filterMap (·.priced (pricePoints readers found.points))

/-- What the price source returns for the window of the run's legs. -/
def Answered (readers : PnlReaders) (prices : PriceSource) (run : PnlRun)
    (found : HistoricalPrices) : Prop :=
  ∃ first last, ((usdLegs readers run).filterMap (·.timestamp)).min? = some first ∧
    ((usdLegs readers run).filterMap (·.timestamp)).max? = some last ∧
    prices first last = .ok found

/-- The five requirements, as facts of the run. -/
structure Unlocked (readers : PnlReaders) (run : PnlRun) (found : HistoricalPrices) : Prop where
  transactions : run.transactions ≠ []
  legs : usdLegs readers run ≠ []
  fees : ∀ leg ∈ usdLegs readers run, leg.feeTon.isSome = true
  status : found.sourceStatus ≠ .unavailable
  matched : ∀ leg ∈ usdLegs readers run,
    (leg.priced (pricePoints readers found.points)).isSome = true
  settles : ∀ token, Settles .zero (legsOf (pricedLegs readers run found) token)

theorem realPnlLocked_set {transactions swaps fees prices basis p b f : Bool}
    {r₁ r₂ r₃ r₄ r₅ reason reason' reason'' : Option Text} :
    realPnlLocked (setRequirementEntry (setRequirementEntry (setRequirementEntry
      [⟨.transactionHistory, transactions, r₁⟩, ⟨.swapEvidence, swaps, r₂⟩,
        ⟨.historicalPrices, p, r₃⟩, ⟨.costBasis, b, r₄⟩, ⟨.feeHandling, f, r₅⟩]
        .feeHandling fees reason) .historicalPrices prices reason') .costBasis basis reason'') =
      !(transactions && swaps && prices && basis && fees) := by
  simp only [realPnlLocked, setRequirementEntry, List.map_cons, List.map_nil, List.any_cons,
    List.any_nil, reduceCtorEq, if_true, if_false]
  cases transactions <;> cases swaps <;> cases prices <;> cases basis <;> cases fees <;> rfl

theorem locked_iff {s : PreviewLoop} {prices basis : Bool} {reason reason' : Option Text} :
    realPnlLocked (setRequirementEntry (setRequirementEntry
      (feeRequirement s (buildRealPnlRequirements run)) .historicalPrices prices reason)
        .costBasis basis reason') = false ↔
      run.transactions ≠ [] ∧ run.swaps ≠ [] ∧ prices = true ∧ basis = true ∧
        s.swapsUsed ≠ 0 ∧ s.feesMatched = s.swapsUsed := by
  have hfees : ∃ reason, feeRequirement s (buildRealPnlRequirements run) = setRequirementEntry
      (buildRealPnlRequirements run) .feeHandling
        (decide (s.swapsUsed ≠ 0) && decide (s.feesMatched = s.swapsUsed)) reason := by
    unfold feeRequirement
    split
    · next h =>
        rw [decide_eq_false (not_not.mpr h)]
        exact ⟨_, rfl⟩
    · next h =>
        rw [decide_eq_true h]
        split
        · next h' =>
            rw [decide_eq_true h']
            exact ⟨_, rfl⟩
        · next h' =>
            rw [decide_eq_false h']
            exact ⟨_, rfl⟩
  obtain ⟨reason'', hfees⟩ := hfees
  rw [hfees, buildRealPnlRequirements, realPnlLocked_set]
  simp [and_assoc]

theorem enrichedPreview_ok {preview enriched : PnlPreview} {basis : Option CostBasis}
    {found : HistoricalPrices}
    (hpreview : deriveRunPnlPreview readers run = .ok preview)
    (h : enrichedPreview preview (usdLegs readers run) (pricedLegs readers run found)
      found.sourceStatus = .ok (enriched, basis)) :
    enriched.isRealPnl = false ∧ enriched.swapsExcluded = preview.swapsExcluded ∧
      (enriched.realPnlLocked = false ↔ Unlocked readers run found) := by
  obtain ⟨hreal, hexcluded, s, hused, hmatched, hrequirements⟩ := deriveRunPnlPreview_ok hpreview
  have hall : (pricedLegs readers run found).length = (usdLegs readers run).length ↔
      ∀ leg ∈ usdLegs readers run, (leg.priced (pricePoints readers found.points)).isSome = true := by
    unfold pricedLegs
    rw [List.length_filterMap_eq_countP, List.countP_eq_length]
  have hfees : s.feesMatched = s.swapsUsed ↔
      ∀ leg ∈ usdLegs readers run, leg.feeTon.isSome = true := by
    rw [hmatched, hused, length_usdLegs, allFees_iff]
  have hswaps : s.swapsUsed ≠ 0 → run.swaps ≠ [] := by
    intro hne hnil
    rw [hused, length_usdLegs, hnil] at hne
    exact hne rfl
  unfold enrichedPreview at h
  dsimp only at h
  split at h
  · next havailable =>
      obtain ⟨computed, hcomputed, h⟩ := ExceptFold.bind_eq_ok.mp h
      cases h
      refine ⟨hreal, rfl, ?_⟩
      show realPnlLocked (setRequirementEntry (setRequirementEntry preview.requirements _ _ _)
        _ _ _) = false ↔ _
      rw [hrequirements, locked_iff, costBasis_available_iff hcomputed]
      simp only [Bool.and_eq_true, decide_eq_true_iff] at havailable ⊢
      obtain ⟨⟨hlength, hpos⟩, hstatus⟩ := havailable
      have hlegs : usdLegs readers run ≠ [] := List.length_pos_iff.mp (hlength ▸ hpos)
      constructor
      · rintro ⟨htransactions, -, -, ⟨-, hsettles⟩, -, hfee⟩
        exact ⟨htransactions, hlegs, hfees.mp hfee, hstatus, hall.mp hlength, hsettles⟩
      · intro hunlocked
        have hne : s.swapsUsed ≠ 0 := by omega
        exact ⟨hunlocked.transactions, hswaps hne, ⟨⟨hlength, hpos⟩, hstatus⟩,
          ⟨List.length_pos_iff.mp hpos, hunlocked.settles⟩, hne, hfees.mpr hunlocked.fees⟩
  · next havailable =>
      cases h
      refine ⟨hreal, rfl, ?_⟩
      show realPnlLocked (setRequirementEntry (setRequirementEntry preview.requirements _ _ _)
        _ _ _) = false ↔ _
      rw [hrequirements, locked_iff]
      refine iff_of_false (fun hunlocked => Bool.false_ne_true hunlocked.2.2.2.1) ?_
      intro hunlocked
      refine havailable ?_
      rw [Bool.and_eq_true, Bool.and_eq_true, decide_eq_true_iff, decide_eq_true_iff,
        decide_eq_true_iff, hall.mpr hunlocked.matched]
      exact ⟨⟨rfl, List.length_pos_iff.mpr hunlocked.legs⟩, hunlocked.status⟩

theorem answered_unique {found other : HistoricalPrices}
    (h : Answered readers prices run found) (h' : Answered readers prices run other) :
    found = other := by
  obtain ⟨first, last, hmin, hmax, hfound⟩ := h
  obtain ⟨first', last', hmin', hmax', hother⟩ := h'
  obtain rfl := Option.some.inj (hmin.symm.trans hmin')
  obtain rfl := Option.some.inj (hmax.symm.trans hmax')
  exact Except.ok.inj (hfound.symm.trans hother)

theorem liftSignal_eq_ok {α : Type} {x : Except Signal α} {value : α} :
    liftSignal x = .ok value ↔ x = .ok value := by
  cases x with
  | error signal => exact iff_of_false nofun nofun
  | ok result => exact ⟨fun h => congrArg _ (Except.ok.inj h), fun h => congrArg _ (Except.ok.inj h)⟩

theorem labelled_swapsExcluded (preview : PnlPreview) :
    preview.labelled.swapsExcluded = preview.swapsExcluded := by
  unfold PnlPreview.labelled
  split <;> rfl

theorem labelled_isRealPnl {preview : PnlPreview} (h : preview.isRealPnl = false) :
    preview.labelled.isRealPnl = true ↔ preview.realPnlLocked = false := by
  unfold PnlPreview.labelled
  split
  · next hlocked => simp [h, hlocked]
  · next hlocked => simpa using hlocked

/-- The label is given where the five requirements hold, and the excluded
rows are those with no TON side. -/
theorem deriveRunPnlPreviewWithHistorical_ok {result : UsdPreview}
    (h : deriveRunPnlPreviewWithHistorical readers prices run = .ok result) :
    result.preview.swapsExcluded =
        run.swaps.countP (fun swap => (tonLeg readers swap).isNone) ∧
      (result.preview.isRealPnl = true ↔
        ∃ found, Answered readers prices run found ∧ Unlocked readers run found) := by
  unfold deriveRunPnlPreviewWithHistorical at h
  obtain ⟨preview, hpreview, h⟩ := ExceptFold.bind_eq_ok.mp h
  have hpreview := liftSignal_eq_ok.mp hpreview
  obtain ⟨hreal, hexcluded, -⟩ := deriveRunPnlPreview_ok hpreview
  dsimp only at h
  split at h
  · next hlegs =>
      cases h
      refine ⟨hexcluded, iff_of_false (Bool.eq_false_iff.mp hreal) ?_⟩
      rintro ⟨found, -, hunlocked⟩
      exact hunlocked.legs hlegs
  · next first last hmin hmax hlegs =>
      have answered : ∀ {found}, Answered readers prices run found →
          prices first last = .ok found := by
        rintro found ⟨first', last', hmin', hmax', hfound⟩
        rwa [Option.some.inj (hmin'.symm.trans hmin), Option.some.inj (hmax'.symm.trans hmax)]
          at hfound
      split at h
      · cases h
      · next message hprices =>
          cases h
          refine ⟨hexcluded, iff_of_false (Bool.eq_false_iff.mp hreal) ?_⟩
          rintro ⟨found, hanswered, -⟩
          cases hprices.symm.trans (answered hanswered)
      · next found hprices =>
          obtain ⟨totals, -, h⟩ := ExceptFold.bind_eq_ok.mp h
          obtain ⟨⟨enriched, basis⟩, henriched, h⟩ := ExceptFold.bind_eq_ok.mp h
          obtain ⟨hreal', hexcluded', hlocked⟩ :=
            enrichedPreview_ok hpreview (liftSignal_eq_ok.mp henriched)
          cases h
          refine ⟨(labelled_swapsExcluded _).trans (hexcluded'.trans hexcluded), ?_⟩
          refine (labelled_isRealPnl hreal').trans (hlocked.trans ?_)
          constructor
          · intro hunlocked
            exact ⟨found, ⟨first, last, hmin, hmax, hprices⟩, hunlocked⟩
          · rintro ⟨other, hother, hunlocked⟩
            rwa [Except.ok.inj (hprices.symm.trans (answered hother))]
  · next hnone =>
      cases h
      refine ⟨hexcluded, iff_of_false (Bool.eq_false_iff.mp hreal) ?_⟩
      rintro ⟨found, ⟨first, last, hmin, hmax, -⟩, -⟩
      exact hnone _ _ hmin hmax

/-! ## The complete calculation -/

/-- A quantity; the legs of a settled token have positive ones. -/
def decimalBound : Decimal → WithTop ℚ
  | .finite value => value
  | .infinite false => ⊤
  | _ => 0

/-- The exact sum of the quantities of one side. -/
def tradedQty (side : LegSide) (legs : List PricedLeg) : WithTop ℚ :=
  ((legs.filter fun leg => leg.leg.side = side).map fun leg =>
    (leg.leg.tokenQty.map decimalBound).getD 0).sum

/-- Every sale is covered by the earlier purchases. -/
def Covered (legs : List PricedLeg) : Prop :=
  ∀ earlier leg later, legs = earlier ++ leg :: later → leg.leg.side = .sell →
    tradedQty .sell (earlier ++ [leg]) ≤ tradedQty .buy earlier

/-- A calculation that leaves nothing out: every swap row is a leg with a
price, a positive quantity and the recorded fee of its transaction, and the
purchases of each token cover its sales. -/
structure Complete (readers : PnlReaders) (run : PnlRun) (found : HistoricalPrices)
    (preview : PnlPreview) : Prop where
  noneExcluded : preview.swapsExcluded = 0
  rows : ∀ swap ∈ run.swaps, ∃ leg timestamp price qty, tonLeg readers swap = some leg ∧
    readers.timestamp? swap.timestamp = some timestamp ∧
    nearestPrice (pricePoints readers found.points) timestamp = some price ∧
    leg.tokenQty = some qty ∧ Decimal.zero.lt qty = .ok true ∧
    (feeOf readers run swap).isSome = true
  covered : ∀ token, Covered (legsOf (pricedLegs readers run found) token)

/-- No row is left out as one without a TON side. -/
def AllRowsUsed (readers : PnlReaders) (run : PnlRun) : Prop :=
  ∀ swap ∈ run.swaps, (tonLeg readers swap).isSome = true

/-- What the rounded balance of a token covers is covered by exact sums. -/
def RoundingHarmless (readers : PnlReaders) (run : PnlRun) (found : HistoricalPrices) : Prop :=
  ∀ token, Settles .zero (legsOf (pricedLegs readers run found) token) →
    Covered (legsOf (pricedLegs readers run found) token)

/-- The legs of a settled list have positive quantities. -/
theorem positive_of_settles {held : Decimal} {legs : List PricedLeg} (h : Settles held legs) :
    ∀ leg ∈ legs, ∃ qty, leg.Positive qty := by
  induction h with
  | nil => exact fun leg hleg => nomatch hleg
  | buy _ positive _ _ ih => exact List.forall_mem_cons.mpr ⟨⟨_, positive⟩, ih⟩
  | sell _ positive _ _ _ ih => exact List.forall_mem_cons.mpr ⟨⟨_, positive⟩, ih⟩

/-- An unlocked run uses each row with a TON side as the claim of the label
says. -/
theorem row_of_unlocked {found : HistoricalPrices} (h : Unlocked readers run found)
    {swap : PnlSwap} {leg : TonLeg} (hmem : swap ∈ run.swaps)
    (hleg : tonLeg readers swap = some leg) :
    ∃ timestamp price qty, readers.timestamp? swap.timestamp = some timestamp ∧
      nearestPrice (pricePoints readers found.points) timestamp = some price ∧
      leg.tokenQty = some qty ∧ Decimal.zero.lt qty = .ok true ∧
      (feeOf readers run swap).isSome = true := by
  have hused : (⟨leg, readers.timestamp? swap.timestamp, feeOf readers run swap⟩ : UsdLeg) ∈
      usdLegs readers run := List.mem_filterMap.mpr ⟨swap, hmem, by rw [hleg]; rfl⟩
  obtain ⟨priced, hpriced⟩ := Option.isSome_iff_exists.mp (h.matched _ hused)
  have hmem' : priced ∈ pricedLegs readers run found :=
    List.mem_filterMap.mpr ⟨_, hused, hpriced⟩
  obtain ⟨timestamp, htimestamp, hprice⟩ := Option.bind_eq_some_iff.mp hpriced
  obtain ⟨price, hnearest, hprice⟩ := Option.bind_eq_some_iff.mp hprice
  cases hprice
  obtain ⟨qty, hqty, hlt⟩ := positive_of_settles (h.settles leg.token) _
    (mem_legsOf.mpr ⟨hmem', rfl⟩)
  exact ⟨timestamp, price, qty, htimestamp, hnearest, hqty, hlt, h.fees _ hused⟩

/-- The label is sound where an unlocked run has no row without a TON side,
and no sale that only a rounded balance covers. -/
theorem isRealPnl_complete_iff {result : UsdPreview}
    (h : deriveRunPnlPreviewWithHistorical readers prices run = .ok result) :
    (result.preview.isRealPnl = true → ∃ found, Answered readers prices run found ∧
        Complete readers run found result.preview) ↔
      ∀ found, Answered readers prices run found → Unlocked readers run found →
        AllRowsUsed readers run ∧ RoundingHarmless readers run found := by
  obtain ⟨hexcluded, hreal⟩ := deriveRunPnlPreviewWithHistorical_ok h
  constructor
  · intro hcomplete found hanswered hunlocked
    obtain ⟨other, hother, complete⟩ := hcomplete (hreal.mpr ⟨found, hanswered, hunlocked⟩)
    obtain rfl := answered_unique hother hanswered
    have hrows : AllRowsUsed readers run := by
      intro swap hmem
      obtain ⟨leg, -, -, -, hleg, -⟩ := complete.rows swap hmem
      rw [hleg]
      rfl
    exact ⟨hrows, fun token _ => complete.covered token⟩
  · intro hcondition htrue
    obtain ⟨found, hanswered, hunlocked⟩ := hreal.mp htrue
    obtain ⟨hrows, hrounding⟩ := hcondition found hanswered hunlocked
    refine ⟨found, hanswered, ?_, ?_, fun token => hrounding token (hunlocked.settles token)⟩
    · rw [hexcluded, List.countP_eq_zero]
      intro swap hmem hnone
      exact Option.isSome_iff_ne_none.mp (hrows swap hmem) (Option.isNone_iff_eq_none.mp hnone)
    · intro swap hmem
      obtain ⟨leg, hleg⟩ := Option.isSome_iff_exists.mp (hrows swap hmem)
      obtain ⟨timestamp, price, qty, hrow⟩ := row_of_unlocked hunlocked hmem hleg
      exact ⟨leg, timestamp, price, qty, hleg, hrow⟩

/-! ## Two runs

One purchase for one TON, priced and with its fee; in the second run a
second swap row has no TON side. -/

/-- Readers of digits, and of timestamps with an offset. -/
def sampleReaders : PnlReaders where
  upper := fun text => text.map Char.toUpper
  decimal := fun text => (FixedDigits.readDigits text.length text).map fun digits => .finite digits.1
  timestamp := fun text => (parseCanonicalTimestamp text).toOption.map fun t => t.micros

def purchase : PnlSwap where
  tokenIn := some "TON".toList
  tokenOut := some "JET".toList
  amountIn := some "1".toList
  amountOut := some "5".toList
  timestamp := some "2024-01-02T00:00:00Z".toList
  txHash := some "aa".toList

def jettonSwap : PnlSwap :=
  { purchase with tokenIn := some "USD".toList, tokenOut := some "JET".toList }

def sampleRun (swaps : List PnlSwap) : PnlRun := ⟨[⟨some "aa".toList, some "1".toList⟩], swaps⟩

def samplePrices : PriceSource := fun _ _ =>
  .ok ⟨[⟨some "2024-01-02T01:00:00Z".toList, some "2".toList⟩], .real, []⟩

def sampleLabel (swaps : List PnlSwap) : Option (Bool × Nat) :=
  (deriveRunPnlPreviewWithHistorical sampleReaders samplePrices (sampleRun swaps)).toOption.map
    fun result => (result.preview.isRealPnl, result.preview.swapsExcluded)


theorem sampleLabel_eq {swaps : List PnlSwap} {real : Bool} {excluded : Nat}
    (h : sampleLabel swaps = some (real, excluded)) :
    ∃ result, deriveRunPnlPreviewWithHistorical sampleReaders samplePrices (sampleRun swaps) =
        .ok result ∧ result.preview.isRealPnl = real ∧ result.preview.swapsExcluded = excluded := by
  obtain ⟨result, hresult, heq⟩ := Option.map_eq_some_iff.mp h
  refine ⟨result, ?_, congrArg Prod.fst heq, congrArg Prod.snd heq⟩
  cases hderive : deriveRunPnlPreviewWithHistorical sampleReaders samplePrices
      (sampleRun swaps) with
  | error raised =>
      rw [hderive] at hresult
      cases hresult
  | ok value =>
      rw [hderive] at hresult
      exact congrArg _ (Option.some.inj hresult)

/-- The purchase alone is labelled and complete. -/
theorem isRealPnl_complete_purchase : ∃ result,
    deriveRunPnlPreviewWithHistorical sampleReaders samplePrices (sampleRun [purchase]) =
        .ok result ∧ result.preview.isRealPnl = true ∧
      ((result.preview.isRealPnl = true →
          ∃ found, Answered sampleReaders samplePrices (sampleRun [purchase]) found ∧
            Complete sampleReaders (sampleRun [purchase]) found result.preview) ↔
        ∀ found, Answered sampleReaders samplePrices (sampleRun [purchase]) found →
          Unlocked sampleReaders (sampleRun [purchase]) found →
            AllRowsUsed sampleReaders (sampleRun [purchase]) ∧
              RoundingHarmless sampleReaders (sampleRun [purchase]) found) := by
  have hlabel : sampleLabel [purchase] = some (true, 0) := by decide +kernel
  obtain ⟨result, h, real, -⟩ := sampleLabel_eq hlabel
  exact ⟨result, h, real, isRealPnl_complete_iff h⟩

/-- The label stays where a row is left out. -/
theorem excluded_row_labelled_real : ∃ result,
    deriveRunPnlPreviewWithHistorical sampleReaders samplePrices
        (sampleRun [purchase, jettonSwap]) = .ok result ∧
      result.preview.isRealPnl = true ∧ result.preview.swapsExcluded = 1 ∧
      ¬ ∃ found, Answered sampleReaders samplePrices (sampleRun [purchase, jettonSwap]) found ∧
        Complete sampleReaders (sampleRun [purchase, jettonSwap]) found result.preview := by
  have hlabel : sampleLabel [purchase, jettonSwap] = some (true, 1) := by decide +kernel
  obtain ⟨result, h, real, excluded⟩ := sampleLabel_eq hlabel
  refine ⟨result, h, real, excluded, ?_⟩
  rintro ⟨found, -, complete⟩
  exact absurd (complete.noneExcluded.symm.trans excluded) (by decide)

end TonTracker
