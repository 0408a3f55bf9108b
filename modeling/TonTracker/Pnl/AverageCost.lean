/-
# `Pnl.AverageCost` — what the average cost adds up to

Over rationals the loop keeps `Balanced`: the cost that is left and the basis
of what is sold make up the cost of the purchases, and nothing is left of the
cost when nothing is held.  A token has no amounts exactly where some leg
has no positive quantity, or sells more than is held (`costBasis_balanced`).
-/
import TonTracker.Services.InWindowCostBasis
import TonTracker.Lib.KeySort
import Mathlib.Tactic.Ring
import Mathlib.Data.List.Dedup

namespace TonTracker

/-! ## Exact sums -/

namespace CostLeg

/-- The quantity of a leg, where it has one. -/
def qty (leg : CostLeg ℚ) : ℚ := leg.tokenQty.getD 0

def usdValue (leg : CostLeg ℚ) : ℚ := leg.tonAmount * leg.priceUsd

def feeUsd (leg : CostLeg ℚ) : ℚ := leg.feeTon.getD 0 * leg.priceUsd

end CostLeg

/-- The sum of a value over the legs of one side. -/
def sideSum (side : LegSide) (value : CostLeg ℚ → ℚ) (legs : List (CostLeg ℚ)) : ℚ :=
  ((legs.filter fun leg => leg.side = side).map value).sum

def boughtQty (legs : List (CostLeg ℚ)) : ℚ := sideSum .buy CostLeg.qty legs

def soldQty (legs : List (CostLeg ℚ)) : ℚ := sideSum .sell CostLeg.qty legs

/-- What the purchases cost, with their fees. -/
def buyCosts (legs : List (CostLeg ℚ)) : ℚ :=
  sideSum .buy (fun leg => leg.usdValue + leg.feeUsd) legs

/-- What the sales brought in, less their fees. -/
def sellProceeds (legs : List (CostLeg ℚ)) : ℚ :=
  sideSum .sell (fun leg => leg.usdValue - leg.feeUsd) legs

theorem sideSum_append (side : LegSide) (value : CostLeg ℚ → ℚ) (done : List (CostLeg ℚ))
    (leg : CostLeg ℚ) : sideSum side value (done ++ [leg]) =
      sideSum side value done + if leg.side = side then value leg else 0 := by
  unfold sideSum
  by_cases h : leg.side = side <;> simp [List.filter_append, h]

/-! ## One leg -/

/-- A leg that ends the loop after `done`. -/
structure Uncosted (done : List (CostLeg ℚ)) (leg : CostLeg ℚ) : Prop where
  failed : (∀ qty, leg.tokenQty = some qty → qty ≤ 0) ∨
    leg.side = .sell ∧ ∃ qty, leg.tokenQty = some qty ∧ boughtQty done - soldQty done < qty

/-- The variables of a token after `done`. -/
structure Balanced (done : List (CostLeg ℚ)) (s : TokenCost ℚ) : Prop where
  held : s.qtyHeld = boughtQty done - soldQty done
  nonneg : 0 ≤ s.qtyHeld
  cost : s.basisTotal + s.costTotal = buyCosts done
  proceeds : s.proceedsTotal = sellProceeds done
  realized : s.realized = s.proceedsTotal - s.basisTotal
  exhausted : s.qtyHeld = 0 → s.costTotal = 0

theorem balanced_empty : Balanced [] (.empty rationals) where
  held := (sub_self _).symm
  nonneg := le_refl _
  cost := add_zero _
  proceeds := rfl
  realized := (sub_self _).symm
  exhausted := fun _ => rfl

/-- The ledger after a purchase. -/
def TokenCost.bought (s : TokenCost ℚ) (leg : CostLeg ℚ) (qty : ℚ) : TokenCost ℚ :=
  { s with qtyHeld := s.qtyHeld + qty, costTotal := s.costTotal + (leg.usdValue + leg.feeUsd) }

/-- The ledger after a covered sale. -/
def TokenCost.sold (s : TokenCost ℚ) (leg : CostLeg ℚ) (qty : ℚ) : TokenCost ℚ :=
  let basis := s.costTotal / s.qtyHeld * qty
  let proceeds := leg.usdValue - leg.feeUsd
  ⟨s.qtyHeld - qty, s.costTotal - basis, s.proceedsTotal + proceeds, s.basisTotal + basis,
    s.realized + (proceeds - basis), s.sellCount + 1⟩

theorem apply_buy {s : TokenCost ℚ} {leg : CostLeg ℚ} {qty : ℚ} (h : leg.side = .buy) :
    s.apply rationals leg qty = .ok (.inl (s.bought leg qty)) := by
  unfold TokenCost.apply
  rw [h]
  rfl

theorem apply_uncovered {s : TokenCost ℚ} {leg : CostLeg ℚ} {qty : ℚ} (h : leg.side = .sell)
    (hlt : s.qtyHeld < qty) : s.apply rationals leg qty = .ok (.inr uncoveredText) := by
  have huncovered : rationals.lt s.qtyHeld qty = .ok true := congrArg _ (decide_eq_true hlt)
  unfold TokenCost.apply
  rw [h]
  simp only [huncovered]
  rfl

/-- What is held is positive where it covers a positive sale, so the average
exists. -/
theorem apply_sell {s : TokenCost ℚ} {leg : CostLeg ℚ} {qty : ℚ} (h : leg.side = .sell)
    (hpos : 0 < qty) (hle : qty ≤ s.qtyHeld) :
    s.apply rationals leg qty = .ok (.inl (s.sold leg qty)) := by
  have hcovered : rationals.lt s.qtyHeld qty = .ok false :=
    congrArg _ (decide_eq_false (not_lt.mpr hle))
  have haverage : rationals.div s.costTotal s.qtyHeld = .ok (s.costTotal / s.qtyHeld) :=
    if_neg (hpos.trans_le hle).ne'
  unfold TokenCost.apply
  rw [h]
  simp only [hcovered, haverage]
  rfl

theorem Balanced.bought {done : List (CostLeg ℚ)} {s : TokenCost ℚ} {leg : CostLeg ℚ} {qty : ℚ}
    (h : Balanced done s) (hside : leg.side = .buy) (hqty : leg.tokenQty = some qty)
    (hpos : 0 < qty) : Balanced (done ++ [leg]) (s.bought leg qty) := by
  have hleg : leg.qty = qty := by rw [CostLeg.qty, hqty, Option.getD_some]
  have hne : ¬ leg.side = .sell := by rw [hside]; exact nofun
  constructor
  · show s.qtyHeld + qty = _
    rw [boughtQty, soldQty, sideSum_append, sideSum_append, if_pos hside, if_neg hne, hleg, h.held,
      boughtQty, soldQty]
    ring
  · exact add_nonneg h.nonneg hpos.le
  · show s.basisTotal + (s.costTotal + _) = _
    rw [buyCosts, sideSum_append, if_pos hside, ← add_assoc, h.cost, buyCosts]
  · show s.proceedsTotal = _
    rw [sellProceeds, sideSum_append, if_neg hne, add_zero, h.proceeds, sellProceeds]
  · exact h.realized
  · intro hzero
    exact absurd hzero (add_pos_of_nonneg_of_pos h.nonneg hpos).ne'

theorem Balanced.sold {done : List (CostLeg ℚ)} {s : TokenCost ℚ} {leg : CostLeg ℚ} {qty : ℚ}
    (h : Balanced done s) (hside : leg.side = .sell) (hqty : leg.tokenQty = some qty)
    (hpos : 0 < qty) (hle : qty ≤ s.qtyHeld) : Balanced (done ++ [leg]) (s.sold leg qty) := by
  have hleg : leg.qty = qty := by rw [CostLeg.qty, hqty, Option.getD_some]
  have hne : ¬ leg.side = .buy := by rw [hside]; exact nofun
  constructor
  · show s.qtyHeld - qty = _
    rw [boughtQty, soldQty, sideSum_append, sideSum_append, if_neg hne, if_pos hside, hleg, h.held,
      boughtQty, soldQty]
    ring
  · exact sub_nonneg.mpr hle
  · show s.basisTotal + _ + (s.costTotal - _) = _
    rw [buyCosts, sideSum_append, if_neg hne, add_zero, ← buyCosts, ← h.cost]
    ring
  · show s.proceedsTotal + _ = _
    rw [sellProceeds, sideSum_append, if_pos hside, h.proceeds, sellProceeds]
  · show s.realized + _ = s.proceedsTotal + _ - (s.basisTotal + _)
    rw [h.realized]
    ring
  · -- The last of a token takes the whole of the cost with it.
    intro hzero
    have hall : s.qtyHeld = qty := sub_eq_zero.mp hzero
    show s.costTotal - s.costTotal / s.qtyHeld * qty = 0
    rw [hall, div_mul_cancel₀ _ hpos.ne', sub_self]

/-! ## The legs of a token -/

/-- Some leg ends the loop. -/
def Fails (done legs : List (CostLeg ℚ)) : Prop :=
  ∃ earlier leg later, legs = earlier ++ leg :: later ∧ Uncosted (done ++ earlier) leg

theorem fails_cons {done legs : List (CostLeg ℚ)} {leg : CostLeg ℚ} :
    Fails done (leg :: legs) ↔ Uncosted done leg ∨ Fails (done ++ [leg]) legs := by
  constructor
  · rintro ⟨earlier, failing, later, heq, h⟩
    cases earlier with
    | nil =>
        obtain ⟨rfl, rfl⟩ := List.cons.inj heq
        exact .inl (by rwa [List.append_nil] at h)
    | cons first earlier =>
        obtain ⟨rfl, rfl⟩ := List.cons.inj heq
        exact .inr ⟨earlier, failing, later, rfl, by rwa [List.append_assoc]⟩
  · rintro (h | ⟨earlier, failing, later, rfl, h⟩)
    · exact ⟨[], leg, legs, rfl, by rwa [List.append_nil]⟩
    · exact ⟨leg :: earlier, failing, later, rfl, by rwa [List.append_assoc] at h⟩

theorem tokenCostLegs_missing {s : TokenCost ℚ} {leg : CostLeg ℚ} {legs : List (CostLeg ℚ)}
    (h : ∀ qty, leg.tokenQty = some qty → qty ≤ 0) :
    tokenCostLegs rationals s (leg :: legs) = .ok (s, some (missingQtyText leg.side)) := by
  unfold tokenCostLegs
  cases hqty : leg.tokenQty with
  | none => rfl
  | some qty =>
      have hmissing : rationals.lt rationals.zero qty = .ok false :=
        congrArg _ (decide_eq_false (not_lt.mpr (h qty hqty)))
      simp only [hmissing]
      rfl

theorem tokenCostLegs_positive {s : TokenCost ℚ} {leg : CostLeg ℚ} {legs : List (CostLeg ℚ)}
    {qty : ℚ} {r : TokenCost ℚ ⊕ Text} (hqty : leg.tokenQty = some qty) (hpos : 0 < qty)
    (happly : s.apply rationals leg qty = .ok r) :
    tokenCostLegs rationals s (leg :: legs) = match r with
      | .inl next => tokenCostLegs rationals next legs
      | .inr failure => .ok ({ s with sellCount := s.sellCount + 1 }, some failure) := by
  have hpositive : rationals.lt rationals.zero qty = .ok true :=
    congrArg _ (decide_eq_true hpos)
  rw [tokenCostLegs, hqty]
  simp only [hpositive, happly]
  cases r <;> rfl

/-- The loop ends without an error, at its end with the balance of all the
legs, and before it exactly where some leg fails. -/
theorem tokenCostLegs_balanced {done legs : List (CostLeg ℚ)} {s : TokenCost ℚ}
    (h : Balanced done s) : ∃ s' failure, tokenCostLegs rationals s legs = .ok (s', failure) ∧
      (failure ≠ none ↔ Fails done legs) ∧ (failure = none → Balanced (done ++ legs) s') := by
  induction legs generalizing done s with
  | nil =>
      refine ⟨s, none, rfl, iff_of_false (fun hne => hne rfl) ?_, fun _ => ?_⟩
      · rintro ⟨earlier, failing, later, heq, -⟩
        exact absurd heq.symm (List.append_ne_nil_of_right_ne_nil _ (List.cons_ne_nil _ _))
      · rwa [List.append_nil]
  | cons leg legs ih =>
      have next : ∀ {s'}, Balanced (done ++ [leg]) s' → ¬ Uncosted done leg →
          ∃ s'' failure, tokenCostLegs rationals s' legs = .ok (s'', failure) ∧
            (failure ≠ none ↔ Fails done (leg :: legs)) ∧
            (failure = none → Balanced (done ++ leg :: legs) s'') := by
        intro s' hs' hcosted
        obtain ⟨s'', failure, heq, hfails, hbalanced⟩ := ih hs'
        refine ⟨s'', failure, heq, hfails.trans ?_, fun hnone => ?_⟩
        · rw [fails_cons, or_iff_right hcosted]
        · have := hbalanced hnone
          rwa [List.append_assoc] at this
      have stops : ∀ {s' : TokenCost ℚ} {reason : Text}, Uncosted done leg →
          tokenCostLegs rationals s (leg :: legs) = .ok (s', some reason) →
          ∃ s'' failure, tokenCostLegs rationals s (leg :: legs) = .ok (s'', failure) ∧
            (failure ≠ none ↔ Fails done (leg :: legs)) ∧
            (failure = none → Balanced (done ++ leg :: legs) s'') :=
        fun huncosted heq => ⟨_, _, heq, iff_of_true nofun (fails_cons.mpr (.inl huncosted)), nofun⟩
      by_cases hmissing : ∀ qty, leg.tokenQty = some qty → qty ≤ 0
      · exact stops ⟨.inl hmissing⟩ (tokenCostLegs_missing hmissing)
      · simp only [not_forall, not_le] at hmissing
        obtain ⟨qty, hqty, hpos⟩ := hmissing
        have hsome : ∀ other, leg.tokenQty = some other → other = qty := fun other hother =>
          Option.some.inj (hother.symm.trans hqty)
        cases hside : leg.side with
        | buy =>
            rw [tokenCostLegs_positive hqty hpos (apply_buy hside)]
            refine next (h.bought hside hqty hpos) fun huncosted => ?_
            obtain hneg | ⟨hsell, -⟩ := huncosted.failed
            · exact absurd hpos (hneg qty hqty).not_gt
            · exact nomatch hside.symm.trans hsell
        | sell =>
            by_cases hlt : s.qtyHeld < qty
            · exact stops ⟨.inr ⟨hside, qty, hqty, h.held ▸ hlt⟩⟩
                (tokenCostLegs_positive hqty hpos (apply_uncovered hside hlt))
            · have hle : qty ≤ s.qtyHeld := not_lt.mp hlt
              rw [tokenCostLegs_positive hqty hpos (apply_sell hside hpos hle)]
              refine next (h.sold hside hqty hpos hle) fun huncosted => ?_
              obtain hneg | ⟨-, other, hother, hmore⟩ := huncosted.failed
              · exact absurd hpos (hneg qty hqty).not_gt
              · obtain rfl := hsome other hother
                exact hlt (h.held ▸ hmore)

/-! ## The cost basis -/

/-- A token of the legs is computed or not by its own legs, in the order of
their timestamps. -/
theorem tokenCostRecord_balanced (legs : List (CostLeg ℚ)) (token : Text) :
    ∃ record, tokenCostRecord rationals legs token = .ok record ∧ record.token = token ∧
      (record.computed = none ↔ Fails [] (tokenLegs legs token)) ∧
      ∀ s, record.computed = some s → Balanced (tokenLegs legs token) s := by
  obtain ⟨s, failure, heq, hfails, hbalanced⟩ : ∃ s failure,
      tokenCostLegs rationals (.empty rationals) (tokenLegs legs token) = .ok (s, failure) ∧
        (failure ≠ none ↔ Fails [] (tokenLegs legs token)) ∧
        (failure = none → Balanced ([] ++ tokenLegs legs token) s) :=
    tokenCostLegs_balanced balanced_empty
  refine ⟨⟨token, failure, s.sellCount, if failure.isNone then some s else none⟩, ?_, rfl, ?_, ?_⟩
  · unfold tokenCostRecord
    rw [heq]
    rfl
  · rw [← hfails]
    cases failure <;> simp
  · intro s' hs'
    cases failure with
    | none =>
        obtain rfl := Option.some.inj hs'
        exact hbalanced rfl
    | some reason => cases hs'

theorem foldlM_rationals (values : List ℚ) (x : ℚ) :
    values.foldlM rationals.add x = .ok (x + values.sum) := by
  induction values generalizing x with
  | nil => exact congrArg _ (add_zero x).symm
  | cons value values ih =>
      rw [List.foldlM_cons, List.sum_cons, ← add_assoc]
      exact ih (x + value)

theorem mem_costTokens {N : Type} {legs : List (CostLeg N)} {token : Text} :
    token ∈ costTokens legs ↔ ∃ leg ∈ legs, leg.token = token := by
  unfold costTokens
  rw [List.mem_mergeSort, List.mem_dedup, List.mem_map]

theorem nodup_costTokens {N : Type} (legs : List (CostLeg N)) : (costTokens legs).Nodup :=
  (List.mergeSort_perm _ _).nodup_iff.mpr (List.nodup_dedup _)

/-- The cost basis of any list of legs: no division is by zero, each token has
one record, without amounts exactly where some leg in the order of the
timestamps ends its loop, and with balanced amounts otherwise. -/
theorem costBasis_balanced (legs : List (CostLeg ℚ)) :
    ∃ result, inWindowCostBasis rationals legs = .ok result ∧
      (result.records.map (·.token)).Nodup ∧
      (∀ token, token ∈ result.records.map (·.token) ↔ ∃ leg ∈ legs, leg.token = token) ∧
      ∀ record ∈ result.records,
        (record.computed = none ↔ Fails [] (tokenLegs legs record.token)) ∧
        ∀ s, record.computed = some s → Balanced (tokenLegs legs record.token) s := by
  obtain ⟨records, hrecords⟩ := ExceptFold.exists_mapM.mpr fun token
      (_ : token ∈ costTokens legs) =>
    (tokenCostRecord_balanced legs token).imp fun _ h => h.1
  have hresult : ∃ result, inWindowCostBasis rationals legs = .ok result ∧
      result.records = records := by
    unfold inWindowCostBasis
    rw [hrecords]
    simp only [foldlM_rationals, ExceptFold.ok_bind]
    exact ⟨_, rfl, rfl⟩
  obtain ⟨result, hresult, rfl⟩ := hresult
  have hrecord : ∀ token record, tokenCostRecord rationals legs token = .ok record →
      record.token = token ∧ (record.computed = none ↔ Fails [] (tokenLegs legs record.token)) ∧
        ∀ s, record.computed = some s → Balanced (tokenLegs legs record.token) s := by
    intro token record h
    obtain ⟨other, hother, htoken, hspec⟩ := tokenCostRecord_balanced legs token
    obtain rfl : other = record := Except.ok.inj (hother.symm.trans h)
    exact ⟨htoken, htoken.symm ▸ hspec⟩
  have htokens : result.records.map (·.token) = costTokens legs :=
    (ExceptFold.map_of_mapM hrecords fun token record h => (hrecord token record h).1).trans (List.map_id _)
  refine ⟨result, hresult, ?_, fun token => ?_, ?_⟩
  · rw [htokens]
    exact nodup_costTokens legs
  · rw [htokens]
    exact mem_costTokens
  · exact (ExceptFold.mapM_forall_iff (Q := fun _ => True) hrecords fun token record h =>
      iff_of_true (hrecord token record h).2 trivial).mpr fun _ _ => trivial

end TonTracker
