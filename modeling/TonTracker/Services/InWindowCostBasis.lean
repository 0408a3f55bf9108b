/-
# `Services.InWindowCostBasis` — the average cost, over any numbers

The loop of `_compute_in_window_cost_basis` with its arithmetic as an
argument.  With Python's decimals it is `computeInWindowCostBasis`
(`inWindowCostBasis_decimals`); with rationals it is the calculation the
decimals round.
-/
import TonTracker.Services.PnlUsdValuation
import TonTracker.Lib.ExceptFold

namespace TonTracker

open ContextDecimal (Decimal Signal)

/-- Numbers with the operations of the loop. -/
structure Arithmetic (N : Type) where
  zero : N
  add : N → N → Except Signal N
  sub : N → N → Except Signal N
  mul : N → N → Except Signal N
  div : N → N → Except Signal N
  lt : N → N → Except Signal Bool

/-- Decimals in the default context. -/
def decimals : Arithmetic Decimal where
  zero := .zero
  add := Decimal.add defaultContext
  sub := Decimal.sub defaultContext
  mul := Decimal.mul defaultContext
  div := Decimal.div defaultContext
  lt := Decimal.lt

/-- Rationals; a division by zero raises. -/
def rationals : Arithmetic ℚ where
  zero := 0
  add a b := .ok (a + b)
  sub a b := .ok (a - b)
  mul a b := .ok (a * b)
  div a b := if b = 0 then .error .divisionByZero else .ok (a / b)
  lt a b := .ok (decide (a < b))

/-! ## The loop -/

/-- A leg of the cost basis. -/
structure CostLeg (N : Type) where
  token : Text
  side : LegSide
  tonAmount : N
  tokenQty : Option N
  timestamp : ℤ
  feeTon : Option N
  priceUsd : N

/-- The variables of one token. -/
structure TokenCost (N : Type) where
  qtyHeld : N
  costTotal : N
  proceedsTotal : N
  basisTotal : N
  realized : N
  sellCount : Nat

variable {N : Type} (A : Arithmetic N)

def TokenCost.empty : TokenCost N := ⟨A.zero, A.zero, A.zero, A.zero, A.zero, 0⟩

def missingQtyText (side : LegSide) : Text :=
  "A ".toList ++ side.text.toList ++
    " leg lacks a positive token quantity; in-window cost basis cannot be computed.".toList

def uncoveredText : Text :=
  ("Sold quantity exceeds in-window acquisitions; the cost basis of the sold " ++
    "tokens lies outside this run's window.").toList

/-- A leg of positive quantity, bought or covered. -/
def TokenCost.apply (s : TokenCost N) (leg : CostLeg N) (qty : N) :
    Except Signal (TokenCost N ⊕ Text) := do
  let feeUsd ← A.mul (leg.feeTon.getD A.zero) leg.priceUsd
  let usdValue ← A.mul leg.tonAmount leg.priceUsd
  match leg.side with
  | .buy => do
      let held ← A.add s.qtyHeld qty
      let spent ← A.add usdValue feeUsd
      let cost ← A.add s.costTotal spent
      return .inl { s with qtyHeld := held, costTotal := cost }
  | .sell => do
      if ← A.lt s.qtyHeld qty then return .inr uncoveredText
      let averageCost ← A.div s.costTotal s.qtyHeld
      let basis ← A.mul averageCost qty
      let proceeds ← A.sub usdValue feeUsd
      let gain ← A.sub proceeds basis
      let realized ← A.add s.realized gain
      let proceedsTotal ← A.add s.proceedsTotal proceeds
      let basisTotal ← A.add s.basisTotal basis
      let held ← A.sub s.qtyHeld qty
      let cost ← A.sub s.costTotal basis
      return .inl ⟨held, cost, proceedsTotal, basisTotal, realized, s.sellCount + 1⟩

/-- The loop over the legs of one token. -/
def tokenCostLegs : TokenCost N → List (CostLeg N) → Except Signal (TokenCost N × Option Text)
  | s, [] => .ok (s, none)
  | s, leg :: legs => do
      match leg.tokenQty with
      | none => return (s, some (missingQtyText leg.side))
      | some qty =>
          if ← A.lt A.zero qty then
            match ← s.apply A leg qty with
            | .inl next => tokenCostLegs next legs
            | .inr failure => return ({ s with sellCount := s.sellCount + 1 }, some failure)
          else return (s, some (missingQtyText leg.side))

/-- A record of `realized_pnl`; the amounts are those of a computed token. -/
structure TokenCostRecord (N : Type) where
  token : Text
  reason : Option Text
  sellLegCount : Nat
  computed : Option (TokenCost N)

/-- `sorted(by_token)`. -/
def costTokens (legs : List (CostLeg N)) : List Text :=
  (legs.map (·.token)).dedup.mergeSort fun a b => decide (a ≤ b)

/-- `token_legs`. -/
def tokenLegs (legs : List (CostLeg N)) (token : Text) : List (CostLeg N) :=
  (legs.filter fun leg => leg.token = token).mergeSort fun a b =>
    decide (a.timestamp ≤ b.timestamp)

/-- One round of the loop over the tokens. -/
def tokenCostRecord (legs : List (CostLeg N)) (token : Text) :
    Except Signal (TokenCostRecord N) := do
  let (s, failure) ← tokenCostLegs A (.empty A) (tokenLegs legs token)
  return ⟨token, failure, s.sellCount, if failure.isNone then some s else none⟩

/-- What `_compute_in_window_cost_basis` returns. -/
structure InWindowCostBasis (N : Type) where
  records : List (TokenCostRecord N)
  available : Bool
  reason : Option Text
  total : Option N

/-- `_compute_in_window_cost_basis`. -/
def inWindowCostBasis (legs : List (CostLeg N)) : Except Signal (InWindowCostBasis N) := do
  let records ← (costTokens legs).mapM (tokenCostRecord A legs)
  let computed := records.filterMap (·.computed)
  let total ← (computed.map (·.realized)).foldlM A.add A.zero
  let unavailable := records.length - computed.length
  let available := decide (0 < computed.length) && decide (unavailable = 0)
  return {
    records := records
    available := available
    reason := if available then none else
      some ("In-window cost basis is unavailable for ".toList ++ countText unavailable ++
        " of ".toList ++ countText records.length ++
        " token(s); per-token reasons are listed in realized_pnl.".toList)
    total := if 0 < computed.length then some total else none }

/-! ## With decimals -/

def PricedLeg.cost (leg : PricedLeg) : CostLeg Decimal :=
  ⟨leg.leg.token, leg.leg.side, leg.leg.tonAmount, leg.leg.tokenQty, leg.timestamp, leg.feeTon,
    leg.priceUsd⟩

def CostLedger.cost (s : CostLedger) : TokenCost Decimal :=
  ⟨s.qtyHeld, s.costTotal, s.proceedsTotal, s.basisTotal, s.realized, s.sellCount⟩

def CostBasisRecord.cost (record : CostBasisRecord) : TokenCostRecord Decimal :=
  ⟨record.token, record.reason, record.sellLegCount, record.computed.map (·.cost)⟩

def CostBasis.cost (basis : CostBasis) : InWindowCostBasis Decimal :=
  ⟨basis.records.map (·.cost), basis.available, basis.reason, basis.total⟩

theorem apply_cost (s : CostLedger) (leg : PricedLeg) (qty : Decimal) :
    s.cost.apply decimals leg.cost qty = Sum.map CostLedger.cost id <$> s.apply leg qty := by
  unfold TokenCost.apply CostLedger.apply
  cases hside : leg.leg.side with
  | buy =>
      have hside' : leg.cost.side = .buy := hside
      simp only [hside', map_bind]
      rfl
  | sell =>
      have hside' : leg.cost.side = .sell := hside
      simp only [hside', map_bind]
      refine bind_congr fun feeUsd => bind_congr fun usdValue => ?_
      refine bind_congr fun uncovered => ?_
      cases uncovered with
      | true => rfl
      | false =>
          simp only [Bool.false_eq_true, if_false, map_bind]
          rfl

theorem tokenCostLegs_cost (s : CostLedger) (legs : List PricedLeg) :
    tokenCostLegs decimals s.cost (legs.map (·.cost)) =
      Prod.map CostLedger.cost id <$> costBasisLegs s legs := by
  induction legs generalizing s with
  | nil => rfl
  | cons leg legs ih =>
      rw [List.map_cons]
      unfold tokenCostLegs costBasisLegs
      have hqty : leg.cost.tokenQty = leg.leg.tokenQty := rfl
      rw [hqty]
      cases leg.leg.tokenQty with
      | none => rfl
      | some qty =>
          simp only [map_bind]
          refine bind_congr fun positive => ?_
          cases positive with
          | false => rfl
          | true =>
              simp only [if_true, apply_cost, map_bind, bind_map_left]
              refine bind_congr fun next => ?_
              cases next with
              | inl next => exact ih next
              | inr failure => rfl

theorem costTokens_cost (legs : List PricedLeg) :
    costTokens (legs.map (·.cost)) = legTokens legs := by
  unfold costTokens legTokens
  rw [List.map_map]
  rfl

theorem tokenLegs_cost (legs : List PricedLeg) (token : Text) :
    tokenLegs (legs.map (·.cost)) token = (legsOf legs token).map (·.cost) := by
  unfold tokenLegs legsOf
  rw [List.filter_map]
  have horder : ∀ a ∈ legs.filter (fun leg => decide (leg.leg.token = token)),
      ∀ b ∈ legs.filter (fun leg => decide (leg.leg.token = token)),
        decide (a.timestamp ≤ b.timestamp) = decide (a.cost.timestamp ≤ b.cost.timestamp) :=
    fun _ _ _ _ => rfl
  exact (List.map_mergeSort horder).symm

theorem tokenCostRecord_cost (legs : List PricedLeg) (token : Text) :
    tokenCostRecord decimals (legs.map (·.cost)) token =
      CostBasisRecord.cost <$> costBasisRecord legs token := by
  unfold tokenCostRecord costBasisRecord
  rw [tokenLegs_cost, show TokenCost.empty decimals = CostLedger.empty.cost from rfl,
    tokenCostLegs_cost, map_bind, bind_map_left]
  refine bind_congr fun result => ?_
  obtain ⟨s, failure⟩ := result
  cases failure <;> rfl

/-- The loop over decimals is the one of the preview. -/
theorem inWindowCostBasis_decimals (legs : List PricedLeg) :
    inWindowCostBasis decimals (legs.map (·.cost)) =
      CostBasis.cost <$> computeInWindowCostBasis legs := by
  unfold inWindowCostBasis computeInWindowCostBasis
  have hrecords : (legTokens legs).mapM (tokenCostRecord decimals (legs.map (·.cost))) =
      List.map CostBasisRecord.cost <$> (legTokens legs).mapM (costBasisRecord legs) := by
    rw [← ExceptFold.mapM_map_right]
    exact ExceptFold.mapM_congr fun token _ => tokenCostRecord_cost legs token
  rw [costTokens_cost, hrecords, map_bind, bind_map_left]
  refine bind_congr fun records => ?_
  have hcomputed : (records.map CostBasisRecord.cost).filterMap (·.computed) =
      (records.filterMap (·.computed)).map CostLedger.cost := by
    rw [List.filterMap_map, List.map_filterMap]
    rfl
  have hrealized : ((records.filterMap (·.computed)).map CostLedger.cost).map (·.realized) =
      (records.filterMap (·.computed)).map (·.realized) := List.map_map ..
  dsimp only
  rw [hcomputed, hrealized, List.length_map, List.length_map, map_bind]
  rfl

end TonTracker
