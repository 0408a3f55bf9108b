/-
# `Findings.FlowsExact` — when the asset totals of a case are exact

A total is exact, for a result, every part of it and every order of these,
where no sum of some of the amounts of an asset in a direction has more
digits than the context keeps (`flow_totals_exact_iff`).
-/
import TonTracker.Services.WalletCaseFindings
import TonTracker.Lib.ContextRounding

namespace TonTracker

open ContextDecimal.Context (SumsFit Fits round_of_fits fits_of_round_eq fits_zero)
open ExceptFold (bind_eq_ok)
open Groups (collectM collectM_concat collect valuesOf keysOf Describes)

/-! ## What the items say -/

/-- The parsed amount an item moves of an asset in a direction. -/
def CaseItem.contribution (decimal : Text → Option ℚ) (assetId : Text)
    (direction : ItemDirection) (item : CaseItem) : Option ℚ :=
  match item.body, direction with
  | .transfer (some asset) moved amount _, direction =>
      if asset.assetId = assetId ∧ moved = direction then flowAmount decimal amount else none
  | .swap (some asset) amount _ _ _, .outgoing =>
      if asset.assetId = assetId then flowAmount decimal amount else none
  | .swap _ _ (some asset) amount _, .incoming =>
      if asset.assetId = assetId then flowAmount decimal amount else none
  | _, _ => none

def contributions (decimal : Text → Option ℚ) (items : List CaseItem) (assetId : Text)
    (direction : ItemDirection) : List ℚ :=
  items.filterMap (CaseItem.contribution decimal assetId direction)

/-- The exact total of some amounts, where there are any. -/
def exactAmount (amounts : List ℚ) : Option ℚ := if amounts = [] then none else some amounts.sum

/-- The assets observed in some items. -/
def observedAssets (items : List CaseItem) : List Text :=
  (items.flatMap CaseItem.assetObservations).map fun o => o.asset.assetId

/-- One row for each asset observed, with its exact totals. -/
structure ExactAssetRows (decimal : Text → Option ℚ) (items : List CaseItem)
    (rows : List AssetFlow) : Prop where
  distinct : (rows.map fun row => row.asset.assetId).Nodup
  assets : ∀ assetId, assetId ∈ rows.map (fun row => row.asset.assetId) ↔
    assetId ∈ observedAssets items
  inflow : ∀ row ∈ rows, row.inflowAmount =
    exactAmount (contributions decimal items row.asset.assetId .incoming)
  outflow : ∀ row ∈ rows, row.outflowAmount =
    exactAmount (contributions decimal items row.asset.assetId .outgoing)

/-- What a row says of its asset, but for the names and the support. -/
def AssetFlow.totals (row : AssetFlow) : Text × Option ℚ × Option ℚ × DirectionCounts :=
  (row.asset.assetId, row.inflowAmount, row.outflowAmount, row.observations)

/-- No sum of some of the amounts of an asset in a direction is rounded. -/
def TotalsFit (decimal : Text → Option ℚ) (items : List CaseItem) : Prop :=
  ∀ assetId, SumsFit defaultContext (contributions decimal items assetId .incoming) ∧
    SumsFit defaultContext (contributions decimal items assetId .outgoing)

variable {decimal : Text → Option ℚ} {items items' : List CaseItem} {assetId : Text}
  {direction : ItemDirection} {values values' : List AssetObservation} {o : AssetObservation}
  {group group' : AssetGroup} {rows : List AssetFlow}

/-! ## Observations -/

/-- The amount an observation adds in a direction. -/
def AssetObservation.amountIn (decimal : Text → Option ℚ) (direction : ItemDirection)
    (o : AssetObservation) : Option ℚ :=
  if o.direction = direction then flowAmount decimal o.amount else none

def amountsIn (decimal : Text → Option ℚ) (direction : ItemDirection)
    (values : List AssetObservation) : List ℚ :=
  values.filterMap (AssetObservation.amountIn decimal direction)

theorem amountsIn_concat : amountsIn decimal direction (values ++ [o]) =
    amountsIn decimal direction values ++ (o.amountIn decimal direction).toList := by
  unfold amountsIn
  rw [List.filterMap_append]
  cases h : o.amountIn decimal direction <;> simp [h]

theorem assetObservations_cons (item : CaseItem) (items : List CaseItem) :
    assetObservations (item :: items) =
      item.assetObservations.map (fun o => (o.asset.assetId, o)) ++ assetObservations items := by
  unfold assetObservations
  rw [List.flatMap_cons, List.map_append]

theorem valuesOf_assetObservations (item : CaseItem) (assetId : Text) :
    valuesOf (item.assetObservations.map fun o => (o.asset.assetId, o)) assetId =
      item.assetObservations.filter fun o => o.asset.assetId = assetId := by
  unfold valuesOf
  rw [List.filterMap_map, ← List.filterMap_eq_filter]
  refine List.filterMap_congr fun o _ => ?_
  simp [Option.guard]

/-- An item adds its contribution, once. -/
theorem amountsIn_item (hdirection : direction ≠ .unknown) (item : CaseItem) :
    amountsIn decimal direction (item.assetObservations.filter fun o => o.asset.assetId = assetId) =
      (item.contribution decimal assetId direction).toList := by
  unfold amountsIn CaseItem.assetObservations CaseItem.contribution
  cases hbody : item.body with
  | transfer asset moved amount counterparty =>
      cases asset with
      | none => rfl
      | some asset =>
          dsimp only [Option.map_some, Option.toList]
          by_cases hasset : asset.assetId = assetId
          · by_cases hmoved : moved = direction
            · cases hamount : flowAmount decimal amount <;>
                simp [hasset, hmoved, AssetObservation.amountIn, hamount]
            · simp [hasset, hmoved, AssetObservation.amountIn]
          · simp [hasset]
  | swap inputAsset amountIn outputAsset amountOut protocol =>
      cases direction with
      | unknown => exact absurd rfl hdirection
      | incoming =>
          cases inputAsset <;> cases outputAsset with
          | none => simp [AssetObservation.amountIn, List.filter_cons, apply_ite]
          | some asset =>
              by_cases hasset : asset.assetId = assetId <;>
                cases hamount : flowAmount decimal amountOut <;>
                simp [hasset, AssetObservation.amountIn, hamount, List.filter_cons, apply_ite]
      | outgoing =>
          cases outputAsset <;> cases inputAsset with
          | none => simp [AssetObservation.amountIn, List.filter_cons, apply_ite]
          | some asset =>
              by_cases hasset : asset.assetId = assetId <;>
                cases hamount : flowAmount decimal amountIn <;>
                simp [hasset, AssetObservation.amountIn, hamount, List.filter_cons, apply_ite]
  | transaction failed => rfl

/-- The amounts added to a group are the contributions of the items. -/
theorem amountsIn_valuesOf (hdirection : direction ≠ .unknown) (items : List CaseItem) :
    amountsIn decimal direction (valuesOf (assetObservations items) assetId) =
      contributions decimal items assetId direction := by
  induction items with
  | nil => rfl
  | cons item items ih =>
      have happend : valuesOf (assetObservations (item :: items)) assetId =
          (item.assetObservations.filter fun o => o.asset.assetId = assetId) ++
            valuesOf (assetObservations items) assetId := by
        rw [assetObservations_cons, ← valuesOf_assetObservations]
        exact List.filterMap_append
      have hitem : amountsIn decimal direction
          (valuesOf (assetObservations (item :: items)) assetId) =
          (item.contribution decimal assetId direction).toList ++
            contributions decimal items assetId direction := by
        rw [happend, ← amountsIn_item hdirection item, ← ih]
        exact List.filterMap_append
      rw [hitem]
      unfold contributions
      rw [List.filterMap_cons]
      cases item.contribution decimal assetId direction <;> rfl

theorem amountsIn_group (decimal : Text → Option ℚ) (items : List CaseItem) (assetId : Text) :
    amountsIn decimal .incoming (valuesOf (assetObservations items) assetId) =
        contributions decimal items assetId .incoming ∧
      amountsIn decimal .outgoing (valuesOf (assetObservations items) assetId) =
        contributions decimal items assetId .outgoing :=
  ⟨amountsIn_valuesOf (by decide) items, amountsIn_valuesOf (by decide) items⟩

/-! ## One observation -/

/-- A total after an amount. -/
def Added (total : ℚ) (amount : Option ℚ) (total' : ℚ) : Prop :=
  match amount with
  | some parsed => defaultContext.round (total + parsed) = .ok total'
  | none => total' = total

/-- What an observation changes of a group. -/
structure AddedTo (decimal : Text → Option ℚ) (group : AssetGroup) (o : AssetObservation)
    (group' : AssetGroup) : Prop where
  asset : group'.asset = group.asset
  inflow : Added group.inflowTotal (o.amountIn decimal .incoming) group'.inflowTotal
  outflow : Added group.outflowTotal (o.amountIn decimal .outgoing) group'.outflowTotal
  inflowKnown : group'.inflowKnown =
    (group.inflowKnown || (o.amountIn decimal .incoming).isSome)
  outflowKnown : group'.outflowKnown =
    (group.outflowKnown || (o.amountIn decimal .outgoing).isSome)
  observations : group'.observations = group.observations.observe o.direction

theorem addedTo_of_ok {before : Option AssetGroup}
    (h : addAssetObservation decimal before o = .ok group') :
    AddedTo decimal (before.getD (AssetGroup.new o.asset)) o group' := by
  obtain ⟨asset, activityId, direction, amount⟩ := o
  unfold addAssetObservation at h
  cases hamount : flowAmount decimal amount with
  | none =>
      cases direction <;>
      · simp only [hamount] at h
        cases h
        constructor <;> simp [AssetObservation.amountIn, Added, hamount]
  | some parsed =>
      cases direction with
      | incoming =>
          simp only [hamount] at h
          obtain ⟨total, htotal, h⟩ := bind_eq_ok.mp h
          cases h
          constructor <;> simp [AssetObservation.amountIn, Added, hamount]
          exact htotal
      | outgoing =>
          simp only [hamount] at h
          obtain ⟨total, htotal, h⟩ := bind_eq_ok.mp h
          cases h
          constructor <;> simp [AssetObservation.amountIn, Added, hamount]
          exact htotal
      | unknown =>
          cases h
          constructor <;> simp [AssetObservation.amountIn, Added]

/-- An observation whose total does not overflow is added. -/
theorem exists_added {before : Option AssetGroup}
    (hin : ∀ parsed, o.amountIn decimal .incoming = some parsed → ∃ total,
      defaultContext.round ((before.getD (AssetGroup.new o.asset)).inflowTotal + parsed) =
        .ok total)
    (hout : ∀ parsed, o.amountIn decimal .outgoing = some parsed → ∃ total,
      defaultContext.round ((before.getD (AssetGroup.new o.asset)).outflowTotal + parsed) =
        .ok total) :
    ∃ group', addAssetObservation decimal before o = .ok group' := by
  obtain ⟨asset, activityId, direction, amount⟩ := o
  unfold addAssetObservation
  cases hamount : flowAmount decimal amount with
  | none => cases direction <;> exact ⟨_, rfl⟩
  | some parsed =>
      cases direction with
      | incoming =>
          obtain ⟨total, htotal⟩ := hin parsed ((if_pos rfl).trans hamount)
          exact ⟨_, bind_eq_ok.mpr ⟨total, htotal, rfl⟩⟩
      | outgoing =>
          obtain ⟨total, htotal⟩ := hout parsed ((if_pos rfl).trans hamount)
          exact ⟨_, bind_eq_ok.mpr ⟨total, htotal, rfl⟩⟩
      | unknown => exact ⟨_, rfl⟩

theorem Added.fits {total total' : ℚ} {amount : Option ℚ} (h : Added total amount total')
    (htotal : Fits defaultContext total) : Fits defaultContext total' := by
  cases amount with
  | none => exact (show total' = total from h) ▸ htotal
  | some parsed => exact fits_of_round_eq (by decide) h

/-! ## One group -/

/-- How often each direction is observed. -/
def countsOf (directions : List ItemDirection) : DirectionCounts :=
  ⟨directions.count .incoming, directions.count .outgoing, directions.count .unknown⟩

theorem observe_countsOf (directions : List ItemDirection) (direction : ItemDirection) :
    (countsOf directions).observe direction = countsOf (directions ++ [direction]) := by
  cases direction <;> simp [countsOf, DirectionCounts.observe, List.count_append]

theorem countsOf_perm {directions directions' : List ItemDirection}
    (h : directions.Perm directions') : countsOf directions = countsOf directions' := by
  unfold countsOf
  rw [h.count_eq, h.count_eq, h.count_eq]

theorem amountsIn_mono (values values' : List AssetObservation) :
    (amountsIn decimal direction values).Sublist
      (amountsIn decimal direction (values ++ values')) :=
  (List.sublist_append_left values values').filterMap _

theorem sumsFit_of_sublist {amounts amounts' : List ℚ} (h : SumsFit defaultContext amounts')
    (hsub : amounts.Sublist amounts') : SumsFit defaultContext amounts :=
  fun part hpart => h part (hpart.trans hsub.subperm)

/-- A group with the exact totals of its observations. -/
structure ExactGroup (decimal : Text → Option ℚ) (values : List AssetObservation)
    (group : AssetGroup) : Prop where
  inflow : group.inflowTotal = (amountsIn decimal .incoming values).sum
  outflow : group.outflowTotal = (amountsIn decimal .outgoing values).sum

/-- What holds of a group however its amounts are rounded. -/
structure GroupOf (decimal : Text → Option ℚ) (values : List AssetObservation)
    (group : AssetGroup) : Prop where
  asset : ∃ o ∈ values, group.asset = o.asset
  inflowKnown : group.inflowKnown = !(amountsIn decimal .incoming values).isEmpty
  outflowKnown : group.outflowKnown = !(amountsIn decimal .outgoing values).isEmpty
  inflowFits : Fits defaultContext group.inflowTotal
  outflowFits : Fits defaultContext group.outflowTotal
  observations : group.observations = countsOf (values.map AssetObservation.direction)

theorem isEmpty_concat (known : Bool)
    (hknown : known = !(amountsIn decimal direction values).isEmpty) :
    (known || (o.amountIn decimal direction).isSome) =
      !(amountsIn decimal direction (values ++ [o])).isEmpty := by
  rw [amountsIn_concat, hknown]
  cases o.amountIn decimal direction <;> cases amountsIn decimal direction values <;> rfl

theorem collectM_groupOf {found : Option AssetGroup}
    (h : collectM (addAssetObservation decimal) values = .ok found) :
    (found = none ↔ values = []) ∧ ∀ group, found = some group → GroupOf decimal values group := by
  induction values using List.reverseRecOn generalizing found with
  | nil =>
      cases h
      exact ⟨iff_of_true rfl rfl, fun _ h => nomatch h⟩
  | append_singleton values o ih =>
      rw [collectM_concat] at h
      obtain ⟨before, hbefore, h⟩ := bind_eq_ok.mp h
      obtain ⟨group, hgroup, rfl⟩ : ∃ group,
          addAssetObservation decimal before o = .ok group ∧ found = some group := by
        cases hadd : addAssetObservation decimal before o with
        | error raised =>
            rw [hadd] at h
            cases h
        | ok group =>
            rw [hadd] at h
            exact ⟨group, rfl, (Except.ok.inj h).symm⟩
      obtain ⟨hnone, hsome⟩ := ih hbefore
      have hadded := addedTo_of_ok hgroup
      refine ⟨iff_of_false (fun h => nomatch h) (by simp), fun _ heq => ?_⟩
      cases heq
      have hgroupOf : GroupOf decimal values (before.getD (AssetGroup.new o.asset)) ∨
          values = [] ∧ before = none := by
        cases before with
        | none => exact .inr ⟨hnone.mp rfl, rfl⟩
        | some before => exact .inl (hsome before rfl)
      obtain hbase | ⟨rfl, rfl⟩ := hgroupOf
      · refine ⟨?_, ?_, ?_, hadded.inflow.fits hbase.inflowFits,
          hadded.outflow.fits hbase.outflowFits, ?_⟩
        · obtain ⟨first, hfirst, hasset⟩ := hbase.asset
          exact ⟨first, List.mem_append_left _ hfirst, hadded.asset.trans hasset⟩
        · rw [hadded.inflowKnown, isEmpty_concat _ hbase.inflowKnown]
        · rw [hadded.outflowKnown, isEmpty_concat _ hbase.outflowKnown]
        · rw [hadded.observations, hbase.observations, observe_countsOf, List.map_append]
          rfl
      · refine ⟨⟨o, List.mem_cons_self, hadded.asset⟩, ?_, ?_, hadded.inflow.fits fits_zero,
          hadded.outflow.fits fits_zero, ?_⟩
        · rw [hadded.inflowKnown]
          exact isEmpty_concat _ rfl
        · rw [hadded.outflowKnown]
          exact isEmpty_concat _ rfl
        · rw [hadded.observations]
          exact observe_countsOf [] o.direction

/-- A total that is not rounded. -/
theorem round_concat (hfit : SumsFit defaultContext (amountsIn decimal direction (values ++ [o])))
    {parsed : ℚ} (hparsed : o.amountIn decimal direction = some parsed) :
    defaultContext.round ((amountsIn decimal direction values).sum + parsed) =
      .ok ((amountsIn decimal direction values).sum + parsed) := by
  have hall := hfit _ (List.Subperm.refl _)
  rw [amountsIn_concat, hparsed, List.sum_append, Option.toList, List.sum_singleton] at hall
  exact round_of_fits hall

theorem added_exact (hfit : SumsFit defaultContext (amountsIn decimal direction (values ++ [o])))
    {total : ℚ}
    (h : Added (amountsIn decimal direction values).sum (o.amountIn decimal direction) total) :
    total = (amountsIn decimal direction (values ++ [o])).sum := by
  cases hparsed : o.amountIn decimal direction with
  | none =>
      rw [hparsed] at h
      rw [amountsIn_concat, hparsed, List.sum_append]
      exact h.trans (add_zero _).symm
  | some parsed =>
      rw [hparsed] at h
      rw [amountsIn_concat, hparsed, List.sum_append, Option.toList, List.sum_singleton]
      exact (Except.ok.inj ((round_concat hfit hparsed).symm.trans h)).symm

theorem exists_collectM (hin : SumsFit defaultContext (amountsIn decimal .incoming values))
    (hout : SumsFit defaultContext (amountsIn decimal .outgoing values)) :
    ∃ found, collectM (addAssetObservation decimal) values = .ok found ∧
      ∀ group, found = some group → ExactGroup decimal values group := by
  induction values using List.reverseRecOn with
  | nil => exact ⟨none, rfl, fun _ h => nomatch h⟩
  | append_singleton values o ih =>
      obtain ⟨before, hbefore, hexact⟩ := ih (sumsFit_of_sublist hin (amountsIn_mono _ _))
        (sumsFit_of_sublist hout (amountsIn_mono _ _))
      have hnone := (collectM_groupOf hbefore).1
      have hbase : ExactGroup decimal values (before.getD (AssetGroup.new o.asset)) := by
        cases before with
        | none =>
            cases hnone.mp rfl
            exact ⟨rfl, rfl⟩
        | some before => exact hexact before rfl
      obtain ⟨group, hgroup⟩ : ∃ group, addAssetObservation decimal before o = .ok group := by
        apply exists_added
        · intro parsed hparsed
          rw [hbase.inflow]
          exact ⟨_, round_concat hin hparsed⟩
        · intro parsed hparsed
          rw [hbase.outflow]
          exact ⟨_, round_concat hout hparsed⟩
      have hadded := addedTo_of_ok hgroup
      refine ⟨some group, ?_, fun _ heq => ?_⟩
      · rw [collectM_concat, hbefore, ExceptFold.ok_bind, hgroup]
        rfl
      · cases heq
        have hinflow := hadded.inflow
        have houtflow := hadded.outflow
        rw [hbase.inflow] at hinflow
        rw [hbase.outflow] at houtflow
        exact ⟨added_exact hin hinflow, added_exact hout houtflow⟩

/-! ## All rows -/

theorem assetId_of_mem_valuesOf (h : o ∈ valuesOf (assetObservations items) assetId) :
    o.asset.assetId = assetId := by
  obtain ⟨_, -, heq⟩ := List.mem_map.mp (Groups.mem_valuesOf.mp h)
  cases heq
  rfl

theorem map_fst_assetObservations (items : List CaseItem) :
    (assetObservations items).map (·.1) = observedAssets items := by
  unfold assetObservations observedAssets
  rw [List.map_map]
  rfl

/-- A row is of a group of its asset. -/
structure RowOf (decimal : Text → Option ℚ) (items : List CaseItem) (row : AssetFlow) : Prop where
  group : ∃ group, row = assetFlow (row.asset.assetId, group) ∧
    collectM (addAssetObservation decimal)
      (valuesOf (assetObservations items) row.asset.assetId) = .ok (some group) ∧
    GroupOf decimal (valuesOf (assetObservations items) row.asset.assetId) group

/-- What holds of the rows however the amounts are rounded. -/
theorem rows_of_ok (h : assetRows decimal items = .ok rows) :
    (rows.map fun row => row.asset.assetId).Perm (keysOf (assetObservations items)) ∧
      ∀ row ∈ rows, RowOf decimal items row := by
  obtain ⟨groups, hgroups, h⟩ := bind_eq_ok.mp h
  have hdescribes := Groups.foldlM_upsertM hgroups
  have hsorted := Except.ok.inj h
  have hperm : rows.Perm (groups.map assetFlow) :=
    hsorted ▸ KeySort.sortBy_perm _ AssetFlow.sortKey _
  have hrow : ∀ entry ∈ groups, (assetFlow entry).asset.assetId = entry.1 ∧
      RowOf decimal items (assetFlow entry) := by
    intro entry hentry
    have hcollect := hdescribes.groups entry hentry
    have hgroupOf := (collectM_groupOf hcollect).2 _ rfl
    obtain ⟨o, ho, hasset⟩ := hgroupOf.asset
    have hid : (assetFlow entry).asset.assetId = entry.1 :=
      (congrArg FlowAsset.assetId hasset).trans (assetId_of_mem_valuesOf ho)
    refine ⟨hid, ⟨entry.2, ?_, ?_, ?_⟩⟩
    · rw [hid]
    · rw [hid]
      exact hcollect
    · rw [hid]
      exact hgroupOf
  constructor
  · refine (hperm.map _).trans (List.Perm.of_eq ?_)
    rw [List.map_map, ← hdescribes.keys]
    exact List.map_congr_left fun entry hentry => (hrow entry hentry).1
  · intro row hmem
    obtain ⟨entry, hentry, rfl⟩ := List.mem_map.mp (hperm.mem_iff.mp hmem)
    exact (hrow entry hentry).2

theorem mem_assets (h : assetRows decimal items = .ok rows) (assetId : Text) :
    assetId ∈ rows.map (fun row => row.asset.assetId) ↔ assetId ∈ observedAssets items := by
  rw [(rows_of_ok h).1.mem_iff, ← map_fst_assetObservations]
  exact Groups.mem_keysOf

/-- The amounts of a row are ones the context keeps. -/
theorem fits_row (h : assetRows decimal items = .ok rows) {row : AssetFlow} (hrow : row ∈ rows)
    {total : ℚ} (htotal : row.inflowAmount = some total ∨ row.outflowAmount = some total) :
    Fits defaultContext total := by
  obtain ⟨group, hgroup, -, hgroupOf⟩ := ((rows_of_ok h).2 row hrow).group
  rw [hgroup] at htotal
  unfold assetFlow at htotal
  obtain htotal | htotal := htotal
  · dsimp only at htotal
    split at htotal
    · exact Option.some.inj htotal ▸ hgroupOf.inflowFits
    · cases htotal
  · dsimp only at htotal
    split at htotal
    · exact Option.some.inj htotal ▸ hgroupOf.outflowFits
    · cases htotal

theorem exactAmount_of_known {known : Bool} {total : ℚ} {amounts : List ℚ}
    (hknown : known = !amounts.isEmpty) (htotal : total = amounts.sum) :
    (if known then some total else none) = exactAmount amounts := by
  subst hknown htotal
  unfold exactAmount
  cases amounts <;> simp

theorem exactAssetRows_of_ok (hfit : TotalsFit decimal items)
    (h : assetRows decimal items = .ok rows) : ExactAssetRows decimal items rows := by
  have hrow : ∀ row ∈ rows,
      row.inflowAmount = exactAmount (contributions decimal items row.asset.assetId .incoming) ∧
        row.outflowAmount =
          exactAmount (contributions decimal items row.asset.assetId .outgoing) := by
    intro row hmem
    obtain ⟨group, hgroup, hcollect, hgroupOf⟩ := ((rows_of_ok h).2 row hmem).group
    obtain ⟨hin, hout⟩ := hfit row.asset.assetId
    rw [← (amountsIn_group decimal items _).1] at hin
    rw [← (amountsIn_group decimal items _).2] at hout
    obtain ⟨found, hfound, hexact⟩ := exists_collectM hin hout
    cases hcollect.symm.trans hfound
    obtain ⟨hinflow, houtflow⟩ := hexact group rfl
    rw [← (amountsIn_group decimal items _).1, ← (amountsIn_group decimal items _).2]
    constructor
    · rw [← exactAmount_of_known hgroupOf.inflowKnown hinflow]
      exact congrArg AssetFlow.inflowAmount hgroup
    · rw [← exactAmount_of_known hgroupOf.outflowKnown houtflow]
      exact congrArg AssetFlow.outflowAmount hgroup
  exact ⟨(rows_of_ok h).1.nodup_iff.mpr (Groups.nodup_keysOf _), mem_assets h,
    fun row hmem => (hrow row hmem).1, fun row hmem => (hrow row hmem).2⟩

theorem exists_assetRows (hfit : TotalsFit decimal items) :
    ∃ rows, assetRows decimal items = .ok rows := by
  obtain ⟨groups, hgroups⟩ : ∃ groups, assetGroups decimal items = .ok groups := by
    refine Groups.exists_foldlM_upsertM fun assetId => ?_
    obtain ⟨hin, hout⟩ := hfit assetId
    rw [← (amountsIn_group decimal items _).1] at hin
    rw [← (amountsIn_group decimal items _).2] at hout
    obtain ⟨found, hfound, -⟩ := exists_collectM hin hout
    exact ⟨found, hfound⟩
  exact ⟨_, bind_eq_ok.mpr ⟨groups, hgroups, rfl⟩⟩

/-! ## Every order -/

theorem contributions_perm (h : items.Perm items') (assetId : Text) (direction : ItemDirection) :
    (contributions decimal items assetId direction).Perm
      (contributions decimal items' assetId direction) := h.filterMap _

theorem totalsFit_subperm (h : items'.Subperm items) (hfit : TotalsFit decimal items) :
    TotalsFit decimal items' := by
  obtain ⟨chosen, hchosen, hsub⟩ := h
  have hpart : ∀ assetId direction, (contributions decimal items' assetId direction).Subperm
      (contributions decimal items assetId direction) := fun assetId direction =>
    ⟨_, contributions_perm hchosen assetId direction, hsub.filterMap _⟩
  intro assetId
  obtain ⟨hin, hout⟩ := hfit assetId
  exact ⟨fun part h => hin part (h.trans (hpart assetId .incoming)),
    fun part h => hout part (h.trans (hpart assetId .outgoing))⟩

theorem exactAmount_perm {amounts amounts' : List ℚ} (h : amounts.Perm amounts') :
    exactAmount amounts = exactAmount amounts' := by
  unfold exactAmount
  rw [h.sum_eq]
  simp only [← List.length_eq_zero_iff, h.length_eq]

theorem observedAssets_perm (h : items.Perm items') :
    (observedAssets items).Perm (observedAssets items') :=
  (h.flatMap_right CaseItem.assetObservations).map _

theorem ExactAssetRows.perm (hrows : ExactAssetRows decimal items rows) (h : items.Perm items') :
    ExactAssetRows decimal items' rows where
  distinct := hrows.distinct
  assets assetId := (hrows.assets assetId).trans (observedAssets_perm h).mem_iff
  inflow row hmem :=
    (hrows.inflow row hmem).trans (exactAmount_perm (contributions_perm h _ _))
  outflow row hmem :=
    (hrows.outflow row hmem).trans (exactAmount_perm (contributions_perm h _ _))

theorem assetObservations_perm (h : items.Perm items') :
    (assetObservations items).Perm (assetObservations items') :=
  (h.flatMap_right CaseItem.assetObservations).map _

/-- Rows with exact totals say the same of an asset in every order. -/
theorem totals_eq {rows' : List AssetFlow} (hperm : items.Perm items')
    (h : assetRows decimal items = .ok rows) (h' : assetRows decimal items' = .ok rows')
    (hexact : ExactAssetRows decimal items rows) (hexact' : ExactAssetRows decimal items rows')
    {row row' : AssetFlow} (hrow : row ∈ rows) (hrow' : row' ∈ rows')
    (hid : row.asset.assetId = row'.asset.assetId) : row.totals = row'.totals := by
  obtain ⟨group, hgroup, -, hgroupOf⟩ := ((rows_of_ok h).2 row hrow).group
  obtain ⟨group', hgroup', -, hgroupOf'⟩ := ((rows_of_ok h').2 row' hrow').group
  have hobservations : row.observations = row'.observations := by
    have hvalues := Groups.valuesOf_perm (assetObservations_perm hperm) row.asset.assetId
    rw [hgroup, hgroup']
    show group.observations = group'.observations
    rw [hgroupOf.observations, hgroupOf'.observations,
      countsOf_perm (hvalues.map AssetObservation.direction), hid]
  unfold AssetFlow.totals
  rw [hid, hobservations, hexact.inflow row hrow, hexact'.inflow row' hrow',
    hexact.outflow row hrow, hexact'.outflow row' hrow', hid]

theorem map_totals_eq {rows' : List AssetFlow} (hperm : items.Perm items')
    (h : assetRows decimal items = .ok rows) (h' : assetRows decimal items' = .ok rows')
    (hexact : ExactAssetRows decimal items rows) (hexact' : ExactAssetRows decimal items rows') :
    rows.map AssetFlow.totals = rows'.map AssetFlow.totals := by
  have hsorted : ∀ {items rows}, assetRows decimal items = .ok rows →
      (rows.map AssetFlow.totals).Pairwise fun a b =>
        flowKey a.2.2.2.total a.1 ≤ flowKey b.2.2.2.total b.1 := by
    intro items rows h
    obtain ⟨groups, -, h⟩ := bind_eq_ok.mp h
    have hpairwise := KeySort.sortBy_pairwise KeySort.order_le AssetFlow.sortKey
      (groups.map assetFlow)
    rw [Except.ok.inj h] at hpairwise
    exact List.pairwise_map.mpr (hpairwise.imp fun hle => of_decide_eq_true hle)
  have hnodup : ∀ {rows : List AssetFlow}, (rows.map fun row => row.asset.assetId).Nodup →
      (rows.map AssetFlow.totals).Nodup := by
    intro rows h
    refine List.Nodup.of_map (fun totals => totals.1) ?_
    rwa [List.map_map]
  have hmem : ∀ totals, totals ∈ rows.map AssetFlow.totals ↔
      totals ∈ rows'.map AssetFlow.totals := by
    intro totals
    constructor
    · intro hmem
      obtain ⟨row, hrow, rfl⟩ := List.mem_map.mp hmem
      have hid : row.asset.assetId ∈ rows'.map fun row => row.asset.assetId := by
        rw [hexact'.assets, ← hexact.assets]
        exact List.mem_map_of_mem hrow
      obtain ⟨row', hrow', hid⟩ := List.mem_map.mp hid
      rw [totals_eq hperm h h' hexact hexact' hrow hrow' hid.symm]
      exact List.mem_map_of_mem hrow'
    · intro hmem
      obtain ⟨row', hrow', rfl⟩ := List.mem_map.mp hmem
      have hid : row'.asset.assetId ∈ rows.map fun row => row.asset.assetId := by
        rw [hexact.assets, ← hexact'.assets]
        exact List.mem_map_of_mem hrow'
      obtain ⟨row, hrow, hid⟩ := List.mem_map.mp hid
      rw [← totals_eq hperm h h' hexact hexact' hrow hrow' hid]
      exact List.mem_map_of_mem hrow
  have hsame := (List.perm_ext_iff_of_nodup (hnodup hexact.distinct) (hnodup hexact'.distinct)).mpr
    hmem
  refine List.Perm.eq_of_pairwise (fun a b ha hb hab hba => ?_) (hsorted h) (hsorted h') hsame
  have hkey := congrArg (fun key => (ofLex key).2) (le_antisymm hab hba)
  obtain ⟨row, hrow, rfl⟩ := List.mem_map.mp ha
  obtain ⟨row', hrow', rfl⟩ := List.mem_map.mp hb
  exact totals_eq hperm h h' hexact hexact' hrow hrow' hkey

/-! ## The totals of a case -/

/-- The asset totals of a result are exact, and of every order the same; the
flows list the first of the rows. -/
def TotalsExact (decimal : Text → Option ℚ) (items : List CaseItem) : Prop :=
  ∃ totals, ∀ items', items.Perm items' → ∃ rows flows state,
    flowSummary decimal items' = .ok (flows, state) ∧ assetRows decimal items' = .ok rows ∧
      flows.assetFlows = rows.take maxFlowGroups ∧
      ExactAssetRows decimal items rows ∧ rows.map AssetFlow.totals = totals

theorem totalsExact_of_fit (hfit : TotalsFit decimal items) : TotalsExact decimal items := by
  obtain ⟨rows, hrows⟩ := exists_assetRows hfit
  have hexact := exactAssetRows_of_ok hfit hrows
  refine ⟨rows.map AssetFlow.totals, fun items' hperm => ?_⟩
  have hfit' := totalsFit_subperm hperm.symm.subperm hfit
  obtain ⟨rows', hrows'⟩ := exists_assetRows hfit'
  have hexact' := (exactAssetRows_of_ok hfit' hrows').perm hperm.symm
  exact ⟨rows', _, _, bind_eq_ok.mpr ⟨rows', hrows', rfl⟩, hrows', rfl, hexact',
    (map_totals_eq hperm hrows hrows' hexact hexact').symm⟩


theorem mem_observedAssets {amount : ℚ} (h : amount ∈ contributions decimal items assetId direction)
    (hdirection : direction ≠ .unknown) : assetId ∈ observedAssets items := by
  rw [← amountsIn_valuesOf hdirection] at h
  obtain ⟨o, ho, -⟩ := List.mem_filterMap.mp h
  rw [← map_fst_assetObservations]
  exact List.mem_map_of_mem (Groups.mem_valuesOf.mp ho)

/-- The exact total of an asset is a number the context keeps. -/
theorem fits_contributions (h : TotalsExact decimal items)
    (hdirection : direction = .incoming ∨ direction = .outgoing) :
    Fits defaultContext (contributions decimal items assetId direction).sum := by
  have hne : direction ≠ .unknown := by
    rintro rfl
    simp at hdirection
  cases hamounts : contributions decimal items assetId direction with
  | nil => exact fits_zero
  | cons amount amounts =>
      obtain ⟨totals, htotals⟩ := h
      obtain ⟨rows, -, -, -, hrows, -, hexact, -⟩ := htotals items (List.Perm.refl _)
      have hmem : amount ∈ contributions decimal items assetId direction :=
        hamounts ▸ List.mem_cons_self
      have hid := (hexact.assets assetId).mpr (mem_observedAssets hmem hne)
      obtain ⟨row, hrow, rfl⟩ := List.mem_map.mp hid
      have htotal : exactAmount (contributions decimal items row.asset.assetId direction) =
          some (amount :: amounts).sum := by
        rw [hamounts]
        exact if_neg (List.cons_ne_nil _ _)
      refine fits_row hrows hrow ?_
      obtain rfl | rfl := hdirection
      · exact .inl ((hexact.inflow row hrow).trans htotal)
      · exact .inr ((hexact.outflow row hrow).trans htotal)

theorem flow_totals_exact_iff (decimal : Text → Option ℚ) (items : List CaseItem) :
    (∀ part, part.Subperm items → TotalsExact decimal part) ↔ TotalsFit decimal items := by
  constructor
  · intro h
    have hfits : ∀ assetId direction, direction = .incoming ∨ direction = .outgoing →
        SumsFit defaultContext (contributions decimal items assetId direction) := by
      rintro assetId direction hdirection part ⟨chosen, hchosen, hsub⟩
      obtain ⟨found, hfound, rfl⟩ := List.sublist_filterMap_iff.mp hsub
      rw [← hchosen.sum_eq]
      exact fits_contributions (h found hfound.subperm) hdirection
    exact fun assetId => ⟨hfits assetId .incoming (.inl rfl), hfits assetId .outgoing (.inr rfl)⟩
  · exact fun hfit part hpart => totalsExact_of_fit (totalsFit_subperm hpart hfit)

/-! ## Two very different amounts -/

/-- An incoming transfer of TON. -/
def incomingTon (id amount : String) : CaseItem where
  publicId := id.toList
  occurredAt := none
  demoFixture := false
  body := .transfer (some ⟨"ton".toList, "ton-mainnet".toList, "native".toList, none,
    some "TON".toList⟩) .incoming (some amount.toList) none

/-- The number some amounts are. -/
def sampleAmount (text : Text) : Option ℚ :=
  if text = "10000000000".toList then some (10 ^ 10)
  else if text = "0.000000000000000001".toList then some (1 / 10 ^ 18)
  else none

/-- The second amount is lost beside the first. -/
theorem incoming_amounts_rounded :
    (assetRows sampleAmount [incomingTon "act_1" "10000000000",
        incomingTon "act_2" "0.000000000000000001"]).toOption.map
        (List.map AssetFlow.inflowAmount) = some [some (10 ^ 10)] ∧
      ¬ TotalsExact sampleAmount [incomingTon "act_1" "10000000000",
        incomingTon "act_2" "0.000000000000000001"] := by
  have heval : (assetRows sampleAmount [incomingTon "act_1" "10000000000",
      incomingTon "act_2" "0.000000000000000001"]).toOption.map
      (List.map AssetFlow.inflowAmount) = some [some (10 ^ 10)] := by
    decide +kernel
  refine ⟨heval, fun h => ?_⟩
  obtain ⟨totals, htotals⟩ := h
  obtain ⟨rows, -, -, -, hrows, -, hexact, -⟩ := htotals _ (List.Perm.refl _)
  have hmem : "ton".toList ∈ rows.map fun row => row.asset.assetId :=
    (hexact.assets _).mpr (by decide)
  obtain ⟨row, hrow, hid⟩ := List.mem_map.mp hmem
  have htotal : exactAmount (contributions sampleAmount [incomingTon "act_1" "10000000000",
      incomingTon "act_2" "0.000000000000000001"] "ton".toList .incoming) =
      some (10 ^ 10 + 1 / 10 ^ 18) := by
    decide +kernel
  have hinflow := hexact.inflow row hrow
  rw [hid, htotal] at hinflow
  rw [hrows] at heval
  have hlisted := Option.some.inj heval
  have hmem : row.inflowAmount ∈ rows.map AssetFlow.inflowAmount := List.mem_map_of_mem hrow
  rw [hlisted, hinflow, List.mem_singleton, Option.some.injEq] at hmem
  norm_num at hmem

end TonTracker
