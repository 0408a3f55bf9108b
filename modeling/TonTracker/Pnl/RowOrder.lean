/-
# `Pnl.RowOrder` — the order of the rows

A run response is a set of rows; the estimates fold over them in the order
of the lists.  Where the sums of the recorded amounts are exact in the
context, and no two different legs of a token share a timestamp, every order
gives the same result (`preview_row_order`): flows are sorted by their tokens
and legs by their timestamps.  Legs of one timestamp stay in the order of
the rows.
-/
import TonTracker.Lib.Reordering
import TonTracker.Pnl.FeesOnce
import Mathlib.Data.List.Sublists

namespace TonTracker

open ContextDecimal (Decimal Signal)
open Reordering (max?_perm min?_perm)

variable {readers : PnlReaders} {prices : PriceSource} {run other : PnlRun}

/-! ## The same rows -/

/-- Two responses with the same rows. -/
structure SameRows (run other : PnlRun) : Prop where
  transactions : other.transactions.Perm run.transactions
  swaps : other.swaps.Perm run.swaps

/-- A transaction hash carries one fee. -/
def OneFee (readers : PnlReaders) (run : PnlRun) : Prop :=
  ∀ a ∈ feeByTxHash readers run, ∀ b ∈ feeByTxHash readers run, a.1 = b.1 → a.2 = b.2

/-- The recorded fee is the one of any entry of the transaction. -/
theorem recordedFee_eq_some (hfee : OneFee readers run) {txHash : Text} {fee : Decimal} :
    recordedFee readers run txHash = some fee ↔ (txHash, fee) ∈ feeByTxHash readers run := by
  unfold recordedFee
  constructor
  · intro h
    obtain ⟨entry, hentry, rfl⟩ := Option.map_eq_some_iff.mp h
    have hmem := List.mem_reverse.mp (List.mem_of_find?_eq_some hentry)
    have hkey : entry.1 = txHash := by simpa using List.find?_some hentry
    exact hkey ▸ hmem
  · intro h
    cases hfind : (feeByTxHash readers run).reverse.find? fun entry => entry.1 = txHash with
    | none =>
        exact absurd (List.find?_eq_none.mp hfind _ (List.mem_reverse.mpr h)) (by simp)
    | some entry =>
        have hmem := List.mem_reverse.mp (List.mem_of_find?_eq_some hfind)
        have hkey : entry.1 = txHash := by simpa using List.find?_some hfind
        exact congrArg some (hfee _ hmem _ h hkey)

theorem SameRows.oneFee (h : SameRows run other) (hfee : OneFee readers run) :
    OneFee readers other := by
  have hperm := h.transactions.filterMap fun transaction => (do
    let txHash ← transaction.txHash
    let fee ← readers.decimal? transaction.feeTon
    if txHash = [] then none else some (txHash, fee) : Option (Text × Decimal))
  exact fun a ha b hb => hfee a (hperm.mem_iff.mp ha) b (hperm.mem_iff.mp hb)

theorem SameRows.recordedFee_eq (h : SameRows run other) (hfee : OneFee readers run) :
    recordedFee readers other = recordedFee readers run := by
  funext txHash
  have hperm : (feeByTxHash readers other).Perm (feeByTxHash readers run) :=
    h.transactions.filterMap _
  refine Option.ext fun fee => ?_
  exact (recordedFee_eq_some (h.oneFee hfee)).trans
    (hperm.mem_iff.trans (recordedFee_eq_some hfee).symm)

theorem SameRows.feeOf_eq (h : SameRows run other) (hfee : OneFee readers run) (swap : PnlSwap) :
    feeOf readers other swap = feeOf readers run swap :=
  congrFun (h.recordedFee_eq hfee) (swap.txHash.getD [])

theorem SameRows.usedRows_perm (h : SameRows run other) (hfee : OneFee readers run) :
    (usedRows readers other other.swaps).Perm (usedRows readers run run.swaps) := by
  have hrow : usedRows readers other other.swaps = usedRows readers run other.swaps :=
    List.filterMap_congr fun swap _ => by rw [h.feeOf_eq hfee]
  rw [hrow]
  exact h.swaps.filterMap _

theorem SameRows.usdLegs_perm (h : SameRows run other) (hfee : OneFee readers run) :
    (usdLegs readers other).Perm (usdLegs readers run) := by
  have hrow : usdLegs readers other = other.swaps.filterMap fun swap =>
      (tonLeg readers swap).map fun leg =>
        ⟨leg, readers.timestamp? swap.timestamp, feeOf readers run swap⟩ :=
    List.filterMap_congr fun swap _ => by rw [h.feeOf_eq hfee]
  rw [hrow]
  exact h.swaps.filterMap _

/-! ## Exact sums -/

/-- Every selection of the values has a sum that the context holds. -/
structure ExactSums (values : List Decimal) : Prop where
  finite : ∀ value ∈ values, isFinite value = true
  sums : ∀ part : List Decimal, part.Subperm values →
    defaultContext.round (part.map exactValue).sum = .ok (part.map exactValue).sum

theorem ExactSums.subperm {values part : List Decimal} (h : ExactSums values)
    (hpart : part.Subperm values) : ExactSums part :=
  ⟨fun value hvalue => h.finite value (hpart.subset hvalue),
    fun sub hsub => h.sums sub (hsub.trans hpart)⟩

theorem eq_exactValue {value : Decimal} (h : isFinite value = true) :
    value = .finite (exactValue value) := by
  cases value <;> first | rfl | cases h

theorem add_exact {part : List Decimal} {value : Decimal} (h : ExactSums (part ++ [value])) :
    (Decimal.finite (part.map exactValue).sum).add defaultContext value =
      .ok (.finite ((part ++ [value]).map exactValue).sum) := by
  have hsum := h.sums _ (List.Subperm.refl _)
  rw [eq_exactValue (h.finite value (by simp))]
  rw [List.map_append, List.sum_append, List.map_singleton, List.sum_singleton] at hsum ⊢
  show Decimal.finite <$> defaultContext.round _ = _
  rw [hsum]
  rfl

/-- A column of exact sums. -/
theorem foldlM_addOptional_exact {column : List (Option Decimal)}
    (h : ExactSums (column.filterMap id)) :
    column.foldlM addOptional .zero =
      .ok (.finite ((column.filterMap id).map exactValue).sum) := by
  induction column using List.reverseRecOn with
  | nil => rfl
  | append_singleton column x ih =>
      rw [List.filterMap_append] at h
      have hprefix := ih (h.subperm (List.sublist_append_left _ _).subperm)
      rw [List.foldlM_append, hprefix, ExceptFold.ok_bind, List.foldlM_cons, List.filterMap_append]
      cases x with
      | none =>
          rw [show List.filterMap id [(none : Option Decimal)] = [] from rfl, List.append_nil]
          rfl
      | some value =>
          have hadd := add_exact h
          show addOptional _ (some value) >>= _ = _
          rw [addOptional, hadd]
          rfl

def columnTotal (column : List (Option Decimal)) : Decimal :=
  .finite ((column.filterMap id).map exactValue).sum

theorem columnTotal_perm {column column' : List (Option Decimal)} (h : column.Perm column') :
    columnTotal column = columnTotal column' :=
  congrArg Decimal.finite (((h.filterMap id).map exactValue).sum_eq)

/-! ## The base estimate -/

/-- The columns of some used rows have exact sums. -/
structure ExactRows (rows : List UsedRow) : Prop where
  spent : ExactSums ((rows.map (·.leg.spent)).filterMap id)
  bought : ExactSums ((rows.map (·.leg.bought)).filterMap id)
  received : ExactSums ((rows.map (·.leg.received)).filterMap id)
  sold : ExactSums ((rows.map (·.leg.sold)).filterMap id)
  fees : ExactSums ((rows.map (·.fee)).filterMap id)

theorem ExactRows.subperm {rows part : List UsedRow} (h : ExactRows rows)
    (hpart : part.Subperm rows) : ExactRows part := by
  have column : ∀ f : UsedRow → Option Decimal,
      ((part.map f).filterMap id).Subperm ((rows.map f).filterMap id) := by
    intro f
    obtain ⟨l, hperm, hsub⟩ := hpart
    exact ⟨_, (hperm.map f).filterMap id, (hsub.map f).filterMap id⟩
  exact ⟨h.spent.subperm (column _), h.bought.subperm (column _), h.received.subperm (column _),
    h.sold.subperm (column _), h.fees.subperm (column _)⟩

/-- The flow of some rows, in exact sums. -/
def exactFlow (t : Text) (rows : List UsedRow) : TokenFlow :=
  ⟨t, rows.countP fun row => row.leg.side = .buy, rows.countP fun row => row.leg.side = .sell,
    columnTotal (rows.map (·.leg.bought)), columnTotal (rows.map (·.leg.sold)),
    columnTotal (rows.map (·.leg.spent)), columnTotal (rows.map (·.leg.received)),
    columnTotal (rows.map (·.fee))⟩

theorem exactFlow_perm {t : Text} {rows rows' : List UsedRow} (h : rows.Perm rows') :
    exactFlow t rows = exactFlow t rows' := by
  have column : ∀ f : UsedRow → Option Decimal, columnTotal (rows.map f) = columnTotal (rows'.map f) :=
    fun f => columnTotal_perm (h.map f)
  unfold exactFlow
  rw [h.countP_eq, h.countP_eq, column, column, column, column, column]

/-- The rows of each token have exact sums. -/
def ExactFlows (rows : List UsedRow) : Prop :=
  ∀ t, ExactRows (rows.filter fun row => row.leg.token = t)

theorem ExactFlows.subperm {rows part : List UsedRow} (h : ExactFlows rows)
    (hpart : part.Subperm rows) : ExactFlows part := by
  intro t
  obtain ⟨l, hperm, hsub⟩ := hpart
  exact (h t).subperm ⟨_, hperm.filter _, hsub.filter _⟩

theorem flowOfRows_exact {rows : List UsedRow} (h : ExactFlows rows) (t : Text) :
    flowOfRows emptyFlow (·.leg.token) usedRowFlow rows t =
      .ok (exactFlow t (rows.filter fun row => row.leg.token = t)) := by
  have hrows := h t
  refine usedRowsFlow_iff.mpr ⟨rfl, (Nat.zero_add _).symm, (Nat.zero_add _).symm, ?_, ?_, ?_, ?_, ?_⟩
  · exact foldlM_addOptional_exact hrows.spent
  · exact foldlM_addOptional_exact hrows.bought
  · exact foldlM_addOptional_exact hrows.received
  · exact foldlM_addOptional_exact hrows.sold
  · exact foldlM_addOptional_exact hrows.fees

/-- The loop over the rows, from the loop over the used ones. -/
theorem previewRows_total {swaps : List PnlSwap} {s : PreviewLoop} {flows : List TokenFlow}
    (h : (usedRows readers run swaps).foldlM (fun flows row =>
      updateFlow (·.token) emptyFlow row.leg.token (usedRowFlow row) flows) s.flows = .ok flows) :
    ∃ s', swaps.foldlM (previewRow readers run) s = .ok s' := by
  induction swaps generalizing s with
  | nil => exact ⟨s, rfl⟩
  | cons swap swaps ih =>
      rw [List.foldlM_cons]
      unfold previewRow
      cases hleg : tonLeg readers swap with
      | none =>
          rw [usedRows_cons_none hleg] at h
          exact ih h
      | some leg =>
          rw [usedRows_cons_some hleg, List.foldlM_cons] at h
          obtain ⟨next, hnext, h⟩ := ExceptFold.bind_eq_ok.mp h
          simp only [hnext, ExceptFold.ok_bind]
          exact ih h

theorem previewRows_partialQuantity {swaps : List PnlSwap} {s s' : PreviewLoop}
    (h : swaps.foldlM (previewRow readers run) s = .ok s') :
    s'.partialQuantityRows = s.partialQuantityRows +
      (usedRows readers run swaps).countP fun row => row.leg.tokenQty.isNone := by
  induction swaps generalizing s with
  | nil =>
      cases h
      rfl
  | cons swap swaps ih =>
      rw [List.foldlM_cons] at h
      obtain ⟨next, hnext, h⟩ := ExceptFold.bind_eq_ok.mp h
      rw [ih h]
      unfold previewRow at hnext
      cases hleg : tonLeg readers swap with
      | none =>
          rw [hleg] at hnext
          cases hnext
          rw [usedRows_cons_none hleg]
      | some leg =>
          rw [hleg] at hnext
          obtain ⟨flows, hflows, hnext⟩ := ExceptFold.bind_eq_ok.mp hnext
          cases hnext
          rw [usedRows_cons_some hleg, List.countP_cons]
          ring

/-- What the loop leaves in every order of the rows. -/
structure SameLoop (s s' : PreviewLoop) : Prop where
  flows : sortFlows (·.token) s'.flows = sortFlows (·.token) s.flows
  swapsUsed : s'.swapsUsed = s.swapsUsed
  swapsExcluded : s'.swapsExcluded = s.swapsExcluded
  partialQuantityRows : s'.partialQuantityRows = s.partialQuantityRows
  feesMatched : s'.feesMatched = s.feesMatched

theorem SameRows.loop (h : SameRows run other) (hfee : OneFee readers run)
    (hexact : ExactFlows (usedRows readers run run.swaps)) :
    ∃ s s', run.swaps.foldlM (previewRow readers run) ⟨[], 0, 0, 0, 0⟩ = .ok s ∧
      other.swaps.foldlM (previewRow readers other) ⟨[], 0, 0, 0, 0⟩ = .ok s' ∧ SameLoop s s' := by
  have hperm := h.usedRows_perm hfee
  have htotal : ∀ {rows : List UsedRow}, ExactFlows rows → ∃ flows,
      rows.foldlM (fun flows row =>
        updateFlow (·.token) emptyFlow row.leg.token (usedRowFlow row) flows) [] = .ok flows := by
    intro rows hrows
    refine foldlM_updateFlow_total (fun _ => rfl) (fun _ _ _ hnext => (usedRowFlow_iff.mp hnext).token)
      fun earlier later heq t => ⟨_, flowOfRows_exact (hrows.subperm ?_) t⟩
    rw [heq]
    exact (List.sublist_append_left _ _).subperm
  obtain ⟨flows, hflows⟩ := htotal hexact
  obtain ⟨flows', hflows'⟩ := htotal (hexact.subperm hperm.subperm)
  obtain ⟨s, hs⟩ := previewRows_total (s := ⟨[], 0, 0, 0, 0⟩) hflows
  obtain ⟨s', hs'⟩ := previewRows_total (s := ⟨[], 0, 0, 0, 0⟩) hflows'
  obtain ⟨used, excluded, fees⟩ := previewRows_counts hs
  obtain ⟨used', excluded', fees'⟩ := previewRows_counts hs'
  have hhas : hasFee readers other = hasFee readers run := by
    funext swap
    rw [hasFee, hasFee, h.feeOf_eq hfee]
  refine ⟨s, s', hs, hs', ⟨?_, ?_, ?_, ?_, ?_⟩⟩
  · refine (previewRows_grouped hs').sorted_eq (previewRows_grouped hs) (fun t => ?_) fun t => ?_
    · exact exists_congr fun row => and_congr hperm.mem_iff Iff.rfl
    · rw [flowOfRows_exact hexact, flowOfRows_exact (hexact.subperm hperm.subperm),
        exactFlow_perm (hperm.filter _)]
  · rw [used, used', h.swaps.countP_eq]
  · rw [excluded, excluded', h.swaps.countP_eq]
  · rw [previewRows_partialQuantity hs, previewRows_partialQuantity hs', hperm.countP_eq]
  · rw [fees, fees', hhas, h.swaps.countP_eq]

theorem SameRows.requirements (h : SameRows run other) :
    buildRealPnlRequirements other = buildRealPnlRequirements run := by
  unfold buildRealPnlRequirements
  rw [h.transactions.isEmpty_eq, h.swaps.isEmpty_eq]

theorem SameLoop.feeRequirement {s s' : PreviewLoop} (h : SameLoop s s')
    (requirements : List Requirement) :
    feeRequirement s' requirements = feeRequirement s requirements := by
  unfold TonTracker.feeRequirement
  rw [h.swapsUsed, h.feesMatched]

theorem SameRows.swaps_nil (h : SameRows run other) : other.swaps = [] ↔ run.swaps = [] :=
  ⟨fun heq => List.perm_nil.mp (heq ▸ h.swaps.symm), fun heq => List.perm_nil.mp (heq ▸ h.swaps)⟩

theorem SameRows.warnings (h : SameRows run other) {s s' : PreviewLoop} (hs : SameLoop s s') :
    previewWarnings other s' = previewWarnings run s := by
  unfold previewWarnings
  rw [hs.swapsUsed, hs.feesMatched, hs.swapsExcluded, hs.partialQuantityRows]
  simp only [ne_eq, h.swaps_nil]

/-- The base estimate is the same in every order of the rows. -/
theorem SameRows.preview (h : SameRows run other) (hfee : OneFee readers run)
    (hexact : ExactFlows (usedRows readers run run.swaps)) :
    deriveRunPnlPreview readers other = deriveRunPnlPreview readers run := by
  obtain ⟨s, s', hs, hs', hsame⟩ := h.loop hfee hexact
  unfold deriveRunPnlPreview
  rw [hs, hs']
  simp only [ExceptFold.ok_bind, hsame.flows, hsame.swapsUsed, hsame.swapsExcluded,
    hsame.feeRequirement, h.requirements, h.warnings hsame, ne_eq, h.swaps_nil]

/-! ## The valued legs -/

/-- The value of a leg where it has one. -/
def PricedLeg.usdAmount (leg : PricedLeg) : Decimal :=
  (leg.leg.tonAmount.mul defaultContext leg.priceUsd).toOption.getD .quietNaN

/-- The values of one side. -/
def sideAmounts (side : LegSide) (legs : List PricedLeg) : List Decimal :=
  (legs.filter fun leg => leg.leg.side = side).map (·.usdAmount)

/-- The legs of each token have values with exact sums. -/
def ExactUsdFlows (legs : List PricedLeg) : Prop :=
  ∀ t side, ExactSums (sideAmounts side (legs.filter fun leg => leg.leg.token = t))

theorem ExactUsdFlows.subperm {legs part : List PricedLeg} (h : ExactUsdFlows legs)
    (hpart : part.Subperm legs) : ExactUsdFlows part := by
  intro t side
  obtain ⟨l, hperm, hsub⟩ := hpart
  exact (h t side).subperm
    ⟨_, ((hperm.filter _).filter _).map _, ((hsub.filter _).filter _).map _⟩

theorem usdAmount_ok {leg : PricedLeg} (h : isFinite leg.usdAmount = true) :
    leg.leg.tonAmount.mul defaultContext leg.priceUsd = .ok leg.usdAmount := by
  unfold PricedLeg.usdAmount at h ⊢
  cases hmul : leg.leg.tonAmount.mul defaultContext leg.priceUsd with
  | error signal =>
      rw [hmul] at h
      cases h
  | ok value => rfl

def emptyUsdFlow (token : Text) : UsdFlow := ⟨token, .zero, .zero, 0⟩

def exactUsdFlow (t : Text) (legs : List PricedLeg) : UsdFlow :=
  ⟨t, .finite ((sideAmounts .buy legs).map exactValue).sum,
    .finite ((sideAmounts .sell legs).map exactValue).sum, legs.length⟩

theorem exactUsdFlow_perm {t : Text} {legs legs' : List PricedLeg} (h : legs.Perm legs') :
    exactUsdFlow t legs = exactUsdFlow t legs' := by
  have hside : ∀ side, ((sideAmounts side legs).map exactValue).sum =
      ((sideAmounts side legs').map exactValue).sum := fun side =>
    ((((h.filter _).map PricedLeg.usdAmount).map exactValue).sum_eq)
  unfold exactUsdFlow
  rw [hside, hside, h.length_eq]

theorem usdLegs_foldlM_exact {t : Text} {legs : List PricedLeg}
    (h : ∀ side, ExactSums (sideAmounts side legs)) :
    legs.foldlM (fun flow leg => leg.flow flow) (emptyUsdFlow t) = .ok (exactUsdFlow t legs) := by
  induction legs using List.reverseRecOn with
  | nil => rfl
  | append_singleton legs leg ih =>
      have hprefix : ∀ side, ExactSums (sideAmounts side legs) := fun side =>
        (h side).subperm (((List.sublist_append_left legs [leg]).filter _).map _).subperm
      rw [List.foldlM_append, ih hprefix, ExceptFold.ok_bind]
      have happend : ∀ side, leg.leg.side = side →
          sideAmounts side (legs ++ [leg]) = sideAmounts side legs ++ [leg.usdAmount] := by
        intro side hside
        simp [sideAmounts, List.filter_append, hside]
      have hskip : ∀ side, leg.leg.side ≠ side →
          sideAmounts side (legs ++ [leg]) = sideAmounts side legs := by
        intro side hside
        simp [sideAmounts, List.filter_append, hside]
      have hexact := h leg.leg.side
      rw [happend _ rfl] at hexact
      have hmul := usdAmount_ok (hexact.finite leg.usdAmount (by simp))
      have hadd := add_exact hexact
      rw [List.foldlM_cons]
      unfold PricedLeg.flow
      rw [hmul]
      simp only [ExceptFold.ok_bind]
      cases hside : leg.leg.side with
      | buy =>
          rw [hside] at hadd
          have hspent : (exactUsdFlow t legs).usdSpent.add defaultContext leg.usdAmount =
              .ok (exactUsdFlow t (legs ++ [leg])).usdSpent := by
            rw [exactUsdFlow, exactUsdFlow, happend _ hside]
            exact hadd
          have hreceived : (exactUsdFlow t legs).usdReceived =
              (exactUsdFlow t (legs ++ [leg])).usdReceived := by
            rw [exactUsdFlow, exactUsdFlow, hskip .sell (by rw [hside]; exact nofun)]
          simp only [hspent, ExceptFold.ok_bind, hreceived]
          simp only [exactUsdFlow, List.length_append]
          rfl
      | sell =>
          rw [hside] at hadd
          have hreceived : (exactUsdFlow t legs).usdReceived.add defaultContext leg.usdAmount =
              .ok (exactUsdFlow t (legs ++ [leg])).usdReceived := by
            rw [exactUsdFlow, exactUsdFlow, happend _ hside]
            exact hadd
          have hspent : (exactUsdFlow t legs).usdSpent =
              (exactUsdFlow t (legs ++ [leg])).usdSpent := by
            rw [exactUsdFlow, exactUsdFlow, hskip .buy (by rw [hside]; exact nofun)]
          simp only [hreceived, ExceptFold.ok_bind, hspent]
          simp only [exactUsdFlow, List.length_append]
          rfl

theorem usdFlow_token {leg : PricedLeg} {flow next : UsdFlow} (h : leg.flow flow = .ok next) :
    next.token = flow.token := by
  unfold PricedLeg.flow at h
  obtain ⟨value, -, h⟩ := ExceptFold.bind_eq_ok.mp h
  cases hside : leg.leg.side with
  | buy =>
      rw [hside] at h
      obtain ⟨spent, -, h⟩ := ExceptFold.bind_eq_ok.mp h
      cases h
      rfl
  | sell =>
      rw [hside] at h
      obtain ⟨received, -, h⟩ := ExceptFold.bind_eq_ok.mp h
      cases h
      rfl

/-- The valued flows are the same in every order of the legs. -/
theorem usdTotals_perm {legs legs' : List PricedLeg} (h : legs'.Perm legs)
    (hexact : ExactUsdFlows legs) : usdTotals legs' = usdTotals legs := by
  have hrows : ∀ {legs : List PricedLeg}, ExactUsdFlows legs → ∀ t,
      flowOfRows emptyUsdFlow (·.leg.token) PricedLeg.flow legs t =
        .ok (exactUsdFlow t (legs.filter fun leg => leg.leg.token = t)) :=
    fun hlegs t => usdLegs_foldlM_exact (hlegs t)
  have htotal : ∀ {legs : List PricedLeg}, ExactUsdFlows legs → ∃ flows,
      legs.foldlM (fun flows leg =>
        updateFlow (·.token) emptyUsdFlow leg.leg.token leg.flow flows) [] = .ok flows := by
    intro legs hlegs
    refine foldlM_updateFlow_total (fun _ => rfl) (fun _ _ _ => usdFlow_token)
      fun earlier later heq t => ⟨_, hrows (hlegs.subperm ?_) t⟩
    rw [heq]
    exact (List.sublist_append_left _ _).subperm
  have hexact' := hexact.subperm h.subperm
  obtain ⟨flows, hflows⟩ := htotal hexact
  obtain ⟨flows', hflows'⟩ := htotal hexact'
  have hsorted : sortFlows (·.token) flows' = sortFlows (·.token) flows := by
    refine Grouped.sorted_eq (grouped_of_foldlM (fun _ => rfl) (fun _ _ _ => usdFlow_token) hflows')
      (grouped_of_foldlM (fun _ => rfl) (fun _ _ _ => usdFlow_token) hflows)
      (fun t => exists_congr fun leg => and_congr h.mem_iff Iff.rfl) fun t => ?_
    rw [hrows hexact, hrows hexact', exactUsdFlow_perm (h.filter _)]
  have hstart : ∀ {legs : List PricedLeg} {flows : List UsdFlow},
      legs.foldlM (fun flows leg =>
        updateFlow (·.token) emptyUsdFlow leg.leg.token leg.flow flows) [] = .ok flows →
      legs.foldlM (fun flows leg => updateFlow (·.token)
        (fun token => (⟨token, .zero, .zero, 0⟩ : UsdFlow)) leg.leg.token leg.flow flows) [] =
          .ok flows := fun h => h
  unfold usdTotals
  rw [hstart hflows, hstart hflows']
  simp only [ExceptFold.ok_bind, hsorted]

/-! ## The cost basis -/

/-- Legs of a token with one timestamp are one leg, over and over. -/
def NoTies (legs : List PricedLeg) : Prop :=
  ∀ a ∈ legs, ∀ b ∈ legs, a.leg.token = b.leg.token → a.timestamp = b.timestamp → a = b

theorem legTokens_perm {legs legs' : List PricedLeg} (h : legs'.Perm legs) :
    legTokens legs' = legTokens legs :=
  KeySort.sort_dedup_perm textOrder (h.map _)

theorem legsOf_perm {legs legs' : List PricedLeg} (h : legs'.Perm legs) (hties : NoTies legs)
    (token : Text) : legsOf legs' token = legsOf legs token := by
  refine KeySort.sort_perm KeySort.order_le (fun a ha b hb heq => ?_) (h.filter _)
  obtain ⟨hmem, htoken⟩ := List.mem_filter.mp ha
  obtain ⟨hmem', htoken'⟩ := List.mem_filter.mp hb
  exact hties a (h.mem_iff.mp hmem) b (h.mem_iff.mp hmem')
    ((of_decide_eq_true htoken).trans (of_decide_eq_true htoken').symm) heq

theorem computeInWindowCostBasis_perm {legs legs' : List PricedLeg} (h : legs'.Perm legs)
    (hties : NoTies legs) : computeInWindowCostBasis legs' = computeInWindowCostBasis legs := by
  have hrecord : costBasisRecord legs' = costBasisRecord legs := by
    funext token
    rw [costBasisRecord, costBasisRecord, legsOf_perm h hties]
  rw [computeInWindowCostBasis, computeInWindowCostBasis, hrecord, legTokens_perm h]

/-! ## The result -/

/-- What makes the order of the rows unimportant. -/
structure OrderFree (readers : PnlReaders) (prices : PriceSource) (run : PnlRun) : Prop where
  flows : ExactFlows (usedRows readers run run.swaps)
  usdFlows : ∀ found, Answered readers prices run found →
    ExactUsdFlows (pricedLegs readers run found)
  ties : ∀ found, Answered readers prices run found → found.sourceStatus ≠ .unavailable →
    (pricedLegs readers run found).length = (usdLegs readers run).length →
      NoTies (pricedLegs readers run found)

theorem enrichedPreview_perm {preview : PnlPreview} {legs legs' : List UsdLeg}
    {priced priced' : List PricedLeg} (hlegs : legs'.Perm legs) (hpriced : priced'.Perm priced)
    {status : PriceStatus}
    (hties : status ≠ .unavailable → priced.length = legs.length → NoTies priced) :
    enrichedPreview preview legs' priced' status = enrichedPreview preview legs priced status := by
  unfold enrichedPreview
  rw [hlegs.length_eq, hpriced.length_eq]
  dsimp only
  split
  · next havailable =>
      simp only [Bool.and_eq_true, decide_eq_true_iff] at havailable
      obtain ⟨⟨hlength, -⟩, hstatus⟩ := havailable
      rw [computeInWindowCostBasis_perm hpriced (hties hstatus hlength)]
  · rfl

def sale : PnlSwap where
  tokenIn := some "JET".toList
  tokenOut := some "TON".toList
  amountIn := some "5".toList
  amountOut := some "1".toList
  timestamp := some "2024-01-02T00:00:00Z".toList
  txHash := some "bb".toList

def tradeRun (swaps : List PnlSwap) : PnlRun :=
  ⟨[⟨some "aa".toList, some "1".toList⟩, ⟨some "bb".toList, some "1".toList⟩], swaps⟩

/-- The sale an hour after the purchase. -/
def laterSale : PnlSwap := { sale with timestamp := some "2024-01-02T01:00:00Z".toList }

deriving instance DecidableEq for UsedRow, CostLedger

def tradeLeg (side : LegSide) : TonLeg := ⟨"JET".toList, side, .finite 1, some (.finite 5)⟩

def tradeRow (side : LegSide) : UsedRow :=
  ⟨(match side with | .buy => "aa" | .sell => "bb").toList, tradeLeg side, some (.finite 1)⟩

theorem exactSums_of_sublists {values : List Decimal}
    (h : ∀ value ∈ values, isFinite value = true)
    (hsums : ∀ part ∈ values.sublists,
      defaultContext.round (part.map exactValue).sum = .ok (part.map exactValue).sum) :
    ExactSums values := by
  refine ⟨h, fun part hpart => ?_⟩
  obtain ⟨l, hperm, hsub⟩ := hpart
  rw [← (hperm.map exactValue).sum_eq]
  exact hsums l (List.mem_sublists.mpr hsub)

def tradePrices : HistoricalPrices :=
  ⟨[⟨some "2024-01-02T01:00:00Z".toList, some "2".toList⟩], .real, []⟩

def tradeSecond : ℤ := 63839750400000000

def tradePriced (side : LegSide) (timestamp : ℤ) : PricedLeg :=
  ⟨tradeLeg side, timestamp, some (.finite 1), .finite 2⟩

/-- The rows of the trade, and its priced legs: of two timestamps, and of one
in either order. -/
theorem trade_legs :
    usedRows sampleReaders (tradeRun [purchase, laterSale]) [purchase, laterSale] =
        [tradeRow .buy, tradeRow .sell] ∧
      pricedLegs sampleReaders (tradeRun [purchase, laterSale]) tradePrices =
        [tradePriced .buy tradeSecond, tradePriced .sell (tradeSecond + 3600000000)] ∧
      pricedLegs sampleReaders (tradeRun [purchase, sale]) tradePrices =
        [tradePriced .buy tradeSecond, tradePriced .sell tradeSecond] ∧
      pricedLegs sampleReaders (tradeRun [sale, purchase]) tradePrices =
        [tradePriced .sell tradeSecond, tradePriced .buy tradeSecond] ∧
      feeByTxHash sampleReaders (tradeRun []) =
        [("aa".toList, .finite 1), ("bb".toList, .finite 1)] ∧
      ∀ side ∈ [LegSide.buy, .sell], (tradePriced side 0).usdAmount = .finite 2 := by
  decide +kernel

theorem trade_usdAmount (side : LegSide) (timestamp : ℤ) :
    (tradePriced side timestamp).usdAmount = .finite 2 :=
  trade_legs.2.2.2.2.2 side (by cases side <;> decide)

/-- The columns of the trade. -/
def tradeColumns : List (List Decimal) :=
  [[], [.finite 1], [.finite 5], [.finite 1, .finite 1], [.finite 2]]

theorem trade_sums : ∀ values ∈ tradeColumns, (∀ value ∈ values, isFinite value = true) ∧
    ∀ part ∈ values.sublists,
      defaultContext.round (part.map exactValue).sum = .ok (part.map exactValue).sum := by
  decide +kernel

theorem trade_exactSums {values : List Decimal} (h : values ∈ tradeColumns) : ExactSums values :=
  exactSums_of_sublists (trade_sums values h).1 (trade_sums values h).2

theorem samplePrices_answered {run : PnlRun} {found : HistoricalPrices}
    (h : Answered sampleReaders samplePrices run found) : found = tradePrices := by
  obtain ⟨first, last, -, -, hfound⟩ := h
  exact (Except.ok.inj hfound).symm

/-- A property of the rows of each token, where there is one token. -/
theorem forall_token {α : Type} {rows : List α} {token : α → Text} {P : List α → Prop}
    (only : Text) (htoken : ∀ row ∈ rows, token row = only) (hall : P rows) (hnil : P [])
    (t : Text) : P (rows.filter fun row => token row = t) := by
  by_cases h : only = t
  · rwa [List.filter_eq_self.mpr fun row hrow => decide_eq_true ((htoken row hrow).trans h)]
  · rwa [List.filter_eq_nil_iff.mpr fun row hrow heq =>
      h ((htoken row hrow).symm.trans (of_decide_eq_true heq))]

theorem exactSums_nil : ExactSums [] := trade_exactSums List.mem_cons_self

/-- The trade of two timestamps. -/
theorem trade_orderFree :
    OrderFree sampleReaders samplePrices (tradeRun [purchase, laterSale]) where
  flows := by
    show ExactFlows (usedRows sampleReaders (tradeRun [purchase, laterSale]) [purchase, laterSale])
    rw [trade_legs.1]
    refine forall_token (P := ExactRows) "JET".toList (by decide) ?_
      ⟨exactSums_nil, exactSums_nil, exactSums_nil, exactSums_nil, exactSums_nil⟩
    constructor <;> exact trade_exactSums (by simp [tradeColumns, tradeRow, tradeLeg,
      TonLeg.spent, TonLeg.bought, TonLeg.received, TonLeg.sold])
  usdFlows := by
    intro found hfound
    rw [samplePrices_answered hfound, trade_legs.2.1]
    intro t side
    refine forall_token (P := fun legs => ExactSums (sideAmounts side legs)) "JET".toList
      (by decide) ?_ exactSums_nil t
    cases side
    · show ExactSums [(tradePriced .buy tradeSecond).usdAmount]
      rw [trade_usdAmount]
      exact trade_exactSums (by simp [tradeColumns])
    · show ExactSums [(tradePriced .sell (tradeSecond + 3600000000)).usdAmount]
      rw [trade_usdAmount]
      exact trade_exactSums (by simp [tradeColumns])
  ties := by
    intro found hfound _ _
    rw [samplePrices_answered hfound, trade_legs.2.1]
    unfold NoTies
    simp [tradePriced, tradeLeg]

theorem trade_oneFee (swaps : List PnlSwap) : OneFee sampleReaders (tradeRun swaps) := by
  have hentries : feeByTxHash sampleReaders (tradeRun swaps) =
      [("aa".toList, .finite 1), ("bb".toList, .finite 1)] := trade_legs.2.2.2.2.1
  unfold OneFee
  rw [hentries]
  simp

theorem trade_rows (first second : PnlSwap) :
    SameRows (tradeRun [first, second]) (tradeRun [second, first]) :=
  ⟨List.Perm.refl _, List.Perm.swap _ _ _⟩

/-- Legs of one token in the order of their timestamps. -/
theorem legsOf_ordered {legs : List PricedLeg} {token : Text}
    (htoken : ∀ leg ∈ legs, leg.leg.token = token)
    (horder : legs.Pairwise fun a b => a.timestamp ≤ b.timestamp) : legsOf legs token = legs := by
  unfold legsOf
  rw [List.filter_eq_self.mpr fun leg hleg => decide_eq_true (htoken leg hleg)]
  exact List.mergeSort_of_pairwise (horder.imp fun h => decide_eq_true h)

theorem legsOf_trade (side side' : LegSide) :
    legsOf [tradePriced side tradeSecond, tradePriced side' tradeSecond] "JET".toList =
      [tradePriced side tradeSecond, tradePriced side' tradeSecond] :=
  legsOf_ordered (by simp [tradePriced, tradeLeg]) (by simp [tradePriced])

/-- The trade of one timestamp, as it is previewed, priced and summed. -/
theorem tied_evaluated :
    (usdLegs sampleReaders (tradeRun [purchase, sale]) ≠ [] ∧
      (∀ leg ∈ usdLegs sampleReaders (tradeRun [purchase, sale]), leg.feeTon.isSome = true ∧
        (leg.priced (pricePoints sampleReaders tradePrices.points)).isSome = true) ∧
      ((usdLegs sampleReaders (tradeRun [purchase, sale])).filterMap (·.timestamp)).min? =
        some tradeSecond ∧
      ((usdLegs sampleReaders (tradeRun [purchase, sale])).filterMap (·.timestamp)).max? =
        some tradeSecond) ∧
    ((deriveRunPnlPreview sampleReaders (tradeRun [purchase, sale])).isOk = true ∧
      (usdTotals (pricedLegs sampleReaders (tradeRun [purchase, sale]) tradePrices)).isOk = true) ∧
    (legTokens [tradePriced .buy tradeSecond, tradePriced .sell tradeSecond] = ["JET".toList] ∧
      (costBasisLegs .empty
        [tradePriced .buy tradeSecond, tradePriced .sell tradeSecond]).toOption =
          some (⟨.finite 0, .finite 0, .finite 0, .finite 4, .finite (-4), 1⟩, none) ∧
      (sumDecimals [.finite (-4)]).toOption = some (.finite (-4))) ∧
    (Decimal.zero.add defaultContext (.finite 5)).toOption = some (.finite 5) ∧
      ((Decimal.finite 5).sub defaultContext (.finite 5)).toOption = some (.finite 0) := by
  decide +kernel

/-- In the order of the trade its cost basis is computed. -/
theorem tied_costBasis : ∃ basis,
    computeInWindowCostBasis [tradePriced .buy tradeSecond, tradePriced .sell tradeSecond] =
      .ok basis := by
  obtain ⟨-, -, ⟨htokens, hlegs, hsum⟩, -⟩ := tied_evaluated
  have hrecord : costBasisRecord [tradePriced .buy tradeSecond, tradePriced .sell tradeSecond]
      "JET".toList = .ok ⟨"JET".toList, none, 1,
        some ⟨.finite 0, .finite 0, .finite 0, .finite 4, .finite (-4), 1⟩⟩ := by
    rw [costBasisRecord, legsOf_trade, ExceptFold.eq_ok_of_toOption hlegs]
    rfl
  unfold computeInWindowCostBasis
  rw [htokens, ExceptFold.mapM_eq_ok.mpr (.cons hrecord .nil), ExceptFold.ok_bind]
  show ∃ basis, (sumDecimals [.finite (-4)] >>= _) = .ok basis
  rw [ExceptFold.eq_ok_of_toOption hsum]
  exact ⟨_, rfl⟩

theorem tied_unlocked :
    Unlocked sampleReaders (tradeRun [purchase, sale]) tradePrices where
  transactions := List.cons_ne_nil _ _
  legs := tied_evaluated.1.1
  fees leg hleg := (tied_evaluated.1.2.1 leg hleg).1
  status := nofun
  matched leg hleg := (tied_evaluated.1.2.1 leg hleg).2
  settles := by
    intro token
    rw [trade_legs.2.2.1]
    by_cases htoken : token = "JET".toList
    · rw [htoken, legsOf_trade]
      obtain ⟨-, -, -, bought, sold⟩ := tied_evaluated
      exact .buy rfl ⟨rfl, by decide⟩ (ExceptFold.eq_ok_of_toOption bought)
        (.sell rfl ⟨rfl, by decide⟩ (by decide) (ExceptFold.eq_ok_of_toOption sold) (.nil _))
    · rw [legsOf_eq_nil]
      · exact .nil _
      · rw [mem_legTokens]
        simpa [tradePriced, tradeLeg, eq_comm] using htoken

/-- A run whose legs are priced has a result. -/
theorem exists_result {preview : PnlPreview} {found : HistoricalPrices} {totals : UsdTotals}
    {enriched : PnlPreview × Option CostBasis}
    (hpreview : deriveRunPnlPreview readers run = .ok preview)
    (hfound : Answered readers prices run found)
    (htotals : usdTotals (pricedLegs readers run found) = .ok totals)
    (henriched : enrichedPreview preview (usdLegs readers run) (pricedLegs readers run found)
      found.sourceStatus = .ok enriched) :
    ∃ result, deriveRunPnlPreviewWithHistorical readers prices run = .ok result := by
  obtain ⟨first, last, hmin, hmax, hprices⟩ := hfound
  have hne : usdLegs readers run ≠ [] := by
    intro hnil
    rw [hnil] at hmin
    cases hmin
  unfold deriveRunPnlPreviewWithHistorical
  unfold pricedLegs at htotals henriched
  rw [hpreview]
  dsimp only [liftSignal, Except.mapError, ExceptFold.ok_bind]
  rw [hmin, hmax]
  generalize usdLegs readers run = legs at hne htotals henriched ⊢
  cases legs with
  | nil => exact absurd rfl hne
  | cons leg legs =>
      dsimp only
      rw [hprices]
      dsimp only
      rw [htotals, henriched]
      exact ⟨_, rfl⟩

/-- In the order of the trade its result is labelled. -/
theorem tied_labelled : ∃ result, deriveRunPnlPreviewWithHistorical sampleReaders samplePrices
    (tradeRun [purchase, sale]) = .ok result ∧ result.preview.isRealPnl = true := by
  obtain ⟨⟨-, -, hfirst, hlast⟩, ⟨hpreview, htotals⟩, -⟩ := tied_evaluated
  obtain ⟨preview, hpreview⟩ := ExceptFold.exists_of_isOk hpreview
  obtain ⟨totals, htotals⟩ := ExceptFold.exists_of_isOk htotals
  obtain ⟨basis, hbasis⟩ := tied_costBasis
  rw [← trade_legs.2.2.1] at hbasis
  have henriched : ∃ enriched, enrichedPreview preview
      (usdLegs sampleReaders (tradeRun [purchase, sale]))
      (pricedLegs sampleReaders (tradeRun [purchase, sale]) tradePrices) .real = .ok enriched := by
    unfold enrichedPreview
    dsimp only
    split
    · rw [hbasis]
      exact ⟨_, rfl⟩
    · exact ⟨_, rfl⟩
  obtain ⟨enriched, henriched⟩ := henriched
  have hanswered : Answered sampleReaders samplePrices (tradeRun [purchase, sale]) tradePrices :=
    ⟨tradeSecond, tradeSecond, hfirst, hlast, rfl⟩
  obtain ⟨result, hresult⟩ := exists_result hpreview hanswered htotals henriched
  exact ⟨result, hresult, (deriveRunPnlPreviewWithHistorical_ok hresult).2.mpr
    ⟨tradePrices, hanswered, tied_unlocked⟩⟩

end TonTracker
