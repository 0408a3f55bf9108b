/-
# `Pnl.Flows` — flows by token

The loops over the rows keep one flow for each token.  Whatever a row does
to its flow, the flows are `Grouped`: each token of the rows once, with the
flow its own rows make of an empty one, so their sorted list does not depend
on the order in which the tokens come.
-/
import TonTracker.Services.PnlPreview
import TonTracker.Lib.ExceptFold
import TonTracker.Lib.Fibers
import TonTracker.Lib.KeySort
import Mathlib.Data.List.Induction
import Mathlib.Data.List.Nodup

namespace TonTracker

open ContextDecimal (Decimal Signal)

variable {σ F ρ : Type} {key : F → Text} {empty : Text → F} {token : ρ → Text}
  {change : ρ → F → Except σ F}

/-! ## The order of texts -/

theorem textOrder : KeySort.Order fun a b : Text => decide (a ≤ b) := KeySort.order_le

/-- Sorting flows of different tokens forgets the order they come in. -/
theorem sortFlows_perm {flows other : List F} (hnodup : (flows.map key).Nodup)
    (h : flows.Perm other) : sortFlows key flows = sortFlows key other :=
  KeySort.sort_perm_of_nodup textOrder hnodup h

/-! ## Grouped flows -/

/-- What the rows of a token make of its empty flow. -/
def flowOfRows (empty : Text → F) (token : ρ → Text) (change : ρ → F → Except σ F)
    (rows : List ρ) (t : Text) : Except σ F :=
  (rows.filter fun row => token row = t).foldlM (fun flow row => change row flow) (empty t)

/-- One flow for each token, made by its own rows. -/
structure Grouped (key : F → Text) (empty : Text → F) (token : ρ → Text)
    (change : ρ → F → Except σ F) (rows : List ρ) (flows : List F) : Prop where
  nodup : (flows.map key).Nodup
  keys : ∀ t, t ∈ flows.map key ↔ ∃ row ∈ rows, token row = t
  flow : ∀ flow ∈ flows, flowOfRows empty token change rows (key flow) = .ok flow

theorem grouped_nil : Grouped key empty token change [] [] where
  nodup := List.nodup_nil
  keys := fun _ => iff_of_false List.not_mem_nil fun ⟨_, h, _⟩ => nomatch h
  flow := fun _ h => nomatch h

theorem flowOfRows_append_ne {rows : List ρ} {row : ρ} {t : Text} (h : token row ≠ t) :
    flowOfRows empty token change (rows ++ [row]) t = flowOfRows empty token change rows t := by
  unfold flowOfRows
  rw [List.filter_append, List.filter_cons_of_neg (by simpa using h), List.filter_nil,
    List.append_nil]

theorem flowOfRows_append {rows : List ρ} {row : ρ} {t : Text} (h : token row = t) :
    flowOfRows empty token change (rows ++ [row]) t =
      flowOfRows empty token change rows t >>= change row := by
  unfold flowOfRows
  rw [List.filter_append, List.filter_cons_of_pos (by simpa using h), List.filter_nil,
    List.foldlM_append]
  simp

theorem flowOfRows_none {rows : List ρ} {t : Text} (h : ¬ ∃ row ∈ rows, token row = t) :
    flowOfRows empty token change rows t = .ok (empty t) := by
  unfold flowOfRows
  rw [List.filter_eq_nil_iff.mpr fun row hrow heq => h ⟨row, hrow, of_decide_eq_true heq⟩]
  rfl

/-- The entry of the token is changed, or made. -/
theorem updateFlow_ok {t : Text} {f : F → Except σ F} {flows flows' : List F}
    (h : updateFlow key empty t f flows = .ok flows') :
    (t ∉ flows.map key ∧ ∃ flow, f (empty t) = .ok flow ∧ flows' = flows ++ [flow]) ∨
      ∃ before flow next after, flows = before ++ flow :: after ∧ key flow = t ∧
        f flow = .ok next ∧ flows' = before ++ next :: after := by
  induction flows generalizing flows' with
  | nil =>
      obtain ⟨flow, hflow, h⟩ := ExceptFold.bind_eq_ok.mp h
      cases h
      exact .inl ⟨List.not_mem_nil, flow, hflow, rfl⟩
  | cons first flows ih =>
      unfold updateFlow at h
      split at h
      · next hkey =>
          obtain ⟨next, hnext, h⟩ := ExceptFold.bind_eq_ok.mp h
          cases h
          exact .inr ⟨[], first, next, flows, rfl, hkey, hnext, rfl⟩
      · next hkey =>
          obtain ⟨rest, hrest, h⟩ := ExceptFold.bind_eq_ok.mp h
          cases h
          obtain ⟨hmem, flow, hflow, rfl⟩ | ⟨before, flow, next, after, rfl, hflow, hnext, rfl⟩ :=
            ih hrest
          · refine .inl ⟨?_, flow, hflow, rfl⟩
            rw [List.map_cons, List.mem_cons, not_or]
            exact ⟨fun heq => hkey heq.symm, hmem⟩
          · exact .inr ⟨first :: before, flow, next, after, rfl, hflow, hnext, rfl⟩

/-- A row keeps the flows grouped. -/
theorem Grouped.update (hempty : ∀ t, key (empty t) = t)
    (hchange : ∀ row flow next, change row flow = .ok next → key next = key flow)
    {rows : List ρ} {flows flows' : List F} {row : ρ}
    (h : Grouped key empty token change rows flows)
    (hupdate : updateFlow key empty (token row) (change row) flows = .ok flows') :
    Grouped key empty token change (rows ++ [row]) flows' := by
  have hrows : ∀ t, (∃ r ∈ rows ++ [row], token r = t) ↔
      (∃ r ∈ rows, token r = t) ∨ token row = t := by
    intro t
    simp only [List.mem_append, List.mem_singleton, or_and_right, exists_or, exists_eq_left]
  obtain ⟨hnew, flow, hflow, rfl⟩ | ⟨before, flow, next, after, rfl, hkey, hnext, rfl⟩ :=
    updateFlow_ok hupdate
  · have hkey : key flow = token row := (hchange _ _ _ hflow).trans (hempty _)
    have hnone : ¬ ∃ r ∈ rows, token r = token row := fun hex => hnew ((h.keys _).mpr hex)
    constructor
    · rw [List.map_append, List.map_singleton, hkey, ← List.concat_eq_append]
      exact h.nodup.concat hnew
    · intro t
      rw [hrows, List.map_append, List.mem_append, h.keys, List.map_singleton,
        List.mem_singleton, hkey, eq_comm (a := t)]
    · intro other hother
      obtain hother | hother := List.mem_append.mp hother
      · have hne : token row ≠ key other := fun heq =>
          hnew (heq ▸ List.mem_map_of_mem hother)
        rw [flowOfRows_append_ne hne]
        exact h.flow other hother
      · obtain rfl := List.mem_singleton.mp hother
        rw [hkey, flowOfRows_append rfl, flowOfRows_none hnone]
        exact hflow
  · have hnextKey : key next = key flow := hchange _ _ _ hnext
    have hkeys : (before ++ next :: after).map key = (before ++ flow :: after).map key := by
      rw [List.map_append, List.map_append, List.map_cons, List.map_cons, hnextKey]
    constructor
    · rw [hkeys]
      exact h.nodup
    · intro t
      rw [hrows, hkeys, h.keys]
      refine ⟨.inl, fun hor => hor.elim id fun heq => (h.keys t).mp ?_⟩
      rw [← heq, ← hkey]
      exact List.mem_map_of_mem (by simp)
    · intro other hother
      by_cases hsame : key other = key flow
      · have : other = next := by
          refine List.inj_on_of_nodup_map (f := key) (hkeys ▸ h.nodup) hother (by simp) ?_
          rw [hsame, hnextKey]
        subst this
        rw [hsame, flowOfRows_append hkey.symm, h.flow flow (by simp)]
        exact hnext
      · have hmem : other ∈ before ++ flow :: after := by
          simp only [List.mem_append, List.mem_cons] at hother ⊢
          obtain hother | rfl | hother := hother
          · exact .inl hother
          · exact absurd hnextKey hsame
          · exact .inr (.inr hother)
        rw [flowOfRows_append_ne fun heq => hsame (heq.symm.trans hkey.symm)]
        exact h.flow other hmem

/-- The loop over the rows. -/
theorem grouped_of_foldlM (hempty : ∀ t, key (empty t) = t)
    (hchange : ∀ row flow next, change row flow = .ok next → key next = key flow)
    {rows : List ρ} {flows : List F}
    (h : rows.foldlM (fun flows row => updateFlow key empty (token row) (change row) flows) [] =
      .ok flows) : Grouped key empty token change rows flows :=
  ExceptFold.foldlM_inv (Grouped key empty token change)
    (fun _ _ _ _ hnext hgrouped => Grouped.update hempty hchange hgrouped hnext) h grouped_nil

theorem updateFlow_total {t : Text} {f : F → Except σ F} {flows : List F}
    (hold : ∀ flow ∈ flows, key flow = t → ∃ next, f flow = .ok next)
    (hnew : t ∉ flows.map key → ∃ flow, f (empty t) = .ok flow) :
    ∃ flows', updateFlow key empty t f flows = .ok flows' := by
  induction flows with
  | nil =>
      obtain ⟨flow, hflow⟩ := hnew List.not_mem_nil
      exact ⟨[flow], by rw [updateFlow, hflow]; rfl⟩
  | cons first flows ih =>
      unfold updateFlow
      split
      · next hkey =>
          obtain ⟨next, hnext⟩ := hold first List.mem_cons_self hkey
          exact ⟨next :: flows, by rw [hnext]; rfl⟩
      · next hkey =>
          obtain ⟨rest, hrest⟩ := ih (fun flow hflow => hold flow (List.mem_cons_of_mem _ hflow))
            fun hmem => hnew fun hcons => (List.mem_cons.mp hcons).elim (fun heq => hkey heq.symm) hmem
          exact ⟨first :: rest, by rw [hrest]; rfl⟩

/-- The loop does not raise where no token's rows do. -/
theorem foldlM_updateFlow_total (hempty : ∀ t, key (empty t) = t)
    (hchange : ∀ row flow next, change row flow = .ok next → key next = key flow)
    {rows : List ρ}
    (h : ∀ earlier later, rows = earlier ++ later →
      ∀ t, ∃ flow, flowOfRows empty token change earlier t = .ok flow) :
    ∃ flows, rows.foldlM
      (fun flows row => updateFlow key empty (token row) (change row) flows) [] = .ok flows := by
  induction rows using List.reverseRecOn with
  | nil => exact ⟨[], rfl⟩
  | append_singleton rows row ih =>
      obtain ⟨flows, hflows⟩ := ih fun earlier later heq =>
        h earlier (later ++ [row]) (by rw [heq, List.append_assoc])
      have hgrouped := grouped_of_foldlM hempty hchange hflows
      obtain ⟨flow, hflow⟩ := h (rows ++ [row]) [] (List.append_nil _).symm (token row)
      rw [flowOfRows_append rfl] at hflow
      rw [List.foldlM_append, hflows]
      obtain ⟨flows', hflows'⟩ : ∃ flows', updateFlow key empty (token row) (change row) flows =
          .ok flows' := by
        refine updateFlow_total (fun old hold hkey => ?_) fun hnew => ?_
        · have hrows := hgrouped.flow old hold
          rw [hkey] at hrows
          rw [hrows] at hflow
          exact ⟨flow, hflow⟩
        · rw [flowOfRows_none fun hex => hnew ((hgrouped.keys _).mpr hex)] at hflow
          exact ⟨flow, hflow⟩
      exact ⟨flows', by rw [ExceptFold.ok_bind, List.foldlM_cons, hflows']; rfl⟩

/-- Two lists of rows whose flows agree have the same sorted flows. -/
theorem Grouped.sorted_eq {rows rows' : List ρ} {flows flows' : List F}
    (h : Grouped key empty token change rows flows)
    (h' : Grouped key empty token change rows' flows')
    (htokens : ∀ t, (∃ row ∈ rows, token row = t) ↔ ∃ row ∈ rows', token row = t)
    (hflows : ∀ t, flowOfRows empty token change rows t = flowOfRows empty token change rows' t) :
    sortFlows key flows = sortFlows key flows' := by
  have hsub : ∀ {rows rows' : List ρ} {flows flows' : List F},
      Grouped key empty token change rows flows → Grouped key empty token change rows' flows' →
      (∀ t, (∃ row ∈ rows, token row = t) → ∃ row ∈ rows', token row = t) →
      (∀ t, flowOfRows empty token change rows t = flowOfRows empty token change rows' t) →
      flows ⊆ flows' := by
    intro rows rows' flows flows' h h' htokens hflows flow hflow
    obtain ⟨other, hother, hkey⟩ := List.mem_map.mp
      ((h'.keys _).mpr (htokens _ ((h.keys _).mp (List.mem_map_of_mem hflow))))
    have heq := hflows (key flow)
    rw [h.flow flow hflow, ← hkey, h'.flow other hother] at heq
    rwa [Except.ok.inj heq]
  have hnodup : ∀ {rows : List ρ} {flows : List F}, Grouped key empty token change rows flows →
      flows.Nodup := fun h => List.Nodup.of_map key h.nodup
  refine sortFlows_perm h.nodup ((List.perm_ext_iff_of_nodup (hnodup h) (hnodup h')).mpr ?_)
  exact fun flow => ⟨fun hmem => hsub h h' (fun t => (htokens t).mp) hflows hmem,
    fun hmem => hsub h' h (fun t => (htokens t).mpr) (fun t => (hflows t).symm) hmem⟩

variable {readers : PnlReaders} {run : PnlRun}

/-! ## The used rows -/

/-- A row with a TON side, its transaction and the fee it is charged. -/
structure UsedRow where
  txHash : Text
  leg : TonLeg
  fee : Option Decimal

/-- The rows both loops use. -/
def usedRows (readers : PnlReaders) (run : PnlRun) (swaps : List PnlSwap) : List UsedRow :=
  swaps.filterMap fun swap => (tonLeg readers swap).map fun leg =>
    ⟨swap.txHash.getD [], leg, feeOf readers run swap⟩

/-- `fee_by_tx_hash.get(…)`. -/
def recordedFee (readers : PnlReaders) (run : PnlRun) (txHash : Text) : Option Decimal :=
  ((feeByTxHash readers run).reverse.find? fun entry => entry.1 = txHash).map (·.2)

theorem fee_of_usedRow {swaps : List PnlSwap} {row : UsedRow}
    (h : row ∈ usedRows readers run swaps) : row.fee = recordedFee readers run row.txHash := by
  obtain ⟨swap, -, h⟩ := List.mem_filterMap.mp h
  obtain ⟨leg, -, rfl⟩ := Option.map_eq_some_iff.mp h
  rfl

theorem usedRows_cons_none {swap : PnlSwap} {swaps : List PnlSwap}
    (h : tonLeg readers swap = none) :
    usedRows readers run (swap :: swaps) = usedRows readers run swaps :=
  List.filterMap_cons_none (by rw [h]; rfl)

theorem usedRows_cons_some {swap : PnlSwap} {swaps : List PnlSwap} {leg : TonLeg}
    (h : tonLeg readers swap = some leg) :
    usedRows readers run (swap :: swaps) =
      ⟨swap.txHash.getD [], leg, feeOf readers run swap⟩ :: usedRows readers run swaps :=
  List.filterMap_cons_some (by rw [h]; rfl)

/-- The flow of a row in the base estimate. -/
abbrev usedRowFlow (row : UsedRow) : TokenFlow → Except Signal TokenFlow := row.leg.flow row.fee

/-- The flows of the base estimate are those of the used rows. -/
theorem previewRows_flows {swaps : List PnlSwap} {s s' : PreviewLoop}
    (h : swaps.foldlM (previewRow readers run) s = .ok s') :
    (usedRows readers run swaps).foldlM (fun flows row =>
      updateFlow (·.token) emptyFlow row.leg.token (usedRowFlow row) flows) s.flows =
        .ok s'.flows := by
  induction swaps generalizing s with
  | nil =>
      cases h
      rfl
  | cons swap swaps ih =>
      rw [List.foldlM_cons] at h
      obtain ⟨next, hnext, h⟩ := ExceptFold.bind_eq_ok.mp h
      have ih := ih h
      unfold previewRow at hnext
      cases hleg : tonLeg readers swap with
      | none =>
          rw [hleg] at hnext
          cases hnext
          rw [usedRows_cons_none hleg]
          exact ih
      | some leg =>
          rw [hleg] at hnext
          obtain ⟨flows, hflows, hnext⟩ := ExceptFold.bind_eq_ok.mp hnext
          cases hnext
          rw [usedRows_cons_some hleg, List.foldlM_cons, hflows]
          exact ih

/-! ## Columns -/

namespace TonLeg

def spent (leg : TonLeg) : Option Decimal := if leg.side = .buy then some leg.tonAmount else none

def received (leg : TonLeg) : Option Decimal := if leg.side = .sell then some leg.tonAmount else none

def bought (leg : TonLeg) : Option Decimal := if leg.side = .buy then leg.tokenQty else none

def sold (leg : TonLeg) : Option Decimal := if leg.side = .sell then leg.tokenQty else none

end TonLeg

/-- A row adds to each amount of its flow. -/
structure FlowAfter (rows : List UsedRow) (flow next : TokenFlow) : Prop where
  token : next.token = flow.token
  buys : next.buySwapCount = flow.buySwapCount + rows.countP fun row => row.leg.side = .buy
  sells : next.sellSwapCount = flow.sellSwapCount + rows.countP fun row => row.leg.side = .sell
  spent : (rows.map (·.leg.spent)).foldlM addOptional flow.tonSpent = .ok next.tonSpent
  bought : (rows.map (·.leg.bought)).foldlM addOptional flow.tokenBoughtQty =
    .ok next.tokenBoughtQty
  received : (rows.map (·.leg.received)).foldlM addOptional flow.tonReceived = .ok next.tonReceived
  sold : (rows.map (·.leg.sold)).foldlM addOptional flow.tokenSoldQty = .ok next.tokenSoldQty
  fees : (rows.map (·.fee)).foldlM addOptional flow.feeTon = .ok next.feeTon

theorem flow_columns (leg : TonLeg) (fee : Option Decimal) (flow : TokenFlow) :
    leg.flow fee flow = (do
      let spent ← addOptional flow.tonSpent leg.spent
      let bought ← addOptional flow.tokenBoughtQty leg.bought
      let received ← addOptional flow.tonReceived leg.received
      let sold ← addOptional flow.tokenSoldQty leg.sold
      let fees ← addOptional flow.feeTon fee
      return ⟨flow.token, flow.buySwapCount + (if leg.side = .buy then 1 else 0),
        flow.sellSwapCount + (if leg.side = .sell then 1 else 0), bought, sold, spent, received,
        fees⟩) := by
  obtain ⟨token, side, amount, qty⟩ := leg
  cases side with
  | buy => rfl
  | sell => rfl

theorem usedRowFlow_iff {row : UsedRow} {flow next : TokenFlow} :
    usedRowFlow row flow = .ok next ↔ FlowAfter [row] flow next := by
  have single : ∀ {x : Option Decimal} {a b : Decimal},
      [x].foldlM addOptional a = .ok b ↔ addOptional a x = .ok b := by
    intro x a b
    rw [List.foldlM_cons]
    cases addOptional a x <;> rfl
  rw [usedRowFlow, flow_columns]
  constructor
  · intro h
    obtain ⟨spent, hspent, h⟩ := ExceptFold.bind_eq_ok.mp h
    obtain ⟨bought, hbought, h⟩ := ExceptFold.bind_eq_ok.mp h
    obtain ⟨received, hreceived, h⟩ := ExceptFold.bind_eq_ok.mp h
    obtain ⟨sold, hsold, h⟩ := ExceptFold.bind_eq_ok.mp h
    obtain ⟨fees, hfees, h⟩ := ExceptFold.bind_eq_ok.mp h
    cases h
    refine ⟨rfl, ?_, ?_, single.mpr hspent, single.mpr hbought, single.mpr hreceived,
      single.mpr hsold, single.mpr hfees⟩ <;> simp [List.countP_cons]
  · rintro ⟨htoken, hbuys, hsells, hspent, hbought, hreceived, hsold, hfees⟩
    rw [single.mp hspent, ExceptFold.ok_bind, single.mp hbought, ExceptFold.ok_bind,
      single.mp hreceived, ExceptFold.ok_bind, single.mp hsold, ExceptFold.ok_bind,
      single.mp hfees, ExceptFold.ok_bind]
    simp only [List.countP_cons, List.countP_nil, zero_add, decide_eq_true_iff] at hbuys hsells
    rw [← htoken, ← hbuys, ← hsells]
    rfl

/-- A column in two steps. -/
theorem foldlM_addOptional_cons {x : Option Decimal} {xs : List (Option Decimal)} {a b : Decimal} :
    (x :: xs).foldlM addOptional a = .ok b ↔
      ∃ c, [x].foldlM addOptional a = .ok c ∧ xs.foldlM addOptional c = .ok b := by
  rw [← List.singleton_append, List.foldlM_append]
  exact ExceptFold.bind_eq_ok

theorem flowAfter_cons {row : UsedRow} {rows : List UsedRow} {flow last : TokenFlow} :
    FlowAfter (row :: rows) flow last ↔
      ∃ next, FlowAfter [row] flow next ∧ FlowAfter rows next last := by
  have hcount : ∀ p : UsedRow → Bool, (row :: rows).countP p = [row].countP p + rows.countP p :=
    fun p => by rw [← List.singleton_append, List.countP_append]
  constructor
  · intro h
    obtain ⟨spent, hspent, hspent'⟩ := foldlM_addOptional_cons.mp h.spent
    obtain ⟨bought, hbought, hbought'⟩ := foldlM_addOptional_cons.mp h.bought
    obtain ⟨received, hreceived, hreceived'⟩ := foldlM_addOptional_cons.mp h.received
    obtain ⟨sold, hsold, hsold'⟩ := foldlM_addOptional_cons.mp h.sold
    obtain ⟨fees, hfees, hfees'⟩ := foldlM_addOptional_cons.mp h.fees
    refine ⟨⟨flow.token, flow.buySwapCount + [row].countP fun row => row.leg.side = .buy,
      flow.sellSwapCount + [row].countP fun row => row.leg.side = .sell, bought, sold, spent,
      received, fees⟩, ⟨rfl, rfl, rfl, hspent, hbought, hreceived, hsold, hfees⟩,
      h.token, ?_, ?_, hspent', hbought', hreceived', hsold', hfees'⟩
    · rw [h.buys, hcount, add_assoc]
    · rw [h.sells, hcount, add_assoc]
  · rintro ⟨next, hfirst, hrest⟩
    constructor
    · exact hrest.token.trans hfirst.token
    · rw [hrest.buys, hfirst.buys, hcount, add_assoc]
    · rw [hrest.sells, hfirst.sells, hcount, add_assoc]
    · exact foldlM_addOptional_cons.mpr ⟨_, hfirst.spent, hrest.spent⟩
    · exact foldlM_addOptional_cons.mpr ⟨_, hfirst.bought, hrest.bought⟩
    · exact foldlM_addOptional_cons.mpr ⟨_, hfirst.received, hrest.received⟩
    · exact foldlM_addOptional_cons.mpr ⟨_, hfirst.sold, hrest.sold⟩
    · exact foldlM_addOptional_cons.mpr ⟨_, hfirst.fees, hrest.fees⟩

/-- The rows of a flow, column by column. -/
theorem usedRowsFlow_iff {rows : List UsedRow} {flow last : TokenFlow} :
    rows.foldlM (fun flow row => usedRowFlow row flow) flow = .ok last ↔
      FlowAfter rows flow last := by
  induction rows generalizing flow with
  | nil =>
      constructor
      · intro h
        cases h
        exact ⟨rfl, rfl, rfl, rfl, rfl, rfl, rfl, rfl⟩
      · rintro ⟨htoken, hbuys, hsells, hspent, hbought, hreceived, hsold, hfees⟩
        cases flow
        cases last
        cases hspent
        cases hbought
        cases hreceived
        cases hsold
        cases hfees
        cases htoken
        cases hbuys
        cases hsells
        rfl
  | cons row rows ih =>
      rw [List.foldlM_cons, flowAfter_cons, ExceptFold.bind_eq_ok]
      exact exists_congr fun next => and_congr usedRowFlow_iff ih

/-- The flows of the base estimate, by their tokens. -/
theorem previewRows_grouped {swaps : List PnlSwap} {s : PreviewLoop}
    (h : swaps.foldlM (previewRow readers run) ⟨[], 0, 0, 0, 0⟩ = .ok s) :
    Grouped (·.token) emptyFlow (·.leg.token) usedRowFlow (usedRows readers run swaps) s.flows :=
  grouped_of_foldlM (fun _ => rfl) (fun _ _ _ h => (usedRowFlow_iff.mp h).token)
    (previewRows_flows h)

/-- The flows of the base estimate are made of the used rows of their tokens. -/
theorem tokenFlows_rows {preview : PnlPreview} (h : deriveRunPnlPreview readers run = .ok preview) :
    ∀ record ∈ preview.tokenFlows, FlowAfter
      ((usedRows readers run run.swaps).filter fun row => row.leg.token = record.flow.token)
      (emptyFlow record.flow.token) record.flow := by
  unfold deriveRunPnlPreview at h
  obtain ⟨s, hs, h⟩ := ExceptFold.bind_eq_ok.mp h
  obtain ⟨records, hrecords, h⟩ := ExceptFold.bind_eq_ok.mp h
  obtain ⟨spent, -, h⟩ := ExceptFold.bind_eq_ok.mp h
  obtain ⟨received, -, h⟩ := ExceptFold.bind_eq_ok.mp h
  obtain ⟨fee, -, h⟩ := ExceptFold.bind_eq_ok.mp h
  obtain ⟨net, -, h⟩ := ExceptFold.bind_eq_ok.mp h
  obtain ⟨after, -, h⟩ := ExceptFold.bind_eq_ok.mp h
  cases h
  have hgrouped := previewRows_grouped hs
  intro record hrecord
  obtain ⟨flow, hflow, hto⟩ := (Fibers.mem_of_forall₂ (ExceptFold.mapM_eq_ok.mp hrecords)).1
    record hrecord
  have hrecordFlow : record.flow = flow := by
    obtain ⟨net, -, hto⟩ := ExceptFold.bind_eq_ok.mp hto
    obtain ⟨afterFees, -, hto⟩ := ExceptFold.bind_eq_ok.mp hto
    cases hto
    rfl
  rw [hrecordFlow]
  exact usedRowsFlow_iff.mp (hgrouped.flow flow ((List.mergeSort_perm _ _).mem_iff.mp hflow))

end TonTracker
