/-
# `Pnl.FeesOnce` — the fees of the used rows

Both estimates look the fee of a row up by its transaction, so each row of a
transaction is charged the whole of its fee: the charges are the recorded
fees exactly where no transaction with a fee has a second used row
(`fees_charged_once_iff`).
-/
import TonTracker.Pnl.RealLabel
import TonTracker.Pnl.Flows
import Mathlib.Tactic.Ring
import Mathlib.Data.List.Dedup

namespace TonTracker

open ContextDecimal (Decimal Signal)

variable {readers : PnlReaders} {run : PnlRun}

/-- The fee of a flow is the sum, in the context, of what its rows are charged. -/
theorem tokenFlows_fees {preview : PnlPreview} (h : deriveRunPnlPreview readers run = .ok preview) :
    ∀ record ∈ preview.tokenFlows,
      (((usedRows readers run run.swaps).filter fun row =>
        row.leg.token = record.flow.token).map (·.fee)).foldlM addOptional Decimal.zero =
          .ok record.flow.feeTon :=
  fun record hrecord => (tokenFlows_rows h record hrecord).fees

/-! ## Exact totals -/

def isFinite : Decimal → Bool
  | .finite _ => true
  | _ => false

def exactValue : Decimal → ℚ
  | .finite value => value
  | _ => 0

/-- The sum of fees that are all finite. -/
def exactTotal (fees : List Decimal) : Option ℚ :=
  if fees.all isFinite then some (fees.map exactValue).sum else none

/-- The distinct transactions with a used row. -/
def usedTransactions (readers : PnlReaders) (run : PnlRun) : List Text :=
  ((usedRows readers run run.swaps).map (·.txHash)).dedup

/-- Their recorded fees. -/
def recordedFees (readers : PnlReaders) (run : PnlRun) : List Decimal :=
  (usedTransactions readers run).filterMap (recordedFee readers run)

/-- The used rows of a transaction. -/
def rowsOfTransaction (readers : PnlReaders) (run : PnlRun) (txHash : Text) : List UsedRow :=
  (usedRows readers run run.swaps).filter fun row => row.txHash = txHash

/-- In both estimates the charges are the recorded fees of the transactions
used, each of them once. -/
structure FeesChargedOnce (readers : PnlReaders) (run : PnlRun) : Prop where
  ton : exactTotal ((usedRows readers run run.swaps).filterMap (·.fee)) =
    exactTotal (recordedFees readers run)
  usd : exactTotal ((usdLegs readers run).filterMap (·.feeTon)) =
    exactTotal (recordedFees readers run)
  once : ∀ txHash ∈ usedTransactions readers run,
    exactTotal ((rowsOfTransaction readers run txHash).filterMap (·.fee)) =
      exactTotal (recordedFee readers run txHash).toList

/-- No transaction with a fee has a second used row. -/
def FeesUnshared (readers : PnlReaders) (run : PnlRun) : Prop :=
  ∀ txHash value, recordedFee readers run txHash = some (.finite value) → value ≠ 0 →
    (rowsOfTransaction readers run txHash).length ≤ 1

theorem usdLegs_fees : (usdLegs readers run).filterMap (·.feeTon) =
    (usedRows readers run run.swaps).filterMap (·.fee) := by
  unfold usdLegs usedRows
  rw [List.filterMap_filterMap, List.filterMap_filterMap]
  refine List.filterMap_congr fun swap _ => ?_
  cases tonLeg readers swap <;> rfl

/-- The charges of a transaction are its fee, as often as it has used rows. -/
theorem charges_eq_replicate (txHash : Text) :
    (rowsOfTransaction readers run txHash).filterMap (·.fee) =
      ((recordedFee readers run txHash).map fun fee =>
        List.replicate (rowsOfTransaction readers run txHash).length fee).getD [] := by
  have hfee : ∀ row ∈ rowsOfTransaction readers run txHash,
      row.fee = recordedFee readers run txHash := by
    intro row hrow
    obtain ⟨hmem, htx⟩ := List.mem_filter.mp hrow
    rw [fee_of_usedRow hmem, of_decide_eq_true htx]
  rw [List.filterMap_congr hfee]
  cases recordedFee readers run txHash with
  | none => simp
  | some fee => simp [List.filterMap_eq_map', List.map_const']

theorem rowsOfTransaction_pos {txHash : Text} (h : txHash ∈ usedTransactions readers run) :
    0 < (rowsOfTransaction readers run txHash).length := by
  obtain ⟨row, hrow, rfl⟩ := List.mem_map.mp (List.mem_dedup.mp h)
  exact List.length_pos_of_mem (List.mem_filter.mpr ⟨hrow, decide_eq_true rfl⟩)

theorem exactTotal_replicate {count : Nat} (h : 0 < count) (fee : Decimal) :
    exactTotal (List.replicate count fee) =
      if isFinite fee then some (count * exactValue fee) else none := by
  unfold exactTotal
  rw [List.all_replicate, if_neg h.ne', List.map_replicate, List.sum_replicate, nsmul_eq_mul]

/-- One transaction. -/
theorem charged_once_iff {txHash : Text} (h : txHash ∈ usedTransactions readers run) :
    exactTotal ((rowsOfTransaction readers run txHash).filterMap (·.fee)) =
        exactTotal (recordedFee readers run txHash).toList ↔
      ∀ value, recordedFee readers run txHash = some (.finite value) → value ≠ 0 →
        (rowsOfTransaction readers run txHash).length ≤ 1 := by
  have hpos := rowsOfTransaction_pos h
  rw [charges_eq_replicate]
  generalize (rowsOfTransaction readers run txHash).length = count at hpos ⊢
  cases recordedFee readers run txHash with
  | none => exact iff_of_true rfl nofun
  | some fee =>
      show exactTotal (List.replicate count fee) = exactTotal (List.replicate 1 fee) ↔ _
      rw [exactTotal_replicate hpos, exactTotal_replicate Nat.one_pos]
      cases fee with
      | finite value =>
          constructor
          · intro heq other hother hne
            obtain rfl := Decimal.finite.inj (Option.some.inj hother)
            have hone : (count : ℚ) = (1 : ℕ) := mul_right_cancel₀ hne (Option.some.inj heq)
            exact (Nat.cast_injective hone).le
          · intro hunshared
            by_cases hzero : value = 0
            · simp [exactValue, hzero]
            · rw [Nat.le_antisymm (hunshared value rfl hzero) hpos]
      | infinite negative => exact iff_of_true rfl nofun
      | quietNaN => exact iff_of_true rfl nofun
      | signalingNaN => exact iff_of_true rfl nofun

/-! ## All transactions -/

theorem exactTotal_none {fees : List Decimal} : exactTotal fees = none ↔ ∃ fee ∈ fees, ¬ isFinite fee := by
  unfold exactTotal
  split
  · next hall => exact iff_of_false nofun fun ⟨fee, hfee, hnot⟩ => hnot (List.all_eq_true.mp hall fee hfee)
  · next hall =>
      rw [List.all_eq_true] at hall
      exact iff_of_true rfl (by simpa using hall)

theorem exactTotal_some {fees : List Decimal} {total : ℚ} : exactTotal fees = some total ↔
    (∀ fee ∈ fees, isFinite fee = true) ∧ (fees.map exactValue).sum = total := by
  unfold exactTotal
  rw [← List.all_eq_true]
  split <;> simp_all

theorem sum_filterMap_value {α : Type} (fee : α → Option Decimal) (l : List α) :
    ((l.filterMap fee).map exactValue).sum =
      (l.map fun a => ((fee a).map exactValue).getD 0).sum := by
  induction l with
  | nil => rfl
  | cons a l ih =>
      rw [List.map_cons, List.sum_cons, ← ih]
      cases hfee : fee a with
      | none => rw [List.filterMap_cons_none hfee, Option.map_none, Option.getD_none, zero_add]
      | some value => rw [List.filterMap_cons_some hfee, List.map_cons, List.sum_cons]; rfl

/-- Each fee charged once, the totals agree. -/
theorem total_of_once (h : ∀ txHash ∈ usedTransactions readers run,
      exactTotal ((rowsOfTransaction readers run txHash).filterMap (·.fee)) =
        exactTotal (recordedFee readers run txHash).toList) :
    exactTotal ((usedRows readers run run.swaps).filterMap (·.fee)) =
      exactTotal (recordedFees readers run) := by
  have hmem : ∀ fee, fee ∈ (usedRows readers run run.swaps).filterMap (·.fee) ↔
      fee ∈ recordedFees readers run := by
    intro fee
    unfold recordedFees usedTransactions
    rw [List.mem_filterMap, List.mem_filterMap]
    constructor
    · rintro ⟨row, hrow, hfee⟩
      exact ⟨row.txHash, List.mem_dedup.mpr (List.mem_map_of_mem hrow), fee_of_usedRow hrow ▸ hfee⟩
    · rintro ⟨txHash, htx, hfee⟩
      obtain ⟨row, hrow, rfl⟩ := List.mem_map.mp (List.mem_dedup.mp htx)
      exact ⟨row, hrow, (fee_of_usedRow hrow).trans hfee⟩
  cases htotal : exactTotal (recordedFees readers run) with
  | none =>
      obtain ⟨fee, hfee, hnot⟩ := exactTotal_none.mp htotal
      exact exactTotal_none.mpr ⟨fee, (hmem fee).mpr hfee, hnot⟩
  | some total =>
      obtain ⟨hfinite, hsum⟩ := exactTotal_some.mp htotal
      refine exactTotal_some.mpr ⟨fun fee hfee => hfinite fee ((hmem fee).mp hfee), ?_⟩
      have hnodup : (usedTransactions readers run).Nodup := List.nodup_dedup _
      have hall : ∀ row ∈ usedRows readers run run.swaps,
          row.txHash ∈ usedTransactions readers run :=
        fun row hrow => List.mem_dedup.mpr (List.mem_map_of_mem hrow)
      have hfibers := (Fibers.sum_fibers (fun row : UsedRow => some row.txHash)
        (fun row => (row.fee.map exactValue).getD 0) (usedRows readers run run.swaps) hnodup).trans
          (congrArg (fun rows => (List.map _ rows).sum)
            (List.filter_eq_self.mpr fun row hrow => by simpa using hall row hrow))
      rw [← sum_filterMap_value] at hfibers
      rw [← hsum, ← hfibers, recordedFees, sum_filterMap_value]
      refine congrArg List.sum (List.map_congr_left fun txHash htx => ?_)
      have hrows : (usedRows readers run run.swaps).filter
          (fun row => decide (some row.txHash = some txHash)) =
            rowsOfTransaction readers run txHash :=
        List.filter_congr fun row _ => by simp
      rw [hrows, ← sum_filterMap_value]
      cases hfee : recordedFee readers run txHash with
      | none => rw [charges_eq_replicate, hfee]; rfl
      | some fee =>
          have hcharged := h txHash htx
          rw [hfee] at hcharged
          have hfin : isFinite fee = true :=
            hfinite fee (List.mem_filterMap.mpr ⟨txHash, htx, hfee⟩)
          have hone : exactTotal (some fee).toList = some (exactValue fee) :=
            exactTotal_some.mpr ⟨by simpa using hfin, by simp⟩
          exact (exactTotal_some.mp (hcharged.trans hone)).2

/-- In both estimates the charges are the recorded fees, each of them once,
exactly where no transaction with a fee has a second used row. -/
theorem fees_charged_once_iff {preview : PnlPreview}
    (h : deriveRunPnlPreview readers run = .ok preview) :
    (∀ record ∈ preview.tokenFlows,
      (((usedRows readers run run.swaps).filter fun row =>
        row.leg.token = record.flow.token).map (·.fee)).foldlM addOptional Decimal.zero =
          .ok record.flow.feeTon) ∧
    (FeesChargedOnce readers run ↔ FeesUnshared readers run) := by
  refine ⟨tokenFlows_fees h, fun honce txHash value hfee hne => ?_, fun hunshared => ?_⟩
  · by_cases hused : txHash ∈ usedTransactions readers run
    · exact (charged_once_iff hused).mp (honce.once txHash hused) value hfee hne
    · have hnone : rowsOfTransaction readers run txHash = [] :=
        List.filter_eq_nil_iff.mpr fun row hrow heq =>
          hused (List.mem_dedup.mpr (List.mem_map.mpr ⟨row, hrow, of_decide_eq_true heq⟩))
      rw [hnone]
      exact Nat.zero_le 1
  · have honce := fun txHash htx => (charged_once_iff htx).mpr (hunshared txHash)
    have htotal := total_of_once honce
    exact ⟨htotal, usdLegs_fees ▸ htotal, honce⟩

/-! ## Two rows of one transaction

One transaction with the fee of one TON, and two purchases in it. -/

def otherPurchase : PnlSwap := { purchase with amountOut := some "7".toList }

def sampleFees (swaps : List PnlSwap) : Option Decimal :=
  (deriveRunPnlPreview sampleReaders (sampleRun swaps)).toOption.map (·.totalFeesTon)

theorem sampleFees_eq {swaps : List PnlSwap} {fees : Decimal} (h : sampleFees swaps = some fees) :
    ∃ preview, deriveRunPnlPreview sampleReaders (sampleRun swaps) = .ok preview ∧
      preview.totalFeesTon = fees := by
  obtain ⟨preview, hpreview, heq⟩ := Option.map_eq_some_iff.mp h
  exact ⟨preview, ExceptFold.eq_ok_of_toOption hpreview, heq⟩

theorem fees_charged_once_sample : ∃ preview,
    deriveRunPnlPreview sampleReaders (sampleRun [purchase]) = .ok preview ∧
      (∀ record ∈ preview.tokenFlows,
        (((usedRows sampleReaders (sampleRun [purchase]) [purchase]).filter fun row =>
          row.leg.token = record.flow.token).map (·.fee)).foldlM addOptional Decimal.zero =
            .ok record.flow.feeTon) ∧
      (FeesChargedOnce sampleReaders (sampleRun [purchase]) ↔
        FeesUnshared sampleReaders (sampleRun [purchase])) := by
  have hfees : sampleFees [purchase] = some (.finite 1) := by decide +kernel
  obtain ⟨preview, h, -⟩ := sampleFees_eq hfees
  exact ⟨preview, h, fees_charged_once_iff h⟩

/-- The fee of the transaction is charged to each of its rows. -/
theorem shared_fee_charged_twice : (∃ preview,
    deriveRunPnlPreview sampleReaders (sampleRun [purchase, otherPurchase]) = .ok preview ∧
      preview.totalFeesTon = .finite 2) ∧
    exactTotal (recordedFees sampleReaders (sampleRun [purchase, otherPurchase])) = some 1 ∧
    ¬ FeesChargedOnce sampleReaders (sampleRun [purchase, otherPurchase]) := by
  have hfees : sampleFees [purchase, otherPurchase] = some (.finite 2) := by decide +kernel
  have hrecorded :
      exactTotal (recordedFees sampleReaders (sampleRun [purchase, otherPurchase])) = some 1 := by
    decide +kernel
  have hcharged : exactTotal ((usedRows sampleReaders (sampleRun [purchase, otherPurchase])
      [purchase, otherPurchase]).filterMap (·.fee)) = some 2 := by decide +kernel
  refine ⟨sampleFees_eq hfees, hrecorded, fun honce => ?_⟩
  exact absurd (hcharged.symm.trans (honce.ton.trans hrecorded)) (by decide)

end TonTracker
