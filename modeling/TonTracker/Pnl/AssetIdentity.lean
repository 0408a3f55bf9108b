/-
# `Pnl.AssetIdentity` — which asset a leg is of

A swap row carries the symbols of its sides, which their issuers choose, and
the recorded addresses of the jettons.  Both estimates know a token by its
symbol only: a leg is of the asset it says exactly where, among the used
swaps, no jetton's name reads as TON and no two jettons have one name
(`assets_separate_iff`).
-/
import TonTracker.Adapters.TonapiSwaps
import TonTracker.Pnl.FeesOnce

namespace TonTracker

open ContextDecimal (Decimal Signal)

variable {readers : SwapReaders} {pnl : PnlReaders}

/-! ## Legs and their assets -/

/-- A leg with what its row records of the two assets. -/
structure AssetLeg where
  leg : TonLeg
  tonStandard : TokenStandard
  jettonAddress : Option Text
deriving DecidableEq

/-- The leg of a normalised swap. -/
def assetLeg (readers : SwapReaders) (pnl : PnlReaders) (row : NormalizedSwap) : Option AssetLeg :=
  let record := readers.swapRecord row
  (tonLeg pnl record.swap).map fun leg =>
    match leg.side with
    | .buy => ⟨leg, row.tokenInStandard, record.tokenOutAddress⟩
    | .sell => ⟨leg, row.tokenOutStandard, record.tokenInAddress⟩

/-- The run of the rows. -/
def swapRun (readers : SwapReaders) (transactions : List PnlTransaction)
    (rows : List NormalizedSwap) : PnlRun :=
  ⟨transactions, rows.map fun row => (readers.swapRecord row).swap⟩

/-- Legs of different jettons are of different tokens, and the TON side of a
leg is native. -/
structure AssetsSeparate (readers : SwapReaders) (pnl : PnlReaders) (rows : List NormalizedSwap) :
    Prop where
  separate : ∀ a ∈ rows.filterMap (assetLeg readers pnl), ∀ b ∈ rows.filterMap (assetLeg readers pnl),
    ∀ x y, a.jettonAddress = some x → b.jettonAddress = some y → x ≠ y → a.leg.token ≠ b.leg.token
  native : ∀ a ∈ rows.filterMap (assetLeg readers pnl), a.tonStandard = .native

/-! ## Names -/

def SwapEnd.other : SwapEnd → SwapEnd
  | .input => .output
  | .output => .input

def NormalizedSwap.side (row : NormalizedSwap) : SwapEnd → SwapSide
  | .input => row.sideIn
  | .output => row.sideOut

def NormalizedSwap.standard (row : NormalizedSwap) : SwapEnd → TokenStandard
  | .input => row.tokenInStandard
  | .output => row.tokenOutStandard

/-- The side of a used row that is read as TON. -/
def tonEnd (readers : SwapReaders) (pnl : PnlReaders) (row : NormalizedSwap) : Option SwapEnd :=
  (tonLeg pnl (readers.swapRecord row).swap).map fun leg =>
    match leg.side with
    | .buy => .input
    | .sell => .output

/-- No jetton is read as TON, and no two jettons have one name, among the
used rows. -/
structure NamesFaithful (readers : SwapReaders) (pnl : PnlReaders) (rows : List NormalizedSwap) :
    Prop where
  ton : ∀ row ∈ rows, ∀ e, tonEnd readers pnl row = some e → row.standard e = .native
  jettons : ∀ row ∈ rows, ∀ row' ∈ rows, ∀ e e', tonEnd readers pnl row = some e →
    tonEnd readers pnl row' = some e' → (row.side e.other).token = (row'.side e'.other).token →
    ∀ x y, (row.side e.other).address = some x → (row'.side e'.other).address = some y → x = y

/-! ## Texts read before -/

theorem dropWhile_dropWhile {α : Type} (p : α → Bool) (l : List α) :
    (l.dropWhile p).dropWhile p = l.dropWhile p := by
  induction l with
  | nil => rfl
  | cons a l ih =>
      by_cases h : p a = true
      · rw [List.dropWhile_cons_of_pos h, ih]
      · rw [List.dropWhile_cons_of_neg h, List.dropWhile_cons_of_neg h]

/-- What begins without a space keeps its beginning when its end is cut. -/
theorem dropWhile_rdropWhile {α : Type} (p : α → Bool) {l : List α} (h : l.dropWhile p = l) :
    ((l.reverse.dropWhile p).reverse).dropWhile p = (l.reverse.dropWhile p).reverse := by
  cases l with
  | nil => rfl
  | cons a l =>
      have ha : ¬ p a = true := by
        intro ha
        rw [List.dropWhile_cons_of_pos ha] at h
        have hlength := congrArg List.length h
        have hle := (List.dropWhile_suffix (l := l) p).length_le
        rw [List.length_cons] at hlength
        omega
      obtain ⟨cut, hcut⟩ := List.dropWhile_suffix (l := (a :: l).reverse) p
      have hprefix := congrArg List.reverse hcut
      rw [List.reverse_append, List.reverse_reverse] at hprefix
      cases hkept : (((a :: l).reverse).dropWhile p).reverse with
      | nil => rfl
      | cons b kept =>
          rw [hkept] at hprefix
          obtain ⟨rfl, -⟩ := List.cons.inj hprefix
          rw [List.dropWhile_cons_of_neg ha]

theorem strip_strip (s : Text) : strip (strip s) = strip s := by
  unfold strip
  rw [dropWhile_rdropWhile isSpace (dropWhile_dropWhile isSpace s), List.reverse_reverse,
    dropWhile_dropWhile]

theorem optionalText_optionalString (value : Json) :
    optionalText (readers.optionalString value) = readers.optionalString value := by
  have h : ∀ text : Text, optionalText (if strip text = [] then none else some (strip text)) =
      if strip text = [] then none else some (strip text) := by
    intro text
    by_cases hnil : strip text = []
    · rw [if_pos hnil]
      rfl
    · rw [if_neg hnil, optionalText, Option.bind_some, strip_strip, if_neg hnil]
  cases value with
  | null => rfl
  | _ => exact h _

theorem optionalText_side (detail : List (String × Json)) (e : SwapEnd) :
    optionalText (readers.swapSide detail e).token = (readers.swapSide detail e).token ∧
      optionalText (readers.swapSide detail e).address = (readers.swapSide detail e).address := by
  unfold SwapReaders.swapSide
  dsimp only
  split
  · have hton : optionalText (some tonText) = some tonText := by decide
    exact ⟨hton, rfl⟩
  · refine ⟨?_, optionalText_optionalString _⟩
    cases hsymbol : readers.optionalString
        (Json.get (masterFields (Json.get detail e.keys.2.2)) "symbol") with
    | none => exact optionalText_optionalString _
    | some symbol =>
        show optionalText (some symbol) = some symbol
        rw [← hsymbol]
        exact optionalText_optionalString _

/-- The rows of a provider answer are read from its swap actions. -/
theorem normalizeAccountSwaps_rows {payload : Json} {rows : List NormalizedSwap}
    (h : readers.normalizeAccountSwaps payload = .ok rows) : ∀ row ∈ rows,
      ∃ detail action eventId utime lt index,
        row = readers.normalizeSwap detail action eventId utime lt index := by
  unfold SwapReaders.normalizeAccountSwaps at h
  split at h
  · split at h
    · cases h
      intro row hrow
      obtain ⟨event, -, hrow⟩ := List.mem_flatMap.mp hrow
      unfold SwapReaders.eventSwaps at hrow
      split at hrow
      · split at hrow
        · obtain ⟨⟨action, index⟩, -, hrow⟩ := List.mem_filterMap.mp hrow
          unfold SwapReaders.normalizeAction at hrow
          split at hrow
          · split at hrow
            · split at hrow
              · exact ⟨_, _, _, _, _, _, (Option.some.inj hrow).symm⟩
              · cases hrow
            · cases hrow
          · cases hrow
        · cases hrow
      · cases hrow
    · cases h
  · cases h

/-! ## Names against assets -/

theorem tonLeg_token {swap : PnlSwap} {leg : TonLeg} (h : tonLeg pnl swap = some leg) :
    leg.token = (match leg.side with
      | .buy => swap.tokenOut
      | .sell => swap.tokenIn).getD [] := by
  unfold tonLeg at h
  dsimp only at h
  split at h
  · obtain ⟨amount, -, rfl⟩ := Option.map_eq_some_iff.mp h
    rfl
  · split at h
    · obtain ⟨amount, -, rfl⟩ := Option.map_eq_some_iff.mp h
      rfl
    · cases h

/-- A leg says of its row which end is read as TON. -/
structure LegOfRow (row : NormalizedSwap) (e : SwapEnd) (a : AssetLeg) : Prop where
  standard : a.tonStandard = row.standard e
  address : a.jettonAddress = optionalText (row.side e.other).address
  token : a.leg.token = (optionalText (row.side e.other).token).getD []

theorem assetLeg_of_tonEnd {row : NormalizedSwap} {e : SwapEnd}
    (h : tonEnd readers pnl row = some e) :
    ∃ a, assetLeg readers pnl row = some a ∧ LegOfRow row e a := by
  obtain ⟨leg, hleg, he⟩ := Option.map_eq_some_iff.mp h
  have htoken := tonLeg_token hleg
  obtain ⟨token, side, amount, qty⟩ := leg
  cases side with
  | buy =>
      subst he
      exact ⟨_, by rw [assetLeg, hleg]; rfl, rfl, rfl, htoken⟩
  | sell =>
      subst he
      exact ⟨_, by rw [assetLeg, hleg]; rfl, rfl, rfl, htoken⟩

theorem tonEnd_of_assetLeg {row : NormalizedSwap} {a : AssetLeg}
    (h : assetLeg readers pnl row = some a) :
    ∃ e, tonEnd readers pnl row = some e ∧ LegOfRow row e a := by
  obtain ⟨leg, hleg, -⟩ := Option.map_eq_some_iff.mp h
  have hend : ∃ e, tonEnd readers pnl row = some e := ⟨_, by rw [tonEnd, hleg]; rfl⟩
  obtain ⟨e, he⟩ := hend
  obtain ⟨b, hb, hspec⟩ := assetLeg_of_tonEnd he
  obtain rfl := Option.some.inj (hb.symm.trans h)
  exact ⟨e, he, hspec⟩

/-- An optional text, read again, is empty only where it is missing. -/
theorem getD_optionalText_inj {a b : Option Text} (ha : optionalText a = a) (hb : optionalText b = b)
    (h : a.getD [] = b.getD []) : a = b := by
  have hne : ∀ text : Text, optionalText (some text) = some text → text ≠ [] := by
    intro text heq hnil
    rw [hnil] at heq
    exact absurd heq (by decide)
  cases a with
  | none =>
      cases b with
      | none => rfl
      | some text => exact absurd h.symm (hne text hb)
  | some text =>
      cases b with
      | none => exact absurd h (hne text ha)
      | some other => exact congrArg some h

theorem optionalText_row {payload : Json} {rows : List NormalizedSwap}
    (h : readers.normalizeAccountSwaps payload = .ok rows) {row : NormalizedSwap} (hrow : row ∈ rows)
    (e : SwapEnd) : optionalText (row.side e).token = (row.side e).token ∧
      optionalText (row.side e).address = (row.side e).address := by
  obtain ⟨detail, action, eventId, utime, lt, index, rfl⟩ := normalizeAccountSwaps_rows h row hrow
  cases e with
  | input => exact optionalText_side detail .input
  | output => exact optionalText_side detail .output

/-- A record of the cost basis is computed from the legs of its token. -/
theorem costBasis_by_token {legs : List PricedLeg} {basis : CostBasis}
    (h : computeInWindowCostBasis legs = .ok basis) :
    ∀ record ∈ basis.records, costBasisRecord legs record.token = .ok record := by
  unfold computeInWindowCostBasis at h
  obtain ⟨records, hrecords, h⟩ := ExceptFold.bind_eq_ok.mp h
  obtain ⟨total, -, h⟩ := ExceptFold.bind_eq_ok.mp h
  cases h
  intro record hrecord
  obtain ⟨token, -, htoken⟩ := (Fibers.mem_of_forall₂ (ExceptFold.mapM_eq_ok.mp hrecords)).1
    record hrecord
  have hname : record.token = token := by
    obtain ⟨result, -, htoken⟩ := ExceptFold.bind_eq_ok.mp htoken
    cases htoken
    rfl
  rwa [hname]

/-- The rows of provider events keep different assets apart, and take only
TON for TON, exactly where the used names are faithful; each flow of the
estimate, and each record of the cost basis, is made of all the legs of its
token. -/
theorem assets_separate_iff {payload : Json} {rows : List NormalizedSwap}
    {transactions : List PnlTransaction} {preview : PnlPreview}
    (hrows : readers.normalizeAccountSwaps payload = .ok rows)
    (h : deriveRunPnlPreview pnl (swapRun readers transactions rows) = .ok preview) :
    (∀ record ∈ preview.tokenFlows, FlowAfter
      ((usedRows pnl (swapRun readers transactions rows)
        (swapRun readers transactions rows).swaps).filter fun row =>
          row.leg.token = record.flow.token) (emptyFlow record.flow.token) record.flow) ∧
    (∀ legs basis, computeInWindowCostBasis legs = .ok basis →
      ∀ record ∈ basis.records, costBasisRecord legs record.token = .ok record) ∧
    (AssetsSeparate readers pnl rows ↔ NamesFaithful readers pnl rows) := by
  refine ⟨tokenFlows_rows h, fun _ _ => costBasis_by_token, fun hseparate => ⟨?_, ?_⟩, fun hfaithful => ⟨?_, ?_⟩⟩
  · intro row hrow e he
    obtain ⟨a, ha, hspec⟩ := assetLeg_of_tonEnd he
    exact hspec.standard.symm.trans (hseparate.native a (List.mem_filterMap.mpr ⟨row, hrow, ha⟩))
  · intro row hrow row' hrow' e e' he he' htoken x y hx hy
    obtain ⟨a, ha, hspec⟩ := assetLeg_of_tonEnd he
    obtain ⟨b, hb, hspec'⟩ := assetLeg_of_tonEnd he'
    by_contra hne
    refine hseparate.separate a (List.mem_filterMap.mpr ⟨row, hrow, ha⟩) b
      (List.mem_filterMap.mpr ⟨row', hrow', hb⟩) x y ?_ ?_ hne ?_
    · rw [hspec.address, (optionalText_row hrows hrow _).2, hx]
    · rw [hspec'.address, (optionalText_row hrows hrow' _).2, hy]
    · rw [hspec.token, hspec'.token, htoken]
  · intro a ha b hb x y hx hy hne htoken
    obtain ⟨row, hrow, ha⟩ := List.mem_filterMap.mp ha
    obtain ⟨row', hrow', hb⟩ := List.mem_filterMap.mp hb
    obtain ⟨e, he, hspec⟩ := tonEnd_of_assetLeg ha
    obtain ⟨e', he', hspec'⟩ := tonEnd_of_assetLeg hb
    have hread := optionalText_row hrows hrow e.other
    have hread' := optionalText_row hrows hrow' e'.other
    rw [hspec.address, hread.2] at hx
    rw [hspec'.address, hread'.2] at hy
    rw [hspec.token, hspec'.token, hread.1, hread'.1] at htoken
    exact hne (hfaithful.jettons row hrow row' hrow' e e' he he'
      (getD_optionalText_inj hread.1 hread'.1 htoken) x y hx hy)
  · intro a ha
    obtain ⟨row, hrow, ha⟩ := List.mem_filterMap.mp ha
    obtain ⟨e, he, hspec⟩ := tonEnd_of_assetLeg ha
    exact hspec.standard.trans (hfaithful.ton row hrow e he)

/-! ## Three swaps of one symbol

A purchase of a jetton, a purchase of another jetton of the same symbol, and
a swap of a jetton whose symbol is TON. -/

def sampleSwapReaders : SwapReaders where
  str
    | .str text => text
    | _ => []
  scaledBalance := fun amount _ => amount
  isoTime := fun _ => some "2024-01-02T00:00:00Z".toList

def jettonMaster (symbol address : String) : Json :=
  .obj [("address", .str address.toList), ("symbol", .str symbol.toList)]

def tonPurchase (address amount : String) : List (String × Json) :=
  [("ton_in", .str "1".toList), ("amount_out", .str amount.toList),
    ("jetton_master_out", jettonMaster "USDT" address)]

def fakeTonPurchase : List (String × Json) :=
  [("jetton_master_in", jettonMaster "TON" "0:cc"), ("amount_in", .str "9".toList),
    ("amount_out", .str "3".toList), ("jetton_master_out", jettonMaster "USDT" "0:aa")]

/-- One event with the swap actions. -/
def swapEvents (details : List (List (String × Json))) : Json :=
  .obj [("events", .arr [.obj [("event_id", .str "aa".toList), ("actions", .arr (details.map
    fun detail => .obj [("type", .str "JettonSwap".toList), ("JettonSwap", .obj detail)]))]])]

/-- The rows of the event, and the sums of the flows of their run. -/
def sampleAssets (details : List (List (String × Json))) :
    Option (List AssetLeg × List (Text × Decimal × Decimal)) := do
  let rows ← (sampleSwapReaders.normalizeAccountSwaps (swapEvents details)).toOption
  let preview ← (deriveRunPnlPreview sampleReaders (swapRun sampleSwapReaders [] rows)).toOption
  return (rows.filterMap (assetLeg sampleSwapReaders sampleReaders),
    preview.tokenFlows.map fun record =>
      (record.flow.token, record.flow.tonSpent, record.flow.tokenBoughtQty))

theorem sampleAssets_eq {details : List (List (String × Json))} {legs : List AssetLeg}
    {flows : List (Text × Decimal × Decimal)} (h : sampleAssets details = some (legs, flows)) :
    ∃ rows preview, sampleSwapReaders.normalizeAccountSwaps (swapEvents details) = .ok rows ∧
      deriveRunPnlPreview sampleReaders (swapRun sampleSwapReaders [] rows) = .ok preview ∧
      rows.filterMap (assetLeg sampleSwapReaders sampleReaders) = legs ∧
      (preview.tokenFlows.map fun record =>
        (record.flow.token, record.flow.tonSpent, record.flow.tokenBoughtQty)) = flows := by
  unfold sampleAssets at h
  cases hrows : sampleSwapReaders.normalizeAccountSwaps (swapEvents details) with
  | error raised =>
      rw [hrows] at h
      cases h
  | ok rows =>
      rw [hrows] at h
      cases hpreview : deriveRunPnlPreview sampleReaders (swapRun sampleSwapReaders [] rows) with
      | error raised =>
          simp only [Except.toOption, Option.bind_eq_bind, Option.bind_some, hpreview] at h
          cases h
      | ok preview =>
          simp only [Except.toOption, Option.bind_eq_bind, Option.bind_some, hpreview] at h
          obtain ⟨hlegs, hflows⟩ := Prod.mk.inj (Option.some.inj h)
          exact ⟨rows, preview, rfl, hpreview, hlegs, hflows⟩

def usdtLeg (amount qty : ℚ) (standard : TokenStandard) (address : String) : AssetLeg :=
  ⟨⟨"USDT".toList, .buy, .finite amount, some (.finite qty)⟩, standard, some address.toList⟩

theorem assets_separate_sample : ∃ rows preview,
    sampleSwapReaders.normalizeAccountSwaps (swapEvents [tonPurchase "0:aa" "5"]) = .ok rows ∧
    deriveRunPnlPreview sampleReaders (swapRun sampleSwapReaders [] rows) = .ok preview ∧
    (∀ record ∈ preview.tokenFlows, FlowAfter
      ((usedRows sampleReaders (swapRun sampleSwapReaders [] rows)
        (swapRun sampleSwapReaders [] rows).swaps).filter fun row =>
          row.leg.token = record.flow.token) (emptyFlow record.flow.token) record.flow) ∧
    (∀ legs basis, computeInWindowCostBasis legs = .ok basis →
      ∀ record ∈ basis.records, costBasisRecord legs record.token = .ok record) ∧
    (AssetsSeparate sampleSwapReaders sampleReaders rows ↔
      NamesFaithful sampleSwapReaders sampleReaders rows) := by
  have hassets : sampleAssets [tonPurchase "0:aa" "5"] =
      some ([usdtLeg 1 5 .native "0:aa"], [("USDT".toList, .finite 1, .finite 5)]) := by
    decide +kernel
  obtain ⟨rows, preview, hrows, hpreview, -, -⟩ := sampleAssets_eq hassets
  exact ⟨rows, preview, hrows, hpreview, assets_separate_iff hrows hpreview⟩

/-- The three swaps make one flow. -/
theorem symbols_mix_assets : ∃ rows preview,
    sampleSwapReaders.normalizeAccountSwaps
      (swapEvents [tonPurchase "0:aa" "5", tonPurchase "0:bb" "7", fakeTonPurchase]) = .ok rows ∧
    deriveRunPnlPreview sampleReaders (swapRun sampleSwapReaders [] rows) = .ok preview ∧
    (preview.tokenFlows.map fun record =>
      (record.flow.token, record.flow.tonSpent, record.flow.tokenBoughtQty)) =
        [("USDT".toList, .finite 11, .finite 15)] ∧
    ¬ AssetsSeparate sampleSwapReaders sampleReaders rows := by
  have hassets : sampleAssets [tonPurchase "0:aa" "5", tonPurchase "0:bb" "7", fakeTonPurchase] =
      some ([usdtLeg 1 5 .native "0:aa", usdtLeg 1 7 .native "0:bb", usdtLeg 9 3 .jetton "0:aa"],
        [("USDT".toList, .finite 11, .finite 15)]) := by
    decide +kernel
  obtain ⟨rows, preview, hrows, hpreview, hlegs, hflows⟩ := sampleAssets_eq hassets
  refine ⟨rows, preview, hrows, hpreview, hflows, fun hseparate => ?_⟩
  have hne : "0:aa".toList ≠ "0:bb".toList := by decide
  exact hseparate.separate (usdtLeg 1 5 .native "0:aa") (by rw [hlegs]; simp)
    (usdtLeg 1 7 .native "0:bb") (by rw [hlegs]; simp) _ _ rfl rfl hne rfl

end TonTracker
