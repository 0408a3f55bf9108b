/-
# `Imports.Total` — when an import is total and conserving

An import that returns accounts for every row, keeps distinct trades in the
order of their rows, and reports each invalid row.  It raises where the
reader of the table does, where a value has no text, and where a row
without a price has a quotient that overflows the context
(`import_total_iff`).
-/
import TonTracker.Lib.ContextRounding
import TonTracker.Services.ImportParser

namespace TonTracker

open ExceptFold (bind_eq_ok foldlM_inv)

variable {readers : ImportReaders} {row : ImportRow} {rowNumber : Nat} {source : String}

/-! ## Values -/

/-- `str` returns a text of the value, or the value is missing. -/
def Shown (readers : ImportReaders) (cell : Json) : Prop := cell = .null ∨ readers.str cell ≠ none

theorem optionalString_isOk_iff {cell : Json} :
    (∃ text, readers.optionalString cell = .ok text) ↔ Shown readers cell := by
  unfold Shown
  cases cell with
  | null => exact iff_of_true ⟨none, rfl⟩ (.inl rfl)
  | _ =>
      simp only [ImportReaders.optionalString, reduceCtorEq, false_or]
      split
      · next h => exact iff_of_false (by simp) (by simp [h])
      · next text h => exact iff_of_true ⟨_, rfl⟩ (by simp [h])

/-- Every error of a check carries the number of its row, and a check that
refuses has one. -/
structure Reported {value : Type} (rowNumber : Nat) (required : Bool) (checked : Checked value) :
    Prop where
  numbered : ∀ error ∈ checked.2, error.row = rowNumber
  some : required = true → checked.2 = [] → ∃ v, checked.1 = .some v

theorem reported_value {value : Type} {required : Bool} (v : value) :
    Reported rowNumber required (some v, []) :=
  ⟨fun _ h => absurd h List.not_mem_nil, fun _ _ => ⟨v, rfl⟩⟩

theorem reported_refused {value : Type} {required : Bool} {field message : String} :
    Reported rowNumber required (refused rowNumber field message : Checked value) :=
  ⟨fun _ h => List.mem_singleton.mp h ▸ rfl, fun _ h => absurd h (List.cons_ne_nil _ _)⟩

section CheckValue

variable {value : Type} {cell : Json} {missing : Checked value} {read : Text → Checked value}
  {checked : Checked value} {required : Bool}

theorem checkValue_isOk_iff :
    (∃ checked, readers.checkValue cell missing read = .ok checked) ↔ Shown readers cell := by
  rw [← optionalString_isOk_iff]
  unfold ImportReaders.checkValue
  constructor
  · rintro ⟨checked, h⟩
    obtain ⟨text, htext, -⟩ := bind_eq_ok.mp h
    exact ⟨text, htext⟩
  · rintro ⟨text, htext⟩
    cases text with
    | none => exact ⟨missing, bind_eq_ok.mpr ⟨none, htext, rfl⟩⟩
    | some text => exact ⟨read text, bind_eq_ok.mpr ⟨some text, htext, rfl⟩⟩

theorem reported_checkValue (h : readers.checkValue cell missing read = .ok checked)
    (hmissing : Reported rowNumber required missing)
    (hread : ∀ text, Reported rowNumber required (read text)) :
    Reported rowNumber required checked := by
  obtain ⟨text, -, h⟩ := bind_eq_ok.mp h
  cases text with
  | none =>
      cases h
      exact hmissing
  | some text =>
      cases h
      exact hread text

end CheckValue

theorem reported_parseDecimal {required : Bool} {text : Text} {field : String} :
    Reported rowNumber required (readers.parseDecimal text field rowNumber) := by
  unfold ImportReaders.parseDecimal
  split
  · exact reported_value _
  · exact reported_refused

theorem reported_required {field : String} {checked : Checked Text}
    (h : readers.requiredString row field rowNumber = .ok checked) :
    Reported rowNumber true checked :=
  reported_checkValue h reported_refused fun _ => reported_value _

theorem reported_datetime {checked : Checked ParsedDatetime}
    (h : readers.normalizeDatetime row rowNumber = .ok checked) :
    Reported rowNumber true checked := by
  refine reported_checkValue h reported_refused fun text => ?_
  split
  · exact reported_refused
  · exact reported_value _

theorem reported_side {checked : Checked TradeSide}
    (h : readers.normalizeSide row rowNumber = .ok checked) : Reported rowNumber true checked := by
  refine reported_checkValue h reported_refused fun text => ?_
  split
  · exact reported_value _
  · split
    · exact reported_value _
    · exact reported_refused

theorem reported_requiredDecimal {field : String} {checked : Checked ℚ}
    (h : readers.requiredDecimal row field rowNumber = .ok checked) :
    Reported rowNumber true checked :=
  reported_checkValue h reported_refused fun _ => reported_parseDecimal

theorem reported_optionalDecimal {field : String} {checked : Checked ℚ}
    (h : readers.optionalDecimal row field rowNumber = .ok checked) :
    Reported rowNumber false checked :=
  reported_checkValue h ⟨fun _ h => absurd h List.not_mem_nil, fun h => absurd h (by decide)⟩
    fun _ => reported_parseDecimal

/-! ## A row -/

/-- The columns every row is read at. -/
def checkedColumns : List String := requiredColumns ++ ["price_usd"]

theorem checkRow_isOk_iff : (∃ values, readers.checkRow row rowNumber = .ok values) ↔
    ∀ column ∈ checkedColumns, Shown readers (row column) := by
  constructor
  · rintro ⟨values, h⟩
    obtain ⟨txHash, h1, h⟩ := bind_eq_ok.mp h
    obtain ⟨blockTime, h2, h⟩ := bind_eq_ok.mp h
    obtain ⟨wallet, h3, h⟩ := bind_eq_ok.mp h
    obtain ⟨side, h4, h⟩ := bind_eq_ok.mp h
    obtain ⟨tokenAmount, h5, h⟩ := bind_eq_ok.mp h
    obtain ⟨usdAmount, h6, h⟩ := bind_eq_ok.mp h
    obtain ⟨priceUsd, h7, h⟩ := bind_eq_ok.mp h
    simp only [checkedColumns, requiredColumns, List.cons_append, List.nil_append,
      List.forall_mem_cons]
    exact ⟨checkValue_isOk_iff.mp ⟨_, h1⟩, checkValue_isOk_iff.mp ⟨_, h2⟩,
      checkValue_isOk_iff.mp ⟨_, h3⟩, checkValue_isOk_iff.mp ⟨_, h4⟩,
      checkValue_isOk_iff.mp ⟨_, h5⟩, checkValue_isOk_iff.mp ⟨_, h6⟩,
      checkValue_isOk_iff.mp ⟨_, h7⟩, fun _ h => absurd h List.not_mem_nil⟩
  · intro h
    simp only [checkedColumns, requiredColumns, List.cons_append, List.nil_append,
      List.forall_mem_cons] at h
    obtain ⟨h1, h2, h3, h4, h5, h6, h7, -⟩ := h
    obtain ⟨txHash, h1⟩ := checkValue_isOk_iff.mpr h1
    obtain ⟨blockTime, h2⟩ := checkValue_isOk_iff.mpr h2
    obtain ⟨wallet, h3⟩ := checkValue_isOk_iff.mpr h3
    obtain ⟨side, h4⟩ := checkValue_isOk_iff.mpr h4
    obtain ⟨tokenAmount, h5⟩ := checkValue_isOk_iff.mpr h5
    obtain ⟨usdAmount, h6⟩ := checkValue_isOk_iff.mpr h6
    obtain ⟨priceUsd, h7⟩ := checkValue_isOk_iff.mpr h7
    exact ⟨_, bind_eq_ok.mpr ⟨txHash, h1, bind_eq_ok.mpr ⟨blockTime, h2,
      bind_eq_ok.mpr ⟨wallet, h3, bind_eq_ok.mpr ⟨side, h4, bind_eq_ok.mpr ⟨tokenAmount, h5,
        bind_eq_ok.mpr ⟨usdAmount, h6, bind_eq_ok.mpr ⟨priceUsd, h7, rfl⟩⟩⟩⟩⟩⟩⟩⟩

theorem numbered_rangeErrors {field message : String} {v : Option ℚ} {out : ℚ → Bool} :
    ∀ error ∈ rangeErrors rowNumber field message v out, error.row = rowNumber := by
  intro error h
  unfold rangeErrors at h
  split at h
  · exact List.mem_singleton.mp h ▸ rfl
  · exact absurd h List.not_mem_nil

theorem inRange_of_rangeErrors {field message : String} {v : ℚ} {out : ℚ → Bool}
    (h : rangeErrors rowNumber field message (some v) out = []) : out v = false := by
  unfold rangeErrors at h
  split at h
  · exact absurd h (List.cons_ne_nil _ _)
  · next hout => simpa using hout

/-- A row without errors: every required value, in its range. -/
structure ValidValues (values : RowValues) : Prop where
  txHash : ∃ v, values.txHash = some v
  blockTime : ∃ v, values.blockTime = some v
  wallet : ∃ v, values.wallet = some v
  side : ∃ v, values.side = some v
  tokenAmount : ∃ v, values.tokenAmount = some v ∧ 0 < v
  usdAmount : ∃ v, values.usdAmount = some v ∧ 0 ≤ v

theorem checkRow_spec {values : RowValues} (h : readers.checkRow row rowNumber = .ok values) :
    (∀ error ∈ values.errors, error.row = rowNumber) ∧
      (values.errors = [] → ValidValues values) := by
  obtain ⟨txHash, h1, h⟩ := bind_eq_ok.mp h
  obtain ⟨blockTime, h2, h⟩ := bind_eq_ok.mp h
  obtain ⟨wallet, h3, h⟩ := bind_eq_ok.mp h
  obtain ⟨side, h4, h⟩ := bind_eq_ok.mp h
  obtain ⟨tokenAmount, h5, h⟩ := bind_eq_ok.mp h
  obtain ⟨usdAmount, h6, h⟩ := bind_eq_ok.mp h
  obtain ⟨priceUsd, h7, h⟩ := bind_eq_ok.mp h
  cases h
  have r1 := reported_required h1
  have r2 := reported_datetime h2
  have r3 := reported_required h3
  have r4 := reported_side h4
  have r5 := reported_requiredDecimal h5
  have r6 := reported_requiredDecimal h6
  have r7 := reported_optionalDecimal h7
  constructor
  · simp only [List.forall_mem_append]
    exact ⟨⟨⟨⟨⟨⟨⟨⟨⟨r1.numbered, r2.numbered⟩, r3.numbered⟩, r4.numbered⟩, r5.numbered⟩,
      r6.numbered⟩, r7.numbered⟩, numbered_rangeErrors⟩, numbered_rangeErrors⟩,
      numbered_rangeErrors⟩
  · intro hnone
    simp only [List.append_eq_nil_iff] at hnone
    obtain ⟨⟨⟨⟨⟨⟨⟨⟨⟨e1, e2⟩, e3⟩, e4⟩, e5⟩, e6⟩, -⟩, etoken⟩, eusd⟩, -⟩ := hnone
    obtain ⟨token, htoken⟩ := r5.some rfl e5
    obtain ⟨usd, husd⟩ := r6.some rfl e6
    rw [htoken] at etoken
    rw [husd] at eusd
    refine ⟨r1.some rfl e1, r2.some rfl e2, r3.some rfl e3, r4.some rfl e4, ⟨token, htoken, ?_⟩,
      ⟨usd, husd, ?_⟩⟩
    · simpa using inRange_of_rangeErrors etoken
    · simpa using inRange_of_rangeErrors eusd

/-- When a row is read without raising. -/
def RowReadable (readers : ImportReaders) (row : Nat × ImportRow) : Prop :=
  (∀ column ∈ checkedColumns, Shown readers (row.2 column)) ∧
    ∀ values, readers.checkRow row.2 row.1 = .ok values → values.errors = [] →
      (∀ token usd, values.tokenAmount = some token → values.usdAmount = some usd →
        values.priceUsd = none → usd / token < defaultContext.limit) ∧
      Shown readers (row.2 "pool_address") ∧ Shown readers (row.2 "dex")

theorem tradePrice_isOk_iff {priceUsd : Option ℚ} {usd token : ℚ} (husd : 0 ≤ usd)
    (htoken : 0 < token) : (∃ price, tradePrice priceUsd usd token = .ok price) ↔
      (priceUsd = none → usd / token < defaultContext.limit) := by
  cases priceUsd with
  | some price => exact iff_of_true ⟨price, rfl⟩ (by simp)
  | none =>
      have habs : |usd / token| = usd / token := abs_of_nonneg (div_nonneg husd htoken.le)
      have hoverflow := ContextDecimal.Context.round_eq_error_iff (c := defaultContext)
        (x := usd / token) (by decide) (by decide)
      rw [habs] at hoverflow
      unfold tradePrice
      dsimp only
      constructor
      · rintro ⟨price, h⟩ -
        refine not_le.mp fun hle => ?_
        rw [hoverflow.mpr hle] at h
        cases h
      · intro h
        obtain ⟨price, hprice⟩ := ContextDecimal.Context.exists_round (c := defaultContext)
          (x := usd / token) (by decide) (by decide) (by rw [habs]; exact h rfl)
        rw [hprice]
        exact ⟨price, rfl⟩

/-- A row that is read: it is invalid and has errors that carry its number,
or it is a trade. -/
def RowOutcome (rowNumber : Nat) (outcome : Option ImportedTrade × List RowError) : Prop :=
  (outcome.2 ≠ [] ∧ ∀ error ∈ outcome.2, error.row = rowNumber) ∨
    outcome.2 = [] ∧ ∃ trade, outcome.1 = some trade ∧ 0 < trade.tokenAmount ∧ 0 ≤ trade.usdAmount

theorem normalizeRow_spec {outcome : Option ImportedTrade × List RowError}
    (h : readers.normalizeRow row rowNumber source = .ok outcome) :
    RowOutcome rowNumber outcome := by
  obtain ⟨values, hvalues, h⟩ := bind_eq_ok.mp h
  obtain ⟨hnumbered, hvalid⟩ := checkRow_spec hvalues
  by_cases herrors : values.errors ≠ []
  · rw [if_pos herrors] at h
    cases h
    exact .inl ⟨herrors, hnumbered⟩
  · rw [if_neg herrors] at h
    obtain ⟨⟨_, h1⟩, ⟨_, h2⟩, ⟨_, h3⟩, ⟨_, h4⟩, ⟨token, h5, htoken⟩, ⟨usd, h6, husd⟩⟩ :=
      hvalid (not_not.mp herrors)
    simp only [h1, h2, h3, h4, h5, h6] at h
    obtain ⟨price, -, h⟩ := bind_eq_ok.mp h
    obtain ⟨pool, -, h⟩ := bind_eq_ok.mp h
    obtain ⟨dex, -, h⟩ := bind_eq_ok.mp h
    cases h
    exact .inr ⟨rfl, _, rfl, htoken, husd⟩

theorem normalizeRow_isOk_iff (source : String) :
    (∃ outcome, readers.normalizeRow row rowNumber source = .ok outcome) ↔
      RowReadable readers (rowNumber, row) := by
  constructor
  · rintro ⟨outcome, h⟩
    obtain ⟨values, hvalues, h⟩ := bind_eq_ok.mp h
    refine ⟨checkRow_isOk_iff.mp ⟨values, hvalues⟩, fun found hfound hnone => ?_⟩
    cases hvalues.symm.trans hfound
    obtain ⟨⟨_, h1⟩, ⟨_, h2⟩, ⟨_, h3⟩, ⟨_, h4⟩, ⟨token, h5, htoken⟩, ⟨usd, h6, husd⟩⟩ :=
      (checkRow_spec hvalues).2 hnone
    rw [if_neg (not_not.mpr hnone)] at h
    simp only [h1, h2, h3, h4, h5, h6] at h
    obtain ⟨price, hprice, h⟩ := bind_eq_ok.mp h
    obtain ⟨pool, hpool, h⟩ := bind_eq_ok.mp h
    obtain ⟨dex, hdex, h⟩ := bind_eq_ok.mp h
    refine ⟨fun token' usd' htoken' husd' => ?_, optionalString_isOk_iff.mp ⟨pool, hpool⟩,
      optionalString_isOk_iff.mp ⟨dex, hdex⟩⟩
    cases h5.symm.trans htoken'
    cases h6.symm.trans husd'
    exact (tradePrice_isOk_iff husd htoken).mp ⟨price, hprice⟩
  · rintro ⟨hshown, hrest⟩
    obtain ⟨values, hvalues⟩ := checkRow_isOk_iff.mpr hshown
    by_cases herrors : values.errors = []
    · obtain ⟨hprice, hpool, hdex⟩ := hrest values hvalues herrors
      obtain ⟨⟨txHash, h1⟩, ⟨blockTime, h2⟩, ⟨wallet, h3⟩, ⟨side, h4⟩, ⟨token, h5, htoken⟩,
        ⟨usd, h6, husd⟩⟩ := (checkRow_spec hvalues).2 herrors
      obtain ⟨price, hprice⟩ := (tradePrice_isOk_iff husd htoken).mpr (hprice token usd h5 h6)
      obtain ⟨pool, hpool⟩ := optionalString_isOk_iff.mpr hpool
      obtain ⟨dex, hdex⟩ := optionalString_isOk_iff.mpr hdex
      refine ⟨(some ⟨txHash, blockTime, wallet, side, token, usd, price, pool, dex, source⟩, []),
        bind_eq_ok.mpr ⟨values, hvalues, ?_⟩⟩
      rw [if_neg (not_not.mpr herrors)]
      simp only [h1, h2, h3, h4, h5, h6]
      exact bind_eq_ok.mpr ⟨price, hprice, bind_eq_ok.mpr ⟨pool, hpool,
        bind_eq_ok.mpr ⟨dex, hdex, rfl⟩⟩⟩
    · exact ⟨_, bind_eq_ok.mpr ⟨values, hvalues, if_pos herrors⟩⟩

/-! ## The loop -/

/-- The trade of a row, if it has one. -/
def validTrade (readers : ImportReaders) (source : String) (row : Nat × ImportRow) :
    Option ImportedTrade :=
  match readers.normalizeRow row.2 row.1 source with
  | .ok (trade, []) => trade
  | _ => none

/-- A row with errors. -/
def InvalidRow (readers : ImportReaders) (source : String) (row : Nat × ImportRow) : Prop :=
  ∃ trade errors, readers.normalizeRow row.2 row.1 source = .ok (trade, errors) ∧ errors ≠ []

/-- What the loop has made of the rows it has seen. -/
structure Accounted (readers : ImportReaders) (source : String) (rows : List (Nat × ImportRow))
    (state : ImportState) : Prop where
  count : rows.length = state.trades.length + state.invalidRows + state.duplicateRows
  amounts : ∀ trade ∈ state.trades, 0 < trade.tokenAmount ∧ 0 ≤ trade.usdAmount
  distinct : (state.trades.map ImportedTrade.key).Nodup
  seen : ∀ key, key ∈ state.seen ↔ key ∈ state.trades.map ImportedTrade.key
  ordered : state.trades.Sublist (rows.filterMap (validTrade readers source))
  reported : ∀ row ∈ rows, InvalidRow readers source row →
    ∃ error ∈ state.errors, error.row = row.1

variable {state next : ImportState} {rows : List (Nat × ImportRow)}

/-- What a row does to the loop. -/
inductive ImportOutcome (readers : ImportReaders) (source : String) (state : ImportState)
    (row : Nat × ImportRow) : ImportState → Prop
  | invalid {trade : Option ImportedTrade} {errors : List RowError} :
      readers.normalizeRow row.2 row.1 source = .ok (trade, errors) → errors ≠ [] →
      (∀ error ∈ errors, error.row = row.1) →
      ImportOutcome readers source state row
        { state with invalidRows := state.invalidRows + 1, errors := state.errors ++ errors }
  | duplicate {trade : ImportedTrade} :
      readers.normalizeRow row.2 row.1 source = .ok (some trade, []) → trade.key ∈ state.seen →
      ImportOutcome readers source state row
        { state with duplicateRows := state.duplicateRows + 1 }
  | trade {trade : ImportedTrade} :
      readers.normalizeRow row.2 row.1 source = .ok (some trade, []) → trade.key ∉ state.seen →
      0 < trade.tokenAmount → 0 ≤ trade.usdAmount →
      ImportOutcome readers source state row
        { state with seen := trade.key :: state.seen, trades := state.trades ++ [trade] }

theorem importStep_cases {row : Nat × ImportRow}
    (h : readers.importStep source state row = .ok next) :
    ImportOutcome readers source state row next := by
  obtain ⟨⟨trade, errors⟩, hnormal, h⟩ := bind_eq_ok.mp h
  dsimp only at h
  obtain ⟨hne, hnumbered⟩ | ⟨hnone, trade', htrade, htoken, husd⟩ := normalizeRow_spec hnormal
  · rw [if_pos hne] at h
    cases h
    exact .invalid hnormal hne hnumbered
  · dsimp only at hnone htrade
    subst hnone
    subst htrade
    rw [if_neg (not_not.mpr rfl)] at h
    dsimp only at h
    split at h
    · next hseen =>
        cases h
        exact .duplicate hnormal hseen
    · next hseen =>
        cases h
        exact .trade hnormal hseen htoken husd

theorem accounted_step {row : Nat × ImportRow} (h : ImportOutcome readers source state row next)
    (hstate : Accounted readers source rows state) :
    Accounted readers source (rows ++ [row]) next := by
  have hsingle : ∀ trade, readers.normalizeRow row.2 row.1 source = .ok (some trade, []) →
      validTrade readers source row = some trade ∧ ¬ InvalidRow readers source row := by
    intro trade hnormal
    refine ⟨?_, ?_⟩
    · unfold validTrade
      rw [hnormal]
    · rintro ⟨trade', errors, hnormal', hne⟩
      cases hnormal.symm.trans hnormal'
      exact hne rfl
  cases h with
  | @invalid trade errors hnormal hne hnumbered =>
      have hnot : validTrade readers source row = none := by
        unfold validTrade
        rw [hnormal]
        cases errors with
        | nil => exact absurd rfl hne
        | cons => rfl
      refine ⟨?_, hstate.amounts, hstate.distinct, hstate.seen, ?_, ?_⟩
      · rw [List.length_append, hstate.count, List.length_singleton]
        dsimp only
        omega
      · rw [List.filterMap_append]
        exact hstate.ordered.trans (List.sublist_append_left _ _)
      · intro found hfound hinvalid
        obtain hfound | hfound := List.mem_append.mp hfound
        · obtain ⟨error, herror, hrow⟩ := hstate.reported found hfound hinvalid
          exact ⟨error, List.mem_append_left _ herror, hrow⟩
        · cases List.mem_singleton.mp hfound
          obtain ⟨error, herror⟩ := List.exists_mem_of_ne_nil errors hne
          exact ⟨error, List.mem_append_right _ herror, hnumbered error herror⟩
  | duplicate hnormal hseen =>
      refine ⟨?_, hstate.amounts, hstate.distinct, hstate.seen, ?_, ?_⟩
      · rw [List.length_append, hstate.count, List.length_singleton]
        dsimp only
        omega
      · rw [List.filterMap_append]
        exact hstate.ordered.trans (List.sublist_append_left _ _)
      · intro found hfound hinvalid
        obtain hfound | hfound := List.mem_append.mp hfound
        · exact hstate.reported found hfound hinvalid
        · cases List.mem_singleton.mp hfound
          exact absurd hinvalid (hsingle _ hnormal).2
  | @trade trade hnormal hseen htoken husd =>
      refine ⟨?_, ?_, ?_, ?_, ?_, ?_⟩
      · rw [List.length_append, hstate.count, List.length_singleton, List.length_append,
          List.length_singleton]
        dsimp only
        omega
      · intro found hfound
        obtain hfound | hfound := List.mem_append.mp hfound
        · exact hstate.amounts found hfound
        · cases List.mem_singleton.mp hfound
          exact ⟨htoken, husd⟩
      · rw [List.map_append, List.map_singleton]
        refine hstate.distinct.append (List.nodup_singleton _) ?_
        rw [List.disjoint_singleton, ← hstate.seen]
        exact hseen
      · intro key
        rw [List.mem_cons, hstate.seen, List.map_append, List.mem_append, List.map_singleton,
          List.mem_singleton, or_comm]
      · rw [List.filterMap_append, List.filterMap_cons, (hsingle trade hnormal).1]
        exact hstate.ordered.append (List.Sublist.refl [trade])
      · intro found hfound hinvalid
        obtain hfound | hfound := List.mem_append.mp hfound
        · exact hstate.reported found hfound hinvalid
        · cases List.mem_singleton.mp hfound
          exact absurd hinvalid (hsingle _ hnormal).2

theorem importStep_isOk_iff {row : Nat × ImportRow} :
    (∃ next, readers.importStep source state row = .ok next) ↔ RowReadable readers row := by
  obtain ⟨rowNumber, row⟩ := row
  rw [← normalizeRow_isOk_iff source]
  constructor
  · rintro ⟨next, h⟩
    obtain ⟨outcome, hnormal, -⟩ := bind_eq_ok.mp h
    exact ⟨outcome, hnormal⟩
  · rintro ⟨⟨trade, errors⟩, hnormal⟩
    obtain ⟨hne, -⟩ | ⟨hnone, trade', htrade, -⟩ := normalizeRow_spec hnormal
    · exact ⟨_, bind_eq_ok.mpr ⟨_, hnormal, if_pos hne⟩⟩
    · dsimp only at hnone htrade
      subst hnone
      subst htrade
      by_cases hseen : trade'.key ∈ state.seen
      · exact ⟨_, bind_eq_ok.mpr ⟨_, hnormal, if_pos hseen⟩⟩
      · exact ⟨_, bind_eq_ok.mpr ⟨_, hnormal, if_neg hseen⟩⟩

/-! ## Imports -/

/-- An import that accounts for every row. -/
structure Conserving (readers : ImportReaders) (source : String) (rows : List (Nat × ImportRow))
    (result : ImportResult) : Prop where
  total : result.totalRows = rows.length
  valid : result.validRows = result.trades.length
  conserved : result.totalRows = result.validRows + result.invalidRows + result.duplicateRows
  amounts : ∀ trade ∈ result.trades, 0 < trade.tokenAmount ∧ 0 ≤ trade.usdAmount
  distinct : (result.trades.map ImportedTrade.key).Nodup
  ordered : result.trades.Sublist (rows.filterMap (validTrade readers source))
  reported : ∀ row ∈ rows, InvalidRow readers source row →
    ∃ error ∈ result.errors, error.row = row.1

theorem foldlM_isOk_iff {α β ε : Type} {f : β → α → Except ε β} {P : α → Prop}
    (hstep : ∀ b a, (∃ next, f b a = .ok next) ↔ P a) (l : List α) (b : β) :
    (∃ final, l.foldlM f b = .ok final) ↔ ∀ a ∈ l, P a := by
  induction l generalizing b with
  | nil => exact iff_of_true ⟨b, rfl⟩ fun _ h => absurd h List.not_mem_nil
  | cons a l ih =>
      rw [List.foldlM_cons, List.forall_mem_cons]
      constructor
      · rintro ⟨final, h⟩
        obtain ⟨next, hnext, h⟩ := bind_eq_ok.mp h
        exact ⟨(hstep b a).mp ⟨next, hnext⟩, (ih next).mp ⟨final, h⟩⟩
      · rintro ⟨ha, hl⟩
        obtain ⟨next, hnext⟩ := (hstep b a).mpr ha
        obtain ⟨final, hfinal⟩ := (ih next).mpr hl
        exact ⟨final, bind_eq_ok.mpr ⟨next, hnext, hfinal⟩⟩

theorem conserving_parseRows {result : ImportResult}
    (h : readers.parseRows rows source = .ok result) :
    Conserving readers source rows result := by
  obtain ⟨state, hstate, h⟩ := bind_eq_ok.mp h
  cases h
  have hinit : Accounted readers source [] ⟨[], [], [], 0, 0⟩ :=
    ⟨rfl, fun _ h => absurd h List.not_mem_nil, List.nodup_nil, fun _ => Iff.rfl,
      List.Sublist.refl _, fun _ h => absurd h List.not_mem_nil⟩
  have haccounted := foldlM_inv (Accounted readers source)
    (fun done row state next h hinv => accounted_step (importStep_cases h) hinv) hstate hinit
  exact ⟨rfl, rfl, haccounted.count, haccounted.amounts, haccounted.distinct, haccounted.ordered,
    haccounted.reported⟩

theorem parseRows_isOk_iff (source : String) :
    (∃ result, readers.parseRows rows source = .ok result) ↔
      ∀ row ∈ rows, RowReadable readers row := by
  rw [← foldlM_isOk_iff (f := readers.importStep source)
    (fun state row => importStep_isOk_iff) rows ⟨[], [], [], 0, 0⟩]
  constructor
  · rintro ⟨result, h⟩
    obtain ⟨state, hstate, -⟩ := bind_eq_ok.mp h
    exact ⟨state, hstate⟩
  · rintro ⟨state, hstate⟩
    exact ⟨_, bind_eq_ok.mpr ⟨state, hstate, rfl⟩⟩

/-- The rows of a text, where its header has the required columns. -/
def tableRows (readers : ImportReaders) (text : Text) : List (Nat × ImportRow) :=
  match readers.csvTable text with
  | .ok (.rows rows) => rows
  | _ => []

/-- The reader of the standard library raises on no record that is read: on
none at all, or on the header and then on none that follows, unless a
required column is missing. -/
def CsvReadable (readers : ImportReaders) (text : Text) : Prop :=
  match CsvReader.read fieldLimit (strip text) with
  | ([], ended) => ended = none
  | (header :: _, ended) =>
      header = [] ∨ missingRequiredColumns (header.map readers.normalizeHeader) ≠ [] ∨ ended = none

theorem csvTable_isOk_iff {text : Text} :
    (∃ table, readers.csvTable text = .ok table) ↔ CsvReadable readers text := by
  unfold ImportReaders.csvTable CsvReadable
  split
  · next h => simp [h]
  · next h => simp [h]
  · next header records ended h =>
      simp only [h]
      by_cases hheader : header = []
      · simp [hheader]
      · by_cases hmissing : missingRequiredColumns (header.map readers.normalizeHeader) = []
        · cases ended <;> simp [hheader, hmissing]
        · simp [hheader, hmissing]

theorem import_total_iff (readers : ImportReaders) :
    (∀ text, (∃ result, readers.parseCsvTrades text = .ok result ∧
        Conserving readers "imported_csv" (tableRows readers text) result) ↔
      CsvReadable readers text ∧ ∀ row ∈ tableRows readers text, RowReadable readers row) ∧
    ∀ rows, (∃ result, readers.parseJsonTrades rows = .ok result ∧
        Conserving readers "imported_json" (jsonRows rows) result) ↔
      ∀ row ∈ jsonRows rows, RowReadable readers row := by
  refine ⟨fun text => ?_, fun rows => ?_⟩
  · rw [← csvTable_isOk_iff]
    have hempty : ∀ errors, Conserving readers "imported_csv" [] ⟨[], 0, 0, 0, 0, errors⟩ :=
      fun errors => ⟨rfl, rfl, rfl, fun _ h => absurd h List.not_mem_nil, List.nodup_nil,
        List.Sublist.refl _, fun _ h => absurd h List.not_mem_nil⟩
    unfold ImportReaders.parseCsvTrades tableRows
    cases readers.csvTable text with
    | error e => exact iff_of_false (by rintro ⟨_, h, -⟩; cases h) (by rintro ⟨⟨_, h⟩, -⟩; cases h)
    | ok table =>
        cases table with
        | empty => exact iff_of_true ⟨_, rfl, hempty []⟩ ⟨⟨_, rfl⟩, by simp⟩
        | missingColumns columns => exact iff_of_true ⟨_, rfl, hempty _⟩ ⟨⟨_, rfl⟩, by simp⟩
        | rows rows =>
            rw [← parseRows_isOk_iff "imported_csv"]
            constructor
            · rintro ⟨result, h, -⟩
              exact ⟨⟨_, rfl⟩, result, h⟩
            · rintro ⟨-, result, h⟩
              exact ⟨result, h, conserving_parseRows h⟩
  · rw [← parseRows_isOk_iff "imported_json"]
    constructor
    · rintro ⟨result, h, -⟩
      exact ⟨result, h⟩
    · rintro ⟨result, h⟩
      exact ⟨result, h, conserving_parseRows h⟩

/-! ## Imports that raise -/

def tinyExponent : Nat := 999999

/-- A number with the least exponent of the default context. -/
def tinyAmount : ℚ := 1 / 10 ^ tinyExponent

theorem tinyAmount_pos : 0 < tinyAmount := div_pos one_pos (pow_pos (by norm_num) _)

theorem ten_div_tinyAmount : 10 / tinyAmount = (10 : ℚ) ^ (defaultContext.emax + 1) := by
  have hemax : defaultContext.emax + 1 = (tinyExponent : ℤ) + 1 := rfl
  rw [hemax, ContextDecimal.ten_zpow_add, zpow_natCast, zpow_one]
  unfold tinyAmount
  generalize tinyExponent = n
  field_simp

/-- Readers of two numbers. -/
def tinyReaders : ImportReaders where
  lower := id
  decimal text := some (.finite (if text = "1e-999999".toList then tinyAmount else 10))
  shown _ := none

/-- A trade of ten dollars for a tiny amount, without a price. -/
def tinyTrade : List (String × Json) :=
  [("tx_hash", .str "t".toList), ("block_time", .str "2026-05-24".toList),
    ("wallet", .str "w".toList), ("side", .str "buy".toList),
    ("token_amount", .str "1e-999999".toList), ("usd_amount", .str "10".toList)]

theorem tinyTrade_not_readable : ¬ RowReadable tinyReaders (1, Json.get tinyTrade) := by
  rintro ⟨-, hrow⟩
  have h1 : tinyReaders.requiredString (Json.get tinyTrade) "tx_hash" 1 =
      .ok (some "t".toList, []) := rfl
  have h2 : ∃ parsed, tinyReaders.normalizeDatetime (Json.get tinyTrade) 1 =
      .ok (some parsed, []) := ⟨_, rfl⟩
  have h3 : tinyReaders.requiredString (Json.get tinyTrade) "wallet" 1 =
      .ok (some "w".toList, []) := rfl
  have h4 : tinyReaders.normalizeSide (Json.get tinyTrade) 1 = .ok (some .buy, []) := rfl
  have h5 : tinyReaders.requiredDecimal (Json.get tinyTrade) "token_amount" 1 =
      .ok (some tinyAmount, []) := rfl
  have h6 : tinyReaders.requiredDecimal (Json.get tinyTrade) "usd_amount" 1 =
      .ok (some 10, []) := rfl
  have h7 : tinyReaders.optionalDecimal (Json.get tinyTrade) "price_usd" 1 = .ok (none, []) := rfl
  obtain ⟨parsed, h2⟩ := h2
  have hcheck : ∃ errors, tinyReaders.checkRow (Json.get tinyTrade) 1 = .ok ⟨some "t".toList,
      some parsed, some "w".toList, some .buy, some tinyAmount, some 10, none, errors⟩ ∧
      errors = [] := by
    refine ⟨_, bind_eq_ok.mpr ⟨_, h1, bind_eq_ok.mpr ⟨_, h2, bind_eq_ok.mpr ⟨_, h3,
      bind_eq_ok.mpr ⟨_, h4, bind_eq_ok.mpr ⟨_, h5, bind_eq_ok.mpr ⟨_, h6,
        bind_eq_ok.mpr ⟨_, h7, rfl⟩⟩⟩⟩⟩⟩⟩, ?_⟩
    have hten : ¬ ((10 : ℚ) < 0) := by norm_num
    simp [rangeErrors, tinyAmount_pos, hten]
  obtain ⟨errors, hcheck, rfl⟩ := hcheck
  have hvalid := hrow _ hcheck rfl
  have hlimit := hvalid.1 tinyAmount 10 rfl rfl rfl
  rw [ten_div_tinyAmount] at hlimit
  exact absurd hlimit (not_lt.mpr ContextDecimal.Context.limit_bounds.2.le)

/-- A carriage return in a field, and a quotient that overflows. -/
theorem imports_raise :
    (∃ error, tinyReaders.parseCsvTrades ("tx_hash,block_time,wallet,side,token_amount," ++
      "usd_amount\na\rb").toList = .error error) ∧
    ∃ error, tinyReaders.parseJsonTrades [tinyTrade] = .error error := by
  refine ⟨⟨.csv .newlineInField, rfl⟩, ?_⟩
  cases h : tinyReaders.parseJsonTrades [tinyTrade] with
  | error error => exact ⟨error, rfl⟩
  | ok result =>
      have hreadable := (parseRows_isOk_iff "imported_json").mp ⟨result, h⟩
      exact absurd (hreadable (1, Json.get tinyTrade) List.mem_cons_self) tinyTrade_not_readable

end TonTracker
