/-
# `Imports.BitqueryIngested` — when Bitquery trades are ingested

`get_token_trades` returns, with rows true to the trades of the answer that
the analysis counts, exactly where the answer is in range
(`bitquery_ingests_iff`): its bytes decode, its JSON is read or refused as
JSON, no missing price overflows, and the block times and decimals of the
rows are such that the analysis does not raise.  Bytes that are no UTF-8
raise (`undecodable_answer`).
-/
import TonTracker.Adapters.Bitquery
import TonTracker.Imports.AnalysisRange
import TonTracker.Pnl.AssetIdentity

namespace TonTracker

open ExceptFold (bind_eq_ok)

variable (readers : BitqueryReaders)

/-! ## What is wanted -/

/-- The number of a value, where it is finite. -/
def BitqueryReaders.numberOf (value : Json) : Option ℚ :=
  match (readers.stringValue value).bind readers.decimal with
  | some (.finite number) => some number
  | _ => none

/-- A row that is true to a trade. -/
structure TrueRow (target : Text) (raw : Json) (row : BitqueryTrade) : Prop where
  tokenAmount : 0 < row.tokenAmount
  usdAmount : 0 ≤ row.usdAmount
  side : row.side = .buy ↔ readers.stringValue (firstValue raw buyTokenPaths) = some target
  wallet : readers.stringValue (firstValue raw row.side.paths.wallet) = some row.wallet
  amount : readers.numberOf (firstValue raw row.side.paths.amount) = some row.tokenAmount

/-- The bytes are an answer with these trades. -/
def BitqueryReaders.AnswersWith (body : ByteArray) (trades : List Json) : Prop :=
  ∃ text payload data, String.fromUTF8? body = some text ∧
    readers.loads text.toList = .value payload ∧ readers.graphqlData payload = .ok data ∧
    responseTrades data = .ok trades

/-- A result is returned; rows are those of the trades of the answer, one
each and in order, and the analysis counts them. -/
def BitqueryReaders.Ingests (tokenAddress : Text) (body : ByteArray) (previewLimit : Nat) : Prop :=
  ∃ result, readers.getTokenTrades tokenAddress body = .ok result ∧ ∀ rows, result = .ok rows →
    (∃ trades, readers.AnswersWith body trades ∧
      List.Forall₂ (TrueRow readers (strip tokenAddress)) trades rows) ∧
    ∃ analysis, analyzeBitqueryTrades rows previewLimit = .ok (.success rows.length analysis)

/-! ## When it is so -/

/-- The bytes decode, and their JSON is read or refused as JSON. -/
def BitqueryReaders.JsonRead (body : ByteArray) : Prop :=
  ∃ text, String.fromUTF8? body = some text ∧
    (readers.loads text.toList = .decodeError ∨
      ∃ payload, readers.loads text.toList = .value payload)

/-- No price that a trade leaves out overflows, in the trades that are
reached. -/
def BitqueryReaders.PricesInRange (tokenAddress : Text) (trades : List Json) : Prop :=
  ∀ done fields rest reading, trades = done ++ .obj fields :: rest →
    (∀ entry ∈ done.zipIdx, ∃ row, readers.normalizeAt tokenAddress entry = .ok row) →
    readers.readTrade (.obj fields) (strip tokenAddress) = .ok reading → reading.priceUsd = none →
    |reading.usdAmount / reading.tokenAmount| < defaultContext.limit

/-- The block times of some rows are datetimes, those of a wallet compare,
and no decimal of the analysis overflows. -/
def RowsAnalyzable (rows : List BitqueryTrade) (previewLimit : Nat) : Prop :=
  ∃ trades, List.Forall₂ (fun row trade => BitqueryTrade.imported row = .ok trade) rows trades ∧
    sameAwareness trades = true ∧ AnalysisInRange trades previewLimit

/-- An answer from which nothing raises. -/
structure BitqueryReaders.AnswerInRange (tokenAddress : Text) (body : ByteArray)
    (previewLimit : Nat) : Prop where
  json : readers.JsonRead body
  prices : ∀ trades, readers.AnswersWith body trades → readers.PricesInRange tokenAddress trades
  rows : ∀ trades rows, readers.AnswersWith body trades →
    trades.zipIdx.mapM (readers.normalizeAt tokenAddress) = .ok rows →
    RowsAnalyzable rows previewLimit

variable {readers}

/-! ## Texts -/

/-- A text as `strip` leaves it, and not empty. -/
def Cleaned (text : Text) : Prop := text ≠ [] ∧ strip text = text

theorem cleaned_strip {text : Text} (h : strip text ≠ []) : Cleaned (strip text) :=
  ⟨h, strip_strip text⟩

theorem cleaned_of_strip {text cleaned : Text}
    (h : (if strip text = [] then none else some (strip text)) = some cleaned) :
    Cleaned cleaned := by
  split at h
  · cases h
  · next hne =>
      cases h
      exact cleaned_strip hne

theorem cleanedText_eq {text : Text} (h : Cleaned text) : cleanedText text = some text := by
  unfold cleanedText
  rw [h.2, if_neg h.1]

mutual

theorem cleaned_stringValue : ∀ (value : Json) {text : Text},
    readers.stringValue value = some text → Cleaned text
  | .null, _, h => nomatch h
  | .obj fields, text, h => by
      unfold BitqueryReaders.stringValue at h
      obtain ⟨key, -, hkey⟩ := List.exists_of_findSome?_eq_some h
      obtain ⟨before, after, hsplit, -⟩ := List.lookup_eq_some_iff.mp
        (Option.join_eq_some_iff.mp hkey)
      exact cleaned_stringValues fields (key, some text)
        (hsplit ▸ List.mem_append_right _ List.mem_cons_self) rfl
  | .str s, _, h => cleaned_of_strip h
  | .bool b, _, h => cleaned_of_strip h
  | .int i, _, h => cleaned_of_strip h
  | .float literal, _, h => cleaned_of_strip h
  | .arr xs, _, h => cleaned_of_strip h

theorem cleaned_stringValues : ∀ (fields : List (String × Json)) (entry : String × Option Text),
    entry ∈ readers.stringValues fields → ∀ {text : Text}, entry.2 = some text → Cleaned text
  | [], _, h, _, _ => nomatch h
  | (key, value) :: fields, entry, h, text, htext => by
      unfold BitqueryReaders.stringValues at h
      obtain rfl | h := List.mem_cons.mp h
      · exact cleaned_stringValue value htext
      · exact cleaned_stringValues fields entry h htext

end

/-! ## One trade -/

variable {raw value : Json} {target : Text} {reading : TradeReading} {row : BitqueryTrade}

theorem requiredText_eq_ok {field : String} {paths : List (List String)} {text : Text}
    (h : readers.requiredText raw field paths = .ok text) :
    readers.stringValue (firstValue raw paths) = some text := by
  unfold BitqueryReaders.requiredText at h
  split at h
  · cases h
  · next heq =>
      cases h
      exact heq

theorem decimalValue_eq_ok {field : String} {allowZero : Bool} {number : ℚ}
    (h : readers.decimalValue value field allowZero = .ok number) :
    readers.numberOf value = some number ∧ 0 ≤ number ∧ (allowZero = false → 0 < number) := by
  unfold BitqueryReaders.decimalValue at h
  unfold BitqueryReaders.numberOf
  cases htext : readers.stringValue value with
  | none =>
      rw [htext] at h
      cases h
  | some text =>
      rw [htext] at h
      dsimp only at h
      rw [Option.bind_some]
      cases hparsed : readers.decimal text with
      | none =>
          rw [hparsed] at h
          cases h
      | some parsed =>
          rw [hparsed] at h
          cases parsed with
          | finite parsed =>
              dsimp only at h
              split at h
              · cases h
              · next hvalid =>
                  cases h
                  push Not at hvalid
                  refine ⟨rfl, hvalid.1, fun hzero => lt_of_le_of_ne hvalid.1 fun heq => ?_⟩
                  exact hvalid.2 heq.symm hzero
          | infinite negative => cases h
          | quietNaN => cases h
          | signalingNaN => cases h

/-- What the reading of a trade has. -/
theorem readTrade_eq_ok (h : readers.readTrade raw target = .ok reading) :
    (reading.side = .buy ↔ readers.stringValue (firstValue raw buyTokenPaths) = some target) ∧
    readers.stringValue (firstValue raw reading.side.paths.wallet) = some reading.wallet ∧
    readers.numberOf (firstValue raw reading.side.paths.amount) = some reading.tokenAmount ∧
    0 < reading.tokenAmount ∧ 0 ≤ reading.usdAmount := by
  obtain ⟨side, hside, h⟩ := bind_eq_ok.mp h
  obtain ⟨wallet, hwallet, h⟩ := bind_eq_ok.mp h
  obtain ⟨token, htoken, h⟩ := bind_eq_ok.mp h
  obtain ⟨usd, husd, h⟩ := bind_eq_ok.mp h
  obtain ⟨price, -, h⟩ := bind_eq_ok.mp h
  cases h
  obtain ⟨hnumber, -, hpos⟩ := decimalValue_eq_ok htoken
  refine ⟨?_, requiredText_eq_ok hwallet, hnumber, hpos rfl, (decimalValue_eq_ok husd).2.1⟩
  obtain ⟨buyToken, hbuy, hside⟩ := bind_eq_ok.mp hside
  obtain ⟨sellToken, -, hside⟩ := bind_eq_ok.mp hside
  rw [requiredText_eq_ok hbuy]
  split at hside
  · next heq =>
      cases hside
      exact iff_of_true rfl (congrArg some heq)
  · next hne =>
      split at hside
      · cases hside
        exact iff_of_false (fun heq => nomatch heq) fun heq => hne (Option.some.inj heq)
      · cases hside

/-- A price that is left out is in range. -/
def TradeReading.PriceInRange (reading : TradeReading) : Prop :=
  reading.priceUsd = none →
    |reading.usdAmount / reading.tokenAmount| < defaultContext.limit

theorem exists_price_iff :
    (∃ price, reading.price = .ok price) ↔ reading.PriceInRange := by
  unfold TradeReading.price TradeReading.PriceInRange
  cases hprice : reading.priceUsd with
  | some price => exact iff_of_true ⟨price, rfl⟩ fun h => nomatch h
  | none =>
      rw [← exists_round_iff]
      cases hround : defaultContext.round (reading.usdAmount / reading.tokenAmount) with
      | ok price => exact iff_of_true ⟨price, rfl⟩ fun _ => ⟨price, rfl⟩
      | error signal => exact iff_of_false (fun ⟨_, h⟩ => nomatch h) fun h => nomatch (h rfl)

/-- A price that is not settled is no `ValueError`. -/
theorem price_eq_error {raised : TradeError} (h : reading.price = .error raised) :
    ∃ signal, raised = .decimal signal := by
  unfold TradeReading.price at h
  split at h
  · cases h
  · cases hround : defaultContext.round (reading.usdAmount / reading.tokenAmount) with
    | ok price =>
        rw [hround] at h
        cases h
    | error signal =>
        rw [hround] at h
        cases h
        exact ⟨signal, rfl⟩

/-- The texts of a row as `strip` leaves them. -/
structure CleanRow (row : BitqueryTrade) : Prop where
  txHash : Cleaned row.txHash
  blockTime : Cleaned row.blockTime
  wallet : Cleaned row.wallet
  poolAddress : ∀ text ∈ row.poolAddress, Cleaned text
  dex : ∀ text ∈ row.dex, Cleaned text

theorem stringValue_target (h : strip target ≠ []) :
    readers.stringValue (.str target) = some (strip target) := by
  show (if strip target = [] then none else some (strip target)) = _
  exact if_neg h

theorem mapError_eq_ok {ε ε' α : Type} {f : ε → ε'} {x : Except ε α} {a : α}
    (h : x.mapError f = .ok a) : x = .ok a := by
  cases x with
  | error e => cases h
  | ok b => exact congrArg Except.ok (Except.ok.inj h)

/-- A row that is returned. -/
theorem normalizeTrade_eq_ok (htarget : strip target ≠ [])
    (h : readers.normalizeTrade raw target = .ok row) :
    TrueRow readers (strip target) raw row ∧ CleanRow row := by
  unfold BitqueryReaders.normalizeTrade at h
  rw [stringValue_target htarget] at h
  obtain ⟨reading, hreading, h⟩ := bind_eq_ok.mp h
  obtain ⟨price, -, h⟩ := bind_eq_ok.mp h
  obtain ⟨txHash, htxHash, h⟩ := bind_eq_ok.mp h
  obtain ⟨blockTime, hblockTime, h⟩ := bind_eq_ok.mp h
  obtain ⟨hside, hwallet, hamount, htoken, husd⟩ := readTrade_eq_ok (mapError_eq_ok hreading)
  cases h
  exact ⟨⟨htoken, husd, hside, hwallet, hamount⟩,
    cleaned_stringValue _ (requiredText_eq_ok (mapError_eq_ok htxHash)),
    cleaned_stringValue _ (requiredText_eq_ok (mapError_eq_ok hblockTime)),
    cleaned_stringValue _ hwallet, fun _ h => cleaned_stringValue _ h,
    fun _ h => cleaned_stringValue _ h⟩

/-- What is raised that is no `ValueError`: an overflow of the price. -/
theorem normalizeTrade_raises_iff (htarget : strip target ≠ []) :
    (∃ signal, readers.normalizeTrade raw target = .error (.decimal signal)) ↔
      ∃ reading, readers.readTrade raw (strip target) = .ok reading ∧ ¬ reading.PriceInRange := by
  unfold BitqueryReaders.normalizeTrade
  rw [stringValue_target htarget]
  dsimp only
  cases hreading : readers.readTrade raw (strip target) with
  | error message => exact iff_of_false (fun ⟨_, h⟩ => nomatch h) fun ⟨_, h, _⟩ => nomatch h
  | ok reading =>
      have hrange : (∃ found, Except.ok (ε := Text) reading = .ok found ∧ ¬ found.PriceInRange) ↔
          ¬ reading.PriceInRange :=
        ⟨fun ⟨_, heq, h⟩ => Except.ok.inj heq ▸ h, fun h => ⟨reading, rfl, h⟩⟩
      rw [hrange, ← exists_price_iff]
      show (∃ signal, (reading.price >>= fun price => _) = .error (.decimal signal)) ↔ _
      cases hprice : reading.price with
      | error raised =>
          obtain ⟨signal, rfl⟩ := price_eq_error hprice
          exact iff_of_true ⟨signal, rfl⟩ fun ⟨_, h⟩ => nomatch h
      | ok price =>
          refine iff_of_false ?_ fun h => h ⟨price, rfl⟩
          rintro ⟨signal, h⟩
          rw [ExceptFold.ok_bind] at h
          cases htxHash : readers.requiredText raw "transaction hash" [["Transaction", "Hash"],
              ["transaction", "hash"], ["tx_hash"], ["transaction_hash"]] with
          | error message =>
              rw [htxHash] at h
              cases h
          | ok txHash =>
              rw [htxHash] at h
              cases hblockTime : readers.requiredText raw "block time" [["Block", "Time"],
                  ["block", "timestamp", "time"], ["block_time"], ["timestamp"]] with
              | error message =>
                  rw [hblockTime] at h
                  cases h
              | ok blockTime =>
                  rw [hblockTime] at h
                  cases h

/-! ## All trades -/

variable {entry : Json × Nat} {trades : List Json} {rows : List BitqueryTrade}

theorem normalizeAt_eq_ok (htarget : strip target ≠ [])
    (h : readers.normalizeAt target entry = .ok row) :
    TrueRow readers (strip target) entry.1 row ∧ CleanRow row := by
  obtain ⟨raw, index⟩ := entry
  unfold BitqueryReaders.normalizeAt at h
  dsimp only at h
  cases raw with
  | obj fields =>
      dsimp only at h
      split at h
      · cases h
      · exact normalizeTrade_eq_ok htarget h
  | _ => cases h

theorem normalizeAt_raises_iff (htarget : strip target ≠ []) :
    (∃ signal, readers.normalizeAt target entry = .error (.decimal signal)) ↔
      ∃ fields reading, entry.1 = .obj fields ∧
        readers.readTrade (.obj fields) (strip target) = .ok reading ∧ ¬ reading.PriceInRange := by
  obtain ⟨raw, index⟩ := entry
  unfold BitqueryReaders.normalizeAt
  cases raw with
  | obj fields =>
      have hfields : (∃ found reading, Json.obj fields = .obj found ∧
          readers.readTrade (.obj found) (strip target) = .ok reading ∧ ¬ reading.PriceInRange) ↔
          ∃ reading, readers.readTrade (.obj fields) (strip target) = .ok reading ∧
            ¬ reading.PriceInRange :=
        ⟨fun ⟨_, reading, heq, h⟩ => Json.obj.inj heq ▸ ⟨reading, h⟩,
          fun ⟨reading, h⟩ => ⟨fields, reading, rfl, h⟩⟩
      rw [hfields, ← normalizeTrade_raises_iff htarget]
      dsimp only
      split
      · next message hmessage =>
          rw [hmessage]
          exact iff_of_false (fun ⟨_, h⟩ => nomatch h) fun ⟨_, h⟩ => nomatch h
      · exact Iff.rfl
  | _ => exact iff_of_false (fun ⟨_, h⟩ => nomatch h) fun ⟨_, _, h, _⟩ => nomatch h

/-- A loop raises what its first round that raises does. -/
theorem mapM_eq_error_iff {ε α β : Type} {f : α → Except ε β} {l : List α} {raised : ε} :
    l.mapM f = .error raised ↔ ∃ done a rest, l = done ++ a :: rest ∧
      (∀ b ∈ done, ∃ value, f b = .ok value) ∧ f a = .error raised := by
  induction l with
  | nil => exact iff_of_false (fun h => nomatch h) fun ⟨done, a, rest, h, _⟩ => by simp at h
  | cons a l ih =>
      rw [List.mapM_cons]
      cases hvalue : f a with
      | error e =>
          constructor
          · intro h
            cases h
            exact ⟨[], a, l, rfl, fun _ h => absurd h List.not_mem_nil, hvalue⟩
          · rintro ⟨done, b, rest, heq, hdone, hraised⟩
            cases done with
            | nil =>
                cases heq
                exact congrArg Except.error (Except.error.inj (hvalue.symm.trans hraised))
            | cons c done =>
                cases heq
                obtain ⟨value, hok⟩ := hdone a List.mem_cons_self
                cases hvalue.symm.trans hok
      | ok value =>
          have htail : (Except.ok value >>= fun value => l.mapM f >>= fun values =>
              pure (value :: values)) = .error raised ↔ l.mapM f = .error raised := by
            rw [ExceptFold.ok_bind]
            cases l.mapM f with
            | error e => exact ⟨fun h => congrArg _ (Except.error.inj h), fun h =>
                congrArg _ (Except.error.inj h)⟩
            | ok values => exact iff_of_false (fun h => nomatch h) fun h => nomatch h
          rw [htail, ih]
          constructor
          · rintro ⟨done, b, rest, rfl, hdone, hraised⟩
            exact ⟨a :: done, b, rest, rfl, List.forall_mem_cons.mpr ⟨⟨value, hvalue⟩, hdone⟩,
              hraised⟩
          · rintro ⟨done, b, rest, heq, hdone, hraised⟩
            cases done with
            | nil =>
                cases heq
                cases hvalue.symm.trans hraised
            | cons c done =>
                cases heq
                exact ⟨done, b, rest, rfl, (List.forall_mem_cons.mp hdone).2, hraised⟩

/-- The loop over the trades raises no `ValueError` exactly where a price
overflows. -/
theorem trades_raise_iff (htarget : strip target ≠ []) :
    (∃ signal, trades.zipIdx.mapM (readers.normalizeAt target) = .error (.decimal signal)) ↔
      ¬ readers.PricesInRange target trades := by
  unfold BitqueryReaders.PricesInRange
  push Not
  constructor
  · rintro ⟨signal, h⟩
    obtain ⟨done, ⟨raw, index⟩, rest, hsplit, hdone, hraised⟩ := mapM_eq_error_iff.mp h
    obtain ⟨before, after, rfl, rfl, hafter⟩ := List.zipIdx_eq_append_iff.mp hsplit
    obtain ⟨fields, reading, rfl, hreading, hprice⟩ :=
      (normalizeAt_raises_iff htarget).mp ⟨signal, hraised⟩
    cases after with
    | nil => cases hafter
    | cons raw after =>
        rw [List.zipIdx_cons] at hafter
        cases hafter
        unfold TradeReading.PriceInRange at hprice
        push Not at hprice
        exact ⟨before, fields, after, reading, rfl, hdone, hreading, hprice⟩
  · rintro ⟨done, fields, rest, reading, rfl, hdone, hreading, hnone, hprice⟩
    have hraises : ∃ signal, readers.normalizeAt target (.obj fields, done.length) =
        .error (.decimal signal) := (normalizeAt_raises_iff htarget).mpr
      ⟨fields, reading, rfl, hreading, fun h => absurd (h hnone) (not_lt.mpr hprice)⟩
    obtain ⟨signal, hraised⟩ := hraises
    refine ⟨signal, mapM_eq_error_iff.mpr ⟨done.zipIdx, (.obj fields, done.length),
      rest.zipIdx (done.length + 1), ?_, hdone, hraised⟩⟩
    rw [List.zipIdx_append, List.zipIdx_cons, Nat.zero_add]

/-- The rows are those of the trades. -/
theorem trueRows (htarget : strip target ≠ [])
    (h : trades.zipIdx.mapM (readers.normalizeAt target) = .ok rows) :
    List.Forall₂ (TrueRow readers (strip target)) trades rows ∧ ∀ row ∈ rows, CleanRow row := by
  have hall := ExceptFold.mapM_eq_ok.mp h
  have hrows : List.Forall₂ (fun entry row => TrueRow readers (strip target) entry.1 row ∧
      CleanRow row) trades.zipIdx rows := hall.imp fun _ _ h => normalizeAt_eq_ok htarget h
  constructor
  · have htrades := List.forall₂_map_left_iff (f := Prod.fst).mpr (hrows.imp fun _ _ h => h.1)
    rwa [List.zipIdx_map_fst] at htrades
  · intro row hrow
    obtain ⟨entry, -, hentry⟩ := (Fibers.mem_of_forall₂ hrows).1 row hrow
    exact hentry.2

/-! ## The answer -/

theorem answersWith_unique {body : ByteArray} {trades' : List Json}
    (h : readers.AnswersWith body trades) (h' : readers.AnswersWith body trades') :
    trades = trades' := by
  obtain ⟨text, payload, data, htext, hpayload, hdata, htrades⟩ := h
  obtain ⟨text', payload', data', htext', hpayload', hdata', htrades'⟩ := h'
  cases htext.symm.trans htext'
  cases hpayload.symm.trans hpayload'
  cases hdata.symm.trans hdata'
  exact Except.ok.inj (htrades.symm.trans htrades')

/-- What is made of the trades of an answer. -/
def tradesResult (trades : Except TradeError (List BitqueryTrade)) :
    Except BitqueryRaised (Except BitqueryFailure (List BitqueryTrade)) :=
  match trades with
  | .ok trades => .ok (.ok trades)
  | .error (.valueError message) => .ok (.error
      (bitqueryError ("Bitquery normalization error: ".toList ++ message ++ ['.'])))
  | .error (.decimal signal) => .error (.decimal signal)

/-- An answer is not read, has no trades, or has them. -/
theorem getTokenTrades_cases (readers : BitqueryReaders) (body : ByteArray)
    (htarget : strip target ≠ []) :
    (¬ readers.JsonRead body ∧ ∃ raised, readers.getTokenTrades target body = .error raised) ∨
    (readers.JsonRead body ∧ (∀ trades, ¬ readers.AnswersWith body trades) ∧
      ∃ failure, readers.getTokenTrades target body = .ok (.error failure)) ∨
    (readers.JsonRead body ∧ ∃ trades, readers.AnswersWith body trades ∧
      readers.getTokenTrades target body =
        tradesResult (trades.zipIdx.mapM (readers.normalizeAt target))) := by
  unfold BitqueryReaders.getTokenTrades BitqueryReaders.executeGraphql
  rw [if_neg htarget]
  cases hbytes : String.fromUTF8? body with
  | none => exact .inl ⟨fun ⟨_, htext, _⟩ => (nomatch hbytes.symm.trans htext), _, rfl⟩
  | some text =>
      dsimp only
      have htext : ∀ {text'}, String.fromUTF8? body = some text' → text = text' := fun h =>
        Option.some.inj (hbytes.symm.trans h)
      cases hloads : readers.loads text.toList with
      | valueError =>
          refine .inl ⟨?_, _, rfl⟩
          rintro ⟨text', heq, h | ⟨payload, h⟩⟩ <;> cases htext heq <;> cases hloads.symm.trans h
      | recursionError =>
          refine .inl ⟨?_, _, rfl⟩
          rintro ⟨text', heq, h | ⟨payload, h⟩⟩ <;> cases htext heq <;> cases hloads.symm.trans h
      | decodeError =>
          refine .inr (.inl ⟨⟨text, hbytes, .inl hloads⟩, ?_, _, rfl⟩)
          rintro trades ⟨text', payload, data, heq, h, -⟩
          cases htext heq
          cases hloads.symm.trans h
      | value payload =>
          have hread : readers.JsonRead body := ⟨text, hbytes, .inr ⟨payload, hloads⟩⟩
          dsimp only
          cases hdata : readers.graphqlData payload with
          | error failure =>
              refine .inr (.inl ⟨hread, ?_, _, rfl⟩)
              rintro trades ⟨text', payload', data, heq, hpayload, h, -⟩
              cases htext heq
              cases hloads.symm.trans hpayload
              cases hdata.symm.trans h
          | ok data =>
              unfold BitqueryReaders.normalizeResponse
              dsimp only
              cases htrades : responseTrades data with
              | error message =>
                  refine .inr (.inl ⟨hread, ?_, _, rfl⟩)
                  rintro trades ⟨text', payload', data', heq, hpayload, h, h'⟩
                  cases htext heq
                  cases hloads.symm.trans hpayload
                  cases hdata.symm.trans h
                  cases htrades.symm.trans h'
              | ok trades =>
                  refine .inr (.inr ⟨hread, trades,
                    ⟨text, payload, data, hbytes, hloads, hdata, htrades⟩, ?_⟩)
                  show (match trades.zipIdx.mapM (readers.normalizeAt target) with
                    | .ok trades => _
                    | .error (.valueError message) => _
                    | .error (.decimal signal) => _) = _
                  unfold tradesResult
                  rfl

/-! ## The analysis -/

theorem bind_cleanedText {text : Option Text} (h : ∀ t ∈ text, Cleaned t) :
    text.bind cleanedText = text := by
  cases text with
  | none => rfl
  | some t => exact cleanedText_eq (h t rfl)

theorem analysisTrade_eq (h : CleanRow row) (index : Nat) :
    analysisTrade (row, index) = .ok row := by
  unfold analysisTrade requiredAnalysisText
  dsimp only
  rw [cleanedText_eq h.txHash, cleanedText_eq h.blockTime, cleanedText_eq h.wallet,
    bind_cleanedText h.poolAddress, bind_cleanedText h.dex]
  rfl

/-- The rows are analyzed as they were returned. -/
theorem mapM_analysisTrade (h : ∀ row ∈ rows, CleanRow row) :
    rows.zipIdx.mapM analysisTrade = .ok rows := by
  rw [ExceptFold.mapM_eq_ok]
  generalize 0 = index
  induction rows generalizing index with
  | nil => exact .nil
  | cons row rows ih =>
      rw [List.forall_mem_cons] at h
      rw [List.zipIdx_cons]
      exact .cons (analysisTrade_eq h.1 index) (ih h.2 (index + 1))

theorem amounts_of_imported {trade : ImportedTrade} (h : row.imported = .ok trade) :
    trade.tokenAmount = row.tokenAmount ∧ trade.usdAmount = row.usdAmount := by
  unfold BitqueryTrade.imported at h
  split at h
  · cases h
  · cases h
    exact ⟨rfl, rfl⟩

/-- The analysis of rows as they are returned. -/
theorem exists_analyzed_iff (clean : ∀ row ∈ rows, CleanRow row)
    (nonneg : ∀ row ∈ rows, 0 ≤ row.tokenAmount ∧ 0 ≤ row.usdAmount) (previewLimit : Nat) :
    (∃ analysis, analyzeBitqueryTrades rows previewLimit = .ok (.success rows.length analysis)) ↔
      RowsAnalyzable rows previewLimit := by
  have hamounts : ∀ {trades}, List.Forall₂ (fun row trade => BitqueryTrade.imported row =
      .ok trade) rows trades → AmountsNonneg trades := by
    intro trades hall trade htrade
    obtain ⟨row, hrow, himported⟩ := (Fibers.mem_of_forall₂ hall).1 trade htrade
    obtain ⟨htoken, husd⟩ := amounts_of_imported himported
    rw [htoken, husd]
    exact nonneg row hrow
  unfold analyzeBitqueryTrades
  rw [mapM_analysisTrade clean]
  dsimp only
  constructor
  · rintro ⟨analysis, h⟩
    obtain ⟨trades, htrades, h⟩ := bind_eq_ok.mp h
    have hall := ExceptFold.mapM_eq_ok.mp htrades
    split at h
    · cases h
    · next haware =>
        obtain ⟨found, hfound, -⟩ := bind_eq_ok.mp h
        exact ⟨trades, hall, Bool.eq_true_of_not_eq_false haware,
          (exists_analysis_iff _ previewLimit "bitquery" (hamounts hall)).mp
            ⟨found, mapError_eq_ok hfound⟩⟩
  · rintro ⟨trades, hall, haware, hrange⟩
    obtain ⟨analysis, hanalysis⟩ := (exists_analysis_iff
      ⟨trades, trades.length, trades.length, 0, 0, []⟩ previewLimit "bitquery"
      (hamounts hall)).mpr hrange
    refine ⟨analysis, bind_eq_ok.mpr ⟨trades, ExceptFold.mapM_eq_ok.mpr hall, ?_⟩⟩
    rw [if_neg (by rw [haware]; decide), hanalysis]
    rfl

/-! ## Ingestion -/

/-- What is wanted holds exactly where the token is blank, which sends no
request, or the answer is in range. -/
theorem bitquery_ingests_iff (readers : BitqueryReaders) (tokenAddress : Text) (body : ByteArray)
    (previewLimit : Nat) : readers.Ingests tokenAddress body previewLimit ↔
      strip tokenAddress = [] ∨ readers.AnswerInRange tokenAddress body previewLimit := by
  by_cases htarget : strip tokenAddress = []
  · refine iff_of_true ⟨_, if_pos htarget, fun rows h => nomatch h⟩ (.inl htarget)
  rw [or_iff_right htarget]
  obtain ⟨hread, raised, heq⟩ | ⟨hread, hnone, failure, heq⟩ | ⟨hread, trades, htrades, heq⟩ :=
    getTokenTrades_cases readers body htarget
  · refine iff_of_false ?_ fun h => hread h.json
    rintro ⟨result, hresult, -⟩
    cases heq.symm.trans hresult
  · refine iff_of_true ⟨_, heq, fun rows h => nomatch h⟩ ⟨hread, ?_, ?_⟩
    · exact fun trades h => absurd h (hnone trades)
    · exact fun trades _ h => absurd h (hnone trades)
  · have hunique : ∀ {trades'}, readers.AnswersWith body trades' → trades' = trades := fun h =>
      answersWith_unique h htrades
    unfold BitqueryReaders.Ingests
    rw [heq]
    constructor
    · rintro ⟨result, hresult, hrows⟩
      refine ⟨hread, fun trades' h => ?_, fun trades' rows h hok => ?_⟩
      · rw [hunique h]
        by_contra hprices
        obtain ⟨signal, hraised⟩ := (trades_raise_iff htarget).mpr hprices
        rw [hraised] at hresult
        cases hresult
      · rw [hunique h] at hok
        rw [hok] at hresult
        cases hresult
        obtain ⟨htrue, hclean⟩ := trueRows htarget hok
        refine (exists_analyzed_iff hclean (fun row hrow => ?_) previewLimit).mp (hrows rows rfl).2
        obtain ⟨raw, -, h⟩ := (Fibers.mem_of_forall₂ htrue).1 row hrow
        exact ⟨h.tokenAmount.le, h.usdAmount⟩
    · rintro ⟨-, hprices, hrows⟩
      cases hok : trades.zipIdx.mapM (readers.normalizeAt tokenAddress) with
      | error raised =>
          cases raised with
          | valueError message => exact ⟨_, rfl, fun rows h => nomatch h⟩
          | decimal signal =>
              exact absurd (hprices trades htrades) ((trades_raise_iff htarget).mp ⟨signal, hok⟩)
      | ok rows =>
          obtain ⟨htrue, hclean⟩ := trueRows htarget hok
          refine ⟨_, rfl, fun rows' h => ?_⟩
          cases h
          refine ⟨⟨trades, htrades, htrue⟩,
            (exists_analyzed_iff hclean (fun row hrow => ?_) previewLimit).mpr
              (hrows trades rows htrades hok)⟩
          obtain ⟨raw, -, h⟩ := (Fibers.mem_of_forall₂ htrue).1 row hrow
          exact ⟨h.tokenAmount.le, h.usdAmount⟩

/-! ## Bytes that are no UTF-8 -/

/-- Readers for which every text is JSON `null`. -/
def nullReaders : BitqueryReaders where
  loads _ := .value .null
  shown _ := []
  decimal _ := none
  lower text := text
  redacted text := text
  shownTexts _ := []

/-- The answer of one byte `0xff`. -/
theorem undecodable_answer : ¬ nullReaders.Ingests ['t'] ⟨#[0xff]⟩ 10 := by
  rintro ⟨result, h, -⟩
  have hraised : nullReaders.getTokenTrades ['t'] ⟨#[0xff]⟩ = .error .unicodeDecodeError := by
    unfold BitqueryReaders.getTokenTrades BitqueryReaders.executeGraphql
    rw [if_neg (by decide), show String.fromUTF8? ⟨#[0xff]⟩ = none by decide]
  cases hraised.symm.trans h

end TonTracker
