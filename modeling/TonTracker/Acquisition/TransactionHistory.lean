/-
# `Acquisition.TransactionHistory` — one page of an account's history

The account's transactions as a provider holds them, what it is for a
provider to honour `before_lt` paging, and one pass of the transaction
loop against such a provider: the pass takes the page in whole, accepts
exactly the rows inside the interval, and leaves the loop in front of the
rows the page left (`transactionPass_page`).
-/
import TonTracker.Lib.DescendingLog
import TonTracker.Lib.ExceptFold
import TonTracker.Adapters.TransactionStream

namespace TonTracker

open DescendingLog

/-- A transaction of the account: the provider's object, the row it reads
as, and its time. -/
structure AccountTransaction where
  raw : List (String × Json)
  row : Transaction
  timestamp : Instant
  normalizes : normalizeTransaction raw = .ok row
  timed : transactionTimestamp row.utime = some timestamp

namespace AccountTransaction

def key (a : AccountTransaction) : Nat := a.row.logicalTime.val

end AccountTransaction

/-- An account's transactions, newest first. -/
abbrev TransactionHistory :=
  DescendingLog AccountTransaction Instant AccountTransaction.key AccountTransaction.timestamp

/-- The rows of a list of transactions. -/
abbrev rowsOf (page : List AccountTransaction) : List Transaction := page.map (·.row)

/-- The history's order on its transactions. -/
abbrev Descends (page : List AccountTransaction) : Prop :=
  page.Pairwise fun a b => b.key < a.key ∧ b.timestamp ≤ a.timestamp

/-- The payload lists these transactions. -/
def ListsTransactions (payload : Json) (page : List AccountTransaction) : Prop :=
  ∃ fields, payload = .obj fields ∧
    Json.get fields "transactions" = .arr (page.map fun a => .obj a.raw)

/-- The provider honours `before_lt` paging: every answer it gives lists
some newest transactions below the cursor, no more than asked for, and
none only when there are none.  It may also fail. -/
def ServesTransactions (history : TransactionHistory)
    (fetchJson : Nat → TransactionsQuery → ProviderResult Json) : Prop :=
  ∀ n query payload, 1 ≤ query.limit → fetchJson n query = .ok payload →
    ∃ page rest, history.below (query.beforeLt.map (·.val)) = page ++ rest ∧
      page.length ≤ query.limit ∧ (page = [] → rest = []) ∧ ListsTransactions payload page

/-- The provider answers every request. -/
def Answers {Q : Type} (fetchJson : Nat → Q → ProviderResult Json) : Prop :=
  ∀ n query, ∃ payload, fetchJson n query = .ok payload

/-- The provider that answers each request with as many transactions as it
asks for. -/
def pagingProvider (history : TransactionHistory) (_ : Nat) (query : TransactionsQuery) :
    ProviderResult Json :=
  .ok (.obj [("transactions",
    .arr (((history.below (query.beforeLt.map (·.val))).take query.limit).map
      fun a => .obj a.raw))])

theorem pagingProvider_serves (history : TransactionHistory) :
    ServesTransactions history (pagingProvider history) := by
  intro n query payload hlimit h
  cases h
  refine ⟨_, _, (List.take_append_drop query.limit _).symm, List.length_take_le _ _, ?_, _, rfl,
    rfl⟩
  intro hempty
  rcases List.take_eq_nil_iff.mp hempty with h0 | hnil
  · omega
  · rw [hnil, List.drop_nil]

theorem pagingProvider_answers (history : TransactionHistory) :
    Answers (pagingProvider history) :=
  fun _ _ => ⟨_, rfl⟩

/-! ## Reading a page -/

theorem isHex256_of_normalizes {raw : List (String × Json)} {row : Transaction}
    (h : normalizeTransaction raw = .ok row) : isHex256 row.txHash = true := by
  cases hhash : hex256 (Json.get raw "hash") with
  | none => simp [normalizeTransaction, hhash, require, bind, Except.bind] at h
  | some text =>
      have htext : isHex256 text = true := by
        unfold hex256 at hhash
        split at hhash
        · split at hhash <;> cases hhash
          assumption
        · cases hhash
      cases hlt : strictLogicalTime (Json.get raw "lt") <;>
        cases hfees : optionalFees (Json.get raw "total_fees") <;>
        simp [normalizeTransaction, hhash, hlt, hfees, require, bind, Except.bind, pure,
          Except.pure] at h
      subst h
      exact htext

theorem isSpace_of_isHexDigit {c : Char} (h : isHexDigit c = true) : isSpace c = false := by
  have hn : 48 ≤ c.toNat ∧ c.toNat ≤ 102 := by
    simp only [isHexDigit, FixedDigits.isDigit, Bool.or_eq_true, Bool.and_eq_true, decide_eq_true_eq,
      Char.le_def, UInt32.le_iff_toNat_le] at h
    have hc : c.toNat = c.val.toNat := rfl
    simp at h
    omega
  simp only [isSpace, Bool.or_eq_false_iff, Bool.and_eq_false_iff, decide_eq_false_iff_not,
    beq_eq_false_iff_ne, ne_eq]
  omega

/-- A hexadecimal hash passes the adapter's second look at it. -/
theorem stripped_of_isHex256 {s : Text} (h : isHex256 s = true) :
    s.isEmpty = false ∧ isStripped s = true := by
  simp only [isHex256, Bool.and_eq_true, beq_iff_eq, List.all_eq_true] at h
  obtain ⟨hlen, hall⟩ := h
  refine ⟨by cases s <;> simp_all, ?_⟩
  have hend : ∀ c ∈ s, isSpace c = false := fun c hc => isSpace_of_isHexDigit (hall c hc)
  have hhead : s.head?.any isSpace = false := by
    cases hs : s.head? with
    | none => rfl
    | some c => exact hend c (List.mem_of_head? hs)
  have hlast : s.getLast?.any isSpace = false := by
    cases hs : s.getLast? with
    | none => rfl
    | some c => exact hend c (List.mem_of_getLast? hs)
  simp only [isStripped, hhead, hlast, Bool.not_false, Bool.and_self]

theorem normalizeAccountTransactions_lists {payload : Json} {page : List AccountTransaction}
    (h : ListsTransactions payload page) :
    normalizeAccountTransactions payload = .ok (rowsOf page) := by
  obtain ⟨fields, rfl, hget⟩ := h
  simp only [normalizeAccountTransactions, hget]
  -- The index of an element only words its error.
  have hmap : ∀ (page : List AccountTransaction) (k : Nat),
      ((page.map fun a => Json.obj a.raw).zipIdx k).mapM normalizeTransactionItem
        = .ok (rowsOf page) := by
    intro page
    induction page with
    | nil => intro k; rfl
    | cons a page ih =>
        intro k
        rw [List.map_cons, List.zipIdx_cons, List.mapM_cons, ih (k + 1),
          show normalizeTransactionItem (Json.obj a.raw, k) = .ok a.row from a.normalizes]
        rfl
  exact hmap page 0

theorem strictlyDescending_of_pairwise {times : List LogicalTime}
    (h : times.Pairwise fun a b => b < a) : strictlyDescending times = true := by
  induction times with
  | nil => rfl
  | cons a times ih =>
      cases times with
      | nil => rfl
      | cons b rest =>
          obtain ⟨hab, hrest⟩ := List.pairwise_cons.mp h
          simp only [strictlyDescending, Bool.and_eq_true, decide_eq_true_eq]
          exact ⟨hab b List.mem_cons_self, ih hrest⟩

theorem didNotAdvance_of_lt {requestBeforeLt : Option LogicalTime} {times : List LogicalTime}
    (h : ∀ before ∈ requestBeforeLt, ∀ t ∈ times, t < before) :
    didNotAdvance requestBeforeLt times = false := by
  unfold didNotAdvance
  split
  next before newest hmax =>
    exact decide_eq_false (not_le.mpr (h before rfl newest (List.max?_eq_some_iff.mp hmax).1))
  next => rfl

/-- The least of a falling list is its last. -/
theorem min?_of_pairwise {times : List LogicalTime} (h : times.Pairwise fun a b => b < a) :
    times.min? = times.getLast? := by
  rcases List.eq_nil_or_concat times with rfl | ⟨init, last, rfl⟩
  · rfl
  · rw [List.concat_eq_append] at h ⊢
    rw [List.getLast?_append_of_ne_nil _ (by simp), List.getLast?_singleton,
      List.min?_eq_some_iff]
    refine ⟨by simp, fun b hb => ?_⟩
    rcases List.mem_append.mp hb with hb | hb
    · exact le_of_lt ((List.pairwise_append.mp h).2.2 b hb last (by simp))
    · exact le_of_eq (List.mem_singleton.mp hb).symm

/-! ## The page of an honouring provider -/

section Page

variable {page rest : List AccountTransaction} {before : Option LogicalTime} {limit : Nat}

theorem descends_times (h : Descends page) :
    ((rowsOf page).map (·.logicalTime)).Pairwise fun a b => b < a := by
  rw [List.map_map]
  exact List.pairwise_map.mpr (h.imp fun hab => hab.1)

/-- The record both the page call and its validation make of a page. -/
def pageRecord (before : Option LogicalTime) (limit : Nat) (page : List AccountTransaction) :
    TransactionPage :=
  transactionPage ⟨limit, before⟩ (rowsOf page)

theorem getAccountTransactionsPage_lists
    {fetchJson : TransactionsQuery → ProviderResult Json} {payload : Json}
    (hfetch : fetchJson ⟨limit, before⟩ = .ok payload) (hlists : ListsTransactions payload page)
    (hlimit : 1 ≤ limit ∧ limit ≤ 1000) (hlen : page.length ≤ limit) (hdesc : Descends page)
    (hbelow : ∀ b ∈ before, ∀ a ∈ page, a.row.logicalTime < b) :
    getAccountTransactionsPage fetchJson ⟨limit, before⟩ = .ok (pageRecord before limit page) := by
  have hadvance : didNotAdvance before ((rowsOf page).map (·.logicalTime)) = false := by
    refine didNotAdvance_of_lt fun b hb t ht => ?_
    obtain ⟨row, hrow, rfl⟩ := List.mem_map.mp ht
    obtain ⟨a, ha, rfl⟩ := List.mem_map.mp hrow
    exact hbelow b hb a ha
  have hcount : ¬ limit < (rowsOf page).length := by
    rw [List.length_map]; omega
  have hchecked : checkedTransactions ⟨limit, before⟩ payload = .ok (rowsOf page) := by
    simp only [checkedTransactions, normalizeAccountTransactions_lists hlists, hcount,
      strictlyDescending_of_pairwise (descends_times hdesc), hadvance, bind, Except.bind, pure,
      Except.pure, if_false, Bool.not_true, Bool.false_eq_true]
  simp only [getAccountTransactionsPage, hlimit, and_self, if_true, hfetch, hchecked, pageRecord]

/-- What the validation loop has passed after a transaction. -/
def checkNext (prior : RowCheck) (a : AccountTransaction) : RowCheck :=
  ⟨prior.index + 1, some a.row.logicalTime, some a.timestamp⟩

/-- The validation loop is in front of these transactions. -/
def CheckAhead (page : List AccountTransaction) (prior : RowCheck) : Prop :=
  Descends page ∧ (∀ t ∈ prior.priorLt, ∀ a ∈ page, a.row.logicalTime < t) ∧
    ∀ t ∈ prior.priorTimestamp, ∀ a ∈ page, a.timestamp ≤ t

theorem checkAhead_step (a : AccountTransaction) (rest : List AccountTransaction)
    (prior : RowCheck) (h : CheckAhead (a :: rest) prior) :
    checkTransactionRow true prior a.row = .ok (checkNext prior a) ∧
      CheckAhead rest (checkNext prior a) := by
  obtain ⟨hdesc, hlt, hts⟩ := h
  obtain ⟨hhead, hrest⟩ := List.pairwise_cons.mp hdesc
  obtain ⟨hne, hstripped⟩ := stripped_of_isHex256 (isHex256_of_normalizes a.normalizes)
  have h1 : prior.priorLt.any (fun t => decide (t ≤ a.row.logicalTime)) = false := by
    cases hp : prior.priorLt with
    | none => rfl
    | some t => exact decide_eq_false (not_le.mpr (hlt t hp a List.mem_cons_self))
  have h2 : prior.priorTimestamp.any (fun t => decide (t < a.timestamp)) = false := by
    cases hp : prior.priorTimestamp with
    | none => rfl
    | some t => exact decide_eq_false (not_lt.mpr (hts t hp a List.mem_cons_self))
  refine ⟨?_, hrest, ?_, ?_⟩
  · simp only [checkTransactionRow, hne, hstripped, h1, a.timed, h2, checkNext, bind, Except.bind,
      pure, Except.pure, Bool.not_true, Bool.or_self, Bool.and_false, Bool.false_eq_true, if_false]
  · intro t ht b hb
    cases ht
    exact (hhead b hb).1
  · intro t ht b hb
    cases ht
    exact (hhead b hb).2

/-- The validated page of a descending list of transactions. -/
def validatedOf (page : List AccountTransaction) : ValidatedTransactionPage :=
  let times := (rowsOf page).map (·.logicalTime)
  let timestamps := (rowsOf page).map fun row => transactionTimestamp row.utime
  { rows := rowsOf page
    rawCount := (rowsOf page).length
    responseCursor := times.min?
    minLogicalTime := times.min?
    maxLogicalTime := times.max?
    timestamps := timestamps
    minTimestamp := (timestamps.filterMap id).min?
    maxTimestamp := (timestamps.filterMap id).max? }

theorem validateTransactionPage_lists (hlen : page.length ≤ limit) (hdesc : Descends page)
    (hbelow : ∀ b ∈ before, ∀ a ∈ page, a.row.logicalTime < b) :
    validateTransactionPage (pageRecord before limit page) before limit true =
      .ok (validatedOf page) := by
  have hloop : (rowsOf page).foldlM (checkTransactionRow true) ⟨0, none, none⟩ =
      .ok (page.foldl checkNext ⟨0, none, none⟩) := by
    rw [List.foldlM_map]
    exact ExceptFold.foldlM_eq_foldl checkNext CheckAhead checkAhead_step
      ⟨hdesc, by simp, by simp⟩
  have hcount : ¬ limit < (rowsOf page).length := by
    rw [List.length_map]; omega
  have hcursor : before.any (fun b =>
      ((rowsOf page).map (·.logicalTime)).min?.any (fun t => decide (b ≤ t))) = false := by
    cases before with
    | none => rfl
    | some b =>
        cases hmin : ((rowsOf page).map (·.logicalTime)).min? with
        | none => rfl
        | some t =>
            obtain ⟨row, hrow, rfl⟩ := List.mem_map.mp (List.min?_eq_some_iff.mp hmin).1
            obtain ⟨a, ha, rfl⟩ := List.mem_map.mp hrow
            exact decide_eq_false (not_le.mpr (hbelow b rfl a ha))
  cases he : ((rowsOf page).map (·.logicalTime)).isEmpty with
  | true =>
      have hmin : ((rowsOf page).map (·.logicalTime)).min?.isSome = false := by
        rw [List.isEmpty_iff.mp he]; rfl
      simp only [validateTransactionPage, pageRecord, transactionPage, hloop, hcount, he, hmin,
        validatedOf, bind, Except.bind, pure, Except.pure, ne_eq, not_true_eq_false, if_false,
        if_true, Bool.false_eq_true]
  | false =>
      simp only [validateTransactionPage, pageRecord, transactionPage, hloop, hcount, he, hcursor,
        validatedOf, bind, Except.bind, pure, Except.pure, ne_eq, not_true_eq_false, if_false,
        Bool.false_eq_true]

end Page

/-! ## The row loop in front of a history -/

section Scan

variable {start stop : Instant}

/-- What the run has seen lies above the transactions still to come. -/
structure Ahead (rest : List AccountTransaction)
    (seen : List (TransactionIdentity × Option Instant)) (lastLt : Option LogicalTime)
    (lastTimestamp : Option Instant) : Prop where
  descends : Descends rest
  seenAbove : ∀ entry ∈ seen, ∀ a ∈ rest, a.row.logicalTime < entry.1.1
  ltAbove : ∀ t ∈ lastLt, ∀ a ∈ rest, a.row.logicalTime < t
  timeAbove : ∀ t ∈ lastTimestamp, ∀ a ∈ rest, a.timestamp ≤ t

/-- Nothing seen yet is ahead of anything. -/
theorem ahead_start {rest : List AccountTransaction} (h : Descends rest) :
    Ahead rest [] none none :=
  ⟨h, by simp, by simp, by simp⟩

/-- What the row loop makes of a transaction it has not passed. -/
def scanNext (start stop : Instant) (scan : TransactionScan) (a : AccountTransaction) :
    TransactionScan :=
  { seen := (a.row.identity, some a.timestamp) :: scan.seen
    lastLt := some a.row.logicalTime
    lastTimestamp := some a.timestamp
    duplicates := scan.duplicates
    accepted := scan.accepted ++ rowsOf (clip AccountTransaction.timestamp start stop [a])
    crossedStart := scan.crossedStart || crossed AccountTransaction.timestamp start [a] }

theorem lookup_eq_none_of_above {seen : List (TransactionIdentity × Option Instant)}
    {row : Transaction} (h : ∀ entry ∈ seen, row.logicalTime < entry.1.1) :
    seen.lookup row.identity = none := by
  refine List.lookup_eq_none_iff.mpr fun entry hentry => ?_
  have hlt := h entry hentry
  have hne : row.identity ≠ entry.1 := by
    intro heq
    rw [← heq] at hlt
    exact lt_irrefl _ hlt
  simpa using hne

theorem scan_step (a : AccountTransaction) (rest : List AccountTransaction)
    (scan : TransactionScan)
    (h : Ahead (a :: rest) scan.seen scan.lastLt scan.lastTimestamp) :
    scanTransaction (some (start, stop)) scan (a.row, some a.timestamp) =
        .ok (scanNext start stop scan a) ∧
      Ahead rest (scanNext start stop scan a).seen (scanNext start stop scan a).lastLt
        (scanNext start stop scan a).lastTimestamp := by
  obtain ⟨hhead, hrest⟩ := List.pairwise_cons.mp h.descends
  have hlookup : scan.seen.lookup a.row.identity = none :=
    lookup_eq_none_of_above fun entry hentry => h.seenAbove entry hentry a List.mem_cons_self
  have hlt : scan.lastLt.any (fun t => decide (t ≤ a.row.logicalTime)) = false := by
    cases hl : scan.lastLt with
    | none => rfl
    | some t => exact decide_eq_false (not_le.mpr (h.ltAbove t hl a List.mem_cons_self))
  have hts : scan.lastTimestamp.any (fun t => decide (t < a.timestamp)) = false := by
    cases hl : scan.lastTimestamp with
    | none => rfl
    | some t => exact decide_eq_false (not_lt.mpr (h.timeAbove t hl a List.mem_cons_self))
  refine ⟨?_, hrest, ?_, ?_, ?_⟩
  · simp only [scanTransaction, hlookup, hlt, hts, Option.any_some, Option.isSome_some,
      Bool.and_false, Bool.false_eq_true, if_false, scanNext]
    by_cases h1 : a.timestamp < start
    · have hnot : ¬ start ≤ a.timestamp := not_le.mpr h1
      simp [h1, hnot, clip, crossed]
    · have hle : start ≤ a.timestamp := not_lt.mp h1
      by_cases h2 : stop ≤ a.timestamp
      · have hnot : ¬ a.timestamp < stop := not_lt.mpr h2
        simp [h1, h2, hnot, clip, crossed]
      · have hlt' : a.timestamp < stop := not_le.mp h2
        simp [h1, h2, hle, hlt', clip, crossed]
  · intro entry hentry b hb
    rcases List.mem_cons.mp hentry with rfl | hentry
    · exact (hhead b hb).1
    · exact h.seenAbove entry hentry b (List.mem_cons_of_mem a hb)
  · intro t ht b hb
    cases ht
    exact (hhead b hb).1
  · intro t ht b hb
    cases ht
    exact (hhead b hb).2

variable (start stop) in
/-- The scan after a page: what it accepts, and whether it crossed. -/
theorem foldl_scanNext (page : List AccountTransaction) (scan : TransactionScan) :
    (page.foldl (scanNext start stop) scan).accepted =
        scan.accepted ++ rowsOf (clip AccountTransaction.timestamp start stop page) ∧
      (page.foldl (scanNext start stop) scan).crossedStart =
        (scan.crossedStart || crossed AccountTransaction.timestamp start page) := by
  induction page generalizing scan with
  | nil => simp [clip, crossed]
  | cons a page ih =>
      obtain ⟨hacc, hcross⟩ := ih (scanNext start stop scan a)
      have hclip : clip AccountTransaction.timestamp start stop (a :: page) =
          clip AccountTransaction.timestamp start stop [a] ++
            clip AccountTransaction.timestamp start stop page :=
        clip_append start stop [a] page
      constructor
      · rw [List.foldl_cons, hacc, hclip]
        simp only [scanNext, rowsOf, List.map_append, List.append_assoc]
      · rw [List.foldl_cons, hcross]
        simp only [scanNext, crossed, List.any_cons, List.any_nil, Bool.or_false, Bool.or_assoc]

end Scan

end TonTracker
