/-
# `Acquisition.TransactionCuts` — cutting the transaction acquisition

The transaction stream against an account's history.  A pass either
fails or reads one page of what is left (`transactionPass_cases`); a run
that completes has read everything below its cursor and kept exactly the
rows of the interval, one that stops earlier has kept exactly those of
the part it read (`transactionLoop_reads`).  Since a continuation only
carries the cursor, and the cursor is all the rest of the history depends
on, runs compose: the rows of a chain are those of one run.
-/
import TonTracker.Acquisition.TransactionHistory
import TonTracker.Services.StreamCheckpoints

namespace TonTracker

open DescendingLog

variable {D : Type} {history : TransactionHistory} {start stop : Instant}

/-- The transactions a loop at this state has still to read. -/
def remaining (history : TransactionHistory) (s : TransactionLoop D) : List AccountTransaction :=
  history.below (s.cursor.map (·.val))

/-- The loop is in front of the history it has still to read. -/
def Front (history : TransactionHistory) (s : TransactionLoop D) : Prop :=
  Ahead (remaining history s) s.seen s.lastUniqueLt s.lastUniqueTimestamp

theorem front_start (history : TransactionHistory) (cursor : Option LogicalTime)
    (firstPageIndex : Nat) : Front history (transactionStart cursor firstPageIndex : TransactionLoop D) :=
  ahead_start (history.below_pairwise _)

/-- The arguments of a bounded ingest run. -/
abbrev ingestRun (start stop : Instant) (pageSize : Nat) : TransactionRun :=
  ⟨.ingest, some (start, stop), pageSize⟩

/-! ## One pass -/

section Pass

variable {feed : TransactionFeed D} {pageSize : Nat} {s : TransactionLoop D}
  {page rest : List AccountTransaction} {payload : Json}

/-- The next cursor of a page of transactions is its last logical time. -/
theorem responseCursor_validatedOf (h : Descends page) :
    (validatedOf page).responseCursor = page.getLast?.map (·.row.logicalTime) := by
  show ((rowsOf page).map (·.logicalTime)).min? = _
  rw [min?_of_pairwise (descends_times h), List.map_map, List.getLast?_map]
  rfl

theorem remaining_of_last {next : TransactionLoop D} (hsplit : remaining history s = page ++ rest)
    (hne : page ≠ []) (hcursor : next.cursor = page.getLast?.map (·.row.logicalTime)) :
    remaining history next = rest := by
  obtain ⟨init, last, rfl⟩ := (List.eq_nil_or_concat page).resolve_left hne
  rw [List.concat_eq_append] at hsplit hcursor
  rw [remaining, hcursor, List.getLast?_append_of_ne_nil _ (by simp), List.getLast?_singleton]
  have hbelow : history.below (s.cursor.map (·.val)) = init ++ last :: rest := by
    rw [List.append_cons]
    exact hsplit
  exact history.below_last hbelow

variable (start stop) in
/-- A page of the history is taken in whole. -/
theorem transactionPass_page (hlimit : 1 ≤ pageSize ∧ pageSize ≤ 1000)
    (hfront : Front history s) (hsplit : remaining history s = page ++ rest)
    (hlen : page.length ≤ pageSize) (hlists : ListsTransactions payload page)
    (hfetch : feed.fetchJson s.pageIndex ⟨pageSize, s.cursor⟩ = .ok payload) :
    ∃ next : TransactionLoop D,
      next.acceptedRows = s.acceptedRows ++ rowsOf (clip AccountTransaction.timestamp start stop page) ∧
      next.cursor = page.getLast?.map (·.row.logicalTime) ∧
      (∃ evidence, next.pages = s.pages ++ [evidence] ∧ evidence.errorCode = none ∧
        evidence.pageIndex = s.pageIndex ∧ evidence.responseCursor = next.cursor) ∧
      Ahead rest next.seen next.lastUniqueLt next.lastUniqueTimestamp ∧
      transactionPass feed (ingestRun start stop pageSize) s =
        if page = [] then
          .inr ⟨{ next with cursor := none }, .complete, .providerTerminal, none, false⟩
        else if crossed AccountTransaction.timestamp start page then
          .inr ⟨next, .complete, .requestedStartCrossed, none, false⟩
        else .inl { next with pageIndex := s.pageIndex + 1 } := by
  have hdesc : Descends (page ++ rest) := hsplit ▸ hfront.descends
  have hpage : Descends page := (List.pairwise_append.mp hdesc).1
  have hbelow : ∀ b ∈ s.cursor, ∀ a ∈ page, a.row.logicalTime < b := by
    intro b hb a ha
    have hmem : a ∈ history.below (some b.val) := by
      have : a ∈ remaining history s := hsplit ▸ List.mem_append_left rest ha
      rwa [remaining, Option.mem_def.mp hb] at this
    exact history.key_lt_of_mem_below hmem
  have hget : fetchTransactionPage feed (ingestRun start stop pageSize) s =
      .ok (pageRecord s.cursor pageSize page) :=
    getAccountTransactionsPage_lists hfetch hlists hlimit hlen hpage hbelow
  let scan₀ : TransactionScan :=
    { seen := s.seen, lastLt := s.lastUniqueLt, lastTimestamp := s.lastUniqueTimestamp
      duplicates := 0, accepted := [], crossedStart := false }
  let scan := page.foldl (scanNext start stop) scan₀
  have hahead : Ahead (page ++ rest) scan₀.seen scan₀.lastLt scan₀.lastTimestamp :=
    hsplit ▸ hfront
  have hzip : (validatedOf page).rows.zip (validatedOf page).timestamps =
      page.map fun a => (a.row, some a.timestamp) := by
    simp only [validatedOf, rowsOf, List.map_map, List.zip_map', Function.comp_def]
    exact List.map_congr_left fun a _ => by rw [a.timed]
  have hscan : (page.map fun a => (a.row, some a.timestamp)).foldlM
      (scanTransaction (some (start, stop))) scan₀ = .ok scan := by
    rw [List.foldlM_map]
    refine ExceptFold.foldlM_eq_foldl (scanNext start stop)
      (fun l b => Ahead (l ++ rest) b.seen b.lastLt b.lastTimestamp) (fun a l b hb => ?_) hahead
    exact scan_step a (l ++ rest) b hb
  have hafter : Ahead rest scan.seen scan.lastLt scan.lastTimestamp :=
    ExceptFold.foldl_inv (fun l (b : TransactionScan) => Ahead l b.seen b.lastLt b.lastTimestamp)
      (fun a l b hb => (scan_step a l b hb).2) page hahead
  obtain ⟨haccepted, hcrossed⟩ := foldl_scanNext start stop page scan₀
  have hpass : scanTransactionPage (ingestRun start stop pageSize) s
      (pageRecord s.cursor pageSize page) = .ok (validatedOf page, scan) := by
    rw [scanTransactionPage, Option.isSome_some, validateTransactionPage_lists hlen hpage hbelow]
    show (((validatedOf page).rows.zip (validatedOf page).timestamps).foldlM
      (scanTransaction (some (start, stop))) scan₀ >>= fun scan =>
        Except.ok (validatedOf page, scan)) = _
    rw [hzip, hscan]
    rfl
  refine ⟨absorbTransactionPage feed (ingestRun start stop pageSize) s
    (pageRecord s.cursor pageSize page) (validatedOf page) scan, ?_,
    responseCursor_validatedOf hpage, ⟨_, rfl, rfl, rfl, rfl⟩, hafter, ?_⟩
  · simp only [absorbTransactionPage]
    rw [show scan.accepted = _ from haccepted]
    rfl
  · have hcount : (validatedOf page).rawCount = 0 ↔ page = [] := by
      simp only [validatedOf, List.length_map, List.length_eq_zero_iff]
    have hcross : scan.crossedStart = crossed AccountTransaction.timestamp start page := by
      rw [show scan.crossedStart = _ from hcrossed]; rfl
    simp only [transactionPass, hget, hpass, reduceCtorEq, if_false, Option.isNone_some,
      Bool.false_eq_true, hcount, hcross]

end Pass

/-! ## One run -/

/-- A run that started at `first` has read a part of the history below it
and kept the rows of the interval. -/
structure HasRead (history : TransactionHistory) (start stop : Instant)
    (first : Option LogicalTime) (s : TransactionLoop D) : Prop where
  front : Front history s
  kept : ∃ taken, history.below (first.map (·.val)) = taken ++ remaining history s ∧
    s.acceptedRows = rowsOf (clip AccountTransaction.timestamp start stop taken)

/-- The last page was taken in, and the loop stands at its cursor. -/
def Turned (s : TransactionLoop D) : Prop :=
  s.cursor.isSome ∧ ∃ init last, s.pages = init ++ [last] ∧ last.errorCode = none ∧
    last.responseCursor = s.cursor

/-- How a run against an honouring provider ends: it has read everything
and kept the interval, or it stopped short for a failed request or for
its page cap, and has kept the interval of what it read. -/
inductive ReadsTo (history : TransactionHistory) (fetchJson : Nat → TransactionsQuery →
    ProviderResult Json) (start stop : Instant) (first : Option LogicalTime)
    (e : TransactionEnd D) : Prop
  | complete : e.completionState = .complete →
      e.loop.acceptedRows = rowsOf (clip AccountTransaction.timestamp start stop
        (history.below (first.map (·.val)))) →
      ReadsTo history fetchJson start stop first e
  | failed : e.completionState ≠ .complete → HasRead history start stop first e.loop →
      (∃ n query failure, fetchJson n query = .error failure) →
      ReadsTo history fetchJson start stop first e
  | cut : e.completionState = .incomplete → HasRead history start stop first e.loop →
      e.terminationReason = .pageCapReached → Turned e.loop →
      ReadsTo history fetchJson start stop first e

section Run

variable {feed : TransactionFeed D} {pageSize : Nat} {first : Option LogicalTime}

theorem transactionPass_cases (hlimit : 1 ≤ pageSize ∧ pageSize ≤ 1000)
    (hserves : ServesTransactions history feed.fetchJson) {s : TransactionLoop D}
    (hs : HasRead history start stop first s) :
    (∃ s', transactionPass feed (ingestRun start stop pageSize) s = .inl s' ∧
      HasRead history start stop first s' ∧ Turned s' ∧
      (remaining history s').length < (remaining history s).length) ∨
    (∃ e, transactionPass feed (ingestRun start stop pageSize) s = .inr e ∧
      ReadsTo history feed.fetchJson start stop first e ∧
      e.terminationReason ≠ .pageCapReached) := by
  cases hfetch : feed.fetchJson s.pageIndex ⟨pageSize, s.cursor⟩ with
  | error failure =>
      -- A failed request leaves the rows and the cursor where they were.
      let e := transactionFailure feed (ingestRun start stop pageSize) s none
        (evidenceError failure.error) (failureReason failure.error)
      have hread : HasRead history start stop first e.loop := ⟨hs.front, hs.kept⟩
      have hstate : e.completionState ≠ .complete := by
        show (if _ then CompletionState.error else .incomplete) ≠ _
        split <;> simp
      have hreason : e.terminationReason ≠ .pageCapReached := by
        show failureReason failure.error ≠ _
        cases failure.error <;> simp [failureReason]
      refine .inr ⟨e, ?_, .failed hstate hread ⟨_, _, failure, hfetch⟩, hreason⟩
      simp only [transactionPass, fetchTransactionPage, Option.isSome_some, if_true,
        getAccountTransactionsPage, hlimit, and_self, hfetch, e]
  | ok payload =>
      obtain ⟨page, rest, hsplit, hlen, hempty, hlists⟩ := hserves _ _ _ hlimit.1 hfetch
      obtain ⟨taken, htaken, hkept⟩ := hs.kept
      obtain ⟨next, hrows, hcursor, ⟨evidence, hpages, hok, -, hresponse⟩, hahead, hpass⟩ :=
        transactionPass_page start stop hlimit hs.front hsplit hlen hlists
          hfetch
      have hsplit' : remaining history s = page ++ rest := hsplit
      have hbelow : history.below (first.map (·.val)) = (taken ++ page) ++ rest := by
        rw [htaken, hsplit', List.append_assoc]
      have hnext : next.acceptedRows =
          rowsOf (clip AccountTransaction.timestamp start stop (taken ++ page)) := by
        rw [hrows, hkept, clip_append, rowsOf, rowsOf, rowsOf, List.map_append]
      by_cases hp : page = []
      · rw [if_pos hp] at hpass
        refine .inr ⟨_, hpass, .complete rfl ?_, by simp⟩
        rw [hbelow, hempty hp, List.append_nil]
        exact hnext
      · have hrem : remaining history next = rest := remaining_of_last hsplit' hp hcursor
        have hread : HasRead history start stop first { next with pageIndex := s.pageIndex + 1 } :=
          ⟨by rw [Front]; exact hrem ▸ hahead, taken ++ page, by rw [hbelow, ← hrem]; rfl, hnext⟩
        rw [if_neg hp] at hpass
        by_cases hc : crossed AccountTransaction.timestamp start page = true
        · rw [if_pos hc] at hpass
          refine .inr ⟨_, hpass, .complete rfl ?_, by simp⟩
          have hdesc : Descends (page ++ rest) := hsplit' ▸ hs.front.descends
          rw [hbelow, clip_append, clip_of_crossed hdesc hc, List.append_nil]
          exact hnext
        · rw [if_neg hc] at hpass
          refine .inl ⟨_, hpass, hread, ⟨?_, s.pages, evidence, hpages, hok, hresponse⟩, ?_⟩
          · show next.cursor.isSome = true
            rw [hcursor, Option.isSome_map]
            exact List.getLast?_isSome.mpr hp
          · show (remaining history next).length < _
            rw [hrem, hsplit', List.length_append]
            have := List.length_pos_of_ne_nil hp
            omega

variable (start stop first) in
/-- Every run ends in one of these ways. -/
theorem transactionLoop_reads (hlimit : 1 ≤ pageSize ∧ pageSize ≤ 1000)
    (hserves : ServesTransactions history feed.fetchJson) (firstPageIndex : Nat) {pageCap : Nat}
    (hcap : 1 ≤ pageCap) :
    ReadsTo history feed.fetchJson start stop first
      (transactionLoop feed (ingestRun start stop pageSize) first firstPageIndex pageCap) := by
  have hstart : HasRead history start stop first (transactionStart first firstPageIndex :
      TransactionLoop D) :=
    ⟨front_start history first firstPageIndex, [], rfl, rfl⟩
  have hinv : ∀ s s', HasRead history start stop first s →
      transactionPass feed (ingestRun start stop pageSize) s = .inl s' →
      HasRead history start stop first s' ∧ Turned s' := by
    intro s s' hs h
    rcases transactionPass_cases hlimit hserves hs with ⟨t, ht, hread, hturned, -⟩ | ⟨e, he, -⟩
    · rw [ht] at h; cases h; exact ⟨hread, hturned⟩
    · rw [he] at h; cases h
  obtain ⟨n, rfl⟩ : ∃ n, pageCap = n + 1 := ⟨pageCap - 1, by omega⟩
  cases hn : ForElse.passes (transactionPass feed (ingestRun start stop pageSize)) (n + 1)
      (transactionStart first firstPageIndex) with
  | inl s =>
      rw [transactionLoop, ForElse.run_of_inl hn]
      -- At least one pass ran, and the last one turned a page.
      rw [ForElse.passes_add n 1] at hn
      cases hprev : ForElse.passes (transactionPass feed (ingestRun start stop pageSize)) n
          (transactionStart first firstPageIndex) with
      | inr e => rw [hprev] at hn; cases hn
      | inl t =>
          rw [hprev, Sum.elim_inl, ForElse.passes_succ] at hn
          have ht : HasRead history start stop first t :=
            ForElse.passes_inv _ (fun a b ha hab => (hinv a b ha hab).1) hstart hprev
          cases hlast : transactionPass feed (ingestRun start stop pageSize) t with
          | inr e => rw [hlast] at hn; cases hn
          | inl s' =>
              rw [hlast] at hn
              cases hn
              obtain ⟨hread, hturned⟩ := hinv t s ht hlast
              exact .cut rfl hread rfl hturned
  | inr e =>
      rw [transactionLoop, ForElse.run_of_inr hn]
      obtain ⟨s, hs, he⟩ :=
        ForElse.passes_break _ (fun a b ha hab => (hinv a b ha hab).1) hstart hn
      rcases transactionPass_cases hlimit hserves hs with ⟨t, ht, -⟩ | ⟨e', he', hreads, -⟩
      · rw [ht] at he; cases he
      · rw [he'] at he; cases he; exact hreads

variable (start stop first) in
/-- With enough passes and a provider that answers, a run completes. -/
theorem transactionLoop_completes (hlimit : 1 ≤ pageSize ∧ pageSize ≤ 1000)
    (hserves : ServesTransactions history feed.fetchJson) (hanswers : Answers feed.fetchJson)
    {pageCap : Nat} (hcap : history.entries.length < pageCap) (firstPageIndex : Nat) :
    (transactionLoop feed (ingestRun start stop pageSize) first firstPageIndex
      pageCap).completionState = .complete := by
  have hstart : HasRead history start stop first (transactionStart first firstPageIndex :
      TransactionLoop D) :=
    ⟨front_start history first firstPageIndex, [], rfl, rfl⟩
  have hfalls : ∀ s s', HasRead history start stop first s →
      transactionPass feed (ingestRun start stop pageSize) s = .inl s' →
      HasRead history start stop first s' ∧
        (remaining history s').length < (remaining history s).length := by
    intro s s' hs h
    rcases transactionPass_cases hlimit hserves hs with ⟨t, ht, hread, -, hlt⟩ | ⟨e, he, -⟩
    · rw [ht] at h; cases h; exact ⟨hread, hlt⟩
    · rw [he] at h; cases h
  obtain ⟨e, he⟩ := ForElse.passes_breaks _ (fun s => (remaining history s).length) hfalls hstart
    (lt_of_le_of_lt (history.length_below_le _) hcap)
  rw [transactionLoop, ForElse.run_of_inr he]
  obtain ⟨s, hs, hbreak⟩ := ForElse.passes_break _ (fun a b ha hab => (hfalls a b ha hab).1) hstart he
  rcases transactionPass_cases hlimit hserves hs with ⟨t, ht, -⟩ | ⟨e', he', hreads, hreason⟩
  · rw [ht] at hbreak; cases hbreak
  · rw [he'] at hbreak
    cases hbreak
    cases hreads with
    | complete hstate => exact hstate
    | failed _ _ hfail =>
        obtain ⟨n, query, failure, hfail⟩ := hfail
        obtain ⟨payload, hok⟩ := hanswers n query
        rw [hfail] at hok
        cases hok
    | cut _ _ hcut => exact absurd hcut hreason

end Run

/-! ## A chain of runs -/

section Chain

variable {feed : TransactionFeed D} {settings : ActivitySettings}

/-- The run of one leg: its own page cap, page budget and clock, the same
provider and page size. -/
def transactionLeg (feed : TransactionFeed D) (settings : ActivitySettings) (leg : Leg)
    (request : AdapterRequest) : TransactionOutcome D :=
  fetchTransactionAcquisition
    { feed with clock := leg.clock, startedAt := leg.startedAt, finishedAt := leg.finishedAt }
    { settings with liveTxMaxPages := leg.maxPages } request .ingest

/-- A first run over the interval, and the runs that resume it. -/
def transactionRuns (feed : TransactionFeed D) (settings : ActivitySettings)
    (start stop : Instant) (legs : List Leg) : List (TransactionOutcome D) :=
  runLegs (transactionLeg feed settings) (·.stream) start stop .transactions
    (firstRequest start stop) legs

/-- One run over the interval with this many passes. -/
def transactionRun (feed : TransactionFeed D) (settings : ActivitySettings)
    (start stop : Instant) (pageCap : Nat) : TransactionOutcome D :=
  let run := ingestRun start stop (transactionPageSize settings)
  transactionOutcome feed run pageCap (transactionLoop feed run none 1 pageCap)

theorem transactionPageSize_bounds (settings : ActivitySettings) :
    1 ≤ transactionPageSize settings ∧ transactionPageSize settings ≤ 1000 :=
  ⟨one_le_clamp _ _, clamp_le (by omega) _⟩

variable (feed settings) in
/-- A leg runs the page loop from the cursor its request starts at. -/
theorem transactionLeg_eq {request : AdapterRequest} {first : Option LogicalTime}
    {pageIndex : Nat} {pageBudget : Option PageBudget}
    (h : StartsAt start stop .transactions request first pageIndex pageBudget) (leg : Leg) :
    ∃ feed' pageCap, feed'.fetchJson = feed.fetchJson ∧ 1 ≤ pageCap ∧
      transactionLeg feed settings leg request =
        transactionOutcome feed' (ingestRun start stop (transactionPageSize settings)) pageCap
          (transactionLoop feed' (ingestRun start stop (transactionPageSize settings)) first
            pageIndex pageCap) := by
  refine ⟨{ feed with clock := leg.clock, startedAt := leg.startedAt,
                      finishedAt := leg.finishedAt },
    budgeted pageBudget (clamp 100 leg.maxPages), rfl,
    one_le_budgeted (one_le_clamp _ _) pageBudget, ?_⟩
  simp only [transactionLeg, fetchTransactionAcquisition, h.bounds, h.position, pageCapOf,
    reduceCtorEq, or_self, if_false, h.cap]
  rfl

variable (settings) in
/-- A leg reads the history below the cursor it starts at. -/
theorem transactionLeg_reads (hserves : ServesTransactions history feed.fetchJson)
    {request : AdapterRequest} {first : Option LogicalTime} {pageIndex : Nat}
    {pageBudget : Option PageBudget}
    (h : StartsAt start stop .transactions request first pageIndex pageBudget) (leg : Leg) :
    ∃ e : TransactionEnd D, ReadsTo history feed.fetchJson start stop first e ∧
      (transactionLeg feed settings leg request).transactions = e.loop.acceptedRows ∧
      (transactionLeg feed settings leg request).stream.completionState = e.completionState ∧
      (transactionLeg feed settings leg request).stream.terminationReason = e.terminationReason ∧
      (transactionLeg feed settings leg request).stream.terminalCursor = e.loop.cursor ∧
      (transactionLeg feed settings leg request).stream.pages = e.loop.pages := by
  obtain ⟨feed', pageCap, hfetch, hcap, heq⟩ :=
    transactionLeg_eq feed settings h leg
  rw [heq]
  have hserves' : ServesTransactions history feed'.fetchJson := hfetch ▸ hserves
  have hreads := transactionLoop_reads start stop first (transactionPageSize_bounds settings)
    hserves' pageIndex hcap
  rw [hfetch] at hreads
  exact ⟨_, hreads, rfl, rfl, rfl, rfl, rfl⟩

variable (settings) in
/-- The rows of a chain whose tip is complete are those of the interval. -/
theorem transactionRuns_rows (hse : start < stop)
    (hserves : ServesTransactions history feed.fetchJson) :
    ∀ (legs : List Leg) {request : AdapterRequest} {first : Option LogicalTime} {pageIndex : Nat}
      {pageBudget : Option PageBudget},
      StartsAt start stop .transactions request first pageIndex pageBudget →
      ∀ tip ∈ (runLegs (transactionLeg feed settings) (·.stream) start stop .transactions
        request legs).getLast?, tip.stream.completionState = .complete →
      (runLegs (transactionLeg feed settings) (·.stream) start stop .transactions request
        legs).flatMap (·.transactions) =
          rowsOf (clip AccountTransaction.timestamp start stop
            (history.below (first.map (·.val)))) := by
  intro legs
  induction legs with
  | nil => intro request first _ _ _ tip htip; cases htip
  | cons leg legs ih =>
      intro request first pageIndex pageBudget hfirst tip htip hcomplete
      obtain ⟨e, hreads, hrows, hstate, -, hcursor, -⟩ :=
        transactionLeg_reads settings hserves hfirst leg
      rw [runLegs] at htip ⊢
      cases hnext : resumeRequest start stop .transactions
          (continuation (transactionLeg feed settings leg request).stream)
          (legs.head?.bind (·.pageBudget)) with
      | none =>
          simp only [hnext, List.getLast?_singleton, Option.mem_def, Option.some.injEq] at htip ⊢
          subst htip
          rw [List.flatMap_singleton, hrows]
          cases hreads with
          | complete _ hkept => exact hkept
          | failed hne => exact absurd (hstate ▸ hcomplete) hne
          | cut hne => rw [hstate, hne] at hcomplete; cases hcomplete
      | some next =>
          obtain ⟨hready, page, -, hstarts⟩ := startsAt_resume hse hnext
          have hincomplete := (continuation_ready hready).1
          simp only [hnext] at htip ⊢
          have hread : HasRead history start stop first e.loop := by
            cases hreads with
            | complete hc => rw [hstate, hc] at hincomplete; cases hincomplete
            | failed _ hread => exact hread
            | cut _ hread => exact hread
          obtain ⟨taken, hbelow, hkept⟩ := hread.kept
          -- The resumed legs read on from the cursor this leg stopped at.
          cases hlegs : runLegs (transactionLeg feed settings) (·.stream) start stop .transactions
              next legs with
          | nil =>
              rw [hlegs, List.getLast?_singleton] at htip
              cases htip
              rw [hincomplete] at hcomplete
              cases hcomplete
          | cons o os =>
              have htail := ih hstarts tip (by
                rw [hlegs] at htip ⊢
                rwa [List.getLast?_cons_cons] at htip) hcomplete
              rw [← hlegs, List.flatMap_cons, htail, hrows, hkept, hcursor, hbelow, clip_append]
              exact List.map_append.symm

/-- Against a provider that answers, a leg completes or is ready to continue. -/
theorem transactionLeg_completes_or_ready (hserves : ServesTransactions history feed.fetchJson)
    (hanswers : Answers feed.fetchJson) {request : AdapterRequest} {first : Option LogicalTime}
    {pageIndex : Nat} {pageBudget : Option PageBudget}
    (h : StartsAt start stop .transactions request first pageIndex pageBudget) (leg : Leg) :
    (transactionLeg feed settings leg request).stream.completionState = .complete ∨
      (continuation (transactionLeg feed settings leg request).stream).resumeState = .ready := by
  obtain ⟨e, hreads, -, hstate, hreason, hcursor, hpages⟩ :=
    transactionLeg_reads settings hserves h leg
  cases hreads with
  | complete hc => exact .inl (hstate.trans hc)
  | failed _ _ hfail =>
      obtain ⟨n, query, failure, hfail⟩ := hfail
      obtain ⟨payload, hok⟩ := hanswers n query
      rw [hfail] at hok
      cases hok
  | cut hincomplete _ hcut hturned =>
      obtain ⟨hsome, init, last, hlist, hok, hresponse⟩ := hturned
      exact .inr (continuation_of_cut (hstate.trans hincomplete) (hreason.trans hcut)
        (hcursor ▸ hsome) (hpages.trans hlist) hok (hresponse.trans hcursor.symm)).1

variable (settings start stop) in
/-- The run without cuts reads the whole history. -/
theorem transactionRun_rows (hserves : ServesTransactions history feed.fetchJson)
    (hanswers : Answers feed.fetchJson) {pageCap : Nat}
    (hcap : history.entries.length < pageCap) :
    (transactionRun feed settings start stop pageCap).stream.completionState = .complete ∧
      (transactionRun feed settings start stop pageCap).transactions =
        rowsOf (clip AccountTransaction.timestamp start stop history.entries) := by
  have hcomplete := transactionLoop_completes start stop none
    (transactionPageSize_bounds settings) hserves hanswers hcap 1
  refine ⟨hcomplete, ?_⟩
  have hreads := transactionLoop_reads start stop none
    (transactionPageSize_bounds settings) hserves 1 (show 1 ≤ pageCap by omega)
  cases hreads with
  | complete _ hkept => exact hkept
  | failed hne => exact absurd hcomplete hne
  | cut hne => rw [hne] at hcomplete; cases hcomplete

/-- The rows of the interval fall strictly by logical time. -/
theorem rowsOf_clip_descends (history : TransactionHistory) :
    (rowsOf (clip AccountTransaction.timestamp start stop history.entries)).Pairwise
      fun a b => b.logicalTime < a.logicalTime := by
  refine List.pairwise_map.mpr ?_
  exact (history.descending.sublist (clip_sublist start stop _)).imp fun hab => hab.1

/-- Against a provider that honours `before_lt` paging, a chain whose tip
is complete holds exactly the transactions of the interval, each once and
in falling logical time; and against one that answers every request, a
chain that nothing is left to continue ends as one run without cuts does. -/
theorem transactionAcquisition_exact_and_cut_invariant (history : TransactionHistory)
    (feed : TransactionFeed D) (settings : ActivitySettings) (start stop : Instant)
    (hse : start < stop) (hserves : ServesTransactions history feed.fetchJson)
    (legs : List Leg) (tip : TransactionOutcome D)
    (htip : tip ∈ (transactionRuns feed settings start stop legs).getLast?) :
    (tip.stream.completionState = .complete →
      (transactionRuns feed settings start stop legs).flatMap (·.transactions) =
          rowsOf (history.entries.filter fun a => start ≤ a.timestamp ∧ a.timestamp < stop) ∧
        ((transactionRuns feed settings start stop legs).flatMap (·.transactions)).Pairwise
          fun a b => b.logicalTime < a.logicalTime) ∧
    (Answers feed.fetchJson → (continuation tip.stream).resumeState ≠ .ready →
      ∀ pageCap, history.entries.length < pageCap →
        (transactionRuns feed settings start stop legs).flatMap (·.transactions) =
            (transactionRun feed settings start stop pageCap).transactions ∧
          tip.stream.completionState =
            (transactionRun feed settings start stop pageCap).stream.completionState) := by
  have hfirst := startsAt_first hse StreamKey.transactions
  have hrows := transactionRuns_rows settings hse hserves legs hfirst tip htip
  refine ⟨fun hcomplete => ⟨hrows hcomplete, ?_⟩, fun hanswers hdone pageCap hcap => ?_⟩
  · rw [transactionRuns, hrows hcomplete]
    exact rowsOf_clip_descends history
  · obtain ⟨hstate, hall⟩ := transactionRun_rows start stop settings hserves hanswers
      hcap
    have hcomplete : tip.stream.completionState = .complete := by
      have hor := runLegs_forall (transactionLeg feed settings) (·.stream) start stop .transactions
        (fun request => ∃ first pageIndex pageBudget,
          StartsAt start stop .transactions request first pageIndex pageBudget)
        (fun o => o.stream.completionState = .complete ∨
          (continuation o.stream).resumeState = .ready)
        (fun leg request ⟨_, _, _, h⟩ => transactionLeg_completes_or_ready hserves hanswers h leg)
        (fun leg request pageBudget next _ hnext =>
          let ⟨_, page, _, hstarts⟩ := startsAt_resume hse hnext
          ⟨_, _, _, hstarts⟩)
        legs ⟨_, _, _, hfirst⟩ tip (List.mem_of_getLast? htip)
      exact hor.resolve_right hdone
    exact ⟨(hrows hcomplete).trans hall.symm, hcomplete.trans hstate.symm⟩

end Chain

/-! ### Three transactions, one a page

Two transactions of one second and an older one, read in three runs of
one page each. -/

/-- A provider object with this logical time and second. -/
def sampleObject (lt utime : Int) : List (String × Json) :=
  [("hash", .str (List.replicate 64 'a')), ("lt", .int lt), ("utime", .int utime)]

theorem one_le_thirty : 1 ≤ 30 := by decide

theorem one_le_twenty : 1 ≤ 20 := by decide

theorem one_le_ten : 1 ≤ 10 := by decide

theorem thirty_le_maxLogicalTime : 30 ≤ maxLogicalTime := by decide

theorem twenty_le_maxLogicalTime : 20 ≤ maxLogicalTime := by decide

theorem sampleFirst_lt_maxMicros : 62135597800000000 < maxMicros := by decide

theorem sampleStart_lt_maxMicros : 62135597500000000 < maxMicros := by decide

theorem sampleStop_lt_maxMicros : 62135597900000000 < maxMicros := by decide

def sampleHistory : TransactionHistory where
  entries :=
    [⟨sampleObject 30 1000, ⟨List.replicate 64 'a',
        ⟨30, one_le_thirty, thirty_le_maxLogicalTime⟩, some 1000, none⟩,
        ⟨62135597800000000, sampleFirst_lt_maxMicros⟩, by rfl, by rfl⟩,
      ⟨sampleObject 20 1000, ⟨List.replicate 64 'a',
        ⟨20, one_le_twenty, twenty_le_maxLogicalTime⟩, some 1000, none⟩,
        ⟨62135597800000000, sampleFirst_lt_maxMicros⟩, by rfl, by rfl⟩,
      ⟨sampleObject 10 500, ⟨List.replicate 64 'a', ⟨10, one_le_ten, by decide⟩, some 500, none⟩,
        ⟨62135597300000000, by decide⟩, by rfl, by rfl⟩]
  descending := by simp [AccountTransaction.key, Instant.le_iff]

def sampleTransactionFeed : TransactionFeed Unit :=
  { fetchJson := pagingProvider sampleHistory, clock := fun _ => ⟨0, zero_lt_maxMicros⟩
    startedAt := ⟨0, zero_lt_maxMicros⟩, finishedAt := ⟨0, zero_lt_maxMicros⟩
    digest := fun _ => () }

def sampleLeg (maxPages : Int) : Leg :=
  ⟨maxPages, none, fun _ => ⟨0, zero_lt_maxMicros⟩, ⟨0, zero_lt_maxMicros⟩, ⟨0, zero_lt_maxMicros⟩⟩

def sampleTransactionRuns : List (TransactionOutcome Unit) :=
  transactionRuns sampleTransactionFeed ⟨1, 1, 1, 1⟩ ⟨62135597500000000, sampleStart_lt_maxMicros⟩
    ⟨62135597900000000, sampleStop_lt_maxMicros⟩ [sampleLeg 1, sampleLeg 1, sampleLeg 3]

theorem transactionAcquisition_exact_and_cut_invariant_sample :
    sampleTransactionRuns.map (fun o => o.transactions.map (·.logicalTime.val)) =
        [[30], [20], []] ∧
      sampleTransactionRuns.flatMap (·.transactions) =
        rowsOf (sampleHistory.entries.filter fun a =>
          (⟨62135597500000000, by decide⟩ : Instant) ≤ a.timestamp ∧
            a.timestamp < (⟨62135597900000000, by decide⟩ : Instant)) ∧
      sampleTransactionRuns.flatMap (·.transactions) =
        (transactionRun sampleTransactionFeed ⟨1, 1, 1, 1⟩ ⟨62135597500000000, by decide⟩
          ⟨62135597900000000, by decide⟩ 4).transactions := by
  have hcomplete : (sampleTransactionRuns.getLast (List.cons_ne_nil _ _)).stream.completionState =
      .complete := by decide +kernel
  have hdone : (continuation (sampleTransactionRuns.getLast
      (List.cons_ne_nil _ _)).stream).resumeState ≠ .ready := by decide +kernel
  have h := transactionAcquisition_exact_and_cut_invariant sampleHistory sampleTransactionFeed
    ⟨1, 1, 1, 1⟩ ⟨62135597500000000, by decide⟩ ⟨62135597900000000, by decide⟩ (by decide)
    (pagingProvider_serves sampleHistory) [sampleLeg 1, sampleLeg 1, sampleLeg 3]
    (sampleTransactionRuns.getLast (List.cons_ne_nil _ _)) (List.getLast?_eq_some_getLast _)
  exact ⟨by decide +kernel, (h.1 hcomplete).1,
    (h.2 (pagingProvider_answers sampleHistory) hdone 4 (by decide)).1⟩

end TonTracker
