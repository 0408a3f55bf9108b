/-
# `Acquisition.EventCuts` — cutting the event acquisition

The event stream against a provider that pages through a listing.  A run
is a reading of the provider's pages in order (`readPages`): it stops at
the page that ends the listing or crosses the interval's start, at a page
whose accepted events do not decode, or where its page cap cuts it.

A cut hands on the cursor and nothing else, so the pages a chain reads
are those one run reads, and so are the events it accepts.  The state the
tip ends in is decided by two flags of its own run: whether an event in
progress was withheld, and whether anything was accepted before a failed
page.  `eventAcquisition_cut_invariant_iff` says exactly when that is the
state of one run: when the flag, raised before the last cut, is raised
again after it.
-/
import TonTracker.Acquisition.EventHistory
import TonTracker.Services.StreamCheckpoints

namespace TonTracker

open DescendingLog

/-! ## Reading pages in order -/

inductive PageStop where
  | cut
  | ended
  | undecodable
deriving DecidableEq, Repr

section Pages

variable {derive : List AccountEvent → Except String (List Json)} {start stop : Instant}

/-- The accepted events of the page do not decode. -/
def undecodable (derive : List AccountEvent → Except String (List Json)) (start stop : Instant)
    (page : List EventRecord) : Bool :=
  match derive (eventsOf (accepted start stop page)) with
  | .ok _ => false
  | .error _ => true

/-- The page ends the listing or crosses the start of the interval. -/
def endsAt (start : Instant) (page : List EventRecord) : Bool :=
  page.isEmpty || crossed EventRecord.timestamp start page

/-- The pages taken in, and why no more are. -/
def readPages (derive : List AccountEvent → Except String (List Json)) (start stop : Instant) :
    List (List EventRecord) → List (List EventRecord) × PageStop
  | [] => ([], .cut)
  | page :: pages =>
      if undecodable derive start stop page then ([], .undecodable)
      else if endsAt start page then ([page], .ended)
      else (page :: (readPages derive start stop pages).1,
        (readPages derive start stop pages).2)

/-- A cut reading goes on with the pages after it. -/
theorem readPages_append {pages : List (List EventRecord)}
    (h : (readPages derive start stop pages).2 = .cut) (more : List (List EventRecord)) :
    readPages derive start stop (pages ++ more) =
      (pages ++ (readPages derive start stop more).1,
        (readPages derive start stop more).2) := by
  induction pages with
  | nil => rfl
  | cons page pages ih =>
      rw [readPages] at h
      rw [List.cons_append, readPages]
      split at h
      · cases h
      · next hd =>
          split at h
          · cases h
          · next he => rw [if_neg hd, if_neg he, ih h]; rfl

/-- A reading that stopped does not look at further pages. -/
theorem readPages_append_of_stopped {pages : List (List EventRecord)}
    (h : (readPages derive start stop pages).2 ≠ .cut) (more : List (List EventRecord)) :
    readPages derive start stop (pages ++ more) = readPages derive start stop pages := by
  induction pages with
  | nil => exact absurd rfl h
  | cons page pages ih =>
      rw [readPages] at h
      rw [List.cons_append, readPages, readPages]
      split
      · rfl
      · next hd =>
          split
          · rfl
          · next he =>
              rw [if_neg hd, if_neg he] at h
              rw [ih h]

end Pages

/-- The pages a provider answers with, each request at the cursor of the
page before; an empty page is the last. -/
def EventPaging.walk {fetchJson : Nat → EventsQuery → ProviderResult Json}
    (paging : EventPaging fetchJson) (limit : Nat) (window : Nat × Nat) :
    Nat → Nat → Option LogicalTime → List (List EventRecord)
  | 0, _, _ => []
  | n + 1, pageIndex, cursor =>
      match paging.page pageIndex ⟨limit, cursor, some window.1, some window.2⟩ with
      | [] => [[]]
      | a :: rest => (a :: rest) ::
          paging.walk limit window n (pageIndex + 1) ((a :: rest).getLast?.map (·.event.lt))

/-! ## One pass -/

section Pass

variable {D : Type} [DecidableEq D] {feed : EventFeed D} {start stop : Instant} {limit : Nat}
  {window : Nat × Nat} {s : EventLoop D}

/-- The arguments of a bounded ingest run. -/
abbrev eventIngest (start stop : Instant) (limit : Nat) : EventRun :=
  ⟨.ingest, some (start, stop), limit⟩

/-- The listing for the window, from the loop's cursor on. -/
def EventPaging.remaining (paging : EventPaging feed.fetchJson) (window : Nat × Nat)
    (cursor : Option LogicalTime) : List EventRecord :=
  (paging.listing (some window.1) (some window.2)).below (cursor.map (·.val))

/-- The loop is in front of the listing it has still to read. -/
def EventFront (paging : EventPaging feed.fetchJson) (window : Nat × Nat) (s : EventLoop D) :
    Prop :=
  EventsAhead (paging.remaining window s.cursor) s.seen s.lastLt s.lastTimestamp

omit [DecidableEq D] in
theorem eventFront_start (paging : EventPaging feed.fetchJson) (window : Nat × Nat)
    (cursor : Option LogicalTime) (firstPageIndex : Nat) :
    EventFront paging window (eventStart cursor firstPageIndex : EventLoop D) := by
  have hsub : (paging.remaining window cursor).Sublist
      (paging.listing (some window.1) (some window.2)).entries :=
    DescendingLog.below_sublist _ _
  exact ⟨DescendingLog.below_pairwise _ _, (EventHistory.distinct _).sublist hsub,
    fun entry hentry => absurd hentry List.not_mem_nil, fun t ht => (by cases ht),
    fun t ht => (by cases ht)⟩

/-- What a page does to the loop that takes it in. -/
structure Absorbs (s next : EventLoop D) (start stop : Instant) (page : List EventRecord) :
    Prop where
  accepts : next.acceptedEvents = s.acceptedEvents ++ eventsOf (accepted start stop page)
  progress : next.sawInProgress = (s.sawInProgress || hasInProgress start stop page)
  cursor : next.cursor = page.getLast?.map (·.event.lt)
  turned : ∃ evidence, next.pages = s.pages ++ [evidence] ∧ evidence.errorCode = none ∧
    evidence.pageIndex = s.pageIndex ∧ evidence.responseCursor = next.cursor

/-- The state a run ends in, from its two flags. -/
def stopState (stop : PageStop) (acceptedNone sawInProgress : Bool) : CompletionState :=
  match stop with
  | .cut => .incomplete
  | .ended => if sawInProgress then .incomplete else .complete
  | .undecodable => if acceptedNone then .error else .incomplete

/-- How a run that stopped ends. -/
structure EventEnds (e : EventEnd D) (stop : PageStop) (events : List AccountEvent)
    (sawInProgress : Bool) : Prop where
  accepts : e.loop.acceptedEvents = events
  state : e.completionState = stopState stop events.isEmpty sawInProgress
  notResumable : isResumableTermination e.terminationReason = false

/-- One pass against the provider's next page. -/
theorem eventPass_page (paging : EventPaging feed.fetchJson)
    (hlimit : 1 ≤ limit ∧ limit ≤ 100) (hwindow : dateWindow start stop = some window)
    (hfront : EventFront paging window s) {page : List EventRecord}
    (hpage : paging.page s.pageIndex ⟨limit, s.cursor, some window.1, some window.2⟩ = page) :
    (undecodable feed.derive start stop page = true ∧
      ∃ e, eventPass feed (eventIngest start stop limit) s = .inr e ∧
        EventEnds e .undecodable s.acceptedEvents s.sawInProgress) ∨
    (undecodable feed.derive start stop page = false ∧
      ∃ next, Absorbs s next start stop page ∧
        (endsAt start page = true ∧
          (∃ e, eventPass feed (eventIngest start stop limit) s = .inr e ∧
            EventEnds e .ended next.acceptedEvents next.sawInProgress) ∨
        endsAt start page = false ∧
          EventFront paging window { next with pageIndex := s.pageIndex + 1 } ∧
          eventPass feed (eventIngest start stop limit) s =
            .inl { next with pageIndex := s.pageIndex + 1 } ∧
          (paging.remaining window next.cursor).length <
            (paging.remaining window s.cursor).length)) := by
  obtain ⟨rest, hsplit, hlen, hempty⟩ := paging.splits s.pageIndex
    ⟨limit, s.cursor, some window.1, some window.2⟩ hlimit.1
  obtain ⟨payload, hfetch, hlists⟩ := paging.answers s.pageIndex
    ⟨limit, s.cursor, some window.1, some window.2⟩ hlimit.1
  rw [hpage] at hsplit hlen hempty hlists
  have hsplit' : paging.remaining window s.cursor = page ++ rest := hsplit
  have hahead : EventsAhead (page ++ rest) s.seen s.lastLt s.lastTimestamp := hsplit' ▸ hfront
  have hdesc : EventsDescend page := (List.pairwise_append.mp hahead.descends).1
  have hdistinct := (List.pairwise_append.mp hahead.distinct).1
  have hbelow : ∀ b ∈ s.cursor, ∀ a ∈ page, a.event.lt < b := by
    intro b hb a ha
    have hmem : a ∈ paging.remaining window (some b) := by
      rw [← Option.mem_def.mp hb, hsplit']
      exact List.mem_append_left rest ha
    exact (paging.listing (some window.1) (some window.2)).key_lt_of_mem_below hmem
  have hget : fetchEventPage feed (eventIngest start stop limit) s =
      .ok (eventRecordPage s.cursor limit window page) :=
    getAccountEventsPage_lists hwindow hfetch hdistinct hlists hlimit hlen hdesc hbelow
  let scan₀ : EventScan D :=
    { seen := s.seen, lastLt := s.lastLt, lastTimestamp := s.lastTimestamp
      duplicates := 0, accepted := [], inProgress := false, crossedStart := false }
  let scan := page.foldl (scanEventNext feed.fingerprint start stop) scan₀
  have hzip : (validatedEventsOf page).events.zip (validatedEventsOf page).timestamps =
      page.map fun a => (a.event, a.timestamp) := by
    simp only [validatedEventsOf, eventsOf, List.zip_map']
  have hscan : (page.map fun a => (a.event, a.timestamp)).foldlM
      (scanEvent feed.fingerprint (some (start, stop))) scan₀ = .ok scan := by
    rw [List.foldlM_map]
    refine ExceptFold.foldlM_eq_foldl (scanEventNext feed.fingerprint start stop)
      (fun l b => EventsAhead (l ++ rest) b.seen b.lastLt b.lastTimestamp)
      (fun a l b hb => scanEvent_step a (l ++ rest) b hb) hahead
  have hafter : EventsAhead rest scan.seen scan.lastLt scan.lastTimestamp :=
    ExceptFold.foldl_inv
      (fun l (b : EventScan D) => EventsAhead l b.seen b.lastLt b.lastTimestamp)
      (fun a l b hb => (scanEvent_step a l b hb).2) page hahead
  obtain ⟨haccepted, hprogress, hcrossed⟩ :=
    foldl_scanEventNext feed.fingerprint start stop page scan₀
  have haccepted' : scan.accepted = eventsOf (accepted start stop page) := haccepted
  have hread : scanEventPage feed (eventIngest start stop limit) s
      (eventRecordPage s.cursor limit window page) =
        (feed.derive (eventsOf (accepted start stop page))).map
          fun derived => (validatedEventsOf page, scan, derived) := by
    rw [scanEventPage, validateEventPage_lists hlen hdesc hbelow]
    show (((validatedEventsOf page).events.zip (validatedEventsOf page).timestamps).foldlM
      (scanEvent feed.fingerprint (some (start, stop))) scan₀ >>= fun scan =>
        feed.derive scan.accepted >>= fun derived =>
          Except.ok (validatedEventsOf page, scan, derived)) = _
    rw [hzip, hscan]
    show (feed.derive scan.accepted >>= fun derived =>
      Except.ok (validatedEventsOf page, scan, derived)) = _
    rw [haccepted']
    cases feed.derive (eventsOf (accepted start stop page)) <;> rfl
  cases hderive : feed.derive (eventsOf (accepted start stop page)) with
  | error text =>
      refine .inl ⟨by simp only [undecodable, hderive], ?_⟩
      refine ⟨eventFailure feed (eventIngest start stop limit) s
        (some (eventRecordPage s.cursor limit window page)) .protocolError .protocolError, ?_,
        rfl, rfl, rfl⟩
      simp only [eventPass, hget, hread, hderive, Except.map]
  | ok derived =>
      let next := absorbEventPage feed (eventIngest start stop limit) s
        (eventRecordPage s.cursor limit window page) (validatedEventsOf page) scan derived
      have habsorb : Absorbs s next start stop page := by
        refine ⟨?_, ?_, rfl, ⟨_, rfl, rfl, rfl, rfl⟩⟩
        · show s.acceptedEvents ++ scan.accepted = _
          rw [haccepted']
        · show (s.sawInProgress || scan.inProgress) = _
          rw [show scan.inProgress = _ from hprogress, Bool.false_or]
      refine .inr ⟨by simp only [undecodable, hderive], next, habsorb, ?_⟩
      have hcount : (validatedEventsOf page).rawCount = 0 ↔ page = [] := by
        simp only [validatedEventsOf, List.length_map, List.length_eq_zero_iff]
      have hcross : scan.crossedStart = crossed EventRecord.timestamp start page := by
        rw [show scan.crossedStart = _ from hcrossed, Bool.false_or]
      have hends : ((validatedEventsOf page).rawCount = 0 ∨ scan.crossedStart = true) ↔
          endsAt start page = true := by
        rw [hcount, hcross, endsAt, Bool.or_eq_true, List.isEmpty_iff]
      cases he : endsAt start page with
      | true =>
          refine .inl ⟨rfl, ?_⟩
          have hcond := hends.mpr he
          cases hflag : next.sawInProgress with
          | true =>
              refine ⟨⟨{ next with
                  cursor := if (validatedEventsOf page).rawCount = 0 then none
                    else (validatedEventsOf page).responseCursor },
                  .incomplete, .providerEventInProgress, none, false⟩, ?_, ⟨rfl, rfl, rfl⟩⟩
              simp only [eventPass, hget, hread, hderive, Except.map, reduceCtorEq, if_false,
                Option.isNone_some, Bool.false_eq_true, hcond, if_true]
              rw [if_pos hflag]
          | false =>
              refine ⟨⟨{ next with
                  cursor := if (validatedEventsOf page).rawCount = 0 then none
                    else (validatedEventsOf page).responseCursor },
                  .complete, if (validatedEventsOf page).rawCount = 0 then .providerTerminal
                    else .requestedStartCrossed, none, false⟩, ?_, ⟨rfl, rfl, ?_⟩⟩
              · simp only [eventPass, hget, hread, hderive, Except.map, reduceCtorEq, if_false,
                  Option.isNone_some, Bool.false_eq_true, hcond, if_true]
                rw [if_neg (by rw [hflag]; simp)]
              · show isResumableTermination (if _ then _ else _) = false
                split <;> rfl
      | false =>
          have hcond : ¬ ((validatedEventsOf page).rawCount = 0 ∨ scan.crossedStart = true) := by
            rw [hends, he]; simp
          have hne : page ≠ [] := fun h => hcond (.inl (hcount.mpr h))
          have hrem : paging.remaining window next.cursor = rest := by
            obtain ⟨init, last, rfl⟩ := (List.eq_nil_or_concat page).resolve_left hne
            rw [List.concat_eq_append] at hsplit'
            have hcursor : next.cursor = some last.event.lt := by
              rw [habsorb.cursor, List.concat_eq_append, List.getLast?_concat]; rfl
            rw [hcursor]
            have hbelow' : (paging.listing (some window.1) (some window.2)).below
                (s.cursor.map (·.val)) = init ++ last :: rest := by
              rw [List.append_cons]
              exact hsplit'
            exact (paging.listing (some window.1) (some window.2)).below_last hbelow'
          refine .inr ⟨rfl, ?_, ?_, ?_⟩
          · show EventsAhead (paging.remaining window next.cursor) scan.seen scan.lastLt
              scan.lastTimestamp
            rw [hrem]
            exact hafter
          · simp only [eventPass, hget, hread, hderive, Except.map, reduceCtorEq, if_false,
              Option.isNone_some, Bool.false_eq_true, hcond]
            rfl
          · rw [hrem, hsplit', List.length_append]
            have := List.length_pos_of_ne_nil hne
            omega

end Pass

/-! ## One run -/

section Run

variable {D : Type} [DecidableEq D] {feed : EventFeed D} {start stop : Instant} {limit : Nat}
  {window : Nat × Nat}

/-- The last page was taken in, and the loop stands behind it. -/
def EventTurned (s : EventLoop D) : Prop :=
  s.cursor.isSome ∧ ∃ init last, s.pages = init ++ [last] ∧ last.errorCode = none ∧
    last.responseCursor = s.cursor ∧ last.pageIndex + 1 = s.pageIndex

/-- The loop after `n` passes that all went on: what it has taken in, and
that the provider's pages go on from where it stands. -/
structure CutBehind (paging : EventPaging feed.fetchJson) (limit : Nat) (window : Nat × Nat)
    (start stop : Instant) (n : Nat) (s s' : EventLoop D) : Prop where
  front : EventFront paging window s'
  accepts : s'.acceptedEvents = s.acceptedEvents ++ eventsOf (accepted start stop
    (paging.walk limit window n s.pageIndex s.cursor).flatten)
  progress : s'.sawInProgress = (s.sawInProgress || hasInProgress start stop
    (paging.walk limit window n s.pageIndex s.cursor).flatten)
  pageIndex : s'.pageIndex = s.pageIndex + n
  onward : ∀ m, paging.walk limit window (n + m) s.pageIndex s.cursor =
    paging.walk limit window n s.pageIndex s.cursor ++
      paging.walk limit window m s'.pageIndex s'.cursor
  turned : 1 ≤ n → EventTurned s'

omit [DecidableEq D] in
theorem walk_succ {paging : EventPaging feed.fetchJson} {n pageIndex : Nat}
    {cursor : Option LogicalTime} {page : List EventRecord}
    (hpage : paging.page pageIndex ⟨limit, cursor, some window.1, some window.2⟩ = page)
    (hne : page ≠ []) :
    paging.walk limit window (n + 1) pageIndex cursor =
      page :: paging.walk limit window n (pageIndex + 1) (page.getLast?.map (·.event.lt)) := by
  rw [EventPaging.walk, hpage]
  cases page with
  | nil => exact absurd rfl hne
  | cons a rest => rfl

omit [DecidableEq D] in
theorem walk_succ_head {paging : EventPaging feed.fetchJson} {n pageIndex : Nat}
    {cursor : Option LogicalTime} {page : List EventRecord}
    (hpage : paging.page pageIndex ⟨limit, cursor, some window.1, some window.2⟩ = page) :
    ∃ more, paging.walk limit window (n + 1) pageIndex cursor = page :: more := by
  rw [EventPaging.walk, hpage]
  cases page with
  | nil => exact ⟨[], rfl⟩
  | cons a rest => exact ⟨_, rfl⟩

/-- The passes of the loop read the provider's pages. -/
theorem eventPasses_read (paging : EventPaging feed.fetchJson)
    (hlimit : 1 ≤ limit ∧ limit ≤ 100) (hwindow : dateWindow start stop = some window) :
    ∀ (n : Nat) {s : EventLoop D}, EventFront paging window s →
      ((readPages feed.derive start stop
          (paging.walk limit window n s.pageIndex s.cursor)).2 = .cut ∧
        ∃ s', ForElse.passes (eventPass feed (eventIngest start stop limit)) n s = .inl s' ∧
          CutBehind paging limit window start stop n s s' ∧
          (paging.remaining window s'.cursor).length + n ≤
            (paging.remaining window s.cursor).length) ∨
      ((readPages feed.derive start stop
          (paging.walk limit window n s.pageIndex s.cursor)).2 ≠ .cut ∧
        ∃ e, ForElse.passes (eventPass feed (eventIngest start stop limit)) n s = .inr e ∧
          EventEnds e
            (readPages feed.derive start stop
              (paging.walk limit window n s.pageIndex s.cursor)).2
            (s.acceptedEvents ++ eventsOf (accepted start stop (readPages feed.derive start stop
              (paging.walk limit window n s.pageIndex s.cursor)).1.flatten))
            (s.sawInProgress || hasInProgress start stop (readPages feed.derive start stop
              (paging.walk limit window n s.pageIndex s.cursor)).1.flatten)) := by
  intro n
  induction n with
  | zero =>
      intro s hfront
      refine .inl ⟨rfl, s, rfl, ⟨hfront, by simp [EventPaging.walk, accepted, clip],
        by simp [EventPaging.walk, hasInProgress, clip], rfl, fun m => ?_, fun h => ?_⟩, le_refl _⟩
      · rw [Nat.zero_add]; rfl
      · omega
  | succ n ih =>
      intro s hfront
      obtain ⟨page, hpage⟩ : ∃ page, paging.page s.pageIndex
          ⟨limit, s.cursor, some window.1, some window.2⟩ = page := ⟨_, rfl⟩
      obtain ⟨more, hwalk⟩ := walk_succ_head (n := n) hpage
      rcases eventPass_page paging hlimit hwindow hfront hpage with
        ⟨hbad, e, hpass, hends⟩ | ⟨hgood, next, habsorb, hrest⟩
      · -- The page does not decode: the run fails with what it had.
        have hread : readPages feed.derive start stop
            (paging.walk limit window (n + 1) s.pageIndex s.cursor) = ([], .undecodable) := by
          rw [hwalk, readPages, if_pos hbad]
        rw [hread]
        refine .inr ⟨by simp, e, ForElse.passes_succ_inr hpass, ?_⟩
        simpa [accepted, hasInProgress, clip] using hends
      · rcases hrest with ⟨hend, e, hpass, hends⟩ | ⟨hgo, hfront', hpass, hlt⟩
        · -- The page ends the reading, and is the last it takes in.
          have hread : readPages feed.derive start stop
              (paging.walk limit window (n + 1) s.pageIndex s.cursor) = ([page], .ended) := by
            rw [hwalk, readPages, if_neg (by rw [hgood]; simp), if_pos hend]
          rw [hread]
          refine .inr ⟨by simp, e, ForElse.passes_succ_inr hpass, ?_⟩
          rw [habsorb.accepts, habsorb.progress] at hends
          simpa using hends
        · have hne : page ≠ [] := by
            rintro rfl
            cases hgo
          have hstep := walk_succ (n := n) hpage hne
          have hread : readPages feed.derive start stop
              (paging.walk limit window (n + 1) s.pageIndex s.cursor) =
              (page :: (readPages feed.derive start stop
                  (paging.walk limit window n (s.pageIndex + 1) next.cursor)).1,
                (readPages feed.derive start stop
                  (paging.walk limit window n (s.pageIndex + 1) next.cursor)).2) := by
            rw [hstep, readPages, if_neg (by rw [hgood]; simp), if_neg (by rw [hgo]; simp),
              habsorb.cursor]
          have hflat : ∀ pages : List (List EventRecord),
              s.acceptedEvents ++ eventsOf (accepted start stop (page :: pages).flatten) =
                  next.acceptedEvents ++ eventsOf (accepted start stop pages.flatten) ∧
                (s.sawInProgress || hasInProgress start stop (page :: pages).flatten) =
                  (next.sawInProgress || hasInProgress start stop pages.flatten) := by
            intro pages
            rw [List.flatten_cons, accepted_append, hasInProgress_append, habsorb.accepts,
              habsorb.progress, eventsOf, eventsOf, eventsOf, List.map_append, List.append_assoc,
              Bool.or_assoc]
            exact ⟨rfl, rfl⟩
          rw [hread, ForElse.passes_succ_inl hpass]
          rcases ih hfront' with ⟨hcut, s', hs', hbehind, hle⟩ | ⟨hstop, e, he, hends⟩
          · refine .inl ⟨hcut, s', hs', ⟨hbehind.front, ?_, ?_, ?_, ?_, ?_⟩, ?_⟩
            · rw [hbehind.accepts, hstep, (hflat _).1, habsorb.cursor]
            · rw [hbehind.progress, hstep, (hflat _).2, habsorb.cursor]
            · rw [hbehind.pageIndex]; show s.pageIndex + 1 + n = _; omega
            · intro m
              have honward := hbehind.onward m
              rw [show n + 1 + m = (n + m) + 1 by omega, walk_succ (n := n + m) hpage hne, hstep,
                ← habsorb.cursor, List.cons_append]
              exact congrArg (page :: ·) honward
            · intro _
              cases n with
              | zero =>
                  cases hs'
                  obtain ⟨evidence, hpages, hok, hindex, hresponse⟩ := habsorb.turned
                  refine ⟨?_, s.pages, evidence, hpages, hok, hresponse, by rw [hindex]⟩
                  show next.cursor.isSome = true
                  rw [habsorb.cursor, Option.isSome_map]
                  exact List.getLast?_isSome.mpr hne
              | succ n => exact hbehind.turned (by omega)
            · have : (paging.remaining window next.cursor).length <
                (paging.remaining window s.cursor).length := hlt
              have : (paging.remaining window s'.cursor).length + n ≤
                (paging.remaining window next.cursor).length := hle
              omega
          · refine .inr ⟨hstop, e, he, ?_⟩
            rw [(hflat _).1, (hflat _).2]
            exact hends

variable (limit window) in
omit [DecidableEq D] in
/-- A longer walk starts with the shorter one. -/
theorem walk_prefix (paging : EventPaging feed.fetchJson) (m : Nat) :
    ∀ (n pageIndex : Nat) (cursor : Option LogicalTime), ∃ more,
      paging.walk limit window (n + m) pageIndex cursor =
        paging.walk limit window n pageIndex cursor ++ more := by
  intro n
  induction n with
  | zero => intro pageIndex cursor; exact ⟨_, rfl⟩
  | succ n ih =>
      intro pageIndex cursor
      rw [show n + 1 + m = (n + m) + 1 by omega, EventPaging.walk, EventPaging.walk]
      split
      · exact ⟨[], rfl⟩
      · obtain ⟨more, h⟩ := ih (pageIndex + 1) _
        exact ⟨more, by rw [h]; rfl⟩

omit [DecidableEq D] in
/-- Two readings of one walk that both stopped are the same reading. -/
theorem readPages_walk_eq {paging : EventPaging feed.fetchJson} {m n pageIndex : Nat}
    {cursor : Option LogicalTime}
    (hm : (readPages feed.derive start stop
      (paging.walk limit window m pageIndex cursor)).2 ≠ .cut)
    (hn : (readPages feed.derive start stop
      (paging.walk limit window n pageIndex cursor)).2 ≠ .cut) :
    readPages feed.derive start stop (paging.walk limit window m pageIndex cursor) =
      readPages feed.derive start stop (paging.walk limit window n pageIndex cursor) := by
  obtain ⟨more, hmore⟩ := walk_prefix limit window paging n m pageIndex cursor
  obtain ⟨more', hmore'⟩ := walk_prefix limit window paging m n pageIndex cursor
  rw [← readPages_append_of_stopped hm more, ← hmore, Nat.add_comm, hmore',
    readPages_append_of_stopped hn]

variable (start stop) in
/-- Enough pages stop every reading. -/
theorem readPages_walk_stops (paging : EventPaging feed.fetchJson)
    (hlimit : 1 ≤ limit ∧ limit ≤ 100) (hwindow : dateWindow start stop = some window)
    {n : Nat} (hn : (paging.listing (some window.1) (some window.2)).entries.length < n)
    (pageIndex : Nat) (cursor : Option LogicalTime) :
    (readPages feed.derive start stop
      (paging.walk limit window n pageIndex cursor)).2 ≠ .cut := by
  rcases eventPasses_read paging hlimit hwindow n (eventFront_start paging window cursor pageIndex)
    with ⟨-, s', -, -, hle⟩ | ⟨hstop, -⟩
  · have hlen : (paging.remaining window cursor).length ≤
        (paging.listing (some window.1) (some window.2)).entries.length :=
      DescendingLog.length_below_le _ _
    have : (paging.remaining window s'.cursor).length + n ≤
      (paging.remaining window cursor).length := hle
    omega
  · exact hstop

variable (feed limit) in
/-- Outside the supported dates a run ends with its first request. -/
theorem eventPass_refused (hwindow : dateWindow start stop = none) (s : EventLoop D) :
    ∃ failure, eventPass feed (eventIngest start stop limit) s =
      .inr (eventFailure feed (eventIngest start stop limit) s none (evidenceError failure)
        (failureReason failure)) := by
  obtain ⟨failure, h⟩ := getAccountEventsPage_refused (feed.fetchJson s.pageIndex) limit
    s.cursor hwindow
  refine ⟨failure.error, ?_⟩
  have hget : fetchEventPage feed (eventIngest start stop limit) s = .error failure := h
  simp only [eventPass, hget]

end Run

/-! ## A chain of runs -/

section Chain

variable {D : Type} [DecidableEq D] {feed : EventFeed D} {settings : ActivitySettings}
  {start stop : Instant} {window : Nat × Nat}

/-- The run of one leg: its own page cap, page budget and clock, the same
provider and page size. -/
def eventLeg (feed : EventFeed D) (settings : ActivitySettings) (leg : Leg)
    (request : AdapterRequest) : EventOutcome D :=
  fetchEventAcquisition
    { feed with clock := leg.clock, startedAt := leg.startedAt, finishedAt := leg.finishedAt }
    { settings with liveEventMaxPages := leg.maxPages } request .ingest

/-- A first run over the interval, and the runs that resume it. -/
def eventRuns (feed : EventFeed D) (settings : ActivitySettings) (start stop : Instant)
    (legs : List Leg) : List (EventOutcome D) :=
  runLegs (eventLeg feed settings) (·.stream) start stop .accountEvents
    (firstRequest start stop) legs

/-- One run over the interval with this many passes. -/
def eventRun (feed : EventFeed D) (settings : ActivitySettings) (start stop : Instant)
    (pageCap : Nat) : EventOutcome D :=
  let run := eventIngest start stop (eventPageSize settings)
  eventOutcome feed run pageCap (eventLoop feed run none 1 pageCap)

theorem eventPageSize_bounds (settings : ActivitySettings) :
    1 ≤ eventPageSize settings ∧ eventPageSize settings ≤ 100 :=
  ⟨one_le_clamp _ _, clamp_le (by omega) _⟩

/-- The page caps the legs of a chain run under. -/
def legCaps : Option PageBudget → List Leg → List Nat
  | _, [] => []
  | pageBudget, leg :: legs =>
      budgeted pageBudget (clamp 100 leg.maxPages) ::
        legCaps (legs.head?.bind (·.pageBudget)) legs

/-- A run that its page cap cut: it took in all its pages and is ready to
continue behind them. -/
structure CutRun (paging : EventPaging feed.fetchJson) (limit : Nat) (window : Nat × Nat)
    (start stop : Instant) (first : Option LogicalTime) (pageIndex pageCap : Nat)
    (o : EventOutcome D) : Prop where
  cut : (readPages feed.derive start stop
    (paging.walk limit window pageCap pageIndex first)).2 = .cut
  ready : (continuation o.stream).resumeState = .ready
  last : ∃ page, lastSuccessful o.stream = some page ∧ page.pageIndex + 1 = pageIndex + pageCap
  accepts : o.acceptedEvents = eventsOf (accepted start stop
    (paging.walk limit window pageCap pageIndex first).flatten)
  onward : ∀ m, paging.walk limit window (pageCap + m) pageIndex first =
    paging.walk limit window pageCap pageIndex first ++
      paging.walk limit window m (pageIndex + pageCap) o.stream.terminalCursor

/-- A run that stopped at one of these pages. -/
structure StoppedRun (derive : List AccountEvent → Except String (List Json))
    (start stop : Instant) (pages : List (List EventRecord)) (o : EventOutcome D) : Prop where
  stopped : (readPages derive start stop pages).2 ≠ .cut
  blocked : (continuation o.stream).resumeState ≠ .ready
  accepts : o.acceptedEvents =
    eventsOf (accepted start stop (readPages derive start stop pages).1.flatten)
  state : o.stream.completionState = stopState (readPages derive start stop pages).2
    (eventsOf (accepted start stop (readPages derive start stop pages).1.flatten)).isEmpty
    (hasInProgress start stop (readPages derive start stop pages).1.flatten)

variable (feed) in
/-- Every run is one of the two. -/
theorem eventLoop_read (paging : EventPaging feed.fetchJson)
    (hwindow : dateWindow start stop = some window) {limit : Nat} (hlimit : 1 ≤ limit ∧ limit ≤ 100)
    (first : Option LogicalTime) (pageIndex : Nat) {pageCap : Nat} (hcap : 1 ≤ pageCap) :
    CutRun paging limit window start stop first pageIndex pageCap
        (eventOutcome feed (eventIngest start stop limit) pageCap
          (eventLoop feed (eventIngest start stop limit) first pageIndex pageCap)) ∨
      StoppedRun feed.derive start stop (paging.walk limit window pageCap pageIndex first)
        (eventOutcome feed (eventIngest start stop limit) pageCap
          (eventLoop feed (eventIngest start stop limit) first pageIndex pageCap)) := by
  rcases eventPasses_read paging hlimit hwindow pageCap
    (eventFront_start paging window first pageIndex) with
    ⟨hcut, s', hs', hbehind, -⟩ | ⟨hstop, e, he, hends⟩
  · have hend : eventLoop feed (eventIngest start stop limit) first pageIndex pageCap =
        eventPageCap s' := ForElse.run_of_inl hs'
    obtain ⟨hsome, init, last, hpages, hok, hresponse, hindex⟩ := hbehind.turned hcap
    have hnext : s'.pageIndex = pageIndex + pageCap := hbehind.pageIndex
    rw [hend]
    have hstream : ∀ stream : StreamEvidence D,
        stream = (eventOutcome feed (eventIngest start stop limit) pageCap
          (eventPageCap s')).stream →
        (continuation stream).resumeState = .ready ∧ lastSuccessful stream = some last := by
      rintro stream rfl
      exact continuation_of_cut rfl rfl hsome hpages hok hresponse
    obtain ⟨hready, hlast⟩ := hstream _ rfl
    refine .inl ⟨hcut, hready, ⟨last, hlast, by rw [hindex, hnext]⟩, hbehind.accepts, fun m => ?_⟩
    rw [← hnext]
    exact hbehind.onward m
  · have hend : eventLoop feed (eventIngest start stop limit) first pageIndex pageCap = e :=
      ForElse.run_of_inr he
    rw [hend]
    have hstate := hends.state
    rw [show (eventStart first pageIndex : EventLoop D).sawInProgress = false from rfl,
      Bool.false_or] at hstate
    refine .inr ⟨hstop, fun hready => ?_, hends.accepts, hstate⟩
    have hresumable := (continuation_ready hready).2.1
    rw [show (eventOutcome feed (eventIngest start stop limit) pageCap e).stream.terminationReason =
      e.terminationReason from rfl, hends.notResumable] at hresumable
    cases hresumable

variable (settings) in
theorem eventLeg_read (paging : EventPaging feed.fetchJson)
    (hwindow : dateWindow start stop = some window) {request : AdapterRequest}
    {first : Option LogicalTime} {pageIndex : Nat} {pageBudget : Option PageBudget}
    (h : StartsAt start stop .accountEvents request first pageIndex pageBudget) (leg : Leg) :
    CutRun paging (eventPageSize settings) window start stop first pageIndex
        (budgeted pageBudget (clamp 100 leg.maxPages)) (eventLeg feed settings leg request) ∨
      StoppedRun feed.derive start stop (paging.walk (eventPageSize settings) window
        (budgeted pageBudget (clamp 100 leg.maxPages)) pageIndex first)
        (eventLeg feed settings leg request) := by
  have heq : eventLeg feed settings leg request =
      eventOutcome { feed with clock := leg.clock, startedAt := leg.startedAt,
                               finishedAt := leg.finishedAt }
        (eventIngest start stop (eventPageSize settings))
        (budgeted pageBudget (clamp 100 leg.maxPages))
        (eventLoop { feed with clock := leg.clock, startedAt := leg.startedAt,
                               finishedAt := leg.finishedAt }
          (eventIngest start stop (eventPageSize settings)) first pageIndex
          (budgeted pageBudget (clamp 100 leg.maxPages))) := by
    simp only [eventLeg, fetchEventAcquisition, h.bounds, h.position, pageCapOf, reduceCtorEq,
      or_self, if_false, h.cap]
    rfl
  rw [heq]
  rcases eventLoop_read { feed with clock := leg.clock, startedAt := leg.startedAt,
                                    finishedAt := leg.finishedAt }
    paging hwindow (eventPageSize_bounds settings) first pageIndex
    (one_le_budgeted (one_le_clamp 100 leg.maxPages) pageBudget) with h | h
  · exact .inl ⟨h.cut, h.ready, h.last, h.accepts, h.onward⟩
  · exact .inr h

/-- The pages of a chain in which every leg but the last was cut: those
before the last cut, and those the tip reads behind it. -/
theorem eventRuns_read (hse : start < stop) (paging : EventPaging feed.fetchJson)
    (hwindow : dateWindow start stop = some window) :
    ∀ (legs : List Leg) {request : AdapterRequest} {first : Option LogicalTime} {pageIndex : Nat}
      {pageBudget : Option PageBudget},
      StartsAt start stop .accountEvents request first pageIndex pageBudget →
      (runLegs (eventLeg feed settings) (·.stream) start stop .accountEvents request legs).length =
        legs.length →
      ∀ tip ∈ (runLegs (eventLeg feed settings) (·.stream) start stop .accountEvents request
        legs).getLast?, (continuation tip.stream).resumeState ≠ .ready →
      ∃ pageCap cursor,
        (readPages feed.derive start stop (paging.walk (eventPageSize settings) window
          (legCaps pageBudget legs).dropLast.sum pageIndex first)).2 = .cut ∧
        (∀ m, paging.walk (eventPageSize settings) window
            ((legCaps pageBudget legs).dropLast.sum + m) pageIndex first =
          paging.walk (eventPageSize settings) window (legCaps pageBudget legs).dropLast.sum
            pageIndex first ++
          paging.walk (eventPageSize settings) window m
            (pageIndex + (legCaps pageBudget legs).dropLast.sum) cursor) ∧
        StoppedRun feed.derive start stop (paging.walk (eventPageSize settings) window pageCap
          (pageIndex + (legCaps pageBudget legs).dropLast.sum) cursor) tip ∧
        (runLegs (eventLeg feed settings) (·.stream) start stop .accountEvents request
          legs).flatMap (·.acceptedEvents) =
          eventsOf (accepted start stop (paging.walk (eventPageSize settings) window
            (legCaps pageBudget legs).dropLast.sum pageIndex first).flatten) ++
          tip.acceptedEvents := by
  intro legs
  induction legs with
  | nil => intro request first _ _ _ _ tip htip; cases htip
  | cons leg legs ih =>
      intro request first pageIndex pageBudget hstarts hlen tip htip hdone
      have hleg := eventLeg_read settings paging hwindow hstarts leg
      rw [runLegs] at hlen htip ⊢
      cases hnext : resumeRequest start stop .accountEvents
          (continuation (eventLeg feed settings leg request).stream)
          (legs.head?.bind (·.pageBudget)) with
      | none =>
          simp only [hnext, List.length_nil, List.length_cons, List.getLast?_singleton,
            Option.mem_def, Option.some.injEq] at hlen htip ⊢
          subst htip
          have hlegs : legs = [] := List.eq_nil_of_length_eq_zero (by omega)
          subst hlegs
          refine ⟨budgeted pageBudget (clamp 100 leg.maxPages), first, rfl, fun m => ?_, ?_, ?_⟩
          · simp [legCaps, EventPaging.walk]
          · rcases hleg with hcut | hstopped
            · exact absurd hcut.ready hdone
            · simpa [legCaps] using hstopped
          · simp [legCaps, EventPaging.walk, accepted, clip]
      | some next =>
          obtain ⟨hready, page, hpage, hresumes⟩ := startsAt_resume hse hnext
          rcases hleg with hcut | hstopped
          · obtain ⟨last, hlast, hindex⟩ := hcut.last
            have hpageIndex : page.pageIndex + 1 =
                pageIndex + budgeted pageBudget (clamp 100 leg.maxPages) := by
              rw [hpage] at hlast
              cases hlast
              exact hindex
            rw [hpageIndex] at hresumes
            simp only [hnext, List.length_cons, Nat.add_right_cancel_iff] at hlen htip ⊢
            cases legs with
            | nil =>
                simp only [runLegs, List.getLast?_singleton, Option.mem_def,
                  Option.some.injEq] at htip
                subst htip
                exact absurd hready hdone
            | cons leg' legs =>
                have hne : runLegs (eventLeg feed settings) (·.stream) start stop .accountEvents
                    next (leg' :: legs) ≠ [] := by
                  rw [runLegs]; exact List.cons_ne_nil _ _
                rw [List.getLast?_cons_of_ne_nil hne] at htip
                obtain ⟨pageCap, cursor, hread, honward, htipRun, hunion⟩ :=
                  ih hresumes hlen tip htip hdone
                have hsum : (legCaps pageBudget (leg :: leg' :: legs)).dropLast.sum =
                    budgeted pageBudget (clamp 100 leg.maxPages) +
                      (legCaps ((leg' :: legs).head?.bind (·.pageBudget))
                        (leg' :: legs)).dropLast.sum := by
                  rw [legCaps, legCaps, List.dropLast_cons_cons, List.sum_cons]
                have hwalk := hcut.onward
                  (legCaps ((leg' :: legs).head?.bind (·.pageBudget)) (leg' :: legs)).dropLast.sum
                refine ⟨pageCap, cursor, ?_, fun m => ?_, ?_, ?_⟩
                · rw [hsum, hwalk, readPages_append hcut.cut]
                  exact hread
                · rw [hsum, Nat.add_assoc, hcut.onward, honward, hwalk, List.append_assoc,
                    Nat.add_assoc]
                · rw [hsum, ← Nat.add_assoc]
                  exact htipRun
                · rw [List.flatMap_cons, hunion, hsum, hwalk, List.flatten_append,
                    accepted_append, hcut.accepts, eventsOf, eventsOf, eventsOf, List.map_append,
                    List.append_assoc]
          · exact absurd hready hstopped.blocked

/-- How many events the provider lists for the interval. -/
def EventPaging.listed (paging : EventPaging feed.fetchJson) (start stop : Instant) : Nat :=
  match dateWindow start stop with
  | some window => (paging.listing (some window.1) (some window.2)).entries.length
  | none => 0

/-- The first `n` pages the provider answers a run over the interval with;
none outside the supported dates. -/
def EventPaging.pages (paging : EventPaging feed.fetchJson) (limit : Nat) (start stop : Instant)
    (n : Nat) : List (List EventRecord) :=
  match dateWindow start stop with
  | some window => paging.walk limit window n 1 none
  | none => []

/-- The pages of a chain before its last cut. -/
def pagesBeforeLastCut (paging : EventPaging feed.fetchJson) (settings : ActivitySettings)
    (start stop : Instant) (legs : List Leg) : List (List EventRecord) :=
  paging.pages (eventPageSize settings) start stop (legCaps none legs).dropLast.sum

/-- The pages behind the last cut, to the end of the listing. -/
def pagesBehindLastCut (paging : EventPaging feed.fetchJson) (settings : ActivitySettings)
    (start stop : Instant) (legs : List Leg) : List (List EventRecord) :=
  (paging.pages (eventPageSize settings) start stop
    ((legCaps none legs).dropLast.sum + (paging.listed start stop + 1))).drop
      (pagesBeforeLastCut paging settings start stop legs).length

/-- The flag that decides the final state is raised again behind the cut
whenever it was raised before it: an accepted event, where the reading
ends on a page that does not decode, an event in progress elsewhere. -/
def CarriedOver (derive : List AccountEvent → Except String (List Json)) (start stop : Instant)
    (before behind : List (List EventRecord)) : Prop :=
  if (readPages derive start stop behind).2 = .undecodable then
    accepted start stop before.flatten ≠ [] →
      accepted start stop (readPages derive start stop behind).1.flatten ≠ []
  else
    hasInProgress start stop before.flatten = true →
      hasInProgress start stop (readPages derive start stop behind).1.flatten = true

theorem stopState_eq_iff {k : PageStop} (hk : k ≠ .cut) {none₁ none₂ saw₁ saw₂ : Bool} :
    stopState k none₂ saw₂ = stopState k (none₁ && none₂) (saw₁ || saw₂) ↔
      if k = .undecodable then none₁ = false → none₂ = false
      else saw₁ = true → saw₂ = true := by
  cases k with
  | cut => exact absurd rfl hk
  | ended => cases saw₁ <;> cases saw₂ <;> simp [stopState]
  | undecodable => cases none₁ <;> cases none₂ <;> simp [stopState]

/-- A run outside the supported dates accepts nothing and ends in error. -/
theorem eventLoop_refused (feed : EventFeed D) (hwindow : dateWindow start stop = none)
    (limit : Nat) (first : Option LogicalTime) (pageIndex : Nat) {pageCap : Nat}
    (hcap : 1 ≤ pageCap) :
    (eventLoop feed (eventIngest start stop limit) first pageIndex pageCap).loop.acceptedEvents =
        [] ∧
      (eventLoop feed (eventIngest start stop limit) first pageIndex pageCap).completionState =
        .error := by
  obtain ⟨failure, hpass⟩ := eventPass_refused feed limit hwindow
    (eventStart first pageIndex : EventLoop D)
  obtain ⟨n, rfl⟩ : ∃ n, pageCap = n + 1 := ⟨pageCap - 1, by omega⟩
  have hend : eventLoop feed (eventIngest start stop limit) first pageIndex (n + 1) = _ :=
    ForElse.run_of_inr (ForElse.passes_succ_inr hpass)
  rw [hend]
  exact ⟨rfl, rfl⟩

theorem carriedOver_iff {derive : List AccountEvent → Except String (List Json)}
    {before behind : List (List EventRecord)}
    (hstop : (readPages derive start stop behind).2 ≠ .cut) :
    CarriedOver derive start stop before behind ↔
      stopState (readPages derive start stop behind).2
          (eventsOf (accepted start stop (readPages derive start stop behind).1.flatten)).isEmpty
          (hasInProgress start stop (readPages derive start stop behind).1.flatten) =
        stopState (readPages derive start stop behind).2
          (eventsOf (accepted start stop
            (before ++ (readPages derive start stop behind).1).flatten)).isEmpty
          (hasInProgress start stop
            (before ++ (readPages derive start stop behind).1).flatten) := by
  have hempty : ∀ xs : List EventRecord, (eventsOf xs).isEmpty = false ↔ xs ≠ [] := by
    intro xs
    cases xs <;> simp
  have happend : ∀ xs ys : List EventRecord,
      (eventsOf (xs ++ ys)).isEmpty = ((eventsOf xs).isEmpty && (eventsOf ys).isEmpty) := by
    intro xs ys
    cases xs <;> simp
  rw [List.flatten_append, accepted_append, hasInProgress_append, happend,
    stopState_eq_iff hstop, CarriedOver, hempty, hempty]

/-- A chain of runs over the provider's pages accepts what one run accepts
and ends as it does, and is complete only if it withheld no event of the
interval, exactly when what its earlier runs withheld is carried over by
what lies behind the last cut. -/
theorem eventAcquisition_cut_invariant_iff (feed : EventFeed D)
    (paging : EventPaging feed.fetchJson) (settings : ActivitySettings) (start stop : Instant)
    (hse : start < stop) (legs : List Leg)
    (hran : (eventRuns feed settings start stop legs).length = legs.length)
    (tip : EventOutcome D) (htip : tip ∈ (eventRuns feed settings start stop legs).getLast?)
    (hdone : (continuation tip.stream).resumeState ≠ .ready)
    (pageCap : Nat) (hcap : paging.listed start stop < pageCap) :
    ((eventRuns feed settings start stop legs).flatMap (·.acceptedEvents) =
          (eventRun feed settings start stop pageCap).acceptedEvents ∧
        tip.stream.completionState =
          (eventRun feed settings start stop pageCap).stream.completionState ∧
        (tip.stream.completionState = .complete →
          hasInProgress start stop (pagesBeforeLastCut paging settings start stop legs ++
            (readPages feed.derive start stop
              (pagesBehindLastCut paging settings start stop legs)).1).flatten = false)) ↔
      CarriedOver feed.derive start stop (pagesBeforeLastCut paging settings start stop legs)
        (pagesBehindLastCut paging settings start stop legs) := by
  cases hwindow : dateWindow start stop with
  | none =>
      -- No page is ever served: the chain is one run, and both end in error.
      have hpages : ∀ n, paging.pages (eventPageSize settings) start stop n = [] := by
        intro n; simp only [EventPaging.pages, hwindow]
      cases legs with
      | nil => cases htip
      | cons leg legs =>
          have hfirst := startsAt_first hse StreamKey.accountEvents
          have hleg : (eventLeg feed settings leg (firstRequest start stop)).acceptedEvents = [] ∧
              (eventLeg feed settings leg (firstRequest start stop)).stream.completionState =
                .error := by
            simp only [eventLeg, fetchEventAcquisition, hfirst.bounds, hfirst.position, pageCapOf,
              reduceCtorEq, or_self, if_false, hfirst.cap]
            exact eventLoop_refused _ hwindow _ none 1
              (one_le_budgeted (one_le_clamp 100 leg.maxPages) none)
          have hnext : resumeRequest start stop .accountEvents
              (continuation (eventLeg feed settings leg (firstRequest start stop)).stream)
              (legs.head?.bind (·.pageBudget)) = none := by
            rw [resumeRequest, if_neg]
            intro hready
            have := (continuation_ready hready).1
            rw [hleg.2] at this
            cases this
          have hruns : eventRuns feed settings start stop (leg :: legs) =
              [eventLeg feed settings leg (firstRequest start stop)] := by
            rw [eventRuns, runLegs]
            simp only [hnext]
          rw [hruns, List.getLast?_singleton] at htip
          cases htip
          obtain ⟨haccepts, hstate⟩ := eventLoop_refused feed hwindow (eventPageSize settings)
            none 1 (show 1 ≤ pageCap by omega)
          rw [hruns, List.flatMap_singleton]
          refine ⟨fun _ => ?_, fun _ => ⟨hleg.1.trans haccepts.symm, hleg.2.trans hstate.symm,
            fun h => by rw [hleg.2] at h; cases h⟩⟩
          simp only [CarriedOver, pagesBeforeLastCut, pagesBehindLastCut, hpages]
          simp [readPages, hasInProgress, clip]
  | some window =>
      obtain ⟨tipCap, cursor, hcut, honward, htipRun, hunion⟩ :=
        eventRuns_read hse paging hwindow legs (startsAt_first hse .accountEvents) hran tip htip
          hdone
      have hlisted : paging.listed start stop =
          (paging.listing (some window.1) (some window.2)).entries.length := by
        simp only [EventPaging.listed, hwindow]
      have hbefore : pagesBeforeLastCut paging settings start stop legs =
          paging.walk (eventPageSize settings) window (legCaps none legs).dropLast.sum 1 none := by
        simp only [pagesBeforeLastCut, EventPaging.pages, hwindow]
      have hbehind : pagesBehindLastCut paging settings start stop legs =
          paging.walk (eventPageSize settings) window (paging.listed start stop + 1)
            (1 + (legCaps none legs).dropLast.sum) cursor := by
        simp only [pagesBehindLastCut, hbefore, EventPaging.pages, hwindow, honward]
        exact List.drop_left
      rw [hbefore, hbehind]
      have hstop := readPages_walk_stops start stop paging
        (eventPageSize_bounds settings) hwindow
        (show _ < paging.listed start stop + 1 by rw [hlisted]; exact Nat.lt_succ_self _)
        (1 + (legCaps none legs).dropLast.sum) cursor
      rw [carriedOver_iff hstop]
      -- The tip reads the pages behind the cut, the single run all of them.
      have htipRead := readPages_walk_eq htipRun.stopped hstop
      have hsingle := eventLoop_read feed paging hwindow (eventPageSize_bounds settings) none 1
        (show 1 ≤ pageCap by omega)
      have hsingleStop := readPages_walk_stops start stop paging
        (eventPageSize_bounds settings) hwindow (hlisted ▸ hcap) 1 none
      have hwhole := readPages_append hcut (paging.walk (eventPageSize settings) window
        (paging.listed start stop + 1) (1 + (legCaps none legs).dropLast.sum) cursor)
      rw [← honward] at hwhole
      have hsingleRead := (readPages_walk_eq hsingleStop (by rw [hwhole]; exact hstop)).trans hwhole
      have hrun := hsingle.resolve_left fun h => hsingleStop h.cut
      have haccepts := hrun.accepts
      have hstate := hrun.state
      rw [hsingleRead] at haccepts hstate
      have htipAccepts := htipRun.accepts
      have htipState := htipRun.state
      rw [htipRead] at htipAccepts htipState
      have hunion' : (eventRuns feed settings start stop legs).flatMap (·.acceptedEvents) =
          (eventRun feed settings start stop pageCap).acceptedEvents := by
        refine hunion.trans (Eq.trans ?_ haccepts.symm)
        rw [htipAccepts, List.flatten_append, accepted_append, eventsOf, eventsOf, eventsOf,
          List.map_append]
      refine ⟨fun h => ?_, fun h => ⟨hunion', ?_, fun hcomplete => ?_⟩⟩
      · exact htipState.symm.trans (h.2.1.trans hstate)
      · exact htipState.trans (h.trans hstate.symm)
      · have hwholeState := h.symm.trans (htipState.symm.trans hcomplete)
        cases hk : (readPages feed.derive start stop (paging.walk (eventPageSize settings) window
          (paging.listed start stop + 1) (1 + (legCaps none legs).dropLast.sum) cursor)).2 with
        | cut => exact absurd hk hstop
        | undecodable =>
            rw [hk, stopState] at hwholeState
            split at hwholeState <;> cases hwholeState
        | ended =>
            rw [hk, stopState] at hwholeState
            split at hwholeState
            · cases hwholeState
            · next hno => simpa using hno

end Chain

/-! ### An event in progress before the cut

Two events of one second, the newer one still in progress, read one a
page: the first run withholds the newer event and is cut, the resumed run
never sees it. -/

def sampleEventObject (digit : Char) (lt : Int) (inProgress : Bool) : List (String × Json) :=
  [("event_id", .str (List.replicate 64 digit)), ("lt", .int lt), ("timestamp", .int 1000),
    ("actions", .arr []), ("in_progress", .bool inProgress)]

def sampleEvents : EventHistory where
  entries :=
    [⟨sampleEventObject 'a' 30 true, ⟨List.replicate 64 'a', ⟨30, by decide, by decide⟩, 1000, [],
        true, sampleEventObject 'a' 30 true⟩, ⟨62135597800000000, by decide⟩, by rfl, by rfl⟩,
      ⟨sampleEventObject 'b' 20 false, ⟨List.replicate 64 'b', ⟨20, by decide, by decide⟩, 1000,
        [], false, sampleEventObject 'b' 20 false⟩, ⟨62135597800000000, by decide⟩, by rfl, by rfl⟩]
  descending := by simp [EventRecord.key, Instant.le_iff]
  distinct := by simp [EventRecord.id, lower]

def sampleEventFeed : EventFeed Unit :=
  { fetchJson := pagingEvents sampleEvents, clock := fun _ => ⟨0, by decide⟩
    startedAt := ⟨0, by decide⟩, finishedAt := ⟨0, by decide⟩, digest := fun _ => ()
    fingerprint := fun _ => (), derive := fun _ => .ok [] }

def sampleEventLeg (maxPages : Int) : Leg :=
  ⟨maxPages, none, fun _ => ⟨0, by decide⟩, ⟨0, by decide⟩, ⟨0, by decide⟩⟩

def sampleStart : Instant := ⟨62135597500000000, by decide⟩

def sampleStop : Instant := ⟨62135597900000000, by decide⟩

def sampleEventRuns : List (EventOutcome Unit) :=
  eventRuns sampleEventFeed ⟨1, 1, 1, 1⟩ sampleStart sampleStop [sampleEventLeg 1, sampleEventLeg 5]

def sampleEventRun : EventOutcome Unit :=
  eventRun sampleEventFeed ⟨1, 1, 1, 1⟩ sampleStart sampleStop 5

def sampleEventPaging : EventPaging sampleEventFeed.fetchJson := pagingEvents_paging sampleEvents

/-- The chain of two runs is complete, one run over the same pages is not:
it saw the event in progress that the chain's first run withheld. -/
theorem eventAcquisition_cut_hides_in_progress :
    sampleEventRuns.map (fun o =>
          (o.stream.completionState, (continuation o.stream).resumeState)) =
        [(.incomplete, .ready), (.complete, .complete)] ∧
      sampleEventRun.stream.completionState = .incomplete ∧
      hasInProgress sampleStart sampleStop sampleEvents.entries = true := by
  decide +kernel

theorem eventAcquisition_cut_invariant_iff_sample :
    (sampleEventRuns.flatMap (·.acceptedEvents) = sampleEventRun.acceptedEvents ∧
        (sampleEventRuns.getLast (List.cons_ne_nil _ _)).stream.completionState =
          sampleEventRun.stream.completionState ∧
        ((sampleEventRuns.getLast (List.cons_ne_nil _ _)).stream.completionState = .complete →
          hasInProgress sampleStart sampleStop
            (pagesBeforeLastCut sampleEventPaging ⟨1, 1, 1, 1⟩ sampleStart
                sampleStop [sampleEventLeg 1, sampleEventLeg 5] ++
              (readPages sampleEventFeed.derive sampleStart sampleStop
                (pagesBehindLastCut sampleEventPaging ⟨1, 1, 1, 1⟩ sampleStart
                  sampleStop [sampleEventLeg 1, sampleEventLeg 5])).1).flatten = false)) ↔
      CarriedOver sampleEventFeed.derive sampleStart sampleStop
        (pagesBeforeLastCut sampleEventPaging ⟨1, 1, 1, 1⟩ sampleStart sampleStop
          [sampleEventLeg 1, sampleEventLeg 5])
        (pagesBehindLastCut sampleEventPaging ⟨1, 1, 1, 1⟩ sampleStart sampleStop
          [sampleEventLeg 1, sampleEventLeg 5]) :=
  eventAcquisition_cut_invariant_iff sampleEventFeed sampleEventPaging
    ⟨1, 1, 1, 1⟩ sampleStart sampleStop (by decide) [sampleEventLeg 1, sampleEventLeg 5]
    (by decide +kernel) _ (List.getLast?_eq_some_getLast (List.cons_ne_nil _ _))
    (by decide +kernel) 5 (by decide +kernel)

end TonTracker
