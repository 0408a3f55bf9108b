/-
# `Acquisition.EventHistory` — one page of an account's events

The events a provider lists for an account, what it is to page through
them by `before_lt`, and one pass of the event loop against such a
provider.  The page is read as a whole: its accepted events are those of
the interval that are done, and the two ways it can stop the run are an
event older than the interval and an accepted event whose actions do not
decode.
-/
import TonTracker.Adapters.EventStream
import TonTracker.Acquisition.TransactionHistory

namespace TonTracker

open DescendingLog

/-- An event of the account: the provider's object, the event it reads as,
and its time. -/
structure EventRecord where
  raw : List (String × Json)
  event : AccountEvent
  timestamp : Instant
  normalizes : normalizeEvent [] (.obj raw, 0) = .ok event
  timed : transactionTimestamp (some event.timestamp) = some timestamp

namespace EventRecord

def key (a : EventRecord) : Nat := a.event.lt.val

/-- Event identifiers are compared in lower case. -/
def id (a : EventRecord) : Text := lower a.event.eventId

end EventRecord

/-- An account's events, newest first, each under its own identifier. -/
structure EventHistory extends
    DescendingLog EventRecord Instant EventRecord.key EventRecord.timestamp where
  distinct : entries.Pairwise fun a b => a.id ≠ b.id

/-- The history's order on its events. -/
abbrev EventsDescend (page : List EventRecord) : Prop :=
  page.Pairwise fun a b => b.key < a.key ∧ b.timestamp ≤ a.timestamp

abbrev eventsOf (page : List EventRecord) : List AccountEvent := page.map (·.event)

/-- The payload lists these events, and its `next_from` is the last one's
logical time. -/
def ListsEvents (payload : Json) (page : List EventRecord) : Prop :=
  ∃ fields, payload = .obj fields ∧
    Json.get fields "events" = .arr (page.map fun a => .obj a.raw) ∧
    (fields.lookup "next_from").isSome ∧
    nextFrom (eventsOf page) (Json.get fields "next_from") =
      .ok (page.getLast?.map (·.event.lt))

/-- A provider that pages through event histories: what it lists for a date
window, and which newest events below the cursor it answers each request
with, no more than asked for and none only when there are none. -/
structure EventPaging (fetchJson : Nat → EventsQuery → ProviderResult Json) where
  listing : Option Nat → Option Nat → EventHistory
  page : Nat → EventsQuery → List EventRecord
  splits : ∀ n query, 1 ≤ query.limit → ∃ rest,
    (listing query.startDate query.endDate).below (query.beforeLt.map (·.val)) =
        page n query ++ rest ∧
      (page n query).length ≤ query.limit ∧ (page n query = [] → rest = [])
  answers : ∀ n query, 1 ≤ query.limit → ∃ payload, fetchJson n query = .ok payload ∧
    ListsEvents payload (page n query)

/-- The provider that lists one history for every window and answers each
request with as many events as it asks for. -/
def eventPage? (history : EventHistory) (query : EventsQuery) : List EventRecord :=
  (history.below (query.beforeLt.map (·.val))).take query.limit

def pagingEvents (history : EventHistory) (_ : Nat) (query : EventsQuery) : ProviderResult Json :=
  let page := eventPage? history query
  .ok (.obj [("events", .arr (page.map fun a => .obj a.raw)),
    ("next_from", .int (match page.getLast? with
      | some a => a.event.lt.val
      | none => 0))])

theorem strictLogicalTime_val (lt : LogicalTime) : strictLogicalTime (.int lt.val) = some lt := by
  simp [strictLogicalTime, LogicalTime.ofNat?, lt.pos, lt.bounded]

def pagingEvents_paging (history : EventHistory) : EventPaging (pagingEvents history) where
  listing _ _ := history
  page _ query := eventPage? history query
  splits := by
    intro n query hlimit
    refine ⟨_, (List.take_append_drop query.limit _).symm, List.length_take_le _ _, fun hempty => ?_⟩
    rcases List.take_eq_nil_iff.mp hempty with h0 | hnil
    · omega
    · rw [hnil, List.drop_nil]
  answers := by
    intro n query _
    refine ⟨_, rfl, _, rfl, rfl, rfl, ?_⟩
    show nextFrom (eventsOf (eventPage? history query)) (.int (match
      (eventPage? history query).getLast? with
      | some a => a.event.lt.val
      | none => 0)) = _
    rcases List.eq_nil_or_concat (eventPage? history query) with h | ⟨init, last, h⟩
    · rw [h]; rfl
    · rw [h, List.concat_eq_append, List.getLast?_concat]
      have hne : (eventsOf (init ++ [last])).isEmpty = false := by simp
      simp only [nextFrom, hne, Bool.false_and, Bool.false_eq_true, if_false,
        strictLogicalTime_val, Option.map_some]
      rfl

/-! ## Reading a page -/

section Reading

variable {page rest : List EventRecord} {before : Option LogicalTime} {limit : Nat}

/-- What an object must hold to read as an event. -/
theorem normalizeEvent_eq_ok {seen : List Text} {raw : List (String × Json)} {index : Nat}
    {event : AccountEvent} :
    normalizeEvent seen (.obj raw, index) = .ok event ↔
      lower event.eventId ∉ seen ∧ hex256 (Json.get raw "event_id") = some event.eventId ∧
        strictLogicalTime (Json.get raw "lt") = some event.lt ∧
        strictEventDate (Json.get raw "timestamp") = some event.timestamp ∧
        actionList (Json.get raw "actions") = some event.actions ∧
        boolean (Json.get raw "in_progress") = some event.inProgress ∧ event.payload = raw := by
  cases hid : hex256 (Json.get raw "event_id") with
  | none => simp [normalizeEvent, hid, require, bind, Except.bind]
  | some text =>
      by_cases hseen : lower text ∈ seen
      · have hrhs : ¬ (lower event.eventId ∉ seen ∧ text = event.eventId) := by
          rintro ⟨hn, rfl⟩
          exact hn hseen
        simp [normalizeEvent, hid, hseen, require, bind, Except.bind, throw, throwThe,
          MonadExceptOf.throw]
        intro hn heq
        exact absurd ⟨hn, heq⟩ hrhs
      · cases hlt : strictLogicalTime (Json.get raw "lt") <;>
          cases hts : strictEventDate (Json.get raw "timestamp") <;>
          cases hac : actionList (Json.get raw "actions") <;>
          cases hip : boolean (Json.get raw "in_progress") <;>
          simp [normalizeEvent, hid, hseen, hlt, hts, hac, hip, require, bind, Except.bind, pure,
            Except.pure]
        rcases event with ⟨eventId, lt, timestamp, actions, inProgress, payload⟩
        simp only [AccountEvent.mk.injEq]
        constructor
        · rintro ⟨rfl, rfl, rfl, rfl, rfl, rfl⟩
          exact ⟨hseen, rfl, rfl, rfl, rfl, rfl, rfl⟩
        · rintro ⟨-, rfl, rfl, rfl, rfl, rfl, rfl⟩
          exact ⟨rfl, rfl, rfl, rfl, rfl, rfl⟩

/-- An event reads the same at any index, among any identifiers not its own. -/
theorem normalizeEvent_of_not_mem (a : EventRecord) {seen : List Text} (h : a.id ∉ seen)
    (index : Nat) : normalizeEvent seen (.obj a.raw, index) = .ok a.event :=
  normalizeEvent_eq_ok.mpr ⟨h, (normalizeEvent_eq_ok.mp a.normalizes).2⟩

theorem isHex256_of_event (a : EventRecord) : isHex256 a.event.eventId = true := by
  have hid := (normalizeEvent_eq_ok.mp a.normalizes).2.1
  unfold hex256 at hid
  split at hid
  · split at hid <;> cases hid
    assumption
  · cases hid

theorem isAction_of_event (a : EventRecord) : a.event.actions.all isAction = true := by
  obtain ⟨-, -, -, -, hac, -⟩ := normalizeEvent_eq_ok.mp a.normalizes
  unfold actionList at hac
  split at hac
  · split at hac <;> cases hac
    assumption
  · cases hac

/-- A page of distinct events reads as those events. -/
theorem normalizeEvents_lists {page : List EventRecord} (seen : List Text)
    (hdistinct : page.Pairwise fun a b => a.id ≠ b.id) (hseen : ∀ a ∈ page, a.id ∉ seen) :
    ∀ k, normalizeEvents seen ((page.map fun a => Json.obj a.raw).zipIdx k) =
      .ok (eventsOf page) := by
  induction page generalizing seen with
  | nil => intro k; rfl
  | cons a page ih =>
      intro k
      obtain ⟨hhead, htail⟩ := List.pairwise_cons.mp hdistinct
      have hrest := ih (lower a.event.eventId :: seen) htail (fun b hb hmem => by
        rcases List.mem_cons.mp hmem with heq | hmem
        · exact hhead b hb heq.symm
        · exact hseen b (List.mem_cons_of_mem a hb) hmem) (k + 1)
      rw [List.map_cons, List.zipIdx_cons, normalizeEvents,
        normalizeEvent_of_not_mem a (hseen a List.mem_cons_self) k]
      show (normalizeEvents (lower a.event.eventId :: seen)
        ((page.map fun a => Json.obj a.raw).zipIdx (k + 1)) >>= fun events =>
          Except.ok (a.event :: events)) = _
      rw [hrest]
      rfl

theorem normalizeAccountEventsPage_lists {payload : Json} {page : List EventRecord}
    (hdistinct : page.Pairwise fun a b => a.id ≠ b.id) (h : ListsEvents payload page) :
    normalizeAccountEventsPage payload =
      .ok (eventsOf page, page.getLast?.map (·.event.lt)) := by
  obtain ⟨fields, rfl, hget, hnext, hcursor⟩ := h
  have hsome : (fields.lookup "next_from").isNone = false := by
    rw [Option.isNone_eq_false_iff]; exact hnext
  have hevents := normalizeEvents_lists [] hdistinct (by simp) 0
  simp only [normalizeAccountEventsPage, hget, hsome, Bool.false_eq_true, if_false, hevents,
    bind, Except.bind, hcursor, pure, Except.pure]

theorem eventTimes_descend {page : List EventRecord} (h : EventsDescend page) :
    ((eventsOf page).map (·.lt)).Pairwise fun a b => b < a := by
  rw [List.map_map]
  exact List.pairwise_map.mpr (h.imp fun hab => hab.1)

/-- A later instant is a later second. -/
theorem timestamp_le_of_timed {a b : EventRecord} (h : b.timestamp ≤ a.timestamp) :
    b.event.timestamp ≤ a.event.timestamp := by
  have ha := a.timed
  have hb := b.timed
  simp only [transactionTimestamp, Int.natCast_nonneg, if_true, Int.toNat_natCast,
    Instant.fromTimestamp] at ha hb
  have ha' := Instant.micros_of_ofMicros ha
  have hb' := Instant.micros_of_ofMicros hb
  rw [Instant.le_iff, ha', hb'] at h
  have := Nat.le_of_mul_le_mul_right h (by decide : 0 < microsPerSecond)
  omega

theorem neverAscending_of_descend {page : List EventRecord} (h : EventsDescend page) :
    neverAscending ((eventsOf page).map (·.timestamp)) = true := by
  induction page with
  | nil => rfl
  | cons a page ih =>
      cases page with
      | nil => rfl
      | cons b rest =>
          obtain ⟨hab, hrest⟩ := List.pairwise_cons.mp h
          have hle := timestamp_le_of_timed (hab b List.mem_cons_self).2
          have hih := ih hrest
          simp only [eventsOf, List.map_cons, neverAscending, Bool.and_eq_true,
            decide_eq_true_eq] at hih ⊢
          exact ⟨hle, hih⟩

/-- The record the page call makes of a page of events. -/
def eventRecordPage (before : Option LogicalTime) (limit : Nat) (window : Nat × Nat)
    (page : List EventRecord) : EventPage :=
  eventPage ⟨limit, before, some window.1, some window.2⟩ (eventsOf page)
    (page.getLast?.map (·.event.lt))

theorem min?_eventTimes {page : List EventRecord} (h : EventsDescend page) :
    ((eventsOf page).map (·.lt)).min? = page.getLast?.map (·.event.lt) := by
  rw [min?_of_pairwise (eventTimes_descend h), List.map_map, List.getLast?_map]
  rfl

theorem events_didNotAdvance (hbelow : ∀ b ∈ before, ∀ a ∈ page, a.event.lt < b) :
    didNotAdvance before ((eventsOf page).map (·.lt)) = false := by
  refine didNotAdvance_of_lt fun b hb t ht => ?_
  obtain ⟨event, hevent, rfl⟩ := List.mem_map.mp ht
  obtain ⟨a, ha, rfl⟩ := List.mem_map.mp hevent
  exact hbelow b hb a ha

theorem checkedEvents_lists {payload : Json} (window : Option Nat × Option Nat)
    (hdistinct : page.Pairwise fun a b => a.id ≠ b.id) (hlists : ListsEvents payload page)
    (hlen : page.length ≤ limit) (hdesc : EventsDescend page)
    (hbelow : ∀ b ∈ before, ∀ a ∈ page, a.event.lt < b) :
    checkedEvents ⟨limit, before, window.1, window.2⟩ payload =
      .ok (eventsOf page, page.getLast?.map (·.event.lt)) := by
  have hcount : ¬ limit < (eventsOf page).length := by
    rw [List.length_map]; omega
  have hnext : (!(eventsOf page).isEmpty &&
      page.getLast?.map (·.event.lt) != ((eventsOf page).map (·.lt)).min?) = false := by
    rw [min?_eventTimes hdesc, bne_self_eq_false, Bool.and_false]
  have hend : ((eventsOf page).isEmpty && (page.getLast?.map (·.event.lt)).isSome) = false := by
    cases page with
    | nil => rfl
    | cons a page => rfl
  simp only [checkedEvents, normalizeAccountEventsPage_lists hdistinct hlists, hcount,
    strictlyDescending_of_pairwise (eventTimes_descend hdesc), neverAscending_of_descend hdesc,
    events_didNotAdvance hbelow, hnext, hend, bind, Except.bind, pure, Except.pure, if_false,
    Bool.not_true, Bool.false_eq_true]

/-- The date window of an interval, when the provider accepts it. -/
def dateWindow (start stop : Instant) : Option (Nat × Nat) :=
  match requestDate (some start.floorTimestamp), requestDate (some stop.ceilTimestamp) with
  | some (some a), some (some b) => if b < a then none else some (a, b)
  | _, _ => none

theorem requestDate_some (i : Int) : requestDate (some i) = none ∨
    ∃ n, requestDate (some i) = some (some n) := by
  show (strictEventDate (.int i)).map some = none ∨ _
  cases h : strictEventDate (.int i) with
  | none => exact .inl rfl
  | some n => exact .inr ⟨n, by rw [requestDate, h]; rfl⟩

/-- Outside the supported dates every page call fails. -/
theorem getAccountEventsPage_refused (fetchJson : EventsQuery → ProviderResult Json)
    (limit : Nat) (before : Option LogicalTime) {start stop : Instant} (hwindow : dateWindow start stop = none) :
    ∃ failure, getAccountEventsPage fetchJson limit before (some start.floorTimestamp)
      (some stop.ceilTimestamp) = .error failure := by
  unfold getAccountEventsPage
  split
  case isFalse => exact ⟨_, rfl⟩
  case isTrue =>
    unfold dateWindow at hwindow
    rcases requestDate_some start.floorTimestamp with ha | ⟨a, ha⟩
    · rw [ha]; exact ⟨_, rfl⟩
    · rcases requestDate_some stop.ceilTimestamp with hb | ⟨b, hb⟩
      · rw [ha, hb]; exact ⟨_, rfl⟩
      · rw [ha, hb] at hwindow ⊢
        simp only at hwindow
        split at hwindow
        case isTrue hlt =>
          simp only [Option.isSome_some, Bool.and_self, Option.getD_some, hlt, decide_true,
            if_true]
          exact ⟨_, rfl⟩
        case isFalse => cases hwindow

theorem getAccountEventsPage_lists {fetchJson : EventsQuery → ProviderResult Json}
    {payload : Json} {start stop : Instant} {window : Nat × Nat}
    (hwindow : dateWindow start stop = some window)
    (hfetch : fetchJson ⟨limit, before, some window.1, some window.2⟩ = .ok payload)
    (hdistinct : page.Pairwise fun a b => a.id ≠ b.id) (hlists : ListsEvents payload page)
    (hlimit : 1 ≤ limit ∧ limit ≤ 100) (hlen : page.length ≤ limit) (hdesc : EventsDescend page)
    (hbelow : ∀ b ∈ before, ∀ a ∈ page, a.event.lt < b) :
    getAccountEventsPage fetchJson limit before (some start.floorTimestamp)
      (some stop.ceilTimestamp) = .ok (eventRecordPage before limit window page) := by
  have hchecked := checkedEvents_lists (some window.1, some window.2) hdistinct hlists
    hlen hdesc hbelow
  unfold dateWindow at hwindow
  rcases requestDate_some start.floorTimestamp with ha | ⟨a, ha⟩
  · rw [ha] at hwindow; cases hwindow
  · rcases requestDate_some stop.ceilTimestamp with hb | ⟨b, hb⟩
    · rw [ha, hb] at hwindow; cases hwindow
    · rw [ha, hb] at hwindow
      simp only at hwindow
      split at hwindow
      case isTrue => cases hwindow
      case isFalse hle =>
        cases hwindow
        simp only [getAccountEventsPage, hlimit, and_self, if_true, ha, hb, Option.isSome_some,
          Bool.and_self, Option.getD_some, hle, decide_false, Bool.and_false, Bool.false_eq_true,
          if_false, hfetch, hchecked, eventRecordPage]

/-! ### Validation -/

/-- What the validation loop has passed after an event. -/
def checkEventNext (prior : EventCheck) (a : EventRecord) : EventCheck :=
  ⟨prior.index + 1, some a.event.lt, some a.timestamp, prior.timestamps ++ [a.timestamp]⟩

/-- The validation loop is in front of these events. -/
def EventCheckAhead (page : List EventRecord) (prior : EventCheck) : Prop :=
  EventsDescend page ∧ (∀ t ∈ prior.priorLt, ∀ a ∈ page, a.event.lt < t) ∧
    ∀ t ∈ prior.priorTimestamp, ∀ a ∈ page, a.timestamp ≤ t

theorem eventCheckAhead_step (a : EventRecord) (rest : List EventRecord) (prior : EventCheck)
    (h : EventCheckAhead (a :: rest) prior) :
    checkEventRow prior a.event = .ok (checkEventNext prior a) ∧
      EventCheckAhead rest (checkEventNext prior a) := by
  obtain ⟨hdesc, hlt, hts⟩ := h
  obtain ⟨hhead, hrest⟩ := List.pairwise_cons.mp hdesc
  have h1 : prior.priorLt.any (fun t => decide (t ≤ a.event.lt)) = false := by
    cases hp : prior.priorLt with
    | none => rfl
    | some t => exact decide_eq_false (not_le.mpr (hlt t hp a List.mem_cons_self))
  have h2 : prior.priorTimestamp.any (fun t => decide (t < a.timestamp)) = false := by
    cases hp : prior.priorTimestamp with
    | none => rfl
    | some t => exact decide_eq_false (not_lt.mpr (hts t hp a List.mem_cons_self))
  refine ⟨?_, hrest, ?_, ?_⟩
  · simp only [checkEventRow, isHex256_of_event, isAction_of_event, h1, a.timed, h2,
      checkEventNext, bind, Except.bind, pure, Except.pure, Bool.not_true, Bool.false_eq_true,
      if_false]
  · intro t ht b hb
    cases ht
    exact (hhead b hb).1
  · intro t ht b hb
    cases ht
    exact (hhead b hb).2

theorem foldl_checkEventNext (page : List EventRecord) (prior : EventCheck) :
    (page.foldl checkEventNext prior).timestamps =
      prior.timestamps ++ page.map (·.timestamp) := by
  induction page generalizing prior with
  | nil => simp
  | cons a page ih => rw [List.foldl_cons, ih]; simp [checkEventNext]

/-- The validated page of a descending list of events. -/
def validatedEventsOf (page : List EventRecord) : ValidatedEventPage :=
  { events := eventsOf page
    rawCount := (eventsOf page).length
    responseCursor := page.getLast?.map (·.event.lt)
    minLogicalTime := ((eventsOf page).map (·.lt)).min?
    maxLogicalTime := ((eventsOf page).map (·.lt)).max?
    timestamps := page.map (·.timestamp)
    minTimestamp := (page.map (·.timestamp)).min?
    maxTimestamp := (page.map (·.timestamp)).max? }

theorem validateEventPage_lists {window : Nat × Nat} (hlen : page.length ≤ limit)
    (hdesc : EventsDescend page) (hbelow : ∀ b ∈ before, ∀ a ∈ page, a.event.lt < b) :
    validateEventPage (eventRecordPage before limit window page) before limit =
      .ok (validatedEventsOf page) := by
  have hloop : (eventsOf page).foldlM checkEventRow ⟨0, none, none, []⟩ =
      .ok (page.foldl checkEventNext ⟨0, none, none, []⟩) := by
    rw [List.foldlM_map]
    exact ExceptFold.foldlM_eq_foldl checkEventNext EventCheckAhead eventCheckAhead_step
      ⟨hdesc, by simp, by simp⟩
  have hstamps : (page.foldl checkEventNext ⟨0, none, none, []⟩).timestamps =
      page.map (·.timestamp) := by
    rw [foldl_checkEventNext, List.nil_append]
  have hcount : ¬ limit < (eventsOf page).length := by
    rw [List.length_map]; omega
  have hnext := min?_eventTimes hdesc
  cases he : (eventsOf page).isEmpty with
  | true =>
      have hpage : page = [] := List.map_eq_nil_iff.mp (List.isEmpty_iff.mp he)
      have hmin : (page.getLast?.map (·.event.lt)).isSome = false := by
        rw [hpage]; rfl
      simp only [validateEventPage, eventRecordPage, eventPage, hloop, hstamps, hcount, he, hmin,
        validatedEventsOf, bind, Except.bind, pure, Except.pure, ne_eq, not_true_eq_false,
        if_false, if_true, Bool.false_eq_true]
  | false =>
      simp only [validateEventPage, eventRecordPage, eventPage, hloop, hstamps, hcount, he, hnext,
        events_didNotAdvance hbelow, validatedEventsOf, bind, Except.bind, pure, Except.pure,
        ne_eq, not_true_eq_false, if_false, Bool.false_eq_true]

end Reading

/-! ## The event loop in front of a history -/

section Scan

variable {D : Type} [DecidableEq D] {fingerprint : AccountEvent → D} {start stop : Instant}

/-- The accepted events of a page: inside the interval and done. -/
def accepted (start stop : Instant) (page : List EventRecord) : List EventRecord :=
  (clip EventRecord.timestamp start stop page).filter fun a => !a.event.inProgress

/-- Some event of the page inside the interval is still in progress. -/
def hasInProgress (start stop : Instant) (page : List EventRecord) : Bool :=
  (clip EventRecord.timestamp start stop page).any (·.event.inProgress)

theorem accepted_append (xs ys : List EventRecord) :
    accepted start stop (xs ++ ys) = accepted start stop xs ++ accepted start stop ys := by
  rw [accepted, clip_append, List.filter_append]; rfl

theorem hasInProgress_append (xs ys : List EventRecord) :
    hasInProgress start stop (xs ++ ys) =
      (hasInProgress start stop xs || hasInProgress start stop ys) := by
  rw [hasInProgress, clip_append, List.any_append]; rfl

/-- What the run has seen lies above the events still to come. -/
structure EventsAhead (rest : List EventRecord) (seen : List (Text × SeenEvent D))
    (lastLt : Option LogicalTime) (lastTimestamp : Option Instant) : Prop where
  descends : EventsDescend rest
  distinct : rest.Pairwise fun a b => a.id ≠ b.id
  unseen : ∀ entry ∈ seen, ∀ a ∈ rest, a.id ≠ entry.1
  ltAbove : ∀ t ∈ lastLt, ∀ a ∈ rest, a.event.lt < t
  timeAbove : ∀ t ∈ lastTimestamp, ∀ a ∈ rest, a.timestamp ≤ t

/-- What the event loop makes of an event it has not passed. -/
def scanEventNext (fingerprint : AccountEvent → D) (start stop : Instant) (scan : EventScan D)
    (a : EventRecord) : EventScan D :=
  { seen := (a.id, a.event.lt, a.timestamp, fingerprint a.event) :: scan.seen
    lastLt := some a.event.lt
    lastTimestamp := some a.timestamp
    duplicates := scan.duplicates
    accepted := scan.accepted ++ eventsOf (accepted start stop [a])
    inProgress := scan.inProgress || hasInProgress start stop [a]
    crossedStart := scan.crossedStart || crossed EventRecord.timestamp start [a] }

theorem scanEvent_step (a : EventRecord) (rest : List EventRecord) (scan : EventScan D)
    (h : EventsAhead (a :: rest) scan.seen scan.lastLt scan.lastTimestamp) :
    scanEvent fingerprint (some (start, stop)) scan (a.event, a.timestamp) =
        .ok (scanEventNext fingerprint start stop scan a) ∧
      EventsAhead rest (scanEventNext fingerprint start stop scan a).seen
        (scanEventNext fingerprint start stop scan a).lastLt
        (scanEventNext fingerprint start stop scan a).lastTimestamp := by
  obtain ⟨hhead, hrest⟩ := List.pairwise_cons.mp h.descends
  obtain ⟨hids, hrestids⟩ := List.pairwise_cons.mp h.distinct
  have hlookup : scan.seen.lookup (lower a.event.eventId) = none := by
    refine List.lookup_eq_none_iff.mpr fun entry hentry => ?_
    have hne : lower a.event.eventId ≠ entry.1 := h.unseen entry hentry a List.mem_cons_self
    simpa using hne
  have hlt : scan.lastLt.any (fun t => decide (t ≤ a.event.lt)) = false := by
    cases hl : scan.lastLt with
    | none => rfl
    | some t => exact decide_eq_false (not_le.mpr (h.ltAbove t hl a List.mem_cons_self))
  have hts : scan.lastTimestamp.any (fun t => decide (t < a.timestamp)) = false := by
    cases hl : scan.lastTimestamp with
    | none => rfl
    | some t => exact decide_eq_false (not_lt.mpr (h.timeAbove t hl a List.mem_cons_self))
  refine ⟨?_, hrest, hrestids, ?_, ?_, ?_⟩
  · simp only [scanEvent, hlookup, hlt, hts, Option.any_some, Bool.false_eq_true, if_false,
      scanEventNext, EventRecord.id]
    by_cases h1 : a.timestamp < start
    · have hnot : ¬ start ≤ a.timestamp := not_le.mpr h1
      simp [h1, hnot, clip, accepted, hasInProgress, crossed]
    · have hle : start ≤ a.timestamp := not_lt.mp h1
      by_cases h2 : stop ≤ a.timestamp
      · have hnot : ¬ a.timestamp < stop := not_lt.mpr h2
        simp [h1, h2, hnot, clip, accepted, hasInProgress, crossed]
      · have hlt' : a.timestamp < stop := not_le.mp h2
        cases hp : a.event.inProgress <;>
          simp [h1, h2, hle, hlt', hp, clip, accepted, hasInProgress, crossed]
  · intro entry hentry b hb
    rcases List.mem_cons.mp hentry with rfl | hentry
    · exact fun heq => hids b hb heq.symm
    · exact h.unseen entry hentry b (List.mem_cons_of_mem a hb)
  · intro t ht b hb
    cases ht
    exact (hhead b hb).1
  · intro t ht b hb
    cases ht
    exact (hhead b hb).2

variable (fingerprint start stop) in
omit [DecidableEq D] in
/-- The scan after a page. -/
theorem foldl_scanEventNext (page : List EventRecord) (scan : EventScan D) :
    (page.foldl (scanEventNext fingerprint start stop) scan).accepted =
        scan.accepted ++ eventsOf (accepted start stop page) ∧
      (page.foldl (scanEventNext fingerprint start stop) scan).inProgress =
        (scan.inProgress || hasInProgress start stop page) ∧
      (page.foldl (scanEventNext fingerprint start stop) scan).crossedStart =
        (scan.crossedStart || crossed EventRecord.timestamp start page) := by
  induction page generalizing scan with
  | nil => simp [accepted, hasInProgress, clip, crossed]
  | cons a page ih =>
      obtain ⟨hacc, hprogress, hcross⟩ := ih (scanEventNext fingerprint start stop scan a)
      have hacc' : accepted start stop (a :: page) =
          accepted start stop [a] ++ accepted start stop page := accepted_append [a] page
      have hprogress' : hasInProgress start stop (a :: page) =
          (hasInProgress start stop [a] || hasInProgress start stop page) :=
        hasInProgress_append [a] page
      refine ⟨?_, ?_, ?_⟩
      · rw [List.foldl_cons, hacc, hacc']
        simp only [scanEventNext, eventsOf, List.map_append, List.append_assoc]
      · rw [List.foldl_cons, hprogress, hprogress']
        simp only [scanEventNext, Bool.or_assoc]
      · rw [List.foldl_cons, hcross]
        simp only [scanEventNext, crossed, List.any_cons, List.any_nil, Bool.or_false,
          Bool.or_assoc]

end Scan

end TonTracker
