/-
# `Activity.PagesPartition` — the pages of the activity view share out its items

The sort keys with the rule that unknown times come last are a strict total
order of items with ids of their own (`precedes_strict`), and the list is in
that order (`orderedItems_pairwise`).  A cursor stands for a number of items
already seen (`CursorAt`): one request goes from one such cursor to the next
(`listActivity_at`), and so any requests that follow it return the list in
parts (`followActivity_at`).
-/
import TonTracker.Services.ActivityPages
import TonTracker.Activity.EvidenceConserved
import TonTracker.Cursors.Exact

namespace TonTracker

/-! ## The order of items -/

section Order

/-- The strict order of a sort by some key. -/
def ActivitySort.lt {κ : Type} [LinearOrder κ] (sort : ActivitySort) (a b : κ) : Prop :=
  match sort with
  | .newest => b < a
  | .oldest => a < b

/-- An item is listed before another: by its keys, and known times first. -/
def Precedes (sort : ActivitySort) (a b : ActivityItem) : Prop :=
  match a.occurredAt, b.occurredAt with
  | some _, some _ => sort.lt (knownSortKey a) (knownSortKey b)
  | some _, none => True
  | none, some _ => False
  | none, none => sort.lt (unknownSortKey a) (unknownSortKey b)

section Keys

variable {κ : Type} [LinearOrder κ] {sort : ActivitySort} {a b c : κ}

theorem ActivitySort.order_le (sort : ActivitySort) : KeySort.Order (κ := κ) sort.le := by
  cases sort with
  | newest =>
      refine ⟨fun a b c hab hbc => ?_, fun a b => ?_, fun a b hab hba => ?_⟩
      · exact decide_eq_true (le_trans (of_decide_eq_true hbc) (of_decide_eq_true hab))
      · exact (KeySort.order_le.total b a)
      · exact le_antisymm (of_decide_eq_true hba) (of_decide_eq_true hab)
  | oldest => exact KeySort.order_le

theorem ActivitySort.lt_of_le (h : sort.le a b = true) (hne : a ≠ b) : sort.lt a b := by
  cases sort with
  | newest => exact lt_of_le_of_ne (of_decide_eq_true h) hne.symm
  | oldest => exact lt_of_le_of_ne (of_decide_eq_true h) hne

theorem ActivitySort.irrefl_lt (sort : ActivitySort) (a : κ) : ¬ sort.lt a a := by
  cases sort <;> exact lt_irrefl a

theorem ActivitySort.trans_lt (hab : sort.lt a b) (hbc : sort.lt b c) : sort.lt a c := by
  cases sort with
  | newest => exact lt_trans hbc hab
  | oldest => exact lt_trans hab hbc

theorem ActivitySort.total_lt (sort : ActivitySort) (hne : a ≠ b) : sort.lt a b ∨ sort.lt b a := by
  cases sort with
  | newest => exact (lt_or_gt_of_ne hne).symm
  | oldest => exact lt_or_gt_of_ne hne

end Keys

variable {sort : ActivitySort} {a b c : ActivityItem}

/-- The keys end with the id. -/
theorem publicId_of_unknownSortKey (h : unknownSortKey a = unknownSortKey b) :
    a.publicId = b.publicId := by
  have hrest := congrArg Prod.snd (toLex.injective h)
  exact congrArg Prod.snd (toLex.injective hrest)

theorem publicId_of_knownSortKey (h : knownSortKey a = knownSortKey b) :
    a.publicId = b.publicId :=
  publicId_of_unknownSortKey (congrArg Prod.snd (toLex.injective h))

theorem precedes_irrefl (sort : ActivitySort) (a : ActivityItem) : ¬ Precedes sort a a := by
  unfold Precedes
  cases a.occurredAt with
  | none => exact sort.irrefl_lt _
  | some _ => exact sort.irrefl_lt _

theorem precedes_trans (hab : Precedes sort a b) (hbc : Precedes sort b c) :
    Precedes sort a c := by
  unfold Precedes at *
  cases ha : a.occurredAt <;> cases hb : b.occurredAt <;> cases hc : c.occurredAt <;>
    rw [ha, hb] at hab <;> rw [hb, hc] at hbc
  · exact ActivitySort.trans_lt hab hbc
  · exact False.elim hbc
  · exact False.elim hab
  · exact False.elim hab
  · trivial
  · exact False.elim hbc
  · trivial
  · exact ActivitySort.trans_lt hab hbc

theorem precedes_total (sort : ActivitySort) (hne : a.publicId ≠ b.publicId) :
    Precedes sort a b ∨ Precedes sort b a := by
  unfold Precedes
  cases a.occurredAt <;> cases b.occurredAt
  · exact sort.total_lt fun h => hne (publicId_of_unknownSortKey h)
  · exact .inr trivial
  · exact .inl trivial
  · exact sort.total_lt fun h => hne (publicId_of_knownSortKey h)

theorem orderedItems_perm (items : List ActivityItem) (sort : ActivitySort) :
    (orderedItems items sort).Perm items := by
  have hsome : (items.filter fun item => item.occurredAt.isNone) =
      items.filter fun item => !item.occurredAt.isSome :=
    List.filter_congr fun item _ => by cases item.occurredAt <;> rfl
  unfold orderedItems
  rw [hsome]
  exact ((KeySort.sortBy_perm _ _ _).append (KeySort.sortBy_perm _ _ _)).trans
    (List.filter_append_perm _ _)

/-- Items sorted by a key that tells them apart. -/
theorem sortBy_strict {κ : Type} [LinearOrder κ] {key : ActivityItem → κ}
    {items : List ActivityItem} (hkey : ∀ a b, key a = key b → a.publicId = b.publicId)
    (nodup : (items.map (·.publicId)).Nodup) (sort : ActivitySort) :
    (KeySort.sortBy sort.le key items).Pairwise fun a b => sort.lt (key a) (key b) := by
  have hperm := KeySort.sortBy_perm sort.le key items
  have hids := (hperm.map (·.publicId)).nodup_iff.mpr nodup
  have hsorted := KeySort.sortBy_pairwise sort.order_le key items
  exact (hsorted.and (List.pairwise_map.mp hids)).imp fun {a b} h =>
    ActivitySort.lt_of_le h.1 fun heq => h.2 (hkey a b heq)

theorem orderedItems_pairwise {items : List ActivityItem}
    (nodup : (items.map (·.publicId)).Nodup) (sort : ActivitySort) :
    (orderedItems items sort).Pairwise (Precedes sort) := by
  have known : ∀ item ∈ KeySort.sortBy sort.le knownSortKey
      (items.filter fun item => item.occurredAt.isSome), item.occurredAt.isSome = true :=
    fun item hitem => (List.mem_filter.mp ((KeySort.sortBy_perm _ _ _).mem_iff.mp hitem)).2
  have unknown : ∀ item ∈ KeySort.sortBy sort.le unknownSortKey
      (items.filter fun item => item.occurredAt.isNone), item.occurredAt = none := fun item hitem =>
    Option.isNone_iff_eq_none.mp
      (List.mem_filter.mp ((KeySort.sortBy_perm _ _ _).mem_iff.mp hitem)).2
  have part : ∀ p : ActivityItem → Bool, ((items.filter p).map (·.publicId)).Nodup := fun p =>
    nodup.sublist (List.filter_sublist.map _)
  refine List.pairwise_append.mpr ⟨?_, ?_, ?_⟩
  · refine (sortBy_strict (fun _ _ => publicId_of_knownSortKey) (part _) sort).imp_of_mem
      fun {a b} ha hb h => ?_
    obtain ⟨ta, hta⟩ := Option.isSome_iff_exists.mp (known a ha)
    obtain ⟨tb, htb⟩ := Option.isSome_iff_exists.mp (known b hb)
    unfold Precedes
    rw [hta, htb]
    exact h
  · refine (sortBy_strict (fun _ _ => publicId_of_unknownSortKey) (part _) sort).imp_of_mem
      fun {a b} ha hb h => ?_
    unfold Precedes
    rw [unknown a ha, unknown b hb]
    exact h
  · intro a ha b hb
    obtain ⟨ta, hta⟩ := Option.isSome_iff_exists.mp (known a ha)
    unfold Precedes
    rw [hta, unknown b hb]
    trivial

end Order

/-! ## Positions -/

section Positions

theorem length_isoformat (t : Instant) : t.isoformat.length ≤ 27 := by
  have hfraction : t.fractionText.length ≤ 7 := by
    unfold Instant.fractionText
    split
    · exact Nat.zero_le _
    · rw [List.length_cons, FixedDigits.length_padded]
  unfold Instant.isoformat Instant.dateText Instant.clockText
  simp only [List.length_append, List.length_cons, FixedDigits.length_padded, List.length_nil]
  omega

theorem digits_plain (n : Nat) : (Nat.toDigits 10 n).all isPlain = true := by
  refine List.all_eq_true.mpr fun c hc => isPlain_of_digit ?_
  have hdigit := Nat.isDigit_of_mem_toDigits (by decide) (by decide) hc
  simp only [Char.isDigit, ge_iff_le, Bool.and_eq_true, decide_eq_true_eq] at hdigit
  simp only [FixedDigits.isDigit, Bool.and_eq_true, decide_eq_true_eq, Char.le_def]
  exact hdigit

/-- The position of an item with a published id. -/
theorem cursorPosition_bounded {item : ActivityItem} {digest : HexDigest}
    (h : item.publicId = ['a', 'c', 't', '_'] ++ digest.text) :
    (cursorPosition item).Bounded where
  occurredAt text htext := by
    obtain ⟨t, -, rfl⟩ := Option.map_eq_some_iff.mp htext
    exact ⟨isoformat_plain t, length_isoformat t⟩
  logicalTime text htext := by
    obtain ⟨time, -, rfl⟩ := Option.map_eq_some_iff.mp htext
    have hlt : time.value < 10 ^ 20 := Nat.lt_trans time.bounded (by decide)
    exact ⟨digits_plain _, (Nat.length_toDigits_le_iff (by decide) (by decide)).mpr hlt⟩
  publicId := by
    show item.publicId.all isPlain = true ∧ item.publicId.length ≤ 68
    rw [h, List.all_append, List.length_append, digest.plain, digest.length]
    exact ⟨rfl, le_rfl⟩

theorem isTextOrNullValue_textOrNull (text text' : Option Text) :
    isTextOrNullValue text (textOrNull text') = decide (text = text') := by
  cases text' <;> rfl

/-- An item is at the position of another where all three fields agree. -/
theorem isPositionOf_document (a b : ActivityItem) :
    isPositionOf a (cursorPosition b).document = decide (cursorPosition a = cursorPosition b) := by
  have hfields : isPositionOf a (cursorPosition b).document =
      (isTextOrNullValue (cursorPosition a).occurredAt (textOrNull (cursorPosition b).occurredAt) &&
        isTextOrNullValue (cursorPosition a).logicalTime
          (textOrNull (cursorPosition b).logicalTime) &&
        isTextValue (cursorPosition a).publicId (.str (cursorPosition b).publicId)) := rfl
  rw [hfields, isTextOrNullValue_textOrNull, isTextOrNullValue_textOrNull, isTextValue,
    ← Bool.decide_and, ← Bool.decide_and, decide_eq_decide]
  generalize cursorPosition a = p
  generalize cursorPosition b = q
  constructor
  · rintro ⟨⟨htime, hlogical⟩, hid⟩
    obtain ⟨time, logical, id⟩ := p
    obtain ⟨time', logical', id'⟩ := q
    obtain rfl : time = time' := htime
    obtain rfl : logical = logical' := hlogical
    obtain rfl : id' = id := hid
    rfl
  · intro h
    rw [h]
    exact ⟨⟨rfl, rfl⟩, rfl⟩

/-- A position is found where its item is. -/
theorem findIdx?_position {ordered : List ActivityItem}
    (nodup : (ordered.map (·.publicId)).Nodup) {n : Nat} {item : ActivityItem}
    (hitem : ordered[n]? = some item) :
    ordered.findIdx? (isPositionOf · (cursorPosition item).document) = some n := by
  obtain ⟨hn, rfl⟩ := List.getElem?_eq_some_iff.mp hitem
  refine List.findIdx?_eq_some_iff_getElem.mpr ⟨hn, ?_, fun j hj => ?_⟩
  · rw [isPositionOf_document, decide_eq_true rfl]
  · rw [isPositionOf_document, decide_eq_true_eq]
    intro heq
    have hid : ordered[j].publicId = ordered[n].publicId := congrArg CursorPosition.publicId heq
    exact List.pairwise_iff_getElem.mp (List.pairwise_map.mp nodup) j n (by omega) hn hj hid

end Positions

/-! ## One request -/

section Request

variable {lib : CursorLibrary} {sha256 : CursorDocument → HexDigest} {casePublicId : Text}
  {snapshotPublicId : Text} {filters : ActivityFilters} {sort : ActivitySort}
  {query : ActivityPageQuery} {ordered : List ActivityItem}

/-- What the cursors of a list stand on: ids of the case and of the snapshot
in their canonical text, published ids of items, each its own, and documents
that read back. -/
structure Signable (lib : CursorLibrary) (sha256 : CursorDocument → HexDigest)
    (casePublicId snapshotPublicId : Text) (filters : ActivityFilters) (sort : ActivitySort)
    (ordered : List ActivityItem) : Prop where
  case : isCanonicalUuid (.str casePublicId) = true
  snapshot : isCanonicalUuid (.str snapshotPublicId) = true
  ids : (ordered.map (·.publicId)).Nodup
  published : ∀ item ∈ ordered, ∃ digest : HexDigest,
    item.publicId = ['a', 'c', 't', '_'] ++ digest.text
  readsBack : ∀ item ∈ ordered,
    lib.ReadsBack .activity (nextDocument sha256 casePublicId snapshotPublicId filters sort item)

/-- The cursor of an item decodes to its document. -/
theorem Signable.decodes
    (h : Signable lib sha256 casePublicId snapshotPublicId filters sort ordered)
    {item : ActivityItem} (hitem : item ∈ ordered) :
    ∃ cursor, lib.encodeCursor .activity
        (nextDocument sha256 casePublicId snapshotPublicId filters sort item) = some cursor ∧
      lib.decodeActivityCursor cursor =
        .ok (nextDocument sha256 casePublicId snapshotPublicId filters sort item) := by
  obtain ⟨digest, hid⟩ := h.published item hitem
  exact (activity_exact lib).decodes _
    ⟨⟨⟨casePublicId, h.case⟩, ⟨snapshotPublicId, h.snapshot⟩, filterSha256 sha256 filters sort,
      sort, cursorPosition item, cursorPosition_bounded hid⟩, rfl⟩ (h.readsBack item hitem)

/-- A cursor that decodes is not too long. -/
theorem length_of_decodeActivityCursor {cursor : Text} {document : CursorDocument}
    (h : lib.decodeActivityCursor cursor = .ok document) : ¬ 1024 < cursor.length := by
  obtain ⟨raw, hopened⟩ := (decodeActivityCursor_eq_ok.mp h).1.opened
  intro hlong
  have hparts : CursorLibrary.cursorParts cursor = none := by
    unfold CursorLibrary.cursorParts
    rw [if_pos (.inr (.inl hlong))]
  unfold CursorLibrary.openCursor at hopened
  rw [hparts] at hopened
  cases hopened

/-- A cursor that stands for the items already seen. -/
def CursorAt (lib : CursorLibrary) (sha256 : CursorDocument → HexDigest)
    (casePublicId snapshotPublicId : Text) (filters : ActivityFilters) (sort : ActivitySort)
    (ordered : List ActivityItem) (seen : Nat) : Option Text → Prop
  | none => seen = 0
  | some cursor => ∃ item, ∃ before, seen = before + 1 ∧ ordered[before]? = some item ∧
      lib.decodeActivityCursor cursor =
        .ok (nextDocument sha256 casePublicId snapshotPublicId filters sort item)

/-- The page behind a cursor starts after the items seen. -/
theorem startAfter_next (nodup : (ordered.map (·.publicId)).Nodup) {before : Nat}
    {item : ActivityItem} (hitem : ordered[before]? = some item) :
    startAfter sha256 casePublicId snapshotPublicId query ordered
      (nextDocument sha256 casePublicId snapshotPublicId query.filters query.sort item) =
        .ok (before + 1) := by
  have hchecks : (isTextValue casePublicId (.str casePublicId) &&
      isTextValue snapshotPublicId (.str snapshotPublicId) &&
      isTextValue (filterSha256 sha256 query.filters query.sort).text
        (.str (filterSha256 sha256 query.filters query.sort).text) &&
      isTextValue query.sort.text (.str query.sort.text)) = true := by
    simp only [isTextValue, decide_true, Bool.and_self]
  have hafter : Json.get (nextDocument sha256 casePublicId snapshotPublicId query.filters query.sort
      item) "after" = .obj (cursorPosition item).document := rfl
  unfold startAfter
  refine (if_pos hchecks).trans ?_
  rw [hafter]
  dsimp only
  rw [findIdx?_position nodup hitem]

theorem pageStart_at
    (h : Signable lib sha256 casePublicId snapshotPublicId query.filters query.sort ordered)
    {seen : Nat} (hat : CursorAt lib sha256 casePublicId snapshotPublicId query.filters query.sort
      ordered seen query.cursor) :
    pageStart lib sha256 casePublicId snapshotPublicId query ordered = .ok seen := by
  unfold pageStart
  cases hcursor : query.cursor with
  | none =>
      rw [hcursor] at hat
      obtain rfl : seen = 0 := hat
      rfl
  | some cursor =>
      rw [hcursor] at hat
      obtain ⟨item, before, rfl, hitem, hdecode⟩ := hat
      dsimp only
      rw [hdecode]
      exact startAfter_next h.ids hitem

/-- One page from a cursor to the next. -/
theorem activityPage_at (query : ActivityPageQuery)
    (h : Signable lib sha256 casePublicId snapshotPublicId query.filters query.sort ordered)
    {seen : Nat} (hat : CursorAt lib sha256 casePublicId snapshotPublicId query.filters query.sort
      ordered seen query.cursor)
    (hlimit : 0 < query.limit) :
    ∃ next, activityPage lib sha256 casePublicId snapshotPublicId query ordered =
        .ok ((ordered.drop seen).take query.limit, next) ∧
      (next = none ↔ ordered.length ≤ seen + query.limit) ∧
      ∀ cursor, next = some cursor → CursorAt lib sha256 casePublicId snapshotPublicId
        query.filters query.sort ordered (seen + query.limit) (some cursor) := by
  unfold activityPage
  rw [pageStart_at h hat]
  show ∃ next, pageFrom lib sha256 casePublicId snapshotPublicId query ordered seen = _ ∧ _
  unfold pageFrom
  dsimp only
  by_cases hmore : seen + query.limit < ordered.length
  · have hlength : ((ordered.drop seen).take query.limit).length = query.limit := by
      rw [List.length_take, List.length_drop]
      omega
    obtain ⟨last, hlast⟩ : ∃ last, ordered[seen + query.limit - 1]? = some last :=
      ⟨_, List.getElem?_eq_getElem (by omega)⟩
    have hgetLast : ((ordered.drop seen).take query.limit).getLast? = some last := by
      rw [List.getLast?_eq_getElem?, hlength, List.getElem?_take_of_lt (by omega),
        List.getElem?_drop, ← hlast]
      congr 1
      omega
    obtain ⟨cursor, hencode, hdecode⟩ := h.decodes (List.mem_of_getElem? hlast)
    rw [hlength, if_pos hmore, hgetLast]
    dsimp only
    rw [hencode]
    refine ⟨some cursor, rfl, ⟨fun heq => (nomatch heq), fun hle => absurd hmore (by omega)⟩, ?_⟩
    intro cursor' heq
    cases heq
    exact ⟨last, seen + query.limit - 1, by omega, hlast, hdecode⟩
  · refine ⟨none, ?_, ⟨fun _ => by omega, fun _ => rfl⟩, fun cursor heq => (nomatch heq)⟩
    rw [if_neg]
    rw [List.length_take, List.length_drop]
    omega

variable {items : Text → List ActivityItem} {latest : Text}

/-- A request names the snapshot its cursor is of, or leaves it to it. -/
structure ReadsSnapshot (query : ActivityPageQuery) (latest snapshotPublicId : Text) : Prop where
  named : ∀ named, query.snapshotPublicId = some named → named = snapshotPublicId
  first : query.cursor = none → query.snapshotPublicId.getD latest = snapshotPublicId

theorem requestedSnapshot_at {seen : Nat}
    (hat : CursorAt lib sha256 casePublicId snapshotPublicId query.filters query.sort ordered seen
      query.cursor)
    (hreads : ReadsSnapshot query latest snapshotPublicId) :
    ∃ requested, requestedSnapshot lib casePublicId query = .ok requested ∧
      requested.getD latest = snapshotPublicId := by
  unfold requestedSnapshot
  cases hcursor : query.cursor with
  | none => exact ⟨_, rfl, hreads.first hcursor⟩
  | some cursor =>
      rw [hcursor] at hat
      obtain ⟨item, before, rfl, -, hdecode⟩ := hat
      have hcase : isTextValue casePublicId (.str casePublicId) = true := decide_eq_true rfl
      have hsnapshot : isTextValue snapshotPublicId (.str snapshotPublicId) = true :=
        decide_eq_true rfl
      have hcaseField : Json.get (nextDocument sha256 casePublicId snapshotPublicId query.filters
        query.sort item) "case" = .str casePublicId := rfl
      have hsnapshotField : Json.get (nextDocument sha256 casePublicId snapshotPublicId
        query.filters query.sort item) "snapshot" = .str snapshotPublicId := rfl
      dsimp only
      rw [hdecode]
      dsimp only
      rw [hcaseField, hsnapshotField, hcase, if_neg (by decide)]
      cases hnamed : query.snapshotPublicId with
      | none => exact ⟨_, rfl, rfl⟩
      | some named =>
          obtain rfl := hreads.named named hnamed
          dsimp only
          rw [hsnapshot, if_pos rfl]
          exact ⟨_, rfl, rfl⟩

/-- A request of a valid limit returns the page behind its cursor. -/
theorem listActivity_at (query : ActivityPageQuery) {seen : Nat}
    (hat : CursorAt lib sha256 casePublicId snapshotPublicId query.filters query.sort
      (activityList (items snapshotPublicId) query.filters query.sort) seen query.cursor)
    (hreads : ReadsSnapshot query latest snapshotPublicId)
    (hlimit : 1 ≤ query.limit ∧ query.limit ≤ 100) :
    listActivity lib sha256 casePublicId query items latest =
      activityPage lib sha256 casePublicId snapshotPublicId query
        (activityList (items snapshotPublicId) query.filters query.sort) := by
  obtain ⟨requested, hrequested, hsnapshot⟩ := requestedSnapshot_at hat hreads
  have hcheck : checkPage query = .ok () := by
    unfold checkPage
    rw [if_pos hlimit]
    cases hcursor : query.cursor with
    | none => rfl
    | some cursor =>
        rw [hcursor] at hat
        obtain ⟨item, before, -, -, hdecode⟩ := hat
        rw [if_neg]
        rw [Option.any_some, decide_eq_true_eq]
        exact length_of_decodeActivityCursor hdecode
  unfold listActivity
  rw [hrequested, hcheck]
  show activityPage lib sha256 casePublicId (requested.getD latest) query _ = _
  rw [hsnapshot]

/-- One request goes from a cursor to the next, over as many items as it asks
for. -/
theorem request_at {limit seen : Nat}
    (h : Signable lib sha256 casePublicId snapshotPublicId query.filters query.sort
      (activityList (items snapshotPublicId) query.filters query.sort))
    (hat : CursorAt lib sha256 casePublicId snapshotPublicId query.filters query.sort
      (activityList (items snapshotPublicId) query.filters query.sort) seen query.cursor)
    (hreads : ReadsSnapshot query latest snapshotPublicId) (hlimit : 1 ≤ limit ∧ limit ≤ 100) :
    ∃ next, listActivity lib sha256 casePublicId { query with limit := limit } items latest =
        .ok (((activityList (items snapshotPublicId) query.filters query.sort).drop seen).take
          limit, next) ∧
      (next = none ↔
        (activityList (items snapshotPublicId) query.filters query.sort).length ≤ seen + limit) ∧
      ∀ cursor, next = some cursor → CursorAt lib sha256 casePublicId snapshotPublicId
        query.filters query.sort (activityList (items snapshotPublicId) query.filters query.sort)
        (seen + limit) (some cursor) := by
  obtain ⟨next, hpage, hrest⟩ := activityPage_at { query with limit := limit } h hat hlimit.1
  have hlist := listActivity_at { query with limit := limit } hat
    ⟨hreads.named, hreads.first⟩ hlimit
  exact ⟨next, hlist.trans hpage, hrest⟩

/-- Requests that follow the cursor return the list, in parts, as far as they
ask for it. -/
theorem followActivity_at (items : Text → List ActivityItem) (snapshotPublicId : Text)
    (request : ActivityRequest) (requests : List ActivityRequest) (query : ActivityPageQuery)
    {seen : Nat}
    (h : Signable lib sha256 casePublicId snapshotPublicId query.filters query.sort
      (activityList (items snapshotPublicId) query.filters query.sort))
    (hat : CursorAt lib sha256 casePublicId snapshotPublicId query.filters query.sort
      (activityList (items snapshotPublicId) query.filters query.sort) seen query.cursor)
    (hreads : ReadsSnapshot query request.latest snapshotPublicId)
    (hlimits : ∀ r ∈ request :: requests, 1 ≤ r.limit ∧ r.limit ≤ 100) :
    ∃ pages left, followActivity lib sha256 casePublicId items query (request :: requests) =
        .ok (pages, left) ∧
      pages.flatten = ((activityList (items snapshotPublicId) query.filters query.sort).drop
        seen).take ((request :: requests).map (·.limit)).sum ∧
      (left = none ↔ (activityList (items snapshotPublicId) query.filters query.sort).length ≤
        seen + ((request :: requests).map (·.limit)).sum) := by
  induction requests generalizing request query seen with
  | nil =>
      obtain ⟨next, hpage, hnext, -⟩ := request_at h hat hreads
        (hlimits request List.mem_cons_self)
      unfold followActivity
      rw [hpage]
      cases next with
      | none =>
          refine ⟨_, _, rfl, ?_, hnext⟩
          rw [List.flatten_singleton]
          rfl
      | some cursor =>
          refine ⟨_, _, rfl, ?_, hnext⟩
          rw [List.flatten_singleton]
          rfl
  | cons later requests ih =>
      obtain ⟨next, hpage, hnext, hnextAt⟩ := request_at h hat hreads
        (hlimits request List.mem_cons_self)
      unfold followActivity
      rw [hpage]
      generalize hlist : activityList (items snapshotPublicId) query.filters query.sort =
        ordered at *
      rw [List.map_cons, List.sum_cons]
      cases next with
      | none =>
          have hend := hnext.mp rfl
          refine ⟨_, _, rfl, ?_, fun _ => by omega, fun _ => rfl⟩
          rw [List.flatten_singleton, List.take_of_length_le, List.take_of_length_le] <;>
            rw [List.length_drop] <;> omega
      | some cursor =>
          have hlater : ReadsSnapshot { query with cursor := some cursor } later.latest
            snapshotPublicId := ⟨hreads.named, fun heq => nomatch heq⟩
          obtain ⟨pages, left, hfollow, hpages, hleft⟩ := ih later
            { query with cursor := some cursor } (hlist ▸ h) (hlist ▸ hnextAt cursor rfl) hlater
            fun r hr => hlimits r (List.mem_cons_of_mem _ hr)
          rw [hlist] at hpages hleft
          dsimp only [bind, Except.bind]
          rw [hfollow]
          refine ⟨_, _, rfl, ?_, by rw [hleft, Nat.add_assoc]⟩
          rw [List.flatten_cons, hpages, List.take_add, List.drop_drop]

end Request

/-! ## The pages of a snapshot -/

theorem publicId_of_built {readers : ActivityReaders} {c : CaseColumns}
    {sources : ActivityRowSources} {item : ActivityItem}
    (h : item ∈ (buildActivity readers c sources).items) :
    ∃ digest : HexDigest, item.publicId = ['a', 'c', 't', '_'] ++ digest.text := by
  obtain ⟨group, -, hitem⟩ := List.mem_filterMap.mp h
  obtain ⟨o, -, hid⟩ := activityItem_publicId hitem
  exact ⟨_, hid⟩

/-- What the view takes for granted of a snapshot: rows and runs with ids of
their own, no collision among the digests, canonical ids, and JSON that reads
back what was written of the positions. -/
structure Pageable (lib : CursorLibrary) (sha256 : CursorDocument → HexDigest)
    (readers : ActivityReaders) (c : CaseColumns) (sources : ActivityRowSources)
    (snapshotPublicId : Text) (filters : ActivityFilters) (sort : ActivitySort) : Prop where
  distinct : sources.Distinct
  free : CollisionFree readers c sources
  case : isCanonicalUuid (.str c.publicId.text) = true
  snapshot : isCanonicalUuid (.str snapshotPublicId) = true
  readsBack : ∀ item ∈ (buildActivity readers c sources).items, lib.ReadsBack .activity
    (nextDocument sha256 c.publicId.text snapshotPublicId filters sort item)

section Pages

variable {lib : CursorLibrary} {sha256 : CursorDocument → HexDigest} {readers : ActivityReaders}
  {c : CaseColumns} {sources : ActivityRowSources} {snapshotPublicId : Text}
  {filters : ActivityFilters} {sort : ActivitySort}

theorem filtered_ids (distinct : sources.Distinct) (free : CollisionFree readers c sources) :
    ((((buildActivity readers c sources).items.filter (matchesFilters · filters))).map
      (·.publicId)).Nodup :=
  (items_nodup distinct free).sublist (List.filter_sublist.map _)

theorem Pageable.signable
    (h : Pageable lib sha256 readers c sources snapshotPublicId filters sort) :
    Signable lib sha256 c.publicId.text snapshotPublicId filters sort
      (activityList (buildActivity readers c sources).items filters sort) := by
  have hperm := orderedItems_perm
    ((buildActivity readers c sources).items.filter (matchesFilters · filters)) sort
  have hitem : ∀ item ∈ activityList (buildActivity readers c sources).items filters sort,
      item ∈ (buildActivity readers c sources).items := fun item hitem =>
    List.mem_of_mem_filter (hperm.mem_iff.mp hitem)
  exact
    { case := h.case
      snapshot := h.snapshot
      ids := (hperm.map _).nodup_iff.mpr (filtered_ids h.distinct h.free)
      published := fun item hmem => publicId_of_built (hitem item hmem)
      readsBack := fun item hmem => h.readsBack item (hitem item hmem) }

end Pages

/-- The pages that following `next_cursor` returns, whatever their limits,
are the filtered items of the snapshot, each once, in the order of the sort,
which is a strict total order of the items. -/
theorem activity_pages_partition (lib : CursorLibrary) (sha256 : CursorDocument → HexDigest)
    (readers : ActivityReaders) (c : CaseColumns) (sources : Text → ActivityRowSources)
    (query : ActivityPageQuery) (request : ActivityRequest) (requests : List ActivityRequest)
    (hcursor : query.cursor = none)
    (hlimits : ∀ r ∈ request :: requests, 1 ≤ r.limit ∧ r.limit ≤ 100)
    (pageable : Pageable lib sha256 readers c
      (sources (query.snapshotPublicId.getD request.latest))
      (query.snapshotPublicId.getD request.latest) query.filters query.sort) :
    let items := fun snapshot => (buildActivity readers c (sources snapshot)).items
    let filtered := (items (query.snapshotPublicId.getD request.latest)).filter
      (matchesFilters · query.filters)
    let ordered := orderedItems filtered query.sort
    (ordered.Perm filtered ∧ (ordered.map (·.publicId)).Nodup ∧
      ordered.Pairwise (Precedes query.sort)) ∧
    ((∀ a, ¬ Precedes query.sort a a) ∧
      (∀ a b c, Precedes query.sort a b → Precedes query.sort b c → Precedes query.sort a c) ∧
      ∀ a ∈ filtered, ∀ b ∈ filtered, a ≠ b →
        Precedes query.sort a b ∨ Precedes query.sort b a) ∧
    ∃ pages left, followActivity lib sha256 c.publicId.text items query (request :: requests) =
        .ok (pages, left) ∧
      pages.flatten = ordered.take ((request :: requests).map (·.limit)).sum ∧
      (left = none ↔ ordered.length ≤ ((request :: requests).map (·.limit)).sum) ∧
      (left = none → pages.flatten = ordered) := by
  intro items filtered ordered
  have hids : (filtered.map (·.publicId)).Nodup := filtered_ids pageable.distinct pageable.free
  have hperm : ordered.Perm filtered := orderedItems_perm _ _
  refine ⟨⟨hperm, (hperm.map _).nodup_iff.mpr hids, orderedItems_pairwise hids _⟩,
    ⟨precedes_irrefl _, fun a b c => precedes_trans, fun a ha b hb hne => ?_⟩, ?_⟩
  · exact precedes_total _ fun heq => hne (List.inj_on_of_nodup_map hids ha hb heq)
  · have hat : CursorAt lib sha256 c.publicId.text (query.snapshotPublicId.getD request.latest)
        query.filters query.sort (activityList (items (query.snapshotPublicId.getD request.latest))
          query.filters query.sort) 0 query.cursor := by
      rw [hcursor]
      rfl
    have hreads : ReadsSnapshot query request.latest
        (query.snapshotPublicId.getD request.latest) :=
      ⟨fun named hnamed => by rw [hnamed]; rfl, fun _ => rfl⟩
    obtain ⟨pages, left, hfollow, hpages, hleft⟩ :=
      followActivity_at items (query.snapshotPublicId.getD request.latest) request requests query
        pageable.signable hat hreads hlimits
    rw [List.drop_zero] at hpages
    rw [Nat.zero_add] at hleft
    refine ⟨pages, left, hfollow, hpages, hleft, fun hnone => ?_⟩
    rw [hpages]
    exact List.take_of_length_le (hleft.mp hnone)

/-! ## A sample -/

/-- Two transactions without a time or an identity. -/
def pagedSources : ActivityRowSources where
  syncs := [(1, overlapSync 1 '1')]
  runs := [(1, overlapRun .real)]
  transactions := [overlapRow 1 1 [], overlapRow 2 1 []]
  transfers := []
  swaps := []

def pagedCase : CaseColumns where
  id := 1
  publicId := ⟨sampleHistoryUuid.text, by decide⟩
  scope := overlapCase.scope

/-- Readers whose digests tell the rows apart. -/
def pagedReaders : ActivityReaders :=
  { overlapReaders with
    sha256 := fun seed => if seed.getLast? = some '1' then digitDigest '1' else digitDigest '2' }

/-- The observation of a row of the sample. -/
def pagedObservation (id : Nat) : ActivityObservation where
  syncId := 1
  syncPublicId := (overlapSync 1 '1').publicId
  rowId := id
  identity := none
  semanticFingerprint := digitDigest '0'
  semantics :=
    { logicalTime := none
      direction := none
      outcome := none
      counterparty := none
      assets := []
      protocol := none
      linkedToItself := false
      transactionHash := none
      eventId := none
      details := .transaction none
      kind := .transaction
      occurredAt := none }
  origin := ⟨.providerObserved, "provider_declared_only".toList, "tonapi".toList,
    "live".toList, "verified".toList, "validated_transaction_identity".toList⟩
  limitations := []

theorem pagedObservations_eq : activityObservations pagedReaders pagedCase pagedSources =
    [pagedObservation 1, pagedObservation 2] := by
  decide +kernel

theorem pagedSources_distinct : pagedSources.Distinct where
  rows kind := by cases kind <;> decide
  runs := by decide

theorem paged_collisionFree : CollisionFree pagedReaders pagedCase pagedSources := by
  have compared : ∀ o ∈ [pagedObservation 1, pagedObservation 2],
      ∀ o' ∈ [pagedObservation 1, pagedObservation 2],
        (pagedReaders.sha256 (activitySeed pagedCase o) =
            pagedReaders.sha256 (activitySeed pagedCase o') →
          activitySeed pagedCase o = activitySeed pagedCase o') ∧
        (pagedReaders.fingerprint o.semantics = pagedReaders.fingerprint o'.semantics →
          o.semantics = o'.semantics) := by
    decide +kernel
  constructor <;> rw [pagedObservations_eq]
  · rintro - ⟨o, ho, rfl⟩ - ⟨o', ho', rfl⟩
    exact (compared o ho o' ho').1
  · rintro - ⟨o, ho, rfl⟩ - ⟨o', ho', rfl⟩
    exact (compared o ho o' ho').2

/-- The item of a row of the sample. -/
def pagedItem (digit : Char) (id : Nat) : ActivityItem :=
  { (pagedObservation id).semantics with
    publicId := ['a', 'c', 't', '_'] ++ List.replicate 64 digit
    origin := (pagedObservation id).origin
    observationCount := 1
    suppressedCount := 0
    firstSeenSyncPublicId := (overlapSync 1 '1').publicId
    lastSeenSyncPublicId := (overlapSync 1 '1').publicId
    limitations := [] }

/-- A query without filters. -/
def pagedQuery : ActivityPageQuery where
  snapshotPublicId := none
  filters := ⟨[], [], [], none, none, none, none, []⟩
  sort := .newest
  limit := 1
  cursor := none

/-- The position of an item of the sample. -/
def pagedPosition (digit : Char) : CursorDocument :=
  [("logical_time", .null), ("occurred_at", .null),
    ("public_id", .str (['a', 'c', 't', '_'] ++ List.replicate 64 digit))]

def pagedDocument (digit : Char) : CursorDocument :=
  [("after", .obj (pagedPosition digit)), ("case", .str sampleHistoryUuid.text),
    ("filter_sha256", .str (digitDigest '0').text), ("snapshot", .str sampleHistoryUuid.text),
    ("sort", .str "newest".toList), ("v", .int 1)]

/-- The JSON of a document of the sample. -/
def pagedText (digit : Char) : Text :=
  ("\x7b\"after\":\x7b\"logical_time\":null,\"occurred_at\":null,\"public_id\":").toList ++
    (jsonString (['a', 'c', 't', '_'] ++ List.replicate 64 digit) ++
    ("\x7d,\"case\":\"0f8fad5b-d9cb-469f-a165-70867728950e\",\"filter_sha256\":").toList ++
    jsonString (List.replicate 64 '0') ++
    (",\"snapshot\":\"0f8fad5b-d9cb-469f-a165-70867728950e\",\"sort\":\"newest\"," ++
      "\"v\":1\x7d").toList)

/-- Reads the two documents of the sample. -/
def pagedLibrary : CursorLibrary where
  loads raw :=
    if raw = asciiOctets (pagedText '1') then some (.obj (pagedDocument '1'))
    else if raw = asciiOctets (pagedText '2') then some (.obj (pagedDocument '2')) else none
  hmac := sampleCursorLibrary.hmac
  floatText _ _ := none
  floatIs _ _ := false

theorem payload_pagedDocument {digit : Char} (h : digit = '1' ∨ digit = '2') :
    pagedLibrary.payload .activity (pagedDocument digit) =
      some (asciiOctets (pagedText digit)) := by
  have hposition : dumpedMembers pagedLibrary false (pagedPosition digit) = some
      [("logical_time", ['n', 'u', 'l', 'l']), ("occurred_at", ['n', 'u', 'l', 'l']),
        ("public_id", jsonString (['a', 'c', 't', '_'] ++ List.replicate 64 digit))] := by
    simp only [pagedPosition, dumpedMembers, dumpedText, Option.bind_some, Option.map_some]
  have hmembers : dumpedMembers pagedLibrary false (pagedDocument digit) = some
      [("after", '\x7b' :: (commaJoined ([("logical_time", ['n', 'u', 'l', 'l']),
          ("occurred_at", ['n', 'u', 'l', 'l']),
          ("public_id", jsonString (['a', 'c', 't', '_'] ++ List.replicate 64 digit))].map
            fun member => jsonString member.1.toList ++ ':' :: member.2) ++ ['\x7d'])),
        ("case", jsonString sampleHistoryUuid.text),
        ("filter_sha256", jsonString (digitDigest '0').text),
        ("snapshot", jsonString sampleHistoryUuid.text),
        ("sort", jsonString "newest".toList), ("v", ['1'])] := by
    simp only [pagedDocument, dumpedMembers, dumpedText, Option.bind_some, Option.map_some,
      hposition]
    rw [sortedMembers_eq]
    · rfl
    · show ["logical_time", "occurred_at", "public_id"].Pairwise (· ≤ ·)
      decide
  unfold CursorLibrary.payload
  rw [dumpedText, show decide (CursorKind.activity ≠ .activity) = false from rfl, hmembers,
    Option.map_some, sortedMembers_eq, Option.map_some]
  · refine congrArg (fun text => some (asciiOctets text)) ?_
    rcases h with rfl | rfl <;> decide +kernel
  · show ["after", "case", "filter_sha256", "snapshot", "sort", "v"].Pairwise (· ≤ ·)
    decide

theorem pagedItems_eq : (buildActivity pagedReaders pagedCase pagedSources).items =
    [pagedItem '1' 1, pagedItem '2' 2] := by
  have hgroups : (distinctOccurrences [pagedObservation 1, pagedObservation 2]).map
      sortOccurrences = [[pagedObservation 1], [pagedObservation 2]] := by
    have hdistinct : distinctOccurrences [pagedObservation 1, pagedObservation 2] =
        [[pagedObservation 1], [pagedObservation 2]] := rfl
    rw [hdistinct]
    simp only [List.map_cons, List.map_nil, sortOccurrences, KeySort.sortBy,
      List.mergeSort_singleton]
  unfold buildActivity
  dsimp only
  rw [pagedObservations_eq, hgroups]
  rfl

theorem nextDocument_pagedItem (digit : Char) (id : Nat) :
    nextDocument (fun _ => digitDigest '0') pagedCase.publicId.text sampleHistoryUuid.text
      pagedQuery.filters pagedQuery.sort (pagedItem digit id) =
        pagedDocument digit := rfl

/-- Two pages of one item each. -/
theorem activity_pages_partition_sample : ∃ pages left,
    followActivity pagedLibrary (fun _ => digitDigest '0') pagedCase.publicId.text
      (fun _ => (buildActivity pagedReaders pagedCase pagedSources).items)
      pagedQuery
      [⟨1, sampleHistoryUuid.text⟩, ⟨1, sampleHistoryUuid.text⟩] = .ok (pages, left) ∧
    pages.flatten.length = 2 ∧ left = none := by
  have pageable : Pageable pagedLibrary (fun _ => digitDigest '0') pagedReaders pagedCase
      pagedSources sampleHistoryUuid.text pagedQuery.filters pagedQuery.sort := by
    refine ⟨pagedSources_distinct, paged_collisionFree, by decide, by decide, ?_⟩
    rw [pagedItems_eq]
    have hread : ∀ digit, digit = '1' ∨ digit = '2' →
        pagedLibrary.ReadsBack .activity (pagedDocument digit) := by
      rintro digit hdigit raw hraw
      rw [payload_pagedDocument hdigit] at hraw
      rw [← Option.some.inj hraw]
      have hne : asciiOctets (pagedText '2') ≠ asciiOctets (pagedText '1') := fun heq =>
        absurd (congrArg (fun octets => octets[70]?) heq) (by decide +kernel)
      rcases hdigit with rfl | rfl
      · simp only [pagedLibrary, ↓reduceIte]
      · simp only [pagedLibrary, hne, ↓reduceIte]
    intro item hitem
    simp only [List.mem_cons, List.not_mem_nil, or_false] at hitem
    rcases hitem with rfl | rfl
    · rw [nextDocument_pagedItem]
      exact hread '1' (.inl rfl)
    · rw [nextDocument_pagedItem]
      exact hread '2' (.inr rfl)
  have hfiltered : ((buildActivity pagedReaders pagedCase pagedSources).items.filter
      (matchesFilters · pagedQuery.filters)).length = 2 := by
    rw [pagedItems_eq]
    decide
  have hpartition := activity_pages_partition pagedLibrary (fun _ => digitDigest '0') pagedReaders
    pagedCase (fun _ => pagedSources) pagedQuery ⟨1, sampleHistoryUuid.text⟩
    [⟨1, sampleHistoryUuid.text⟩] rfl (by decide) pageable
  have hlength := hpartition.1.1.length_eq.trans hfiltered
  obtain ⟨pages, left, hfollow, hpages, hleft, -⟩ := hpartition.2.2
  refine ⟨pages, left, hfollow, ?_, hleft.mpr (Nat.le_of_eq hlength)⟩
  rw [hpages, List.length_take]
  exact congrArg (min 2) hlength

end TonTracker
