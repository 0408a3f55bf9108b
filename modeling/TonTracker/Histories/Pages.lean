/-
# `Histories.Pages` — pages of a frozen journal

The cutoff of the first page freezes a journal: a row up to the cutoff is
not added, changed or dropped later (`FrozenTable`), so every page is a
page of the one descending listing that the first page saw, and the count
of every page is its length.  `Journalled` says what a journal must keep;
`listed_of_followed` and `followed_of_verified` are the two halves of
reading it.
-/
import TonTracker.Lib.KeysetPages
import TonTracker.Services.HistoryPages
import TonTracker.Checkpoints.Immutable

namespace TonTracker

open Relational (Table)
open ExceptFold (bind_eq_ok check_eq_ok mapM_eq_ok exists_mapM)

/-! ## Pages of a frozen listing -/

/-- The rows of a table below a key, newest first. -/
theorem below_select {α : Type} (t : Table α) (p : Nat → α → Bool) (after : Option Nat) :
    KeysetPages.below Prod.fst after (t.select p).reverse =
      (t.select fun id value => p id value && after.all fun bound => id < bound).reverse := by
  unfold KeysetPages.below Table.select
  rw [List.filter_reverse, List.filter_filter]
  congr 2
  funext row
  exact Bool.and_comm _ _

/-- What a later table has up to a cutoff is what the first one had. -/
structure FrozenTable {α : Type} (p : α → Bool) (cutoff : Nat) (t t' : Table α) : Prop where
  upTo : ∀ id value, id ≤ cutoff → p value = true →
    (t'.get? id = some value ↔ t.get? id = some value)
  all : ∀ id value, t.get? id = some value → p value = true → id ≤ cutoff

section FrozenTable

variable {α : Type} {p : α → Bool} {cutoff : Nat} {t t' : Table α}

theorem FrozenTable.select (h : FrozenTable p cutoff t t') (after : Option Nat) :
    (t'.select fun id value => p value && decide (id ≤ cutoff) && after.all fun bound =>
        id < bound).reverse =
      KeysetPages.below Prod.fst after (t.select fun _ value => p value).reverse := by
  rw [below_select]
  refine congrArg List.reverse (Table.select_congr fun id value => ?_)
  simp only [Bool.and_eq_true, decide_eq_true_eq]
  constructor
  · rintro ⟨hvalue, ⟨hp, hid⟩, hafter⟩
    exact ⟨(h.upTo id value hid hp).mp hvalue, hp, hafter⟩
  · rintro ⟨hvalue, hp, hafter⟩
    have hid := h.all id value hvalue hp
    exact ⟨(h.upTo id value hid hp).mpr hvalue, ⟨hp, hid⟩, hafter⟩

theorem FrozenTable.rowcount (h : FrozenTable p cutoff t t') :
    t'.rowcount (fun id value => p value && decide (id ≤ cutoff)) =
      (t.select fun _ value => p value).reverse.length := by
  have same := h.select none
  simp only [Option.all_none, Bool.and_true] at same
  unfold Table.rowcount
  rw [← List.length_reverse, same]
  unfold KeysetPages.below
  simp

end FrozenTable

section Pages

variable {Id Row Item : Type} {h : History Id Row Item} {itemId : Item → Id} {s : Store}
  {owner : Text} {casePublicId : Uuid} {caseId : Nat} {rows : List (Nat × Row)}
  {cutoff : Nat × Row} {limit : Nat}

/-- What a store still serves of a listing. -/
structure HistoryServed (h : History Id Row Item) (s : Store) (caseId : Nat)
    (rows : List (Nat × Row)) (cutoff : Nat × Row) : Prop where
  select : ∀ after limit, h.select s caseId cutoff.1 after limit =
    (KeysetPages.below Prod.fst after rows).take limit
  count : h.count s caseId cutoff.1 = rows.length
  row : ∀ r ∈ rows, h.row? s caseId (h.publicId r.2) = some r
  upper : ∀ r ∈ rows, r.1 ≤ cutoff.1

/-- The cursor of the first page, or of one that continues after a row. -/
inductive ContinuesAfter (h : History Id Row Item) (s : Store) (caseId : Nat)
    (casePublicId : Uuid) (rows : List (Nat × Row)) (cutoff : Nat × Row) :
    Option (HistoryCursor Id) → Option Nat → Prop
  | first (newest : h.newest? s caseId = some cutoff) :
      ContinuesAfter h s caseId casePublicId rows cutoff none none
  | next (last : Nat × Row) (there : last ∈ rows) :
      ContinuesAfter h s caseId casePublicId rows cutoff
        (some ⟨casePublicId, h.publicId cutoff.2, h.publicId last.2⟩) (some last.1)

/-- The page of a listing with its items. -/
def pageOf (h : History Id Row Item) (casePublicId : Uuid) (rows : List (Nat × Row))
    (cutoff : Nat × Row) (limit : Nat) (after : Option Nat) (items : List Item) :
    HistoryPage Id Item :=
  let page := KeysetPages.page Prod.fst limit after rows
  ⟨some (h.publicId cutoff.2), items, rows.length, if page.2 then page.1.getLast?.map fun last =>
      ⟨casePublicId, h.publicId cutoff.2, h.publicId last.2⟩
    else none⟩

theorem page_eq_ok (serves : HistoryServed h s caseId rows cutoff) {after : Option Nat}
    {page : HistoryPage Id Item} :
    h.page s caseId casePublicId limit cutoff after = .ok page ↔
      ∃ items, (KeysetPages.page Prod.fst limit after rows).1.mapM
          (h.item s caseId casePublicId) = .ok items ∧
        page = pageOf h casePublicId rows cutoff limit after items := by
  unfold History.page
  rw [serves.select, serves.count]
  constructor
  · intro hpage
    obtain ⟨items, hitems, hpage⟩ := bind_eq_ok.mp hpage
    cases hpage
    exact ⟨items, hitems, rfl⟩
  · rintro ⟨items, hitems, rfl⟩
    exact bind_eq_ok.mpr ⟨items, hitems, rfl⟩

/-- What a page that is returned has. -/
theorem list_ok {cursor : Option (HistoryCursor Id)} {after : Option Nat}
    (serves : HistoryServed h s caseId rows cutoff) (hcutoff : cutoff ∈ rows)
    (hcase : ∀ found, s.requiredCase owner casePublicId = .ok found →
      found.1 = caseId ∧ found.2.publicId = casePublicId)
    (continues : ContinuesAfter h s caseId casePublicId rows cutoff cursor after)
    {page : HistoryPage Id Item} (hpage : h.list s owner casePublicId limit cursor = .ok page) :
    (1 ≤ limit ∧ limit ≤ h.maximum) ∧
      ∃ items, (KeysetPages.page Prod.fst limit after rows).1.mapM
          (h.item s caseId casePublicId) = .ok items ∧
        page = pageOf h casePublicId rows cutoff limit after items := by
  unfold History.list at hpage
  obtain ⟨_, hlimit, hpage⟩ := bind_eq_ok.mp hpage
  refine ⟨check_eq_ok.mp hlimit, ?_⟩
  obtain ⟨⟨foundId, c⟩, hfound, hpage⟩ := bind_eq_ok.mp hpage
  obtain ⟨hfoundId, hid⟩ := hcase _ hfound
  dsimp only at hfoundId hid hpage
  rw [hfoundId, hid] at hpage
  obtain ⟨_, -, hpage⟩ := bind_eq_ok.mp hpage
  cases continues with
  | first newest =>
      dsimp only at hpage
      rw [newest] at hpage
      obtain ⟨_, -, hpage⟩ := bind_eq_ok.mp hpage
      obtain ⟨_, -, hpage⟩ := bind_eq_ok.mp hpage
      obtain ⟨position, hposition, hpage⟩ := bind_eq_ok.mp hpage
      cases hposition
      exact (page_eq_ok serves).mp hpage
  | next last there =>
      dsimp only at hpage
      rw [serves.row cutoff hcutoff] at hpage
      obtain ⟨_, -, hpage⟩ := bind_eq_ok.mp hpage
      obtain ⟨_, -, hpage⟩ := bind_eq_ok.mp hpage
      obtain ⟨position, hposition, hpage⟩ := bind_eq_ok.mp hpage
      unfold History.position at hposition
      dsimp only at hposition
      rw [serves.row last there] at hposition
      obtain ⟨_, -, hposition⟩ := bind_eq_ok.mp hposition
      obtain ⟨_, -, hposition⟩ := bind_eq_ok.mp hposition
      obtain ⟨_, -, hposition⟩ := bind_eq_ok.mp hposition
      cases hposition
      exact (page_eq_ok serves).mp hpage

theorem mem_of_mem_page {after : Option Nat} {r : Nat × Row}
    (hr : r ∈ (KeysetPages.page Prod.fst limit after rows).1) : r ∈ rows := by
  unfold KeysetPages.page at hr
  rw [KeysetPages.cut_fst] at hr
  exact (List.mem_filter.mp (List.mem_of_mem_take hr)).1

/-- A page whose rows can be verified is returned. -/
theorem list_of_items {cursor : Option (HistoryCursor Id)} {after : Option Nat}
    (serves : HistoryServed h s caseId rows cutoff) (hcutoff : cutoff ∈ rows) {c : CaseRow}
    (hcase : s.requiredCase owner casePublicId = .ok (caseId, c)) (hid : c.publicId = casePublicId)
    (hlimit : 1 ≤ limit ∧ limit ≤ h.maximum)
    (admitted : ∀ r ∈ rows, h.admits r.2 = .ok true)
    (verified : ∀ r ∈ rows, ∃ item, h.item s caseId casePublicId r = .ok item)
    (continues : ContinuesAfter h s caseId casePublicId rows cutoff cursor after) :
    ∃ page, h.list s owner casePublicId limit cursor = .ok page := by
  subst hid
  have shown : ∀ r ∈ (KeysetPages.page Prod.fst limit after rows).1,
      ∃ item, h.item s caseId c.publicId r = .ok item :=
    fun r hr => verified r (mem_of_mem_page hr)
  obtain ⟨items, hitems⟩ := exists_mapM.mpr shown
  have hpage : h.page s caseId c.publicId limit cutoff after =
      .ok (pageOf h c.publicId rows cutoff limit after items) :=
    (page_eq_ok serves).mpr ⟨items, hitems, rfl⟩
  refine ⟨pageOf h c.publicId rows cutoff limit after items, ?_⟩
  unfold History.list
  refine bind_eq_ok.mpr ⟨(), check_eq_ok.mpr hlimit, ?_⟩
  refine bind_eq_ok.mpr ⟨(caseId, c), hcase, ?_⟩
  cases continues with
  | first newest =>
      refine bind_eq_ok.mpr ⟨(), check_eq_ok.mpr rfl, ?_⟩
      dsimp only
      rw [newest]
      refine bind_eq_ok.mpr ⟨true, admitted cutoff hcutoff, ?_⟩
      exact bind_eq_ok.mpr ⟨(), check_eq_ok.mpr rfl, bind_eq_ok.mpr ⟨none, rfl, hpage⟩⟩
  | next last there =>
      refine bind_eq_ok.mpr ⟨(), check_eq_ok.mpr (by simp), ?_⟩
      dsimp only
      rw [serves.row cutoff hcutoff]
      refine bind_eq_ok.mpr ⟨true, admitted cutoff hcutoff, ?_⟩
      refine bind_eq_ok.mpr ⟨(), check_eq_ok.mpr rfl, bind_eq_ok.mpr ⟨some last.1, ?_, hpage⟩⟩
      unfold History.position
      dsimp only
      rw [serves.row last there]
      refine bind_eq_ok.mpr ⟨(), check_eq_ok.mpr (serves.upper last there), ?_⟩
      exact bind_eq_ok.mpr ⟨true, admitted last there,
        bind_eq_ok.mpr ⟨(), check_eq_ok.mpr rfl, rfl⟩⟩

/-- The cursor of a page names its last row, where another page follows. -/
theorem pageOf_next {after : Option Nat} {items : List Item} (hlimit : 1 ≤ limit)
    (descending : rows.Pairwise fun a b => b.1 < a.1) :
    ((pageOf h casePublicId rows cutoff limit after items).nextCursor = none ∧
        (KeysetPages.page Prod.fst limit after rows).1 = KeysetPages.below Prod.fst after rows) ∨
      ∃ last ∈ rows, (pageOf h casePublicId rows cutoff limit after items).nextCursor =
          some ⟨casePublicId, h.publicId cutoff.2, h.publicId last.2⟩ ∧
        (KeysetPages.page Prod.fst limit after rows).1.length = limit ∧
        KeysetPages.below Prod.fst (some last.1) rows ≠ [] ∧
        KeysetPages.below Prod.fst after rows =
          (KeysetPages.page Prod.fst limit after rows).1 ++
            KeysetPages.below Prod.fst (some last.1) rows := by
  cases hmore : (KeysetPages.page Prod.fst limit after rows).2 with
  | false =>
      refine .inl ⟨?_, (KeysetPages.page_of_last hmore).2⟩
      unfold pageOf
      dsimp only
      rw [hmore]
      rfl
  | true =>
      obtain ⟨bound, hnext, hfull, hrest⟩ := KeysetPages.page_of_more hlimit descending hmore
      unfold KeysetPages.next at hnext
      rw [if_pos hmore] at hnext
      obtain ⟨last, hlast, rfl⟩ := Option.map_eq_some_iff.mp hnext
      have long : limit < (KeysetPages.below Prod.fst after rows).length := by
        unfold KeysetPages.page at hmore
        rw [KeysetPages.cut_snd] at hmore
        exact of_decide_eq_true hmore
      refine .inr ⟨last, mem_of_mem_page (List.mem_of_getLast? hlast), ?_, hfull, ?_, hrest⟩
      · unfold pageOf
        dsimp only
        rw [if_pos hmore, hlast]
        rfl
      · intro hnil
        rw [hrest, hnil, List.append_nil, hfull] at long
        exact Nat.lt_irrefl limit long

/-! ## All pages -/

/-- What the pages list of a frozen journal below a position: the reads of
its first rows, in order, of all of them exactly where no cursor is left, and of
every page that leaves one as many as the request allows; every page has
the same total and the same cutoff. -/
structure HistoryListed (h : History Id Row Item) (itemId : Item → Id) (caseId : Nat)
    (casePublicId : Uuid) (rows : List (Nat × Row)) (after : Option Nat)
    (requests : List (Store × Nat)) (pages : List (HistoryPage Id Item))
    (left : Option (HistoryCursor Id)) : Prop where
  listed : ∃ shown rest, KeysetPages.below Prod.fst after rows = shown ++ rest ∧
    (left = none ↔ rest = []) ∧
    List.Forall₂ (fun r item => itemId item = h.publicId r.2 ∧
      ∃ request ∈ requests, h.item request.1 caseId casePublicId r = .ok item)
      shown (pages.flatMap (·.items))
  full : left ≠ none → (pages.flatMap (·.items)).length = (requests.map (·.2)).sum
  same : ∀ page ∈ pages, page.total = rows.length ∧
    page.cutoff = rows.head?.map fun r => h.publicId r.2

/-- A journal as it is at a store, and what later stores keep of it. -/
structure Journalled (h : History Id Row Item) (itemId : Item → Id) (caseId : Nat)
    (s : Store) (rows : List (Nat × Row)) : Prop where
  descending : rows.Pairwise fun a b => b.1 < a.1
  maximum : 1 ≤ h.maximum
  newest : h.newest? s caseId = rows.head?
  serves : ∀ s' cutoff, CaseKept caseId s s' → rows.head? = some cutoff →
    HistoryServed h s' caseId rows cutoff
  kept : ∀ s' casePublicId, CaseKept caseId s s' → ∀ r ∈ rows, ∀ item,
    h.item s caseId casePublicId r = .ok item → h.item s' caseId casePublicId r = .ok item
  named : ∀ s' casePublicId r item, h.item s' caseId casePublicId r = .ok item →
    itemId item = h.publicId r.2
  admits : ∀ s' casePublicId r item, h.item s' caseId casePublicId r = .ok item →
    h.admits r.2 = .ok true

theorem historyFollow_cons {later : List (Store × Nat)} {cursor : Option (HistoryCursor Id)}
    {pages : List (HistoryPage Id Item)} {left : Option (HistoryCursor Id)} :
    h.follow owner casePublicId ((s, limit) :: later) cursor = .ok (pages, left) ↔
      ∃ page, h.list s owner casePublicId limit cursor = .ok page ∧
        match page.nextCursor with
        | none => pages = [page] ∧ left = none
        | some next => ∃ more, h.follow owner casePublicId later (some next) = .ok (more, left) ∧
            pages = page :: more := by
  rw [History.follow]
  constructor
  · intro hfollow
    obtain ⟨page, hpage, hfollow⟩ := bind_eq_ok.mp hfollow
    refine ⟨page, hpage, ?_⟩
    cases hnext : page.nextCursor with
    | none =>
        rw [hnext] at hfollow
        cases hfollow
        exact ⟨rfl, rfl⟩
    | some next =>
        rw [hnext] at hfollow
        obtain ⟨⟨more, left'⟩, hmore, hfollow⟩ := bind_eq_ok.mp hfollow
        cases hfollow
        exact ⟨more, hmore, rfl⟩
  · rintro ⟨page, hpage, hfollow⟩
    refine bind_eq_ok.mpr ⟨page, hpage, ?_⟩
    cases hnext : page.nextCursor with
    | none =>
        rw [hnext] at hfollow
        obtain ⟨rfl, rfl⟩ := hfollow
        rfl
    | some next =>
        rw [hnext] at hfollow
        obtain ⟨more, hmore, rfl⟩ := hfollow
        exact bind_eq_ok.mpr ⟨(more, left), hmore, rfl⟩

/-- The first of the pages. -/
theorem historyListed_cons {s₀ : Store} (journal : Journalled h itemId caseId s₀ rows)
    (hhead : rows.head? = some cutoff) (hlimit : 1 ≤ limit)
    {later : List (Store × Nat)} {after : Option Nat}
    {items : List Item} (hitems : (KeysetPages.page Prod.fst limit after rows).1.mapM
      (h.item s caseId casePublicId) = .ok items)
    {pages : List (HistoryPage Id Item)} {left : Option (HistoryCursor Id)}
    (hpages : match (pageOf h casePublicId rows cutoff limit after items).nextCursor with
      | none => pages = [pageOf h casePublicId rows cutoff limit after items] ∧ left = none
      | some next => ∃ more,
          (∀ last ∈ rows, next = ⟨casePublicId, h.publicId cutoff.2, h.publicId last.2⟩ →
            KeysetPages.below Prod.fst (some last.1) rows ≠ [] →
            HistoryListed h itemId caseId casePublicId rows (some last.1) later more left) ∧
          pages = pageOf h casePublicId rows cutoff limit after items :: more) :
    HistoryListed h itemId caseId casePublicId rows after ((s, limit) :: later) pages left := by
  have reads : List.Forall₂ (fun r item => itemId item = h.publicId r.2 ∧
      ∃ request ∈ (s, limit) :: later, h.item request.1 caseId casePublicId r = .ok item)
      (KeysetPages.page Prod.fst limit after rows).1 items :=
    (ExceptFold.mapM_eq_ok.mp hitems).imp fun r item hitem =>
      ⟨journal.named s casePublicId r item hitem, (s, limit), List.mem_cons_self, hitem⟩
  have first : (pageOf h casePublicId rows cutoff limit after items).total = rows.length ∧
      (pageOf h casePublicId rows cutoff limit after items).cutoff =
        rows.head?.map fun r => h.publicId r.2 := by
    rw [hhead]
    exact ⟨rfl, rfl⟩
  rcases pageOf_next hlimit journal.descending with ⟨hnext, hall⟩ |
    ⟨last, hlast, hnext, hfull, hmost, hrest⟩
  · rw [hnext] at hpages
    obtain ⟨rfl, rfl⟩ := hpages
    refine ⟨⟨(KeysetPages.page Prod.fst limit after rows).1, [], ?_, iff_of_true rfl rfl, ?_⟩,
      fun hleft => absurd rfl hleft, fun page hpage => ?_⟩
    · rw [List.append_nil]
      exact hall.symm
    · rw [List.flatMap_cons, List.flatMap_nil, List.append_nil]
      exact reads
    · rw [List.mem_singleton.mp hpage]
      exact first
  · rw [hnext] at hpages
    obtain ⟨more, hmore, rfl⟩ := hpages
    obtain ⟨⟨shown, rest, hbelow, hnone, hread⟩, hsum, hsame⟩ := hmore last hlast rfl hmost
    refine ⟨⟨(KeysetPages.page Prod.fst limit after rows).1 ++ shown, rest, ?_, hnone, ?_⟩,
      fun hleft => ?_, fun page hpage => ?_⟩
    · rw [hrest, hbelow, List.append_assoc]
    · rw [List.flatMap_cons]
      refine List.rel_append reads (hread.imp fun r item hitem => ?_)
      obtain ⟨hname, request, hrequest, hitem⟩ := hitem
      exact ⟨hname, request, List.mem_cons_of_mem _ hrequest, hitem⟩
    · have size : items.length = limit := by rw [← reads.length_eq, hfull]
      rw [List.flatMap_cons, List.length_append, List.map_cons, List.sum_cons, hsum hleft]
      exact congrArg (· + _) size
    · rcases List.mem_cons.mp hpage with rfl | hmem
      · exact first
      · exact hsame page hmem

/-- Whatever is returned lists the journal. -/
theorem listed_of_followed {s₀ : Store} (journal : Journalled h itemId caseId s₀ rows)
    (hhead : rows.head? = some cutoff) :
    ∀ {requests : List (Store × Nat)},
      (∀ request ∈ requests, CaseKept caseId s₀ request.1 ∧
        ∀ found, request.1.requiredCase owner casePublicId = .ok found →
          found.1 = caseId ∧ found.2.publicId = casePublicId) →
      ∀ {cursor : Option (HistoryCursor Id)} {after : Option Nat},
        (requests = [] → cursor ≠ none) →
        (cursor ≠ none → KeysetPages.below Prod.fst after rows ≠ []) →
        (∀ request, requests.head? = some request →
          ContinuesAfter h request.1 caseId casePublicId rows cutoff cursor after) →
        ∀ {pages : List (HistoryPage Id Item)} {left : Option (HistoryCursor Id)},
          h.follow owner casePublicId requests cursor = .ok (pages, left) →
          HistoryListed h itemId caseId casePublicId rows after requests pages left := by
  intro requests
  induction requests with
  | nil =>
      intro _ cursor after hcursor hmore _ pages left hfollow
      cases hfollow
      exact ⟨⟨[], _, rfl, iff_of_false (hcursor rfl) (hmore (hcursor rfl)), .nil⟩, fun _ => rfl,
        fun page hpage => (nomatch hpage)⟩
  | cons request later ih =>
      obtain ⟨s, limit⟩ := request
      intro stages cursor after _ _ continues pages left hfollow
      obtain ⟨hkept, hcase⟩ := stages (s, limit) List.mem_cons_self
      obtain ⟨page, hpage, hfollow⟩ := historyFollow_cons.mp hfollow
      obtain ⟨⟨hlimit, -⟩, items, hitems, rfl⟩ := list_ok (journal.serves s cutoff hkept hhead)
        (List.mem_of_mem_head? hhead) hcase (continues _ rfl) hpage
      refine historyListed_cons journal hhead hlimit hitems ?_
      split at hfollow
      case h_1 hnext => exact hfollow
      case h_2 next hnext =>
        obtain ⟨more, hmore, rfl⟩ := hfollow
        refine ⟨more, fun last hlast hcursor hrest => ?_, rfl⟩
        subst hcursor
        exact ih (fun r hr => stages r (List.mem_cons_of_mem _ hr)) (fun _ => Option.some_ne_none _)
          (fun _ => hrest) (fun _ _ => .next last hlast) hmore

/-- Rows that were verified at the first page are shown by every later
one. -/
theorem followed_of_verified {s₀ : Store} (journal : Journalled h itemId caseId s₀ rows)
    (hhead : rows.head? = some cutoff)
    (verified : ∀ r ∈ rows, ∃ item, h.item s₀ caseId casePublicId r = .ok item) :
    ∀ {requests : List (Store × Nat)},
      (∀ request ∈ requests, CaseKept caseId s₀ request.1 ∧
        (∃ c, request.1.requiredCase owner casePublicId = .ok (caseId, c) ∧
          c.publicId = casePublicId) ∧ 1 ≤ request.2 ∧ request.2 ≤ h.maximum) →
      ∀ {cursor : Option (HistoryCursor Id)} {after : Option Nat},
        (∀ request, requests.head? = some request →
          ContinuesAfter h request.1 caseId casePublicId rows cutoff cursor after) →
        ∃ pages left, h.follow owner casePublicId requests cursor = .ok (pages, left) := by
  intro requests
  induction requests with
  | nil => exact fun _ cursor _ _ => ⟨[], cursor, rfl⟩
  | cons request later ih =>
      obtain ⟨s, limit⟩ := request
      intro stages cursor after continues
      obtain ⟨hkept, ⟨c, hcase, hid⟩, hlimit⟩ := stages (s, limit) List.mem_cons_self
      have serves := journal.serves s cutoff hkept hhead
      have hcutoff : cutoff ∈ rows := List.mem_of_mem_head? hhead
      have shown : ∀ r ∈ rows, ∃ item, h.item s caseId casePublicId r = .ok item := by
        intro r hr
        obtain ⟨item, hitem⟩ := verified r hr
        exact ⟨item, journal.kept s casePublicId hkept r hr item hitem⟩
      obtain ⟨page, hpage⟩ := list_of_items serves hcutoff hcase hid hlimit
        (fun r hr => (shown r hr).elim fun item => journal.admits s casePublicId r item) shown
        (continues _ rfl)
      obtain ⟨-, items, -, rfl⟩ := list_ok serves hcutoff
        (fun found hfound => by
          rw [Except.ok.inj (hfound.symm.trans hcase)]
          exact ⟨rfl, hid⟩) (continues _ rfl) hpage
      rcases @pageOf_next _ _ _ h casePublicId rows cutoff limit after items hlimit.1
        journal.descending with ⟨hnext, -⟩ | ⟨last, hlast, hnext, -⟩
      · refine ⟨[pageOf h casePublicId rows cutoff limit after items], none,
          historyFollow_cons.mpr ⟨_, hpage, ?_⟩⟩
        rw [hnext]
        exact ⟨rfl, rfl⟩
      · obtain ⟨more, left, hmore⟩ := ih (fun r hr => stages r (List.mem_cons_of_mem _ hr))
          fun _ _ => .next last hlast
        refine ⟨pageOf h casePublicId rows cutoff limit after items :: more, left,
          historyFollow_cons.mpr ⟨_, hpage, ?_⟩⟩
        rw [hnext]
        exact ⟨more, hmore, rfl⟩

end Pages

end TonTracker
