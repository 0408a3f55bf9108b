/-
# `Catalog.FrozenPages` — following the catalog cursor

The cutoff of the first page freezes the listing: later events have larger
ids, and no column that the filter reads changes (`Grown`).  So every page
is a page of one descending listing of case ids and positions, and the
pages put together are that listing (`KeysetPages.page_of_more`).  A page
is refused only where a sync it shows has a stored plan that cannot be
read back.
-/
import Mathlib.Data.List.Chain
import TonTracker.Acquisition.PlanRoundTrip
import TonTracker.Services.CaseCatalog
import TonTracker.Activity.PinnedSnapshots

namespace TonTracker

open Relational (Table)
open Session (World Run Move Reaches)

/-! ## Events and their cases -/

/-- Every catalog event is of a stored case. -/
def EventsOwned (s : Store) : Prop :=
  ∀ id event, s.catalogEvents.get? id = some event → ∃ c, s.cases.get? event.caseId = some c

theorem EventsOwned.commit {w : Write} {s : Store} (h : EventsOwned s) :
    EventsOwned (w.commit s).2 := by
  intro id event hevent
  cases w.commit_caseStep s with
  | same hcases hcatalog =>
      rw [hcatalog] at hevent
      rw [hcases]
      exact h id event hevent
  | created row hw hfree hcases hcatalog =>
      rw [hcatalog, Table.get?_insert] at hevent
      rw [hcases]
      split at hevent
      · cases hevent
        exact ⟨row, by rw [Table.get?_insert, if_pos rfl]⟩
      · obtain ⟨c, hc⟩ := h id event hevent
        exact ⟨c, by rw [Table.get?_insert, if_neg (Nat.ne_of_lt (s.cases.lt_nextId hc)), hc]⟩
  | touched caseId visible now f c hc hfixed hcases hcatalog why =>
      rw [hcatalog, Table.get?_insert] at hevent
      have found : ∃ c₀, s.cases.get? event.caseId = some c₀ := by
        split at hevent
        · cases hevent
          exact ⟨c, hc⟩
        · exact h id event hevent
      obtain ⟨c₀, hc₀⟩ := found
      exact ⟨_, by rw [hcases, Table.get?_update, hc₀, Option.map_some]⟩
  | deleted target now hw hidle hs =>
      rw [hs] at hevent ⊢
      obtain ⟨hevent, hkept⟩ := get?_deleteOf.mp hevent
      obtain ⟨c, hc⟩ := h id event hevent
      exact ⟨c, get?_deleteOf.mpr ⟨hc, hkept⟩⟩

/-! ## What later pages find -/

/-- A store some time after another, while no case is deleted. -/
structure Grown (s s' : Store) : Prop where
  next : s.catalogEvents.nextId ≤ s'.catalogEvents.nextId
  events : ∀ id event, id < s.catalogEvents.nextId →
    (s'.catalogEvents.get? id = some event ↔ s.catalogEvents.get? id = some event)
  cases : ∀ id c, s.cases.get? id = some c →
    ∃ c', s'.cases.get? id = some c' ∧ c'.fixed = c.fixed

theorem Grown.refl (s : Store) : Grown s s :=
  ⟨Nat.le_refl _, fun _ _ _ => Iff.rfl, fun _ c hc => ⟨c, hc, rfl⟩⟩

theorem Grown.trans {s₁ s₂ s₃ : Store} (h : Grown s₁ s₂) (h' : Grown s₂ s₃) : Grown s₁ s₃ where
  next := h.next.trans h'.next
  events id event hid :=
    (h'.events id event (Nat.lt_of_lt_of_le hid h.next)).trans (h.events id event hid)
  cases id c hc := by
    obtain ⟨c₂, hc₂, fixed₂⟩ := h.cases id c hc
    obtain ⟨c₃, hc₃, fixed₃⟩ := h'.cases id c₂ hc₂
    exact ⟨c₃, hc₃, fixed₃.trans fixed₂⟩

theorem grown_commit {w : Write} (hw : w.keepsCases = true) (s : Store) :
    Grown s (w.commit s).2 := by
  have inserted : ∀ event, (w.commit s).2.catalogEvents = s.catalogEvents.insert event →
      s.catalogEvents.nextId ≤ (w.commit s).2.catalogEvents.nextId ∧
        ∀ id e, id < s.catalogEvents.nextId →
          ((w.commit s).2.catalogEvents.get? id = some e ↔ s.catalogEvents.get? id = some e) := by
    intro event hcatalog
    rw [hcatalog, Table.nextId_insert]
    refine ⟨Nat.le_succ _, fun id e hid => ?_⟩
    rw [Table.get?_insert, if_neg (Nat.ne_of_lt hid)]
  have kept : ∀ id c, s.cases.get? id = some c →
      ∃ c', (w.commit s).2.cases.get? id = some c' ∧ c'.fixed = c.fixed := by
    intro id c hc
    refine cases_keeps (fun target now hdelete => ?_) hc
    rw [hdelete] at hw
    cases hw
  cases w.commit_caseStep s with
  | same hcases hcatalog => exact ⟨hcatalog ▸ Nat.le_refl _, fun _ _ _ => hcatalog ▸ Iff.rfl, kept⟩
  | created row hcreate hfree hcases hcatalog =>
      exact ⟨(inserted _ hcatalog).1, (inserted _ hcatalog).2, kept⟩
  | touched caseId visible now f c hc hfixed hcases hcatalog why =>
      exact ⟨(inserted _ hcatalog).1, (inserted _ hcatalog).2, kept⟩
  | deleted target now hdelete hidle hs =>
      rw [hdelete] at hw
      cases hw

/-- Between two pages. -/
abbrev Between {sha : Sha256} : World (caseSystem sha) → World (caseSystem sha) → Prop :=
  Run fun _ (w : Write) _ => w.keepsCases = true

theorem Between.grown {sha : Sha256} {world world' : World (caseSystem sha)}
    (h : Between world world') : Grown world.state world'.state :=
  h.inv (fun s : Store => Grown world.state s)
    (fun _ _ s hw hgrown => hgrown.trans (grown_commit hw s)) (.refl _)

/-! ## The frozen listing -/

/-- A listed case by what no transaction changes: its public id, and its
position. -/
def catalogEntry (positioned : (Nat × CaseRow) × Nat) : Uuid × Nat :=
  (positioned.1.2.publicId, positioned.2)

/-- The listing that a cutoff freezes. -/
def Store.frozenEntries (s : Store) (owner : Text) (filter : CatalogFilter) (cutoff : Nat) :
    List (Uuid × Nat) :=
  (s.frozenCatalog owner filter cutoff).map catalogEntry

/-- Without a text query, a filter reads columns that do not change. -/
theorem selects_of_fixed {filter : CatalogFilter} (hquery : filter.query = none) (owner : Text)
    {c c' : CaseRow} (h : c'.fixed = c.fixed) : filter.selects owner c' = filter.selects owner c := by
  simp only [CaseRow.fixed, Prod.mk.injEq] at h
  obtain ⟨-, owners, scopes, -⟩ := h
  unfold CatalogFilter.selects
  rw [owners, scopes, hquery]
  rfl

section Frozen

variable {s s' : Store} {owner : Text} {filter : CatalogFilter} {cutoff : Nat}

theorem Grown.frozenEvent? (h : Grown s s') (hcutoff : cutoff < s.catalogEvents.nextId)
    (caseId : Nat) : s'.frozenEvent? cutoff caseId = s.frozenEvent? cutoff caseId := by
  unfold Store.frozenEvent? Table.latest?
  refine congrArg _ (Table.select_congr fun id event => and_congr_left fun hp => ?_)
  rw [Bool.and_eq_true, decide_eq_true_eq] at hp
  exact h.events id event (Nat.lt_of_le_of_lt hp.1 hcutoff)

/-- The frozen event of a case is one up to the cutoff. -/
theorem frozenEvent?_le {caseId id : Nat}
    (h : (s.frozenEvent? cutoff caseId).any (fun newest => newest.1 = id) = true) :
    id ≤ cutoff := by
  obtain ⟨newest, hnewest, hid⟩ := (Option.any_eq_true _ _).mp h
  have selected := (s.catalogEvents.latest?_eq_some hnewest).1.2
  rw [Bool.and_eq_true, decide_eq_true_eq] at selected
  rw [← of_decide_eq_true hid]
  exact selected.1

/-- Later events and later edits leave the listing. -/
theorem Grown.frozenEntries (h : Grown s s') (owned : EventsOwned s)
    (hquery : filter.query = none) (hcutoff : cutoff < s.catalogEvents.nextId) :
    s'.frozenEntries owner filter cutoff = s.frozenEntries owner filter cutoff := by
  have sameEvents : s'.catalogEvents.select (fun id event => event.visible = !filter.archived &&
        (s'.frozenEvent? cutoff event.caseId).any fun newest => newest.1 = id) =
      s.catalogEvents.select fun id event => event.visible = !filter.archived &&
        (s.frozenEvent? cutoff event.caseId).any fun newest => newest.1 = id := by
    refine Table.select_congr fun id event => ?_
    rw [h.frozenEvent? hcutoff]
    refine and_congr_left fun hp => ?_
    rw [Bool.and_eq_true] at hp
    exact h.events id event (Nat.lt_of_le_of_lt (frozenEvent?_le hp.2) hcutoff)
  unfold Store.frozenEntries Store.frozenCatalog
  rw [sameEvents, List.map_filterMap, List.map_filterMap]
  refine List.filterMap_congr fun ⟨position, event⟩ hrow => ?_
  obtain ⟨hevent, -⟩ := s.catalogEvents.mem_select.mp (List.mem_reverse.mp hrow)
  obtain ⟨c, hc⟩ := owned position event hevent
  obtain ⟨c', hc', hfixed⟩ := h.cases event.caseId c hc
  dsimp only
  rw [hc, hc', Option.filter_some, Option.filter_some, selects_of_fixed hquery owner hfixed]
  have publicId : c'.publicId = c.publicId := congrArg (·.1) hfixed
  split
  · rw [Option.map_some, Option.map_some, Option.map_some, Option.map_some, catalogEntry,
      catalogEntry, publicId]
  · rfl

/-- By descending position. -/
theorem frozenCatalog_descending (s : Store) (owner : Text) (filter : CatalogFilter)
    (cutoff : Nat) : (s.frozenCatalog owner filter cutoff).Pairwise fun a b => b.2 < a.2 := by
  unfold Store.frozenCatalog
  rw [List.pairwise_filterMap, List.pairwise_reverse]
  refine (s.catalogEvents.select_ascending _).imp fun {a b} hlt x hx y hy => ?_
  obtain ⟨c, -, rfl⟩ := Option.map_eq_some_iff.mp hx
  obtain ⟨c', -, rfl⟩ := Option.map_eq_some_iff.mp hy
  exact hlt

end Frozen

/-! ## One page -/

/-- The syncs a case shows have plans that read back. -/
def Store.renders (s : Store) (caseId : Nat) : Bool :=
  [s.latestUsableSync? caseId, s.latestSync? caseId, s.activeSync? caseId].all fun sync =>
    sync.all fun row => row.2.acquisitionPlan.isOk

theorem renderSync_isOk (sync : Option (Nat × SyncRow)) :
    (∃ shown, renderSync sync = .ok shown) ↔
      sync.all (fun row => row.2.acquisitionPlan.isOk) = true := by
  unfold renderSync
  cases sync with
  | none => exact iff_of_true ⟨none, rfl⟩ rfl
  | some row =>
      rw [Option.all_some]
      dsimp only
      cases row.2.acquisitionPlan with
      | ok plan => exact iff_of_true ⟨_, rfl⟩ rfl
      | error error => exact iff_of_false (fun ⟨_, h⟩ => nomatch h) Bool.false_ne_true

theorem caseResponse_row {s : Store} {found : Nat × CaseRow} {record : CaseRecord}
    (h : s.caseResponse found = .ok record) : record.row = found.2 := by
  obtain ⟨snapshot, -, h⟩ := ExceptFold.bind_eq_ok.mp h
  obtain ⟨latest, -, h⟩ := ExceptFold.bind_eq_ok.mp h
  obtain ⟨active, -, h⟩ := ExceptFold.bind_eq_ok.mp h
  cases h
  rfl

/-- A case is rendered exactly where its syncs are. -/
theorem caseResponse_isOk {s : Store} {found : Nat × CaseRow} :
    (∃ record, s.caseResponse found = .ok record) ↔ s.renders found.1 = true := by
  unfold Store.renders
  simp only [List.all_cons, List.all_nil, Bool.and_true, Bool.and_eq_true, ← renderSync_isOk]
  constructor
  · rintro ⟨record, h⟩
    obtain ⟨snapshot, hsnapshot, h⟩ := ExceptFold.bind_eq_ok.mp h
    obtain ⟨latest, hlatest, h⟩ := ExceptFold.bind_eq_ok.mp h
    obtain ⟨active, hactive, -⟩ := ExceptFold.bind_eq_ok.mp h
    exact ⟨⟨snapshot, hsnapshot⟩, ⟨latest, hlatest⟩, ⟨active, hactive⟩⟩
  · rintro ⟨⟨snapshot, hsnapshot⟩, ⟨latest, hlatest⟩, ⟨active, hactive⟩⟩
    refine ⟨⟨found.2, latest, active, snapshot⟩, ?_⟩
    unfold Store.caseResponse
    rw [hsnapshot, ExceptFold.ok_bind, hlatest, ExceptFold.ok_bind, hactive]
    rfl

section Pages

variable {s : Store} {owner : Text} {filter : CatalogFilter} {cutoff limit : Nat}

/-- The cursor of a request that continues a listing, or starts it. -/
inductive Continues (s : Store) (owner : Text) (filter : CatalogFilter) (cutoff : Nat) :
    Option CatalogCursor → Option Nat → Prop
  | first (hcutoff : s.catalogCutoff owner = some cutoff) :
      Continues s owner filter cutoff none none
  | next (after : Nat) :
      Continues s owner filter cutoff (some ⟨owner, filter, cutoff, after⟩) (some after)

/-- What a page returns. -/
theorem listCases_eq_ok {cursor : Option CatalogCursor} {after : Option Nat}
    (hquery : filter.query = none) (hlimit : 1 ≤ limit ∧ limit ≤ 50)
    (continues : Continues s owner filter cutoff cursor after) {page : CatalogPage} :
    s.listCases owner filter limit cursor = .ok page ↔
      ((s.listAtCatalogCutoff owner filter limit cutoff after).1.mapM fun positioned =>
          s.caseResponse positioned.1) = .ok page.cases ∧
        page.nextCursor = (KeysetPages.next (·.2)
          (s.listAtCatalogCutoff owner filter limit cutoff after)).map fun last =>
            ⟨owner, filter, cutoff, last⟩ := by
  have bounds : ¬(limit < 1 ∨ 50 < limit) := by omega
  have same : { filter with query := none } = filter := by rw [← hquery]
  have reduced : s.listCases owner filter limit cursor =
      ((s.listAtCatalogCutoff owner filter limit cutoff after).1.mapM fun positioned =>
          s.caseResponse positioned.1) >>= fun cases =>
        .ok ⟨cases, (KeysetPages.next (·.2)
          (s.listAtCatalogCutoff owner filter limit cutoff after)).map fun last =>
            ⟨owner, filter, cutoff, last⟩⟩ := by
    unfold Store.listCases
    rw [if_neg bounds, hquery]
    cases continues with
    | first hcutoff =>
        simp only [catalogQuery, ExceptFold.ok_bind, same, hcutoff]
        rfl
    | next last =>
        simp only [catalogQuery, ExceptFold.ok_bind, same, checkCatalogCursor, ne_eq,
          not_true_eq_false, if_false]
        rfl
  rw [reduced]
  constructor
  · intro h
    obtain ⟨cases, hcases, h⟩ := ExceptFold.bind_eq_ok.mp h
    cases h
    exact ⟨hcases, rfl⟩
  · rintro ⟨hcases, hnext⟩
    rw [hcases, ExceptFold.ok_bind]
    exact congrArg Except.ok (by rw [← hnext])

/-- The public ids of a rendered page. -/
theorem publicIds_of_mapM {positioned : List ((Nat × CaseRow) × Nat)} {cases : List CaseRecord}
    (h : (positioned.mapM fun positioned => s.caseResponse positioned.1) = .ok cases) :
    cases.map (·.row.publicId) = positioned.map fun p => (catalogEntry p).1 := by
  have rendered := ExceptFold.mapM_eq_ok.mp h
  clear h
  induction rendered with
  | nil => rfl
  | cons hrecord _ ih =>
      rw [List.map_cons, List.map_cons, ih, caseResponse_row hrecord]
      rfl

/-! ## All pages -/

/-- Every page in turn has only cases that can be rendered. -/
def pagesRender (owner : Text) (filter : CatalogFilter) (cutoff : Nat) :
    List (Store × Nat) → Option Nat → Bool
  | [], _ => true
  | (s, limit) :: later, after =>
      let page := s.listAtCatalogCutoff owner filter limit cutoff after
      (page.1.all fun positioned => s.renders positioned.1.1) &&
        match KeysetPages.next (·.2) page with
        | none => true
        | some last => pagesRender owner filter cutoff later (some last)

/-- What the pages list of a frozen listing below a position: its first
cases, all of them where no cursor is left, and of every page that leaves
one as many as the request allows. -/
def Listed (frozen : List (Uuid × Nat)) (after : Option Nat) (limits : List Nat)
    (records : List CaseRecord) (left : Option CatalogCursor) : Prop :=
  ∃ rest, (KeysetPages.below Prod.snd after frozen).map Prod.fst =
      records.map (·.row.publicId) ++ rest ∧
    (left = none → rest = []) ∧ (left ≠ none → records.length = limits.sum)

/-- The first of the pages. -/
theorem followCatalog_cons {later : List (Store × Nat)} {cursor : Option CatalogCursor}
    {after : Option Nat} (hquery : filter.query = none) (hlimit : 1 ≤ limit ∧ limit ≤ 50)
    (continues : Continues s owner filter cutoff cursor after) {records : List CaseRecord}
    {left : Option CatalogCursor} :
    followCatalog owner filter ((s, limit) :: later) cursor = .ok (records, left) ↔
      ∃ cases, ((s.listAtCatalogCutoff owner filter limit cutoff after).1.mapM fun positioned =>
          s.caseResponse positioned.1) = .ok cases ∧
        match KeysetPages.next (·.2) (s.listAtCatalogCutoff owner filter limit cutoff after) with
        | none => records = cases ∧ left = none
        | some last => ∃ more, followCatalog owner filter later
            (some ⟨owner, filter, cutoff, last⟩) = .ok (more, left) ∧ records = cases ++ more := by
  rw [followCatalog]
  constructor
  · intro h
    obtain ⟨page, hpage, h⟩ := ExceptFold.bind_eq_ok.mp h
    obtain ⟨hcases, hnext⟩ := (listCases_eq_ok hquery hlimit continues).mp hpage
    refine ⟨page.cases, hcases, ?_⟩
    rw [hnext] at h
    cases hlast : KeysetPages.next (·.2)
        (s.listAtCatalogCutoff owner filter limit cutoff after) with
    | none =>
        rw [hlast] at h
        cases h
        exact ⟨rfl, rfl⟩
    | some last =>
        rw [hlast] at h
        obtain ⟨⟨more, left'⟩, hmore, h⟩ := ExceptFold.bind_eq_ok.mp h
        cases h
        exact ⟨more, hmore, rfl⟩
  · rintro ⟨cases, hcases, h⟩
    have hpage : s.listCases owner filter limit cursor = .ok ⟨cases, (KeysetPages.next
        (·.2) (s.listAtCatalogCutoff owner filter limit cutoff after)).map fun last =>
          ⟨owner, filter, cutoff, last⟩⟩ :=
      (listCases_eq_ok hquery hlimit continues).mpr ⟨hcases, rfl⟩
    rw [hpage, ExceptFold.ok_bind]
    cases hlast : KeysetPages.next (·.2)
        (s.listAtCatalogCutoff owner filter limit cutoff after) with
    | none =>
        rw [hlast] at h
        obtain ⟨rfl, rfl⟩ := h
        rfl
    | some last =>
        rw [hlast] at h
        obtain ⟨more, hmore, rfl⟩ := h
        dsimp only [Option.map_some]
        rw [hmore]
        rfl

/-- A page of the frozen listing, and what is left below it. -/
theorem listAtCatalogCutoff_frozen {frozen : List (Uuid × Nat)} {after : Option Nat}
    (hlimit : 1 ≤ limit) (hfrozen : s.frozenEntries owner filter cutoff = frozen) :
    match KeysetPages.next (·.2) (s.listAtCatalogCutoff owner filter limit cutoff after) with
    | none => (s.listAtCatalogCutoff owner filter limit cutoff after).1.map catalogEntry =
        KeysetPages.below Prod.snd after frozen
    | some last => (s.listAtCatalogCutoff owner filter limit cutoff after).1.length = limit ∧
        KeysetPages.below Prod.snd after frozen =
          (s.listAtCatalogCutoff owner filter limit cutoff after).1.map catalogEntry ++
            KeysetPages.below Prod.snd (some last) frozen := by
  have descending : frozen.Pairwise fun a b => b.2 < a.2 := by
    rw [← hfrozen]
    exact List.pairwise_map.mpr (frozenCatalog_descending s owner filter cutoff)
  have position : ∀ r : (Nat × CaseRow) × Nat, Prod.snd (catalogEntry r) = r.2 := fun _ => rfl
  obtain ⟨first, next⟩ := KeysetPages.page_map position limit after
    (s.frozenCatalog owner filter cutoff)
  change (KeysetPages.page Prod.snd limit after (s.frozenEntries owner filter cutoff)).1 = _ at first
  change KeysetPages.next Prod.snd
    (KeysetPages.page Prod.snd limit after (s.frozenEntries owner filter cutoff)) = _ at next
  rw [hfrozen] at first next
  unfold Store.listAtCatalogCutoff
  rw [← next, ← first]
  cases hmore : (KeysetPages.page Prod.snd limit after frozen).2 with
  | false =>
      obtain ⟨hnext, hall⟩ := KeysetPages.page_of_last hmore
      rw [hnext]
      exact hall
  | true =>
      obtain ⟨last, hnext, hfull, hrest⟩ := KeysetPages.page_of_more hlimit descending hmore
      rw [hnext]
      refine ⟨?_, hrest⟩
      rw [first, List.length_map] at hfull
      exact hfull

/-- Pages that can be rendered list what is left of the frozen listing. -/
theorem listed_cons {frozen : List (Uuid × Nat)} {later : List (Store × Nat)}
    {cursor : Option CatalogCursor} {after : Option Nat} (hquery : filter.query = none)
    (hlimit : 1 ≤ limit ∧ limit ≤ 50) (continues : Continues s owner filter cutoff cursor after)
    (hfrozen : s.frozenEntries owner filter cutoff = frozen)
    (ih : ∀ last, pagesRender owner filter cutoff later (some last) = true →
      ∃ records left, followCatalog owner filter later (some ⟨owner, filter, cutoff, last⟩) =
        .ok (records, left) ∧ Listed frozen (some last) (later.map (·.2)) records left)
    (renders : pagesRender owner filter cutoff ((s, limit) :: later) after = true) :
    ∃ records left, followCatalog owner filter ((s, limit) :: later) cursor =
      .ok (records, left) ∧ Listed frozen after (limit :: later.map (·.2)) records left := by
  rw [pagesRender, Bool.and_eq_true, List.all_eq_true] at renders
  obtain ⟨hpage, hlater⟩ := renders
  obtain ⟨cases, hcases⟩ := ExceptFold.exists_mapM.mpr fun positioned hpositioned =>
    caseResponse_isOk.mpr (hpage positioned hpositioned)
  have publicIds := publicIds_of_mapM hcases
  have part := @listAtCatalogCutoff_frozen s owner filter cutoff limit frozen after hlimit.1
    hfrozen
  cases hlast : KeysetPages.next (·.2)
      (s.listAtCatalogCutoff owner filter limit cutoff after) with
  | none =>
      rw [hlast] at part
      refine ⟨cases, none, (followCatalog_cons hquery hlimit continues).mpr ⟨cases, hcases, ?_⟩,
        [], ?_, fun _ => rfl, fun h => absurd rfl h⟩
      · rw [hlast]
        exact ⟨rfl, rfl⟩
      · rw [← part, publicIds, List.append_nil, List.map_map]
        rfl
  | some last =>
      rw [hlast] at part hlater
      obtain ⟨more, left, hmore, rest, hrest, hnone, hsome⟩ := ih last hlater
      refine ⟨cases ++ more, left,
        (followCatalog_cons hquery hlimit continues).mpr ⟨cases, hcases, ?_⟩, rest, ?_, hnone,
        fun hleft => ?_⟩
      · rw [hlast]
        exact ⟨more, hmore, rfl⟩
      · rw [part.2, List.map_append, hrest, List.map_append, publicIds, List.map_map,
          List.append_assoc]
        rfl
      · have sizes := congrArg List.length publicIds
        rw [List.length_map, List.length_map, part.1] at sizes
        rw [List.length_append, List.sum_cons, sizes, hsome hleft]

theorem listed_of_renders {frozen : List (Uuid × Nat)} (hquery : filter.query = none) :
    ∀ {requests : List (Store × Nat)},
      (∀ request ∈ requests, (1 ≤ request.2 ∧ request.2 ≤ 50) ∧
        request.1.frozenEntries owner filter cutoff = frozen) →
      ∀ last, pagesRender owner filter cutoff requests (some last) = true →
        ∃ records left, followCatalog owner filter requests (some ⟨owner, filter, cutoff, last⟩) =
          .ok (records, left) ∧ Listed frozen (some last) (requests.map (·.2)) records left := by
  intro requests
  induction requests with
  | nil =>
      intro _ last _
      exact ⟨[], _, rfl, _, rfl, fun h => (nomatch h), fun _ => rfl⟩
  | cons request later ih =>
      intro h last renders
      obtain ⟨hlimit, hfrozen⟩ := h request List.mem_cons_self
      exact listed_cons hquery hlimit (.next last) hfrozen
        (ih fun r hr => h r (List.mem_cons_of_mem _ hr)) renders

/-- Pages that are returned have only cases that can be rendered. -/
theorem renders_of_followed (hquery : filter.query = none) :
    ∀ {requests : List (Store × Nat)},
      (∀ request ∈ requests, 1 ≤ request.2 ∧ request.2 ≤ 50) →
      ∀ {cursor : Option CatalogCursor} {after : Option Nat},
        (∀ request, requests.head? = some request →
          Continues request.1 owner filter cutoff cursor after) →
        ∀ {records : List CaseRecord} {left : Option CatalogCursor},
          followCatalog owner filter requests cursor = .ok (records, left) →
          pagesRender owner filter cutoff requests after = true := by
  intro requests
  induction requests with
  | nil => exact fun _ _ _ _ _ _ _ => rfl
  | cons request later ih =>
      intro hlimits cursor after continues records left h
      obtain ⟨cases, hcases, h⟩ := (followCatalog_cons hquery
        (hlimits request List.mem_cons_self) (continues request rfl)).mp h
      rw [pagesRender, Bool.and_eq_true, List.all_eq_true]
      constructor
      · intro positioned hpositioned
        exact caseResponse_isOk.mp (ExceptFold.exists_mapM.mp ⟨cases, hcases⟩ positioned
          hpositioned)
      · split
        · rfl
        case h_2 last hlast =>
          rw [hlast] at h
          obtain ⟨more, hmore, -⟩ := h
          exact ih (fun r hr => hlimits r (List.mem_cons_of_mem _ hr)) (fun _ _ => .next last) hmore

end Pages

/-! ## What is listed -/

/-- Every case has a catalog event. -/
def CasesListed (s : Store) : Prop :=
  ∀ id c, s.cases.get? id = some c → ∃ newest, s.newestEvent? id = some newest

theorem CasesListed.commit {w : Write} {s : Store} (h : CasesListed s) :
    CasesListed (w.commit s).2 := by
  have inserted : ∀ (s' : Store) caseId now visible id,
      s'.catalogEvents = s.catalogEvents.insert ⟨caseId, now, visible⟩ →
      (id = caseId ∨ ∃ c, s.cases.get? id = some c) →
      ∃ newest, s'.newestEvent? id = some newest := by
    intro s' caseId now visible id hcatalog hid
    unfold Store.newestEvent?
    rw [hcatalog, Table.latest?_insert]
    split
    · exact ⟨_, rfl⟩
    case isFalse hother =>
      rcases hid with rfl | ⟨c, hc⟩
      · exact absurd (decide_eq_true rfl) hother
      · exact h id c hc
  intro id c' hc'
  rcases cases_after hc' with ⟨c, hc, -⟩ | ⟨hid, -⟩
  · cases hcase : w.commit_caseStep s with
    | same hcases hcatalog =>
        unfold Store.newestEvent?
        rw [hcatalog]
        exact h id c hc
    | created row hw hfree hcases hcatalog =>
        exact inserted _ _ _ _ id hcatalog (.inr ⟨c, hc⟩)
    | touched caseId visible now f c₀ hc₀ hfixed hcases hcatalog why =>
        exact inserted _ _ _ _ id hcatalog (.inr ⟨c, hc⟩)
    | deleted target now hw hidle hs =>
        rw [hs] at hc' ⊢
        have other : id ≠ target.caseId := fun heq =>
          (get?_deleteOf.mp hc').2 (decide_eq_true heq)
        obtain ⟨newest, hnewest⟩ := h id c hc
        refine ⟨newest, ?_⟩
        unfold Store.newestEvent? Store.deleted
        rw [@Table.latest?_delete _ s.catalogEvents (fun _ event => event.caseId = id)
          (fun _ event => event.caseId = target.caseId) fun _ event _ hcase =>
            decide_eq_false (of_decide_eq_true hcase ▸ other)]
        exact hnewest
  · cases hcase : w.commit_caseStep s with
    | created row hw hfree hcases hcatalog => exact inserted _ _ _ _ id hcatalog (.inl hid)
    | same hcases hcatalog =>
        rw [hcases, hid, Table.get?_nextId] at hc'
        cases hc'
    | touched caseId visible now f c₀ hc₀ hfixed hcases hcatalog why =>
        rw [hcases, hid, Table.get?_update, Table.get?_nextId] at hc'
        cases hc'
    | deleted target now hw hidle hs =>
        rw [hs, hid] at hc'
        have found := (get?_deleteOf.mp hc').1
        rw [Table.get?_nextId] at found
        cases found

section Members

variable {s : Store} {owner : Text} {filter : CatalogFilter} {cutoff : Nat}

/-- The cutoff of the owner leaves out no event of the owner's cases. -/
theorem frozenEvent?_cutoff (hcutoff : s.catalogCutoff owner = some cutoff) {id : Nat}
    {c : CaseRow} (hc : s.cases.get? id = some c) (howner : c.ownerScopeId = owner) :
    s.frozenEvent? cutoff id = s.newestEvent? id := by
  obtain ⟨newest, hnewest, rfl⟩ := Option.map_eq_some_iff.mp hcutoff
  have upper := (s.catalogEvents.latest?_eq_some hnewest).2
  unfold Store.frozenEvent? Store.newestEvent? Table.latest?
  refine congrArg _ (Table.select_congr fun position event => ?_)
  rw [Bool.and_eq_true, decide_eq_true_eq, decide_eq_true_eq]
  refine and_congr_right fun hevent => ⟨And.right, fun hcase => ⟨?_, hcase⟩⟩
  refine upper position event hevent ?_
  rw [hcase, hc]
  exact decide_eq_true howner

/-- The frozen listing has the cases that match the filter, each at the
position of its newest event. -/
theorem mem_frozenEntries (hcutoff : s.catalogCutoff owner = some cutoff) {publicId : Uuid}
    {position : Nat} : (publicId, position) ∈ s.frozenEntries owner filter cutoff ↔
      ∃ id c event, s.cases.get? id = some c ∧ filter.selects owner c = true ∧
        s.newestEvent? id = some (position, event) ∧ (event.visible = !filter.archived) ∧
        c.publicId = publicId := by
  have owned : ∀ c : CaseRow, filter.selects owner c = true → c.ownerScopeId = owner := by
    intro c hc
    unfold CatalogFilter.selects at hc
    simp only [Bool.and_eq_true, decide_eq_true_eq] at hc
    exact hc.1.1.1
  unfold Store.frozenEntries Store.frozenCatalog
  simp only [List.mem_map, List.mem_filterMap, List.mem_reverse, Table.mem_select, Prod.exists]
  constructor
  · rintro ⟨id, c, position', ⟨position'', event, ⟨hevent, hp⟩, hfound⟩, hentry⟩
    obtain ⟨c', hc', heq⟩ := Option.map_eq_some_iff.mp hfound
    cases heq
    cases hentry
    obtain ⟨hc, hselects⟩ := Option.filter_eq_some_iff.mp hc'
    rw [Bool.and_eq_true, decide_eq_true_eq, frozenEvent?_cutoff hcutoff hc (owned c hselects)]
      at hp
    obtain ⟨newest, hnewest, hid⟩ := (Option.any_eq_true _ _).mp hp.2
    obtain ⟨⟨hget, -⟩, -⟩ := s.catalogEvents.latest?_eq_some hnewest
    obtain ⟨newestId, newestEvent⟩ := newest
    obtain rfl := of_decide_eq_true hid
    rw [hevent] at hget
    cases hget
    exact ⟨_, c, _, hc, hselects, hnewest, hp.1, rfl⟩
  · rintro ⟨id, c, event, hc, hselects, hnewest, hvisible, rfl⟩
    obtain ⟨⟨hget, hcase⟩, -⟩ := s.catalogEvents.latest?_eq_some hnewest
    have hid : event.caseId = id := of_decide_eq_true hcase
    refine ⟨id, c, position, ⟨position, event, ⟨hget, ?_⟩, ?_⟩, rfl⟩
    · rw [Bool.and_eq_true, decide_eq_true_eq, hid,
        frozenEvent?_cutoff hcutoff hc (owned c hselects), hnewest]
      exact ⟨hvisible, decide_eq_true rfl⟩
    · rw [hid, hc, Option.filter_some, if_pos hselects]
      rfl

theorem frozenEntries_descending (s : Store) (owner : Text) (filter : CatalogFilter)
    (cutoff : Nat) : (s.frozenEntries owner filter cutoff).Pairwise fun a b => b.2 < a.2 :=
  List.pairwise_map.mpr (frozenCatalog_descending s owner filter cutoff)

/-- No case is listed twice. -/
theorem frozenEntries_nodup (ids : PublicIds s) (hcutoff : s.catalogCutoff owner = some cutoff) :
    ((s.frozenEntries owner filter cutoff).map (·.1)).Nodup := by
  refine List.pairwise_map.mpr
    ((frozenEntries_descending s owner filter cutoff).imp_of_mem fun {a b} ha hb hlt heq => ?_)
  obtain ⟨ida, ca, ea, hca, -, hna, -, hpa⟩ := (mem_frozenEntries hcutoff).mp ha
  obtain ⟨idb, cb, eb, hcb, -, hnb, -, hpb⟩ := (mem_frozenEntries hcutoff).mp hb
  obtain rfl := ids.cases ida idb ca cb hca hcb (hpa.trans (heq.trans hpb.symm))
  rw [hna] at hnb
  have same : a.2 = b.2 := congrArg Prod.fst (Option.some.inj hnb)
  exact Nat.ne_of_lt hlt same.symm

end Members

/-! ## Whole listings -/

/-- Following the cursor from a first page on, with any limits and whatever
is committed between the pages while no case is deleted: exactly where
every page can be rendered, the pages together list the cases that match
the filter when the first is read, each once, by descending position. -/
theorem catalog_pages_complete {sha : Sha256} {world : World (caseSystem sha)}
    (reached : Reaches start world) {owner : Text} {filter : CatalogFilter}
    (hquery : filter.query = none) {limit : Nat} (hlimit : 1 ≤ limit ∧ limit ≤ 50)
    {later : List (World (caseSystem sha) × Nat)}
    (between : (world :: later.map (·.1)).IsChain Between)
    (hlimits : ∀ request ∈ later, 1 ≤ request.2 ∧ request.2 ≤ 50) :
    (world.state.catalogCutoff owner = none →
      (∀ id c, world.state.cases.get? id = some c → c.ownerScopeId ≠ owner) ∧
        followCatalog owner filter ((world.state, limit) :: later.map fun r => (r.1.state, r.2))
          none = .ok ([], none)) ∧
      ∀ cutoff, world.state.catalogCutoff owner = some cutoff →
        (∀ publicId position,
          (publicId, position) ∈ world.state.frozenEntries owner filter cutoff ↔
            ∃ id c event, world.state.cases.get? id = some c ∧ filter.selects owner c = true ∧
              world.state.newestEvent? id = some (position, event) ∧
              (event.visible = !filter.archived) ∧ c.publicId = publicId) ∧
        (world.state.frozenEntries owner filter cutoff).Pairwise (fun a b => b.2 < a.2) ∧
        ((world.state.frozenEntries owner filter cutoff).map (·.1)).Nodup ∧
        (pagesRender owner filter cutoff
            ((world.state, limit) :: later.map fun r => (r.1.state, r.2)) none = true ↔
          ∃ records left, followCatalog owner filter
              ((world.state, limit) :: later.map fun r => (r.1.state, r.2)) none =
                .ok (records, left) ∧
            Listed (world.state.frozenEntries owner filter cutoff) none
              (limit :: later.map (·.2)) records left) := by
  have inserts := wellFormed_run reached
  have ids : PublicIds world.state := inserts.inv PublicIds (fun _ _ _ _ h => h.commit)
    ⟨fun _ _ _ _ h => (nomatch h), fun _ _ _ _ h => nomatch h⟩
  have owned : EventsOwned world.state :=
    inserts.inv EventsOwned (fun _ _ _ _ h => h.commit) fun _ _ h => nomatch h
  have listed : CasesListed world.state :=
    inserts.inv CasesListed (fun _ _ _ _ h => h.commit) fun _ _ h => nomatch h
  constructor
  · intro hnone
    have none_of : ∀ id c, world.state.cases.get? id = some c → c.ownerScopeId ≠ owner := by
      intro id c hc howner
      obtain ⟨newest, hnewest⟩ := listed id c hc
      obtain ⟨⟨hget, hcase⟩, -⟩ := world.state.catalogEvents.latest?_eq_some hnewest
      have absent := world.state.catalogEvents.latest?_eq_none.mp (Option.map_eq_none_iff.mp hnone)
        newest.1 newest.2 hget
      rw [of_decide_eq_true hcase, hc, Option.any_some, howner, decide_eq_true rfl] at absent
      cases absent
    refine ⟨none_of, ?_⟩
    have bounds : ¬(limit < 1 ∨ 50 < limit) := by omega
    have page : world.state.listCases owner filter limit none = .ok ⟨[], none⟩ := by
      unfold Store.listCases
      rw [if_neg bounds, hquery]
      simp only [catalogQuery, ExceptFold.ok_bind, hnone]
      rfl
    simp only [followCatalog, page]
    rfl
  · intro cutoff hcutoff
    refine ⟨fun _ _ => mem_frozenEntries hcutoff, frozenEntries_descending _ _ _ _,
      frozenEntries_nodup ids hcutoff, fun renders => ?_, ?_⟩
    · have bound : cutoff < world.state.catalogEvents.nextId := by
        obtain ⟨newest, hnewest, rfl⟩ := Option.map_eq_some_iff.mp hcutoff
        exact world.state.catalogEvents.lt_nextId
          (world.state.catalogEvents.latest?_eq_some hnewest).1.1
      have grown : ∀ request ∈ later, Grown world.state request.1.state := by
        intro request hrequest
        have : Trans (@Between sha) Between Between := ⟨fun h h' => h.trans h'⟩
        exact (between.rel_cons (List.mem_map_of_mem hrequest)).grown
      have rest := listed_cons hquery hlimit (.first hcutoff) rfl
        (listed_of_renders hquery fun request hrequest => ?_) renders
      · rw [List.map_map] at rest
        exact rest
      · obtain ⟨r, hr, rfl⟩ := List.mem_map.mp hrequest
        exact ⟨hlimits r hr, (grown r hr).frozenEntries owned hquery bound⟩
    · rintro ⟨records, left, hfollowed, -⟩
      refine renders_of_followed hquery (fun request hrequest => ?_)
        (fun request hhead => ?_) hfollowed
      · rcases List.mem_cons.mp hrequest with rfl | hmem
        · exact hlimit
        · obtain ⟨r, hr, rfl⟩ := List.mem_map.mp hmem
          exact hlimits r hr
      · cases hhead
        exact .first hcutoff

/-- The catalog of the sample owner's available cases. -/
def sampleFilter : CatalogFilter := ⟨false, none, none, none⟩

/-- A sync whose window lies in one second is queued for the sample case. -/
def sampleHalfSecond : World (caseSystem sampleSha) :=
  sampleWorld (sampleCase ++
    sampleSession 1 (.enqueueSync sampleOwner (sampleUuid '0') halfSecondRequest "sync".toList)
      1767355200 (sampleUuid '1') 30)

/-- The case matches the filter, and the first page is refused. -/
theorem catalog_page_refused :
    Reaches start sampleHalfSecond ∧
      sampleHalfSecond.state.catalogCutoff sampleOwner = some 2 ∧
      sampleHalfSecond.state.frozenEntries sampleOwner sampleFilter 2 = [(sampleUuid '0', 2)] ∧
      ∀ page, sampleHalfSecond.state.listCases sampleOwner sampleFilter 10 none ≠ .ok page := by
  have refused : (sampleHalfSecond.state.listCases sampleOwner sampleFilter 10 none).isOk =
      false := by decide +kernel
  refine ⟨sampleWorld_reached _, by decide +kernel, by decide +kernel, fun page h => ?_⟩
  rw [h] at refused
  cases refused

/-- Two cases, on two networks. -/
def sampleTwoCases : World (caseSystem sampleSha) :=
  sampleWorld (sampleCase ++
    sampleSession 1 (.createOrOpenCase ⟨sampleOwner, .testnet, .live, "0:0a".toList, none, none⟩)
      2001 (sampleUuid '1') 20)

/-- The first of them is archived. -/
def sampleArchival : List (Move (caseSystem sampleSha)) :=
  sampleSession 2 (.archiveCase sampleOwner (sampleUuid '0')) 2002 (sampleUuid '2') 20

/-- Archived between the two pages, it is listed on the second. -/
theorem catalog_pages_complete_sample :
    ∃ records left, followCatalog sampleOwner sampleFilter
        [(sampleTwoCases.state, 1), ((sampleArchival.foldl World.step sampleTwoCases).state, 1)]
        none = .ok (records, left) ∧
      Listed [(sampleUuid '1', 2), (sampleUuid '0', 1)] none [1, 1] records left := by
  have between : (sampleTwoCases ::
      [(sampleArchival.foldl World.step sampleTwoCases, 1)].map (·.1)).IsChain Between := by
    have rest : Between sampleTwoCases (sampleArchival.foldl World.step sampleTwoCases) := by
      refine Session.run_foldl (fun _ (w : Write) _ => w.keepsCases) (fun _ _ _ h => ?_)
        sampleArchival sampleTwoCases (by decide +kernel)
      exact h
    simp only [List.map_cons, List.map_nil]
    exact .cons_cons rest (.singleton _)
  have reached : Reaches start sampleTwoCases := sampleWorld_reached _
  have frozen : sampleTwoCases.state.frozenEntries sampleOwner sampleFilter 2 =
      [(sampleUuid '1', 2), (sampleUuid '0', 1)] := by decide +kernel
  have limits : ∀ request ∈ [(sampleArchival.foldl World.step sampleTwoCases, 1)],
      1 ≤ request.2 ∧ request.2 ≤ 50 := by
    intro request hrequest
    rw [List.mem_singleton.mp hrequest]
    exact ⟨Nat.le_refl 1, by decide⟩
  have pages := (@catalog_pages_complete sampleSha _ reached sampleOwner sampleFilter rfl 1
    (by decide) _ between limits).2 2 (by decide +kernel)
  rw [frozen] at pages
  simp only [List.map_cons, List.map_nil] at pages
  exact pages.2.2.2.mp (by decide +kernel)

end TonTracker
