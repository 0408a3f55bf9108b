/-
# `Reports.RevisionCatalog` — paging through the revisions of a case

In a run that does not delete the case, the rows up to the cutoff of the
first page are the same at every later page (`revisionsUpTo_kept`), so the
pages after it list what was there, each revision once.  The sample run
captures a revision and archives its case.
-/
import TonTracker.Reports.Revisions

namespace TonTracker

open Relational (Table)
open ExceptFold (bind_eq_ok check_eq_ok)
open Session (World Run Move Reaches)

variable {lib : ReportLibrary}

/-! ## Pages -/

/-- The summaries of the rows. -/
def listedRows (rows : List (Nat × RevisionRow lib)) : List RevisionSummary :=
  rows.filterMap fun row => (rowView row.2).map (·.1)

/-- What a catalog up to `cutoff` has of the rows `all`, wherever it is
read. -/
structure Serves (owner : Text) (caseId : Nat) (casePublicId : Uuid)
    (cutoff : Nat × RevisionRow lib) (all : List (Nat × RevisionRow lib))
    (s : ReportStore lib) : Prop where
  found : ∃ c : CaseRow, c.publicId = casePublicId ∧
    s.requiredCase owner casePublicId = .ok (caseId, c) ∧ ∀ row ∈ all, ∃ view,
      rowView row.2 = some view ∧ s.stored (caseId, c) row.2 = .ok view
  top : s.revision? caseId cutoff.2.publicId = some cutoff
  rows : s.revisionsUpTo caseId cutoff.1 = all
  after : ∀ row ∈ all, (s.revisions.find? fun id other => other.caseId = caseId &&
    other.publicId = row.2.publicId && id ≤ cutoff.1) = some row

/-- What the pages list of the rows below the key, and what is left for the
pages after them. -/
def PagesOf (all : List (Nat × RevisionRow lib)) (after : Option Nat) (limits : List Nat)
    (items : List RevisionSummary) (left : Option RevisionCursor) : Prop :=
  ∃ rest, listedRows (KeysetPages.below (·.1) after all) = items ++ rest ∧
    (left = none → rest = []) ∧ (left ≠ none → items.length = limits.sum)

section Pages

variable {s : ReportStore lib} {owner : Text} {caseId : Nat} {casePublicId : Uuid}
  {cutoff : Nat × RevisionRow lib} {all : List (Nat × RevisionRow lib)}

theorem listedRows_append (a b : List (Nat × RevisionRow lib)) :
    listedRows (a ++ b) = listedRows a ++ listedRows b := List.filterMap_append

theorem mapM_listedRows {found : Nat × CaseRow} {rows : List (Nat × RevisionRow lib)}
    (h : ∀ row ∈ rows, ∃ view, rowView row.2 = some view ∧ s.stored found row.2 = .ok view) :
    (rows.mapM fun row => Prod.fst <$> s.stored found row.2) = .ok (listedRows rows) ∧
      (listedRows rows).length = rows.length := by
  induction rows with
  | nil => exact ⟨rfl, rfl⟩
  | cons row rows ih =>
      obtain ⟨view, hview, hstored⟩ := h row List.mem_cons_self
      obtain ⟨hrest, hlength⟩ := ih fun row hrow => h row (List.mem_cons_of_mem _ hrow)
      have hcons : listedRows (row :: rows) = view.1 :: listedRows rows := by
        unfold listedRows
        rw [List.filterMap_cons, hview]
        rfl
      rw [hcons]
      refine ⟨?_, congrArg (· + 1) hlength⟩
      rw [List.mapM_cons, hstored, hrest]
      rfl

/-- The cursor stands above the key. -/
inductive StandsAt (casePublicId : Uuid) (cutoff : Nat × RevisionRow lib)
    (all : List (Nat × RevisionRow lib)) : Option RevisionCursor → Option Nat → Prop where
  | first : StandsAt casePublicId cutoff all none none
  | next (last : Nat × RevisionRow lib) (hlast : last ∈ all) :
      StandsAt casePublicId cutoff all
        (some ⟨casePublicId, cutoff.2.publicId, last.2.publicId⟩) (some last.1)

/-- A page below the cutoff. -/
theorem pageUpTo_eq (serves : Serves owner caseId casePublicId cutoff all s) {c : CaseRow}
    (hc : c.publicId = casePublicId)
    (hstored : ∀ row ∈ all, ∃ view, rowView row.2 = some view ∧
      s.stored (caseId, c) row.2 = .ok view) (limit : Nat) {cursor : Option RevisionCursor}
    {after : Option Nat} (stands : StandsAt casePublicId cutoff all cursor after) :
    s.pageUpTo (caseId, c) limit cursor cutoff = .ok ⟨some cutoff.2.publicId,
      listedRows (KeysetPages.page (·.1) limit after all).1, all.length,
      if (KeysetPages.page (·.1) limit after all).2 then
        (KeysetPages.page (·.1) limit after all).1.getLast?.map fun last =>
          ⟨casePublicId, cutoff.2.publicId, last.2.publicId⟩ else none⟩ := by
  have hafter : s.revisionAfter caseId cutoff.1 cursor = .ok after := by
    cases stands with
    | first => rfl
    | next last hlast =>
        unfold ReportStore.revisionAfter
        dsimp only
        rw [serves.after last hlast]
        rfl
  have hitems := (@mapM_listedRows _ s (caseId, c)
    (KeysetPages.page (·.1) limit after all).1 fun row hrow => hstored row ?_).1
  · unfold ReportStore.pageUpTo
    dsimp only
    rw [hafter, ExceptFold.ok_bind, serves.rows, hitems, ExceptFold.ok_bind, hc]
    rfl
  · unfold KeysetPages.page at hrow
    rw [KeysetPages.cut_fst] at hrow
    exact (List.mem_filter.mp (List.mem_of_mem_take hrow)).1

/-- A page of the catalog, once its cutoff is known. -/
theorem revisionCatalog_eq (serves : Serves owner caseId casePublicId cutoff all s) {limit : Nat}
    (hlimit : 1 ≤ limit ∧ limit ≤ 20) {cursor : Option RevisionCursor} {after : Option Nat}
    (stands : StandsAt casePublicId cutoff all cursor after)
    (hcutoff : cursor = none → (s.revisions.latest? fun _ row => row.caseId = caseId) =
      some cutoff) :
    s.revisionCatalog owner casePublicId limit cursor = .ok ⟨some cutoff.2.publicId,
      listedRows (KeysetPages.page (·.1) limit after all).1, all.length,
      if (KeysetPages.page (·.1) limit after all).2 then
        (KeysetPages.page (·.1) limit after all).1.getLast?.map fun last =>
          ⟨casePublicId, cutoff.2.publicId, last.2.publicId⟩ else none⟩ := by
  obtain ⟨c, hc, hfound, hstored⟩ := serves.found
  have hcursor : (cursor.all fun given => given.casePublicId = casePublicId) = true := by
    cases stands with
    | first => rfl
    | next last hlast => exact decide_eq_true rfl
  have hcut : s.revisionCutoff caseId cursor = .ok (some cutoff) := by
    unfold ReportStore.revisionCutoff
    cases stands with
    | first => exact congrArg Except.ok (hcutoff rfl)
    | next last hlast =>
        dsimp only
        rw [serves.top]
        rfl
  exact bind_eq_ok.mpr ⟨(), check_eq_ok.mpr hlimit, bind_eq_ok.mpr ⟨_, hfound,
    bind_eq_ok.mpr ⟨(), check_eq_ok.mpr hcursor, bind_eq_ok.mpr ⟨_, hcut,
      pageUpTo_eq serves hc hstored limit stands⟩⟩⟩⟩

/-- One page and those after it. -/
theorem follow_cons {later : List (ReportStore lib × Nat)}
    (descending : all.Pairwise fun a b => b.1 < a.1)
    (serves : Serves owner caseId casePublicId cutoff all s) {limit : Nat}
    (hlimit : 1 ≤ limit ∧ limit ≤ 20) {cursor : Option RevisionCursor} {after : Option Nat}
    (stands : StandsAt casePublicId cutoff all cursor after)
    (hcutoff : cursor = none → (s.revisions.latest? fun _ row => row.caseId = caseId) =
      some cutoff)
    (ih : ∀ last ∈ all, ∃ items left, followRevisions owner casePublicId later
        (some ⟨casePublicId, cutoff.2.publicId, last.2.publicId⟩) = .ok (items, left) ∧
      PagesOf all (some last.1) (later.map (·.2)) items left) :
    ∃ items left, followRevisions owner casePublicId ((s, limit) :: later) cursor =
        .ok (items, left) ∧ PagesOf all after (limit :: later.map (·.2)) items left := by
  have hpage := revisionCatalog_eq serves hlimit stands hcutoff
  obtain ⟨c, -, -, hstored⟩ := serves.found
  rw [followRevisions, hpage, ExceptFold.ok_bind]
  cases more : (KeysetPages.page (·.1) limit after all).2 with
  | false =>
      obtain ⟨-, hall⟩ := KeysetPages.page_of_last more
      refine ⟨_, none, rfl, [], ?_, fun _ => rfl, fun h => absurd rfl h⟩
      rw [hall, List.append_nil]
  | true =>
      obtain ⟨bound, hnext, hlength, hsplit⟩ :=
        KeysetPages.page_of_more hlimit.1 descending more
      unfold KeysetPages.next at hnext
      rw [if_pos more] at hnext
      obtain ⟨last, hlast, rfl⟩ := Option.map_eq_some_iff.mp hnext
      have hmem : ∀ row ∈ (KeysetPages.page (·.1) limit after all).1, row ∈ all := by
        intro row hrow
        have : row ∈ KeysetPages.below (·.1) after all := by
          rw [hsplit]
          exact List.mem_append_left _ hrow
        exact (List.mem_filter.mp this).1
      obtain ⟨items, left, hfollow, rest, hrest, hnone, hsome⟩ :=
        ih last (hmem last (List.mem_of_getLast? hlast))
      have hsize := (@mapM_listedRows _ s (caseId, c) _ fun row hrow => hstored row (hmem row hrow)).2
      refine ⟨listedRows (KeysetPages.page (·.1) limit after all).1 ++ items, left, ?_, rest, ?_,
        hnone, fun hleft => ?_⟩
      · rw [if_pos rfl, hlast, Option.map_some]
        dsimp only
        rw [hfollow]
        rfl
      · rw [hsplit, listedRows_append, hrest, List.append_assoc]
      · rw [List.length_append, List.sum_cons, hsize, hlength, hsome hleft]

theorem follow_next (descending : all.Pairwise fun a b => b.1 < a.1) :
    ∀ {requests : List (ReportStore lib × Nat)},
      (∀ request ∈ requests, Serves owner caseId casePublicId cutoff all request.1 ∧
        1 ≤ request.2 ∧ request.2 ≤ 20) →
      ∀ last ∈ all, ∃ items left, followRevisions owner casePublicId requests
          (some ⟨casePublicId, cutoff.2.publicId, last.2.publicId⟩) = .ok (items, left) ∧
        PagesOf all (some last.1) (requests.map (·.2)) items left := by
  intro requests
  induction requests with
  | nil =>
      intro _ last _
      exact ⟨[], _, rfl, _, rfl, fun h => (nomatch h), fun _ => rfl⟩
  | cons request later ih =>
      intro h last hlast
      obtain ⟨serves, hlimit⟩ := h request List.mem_cons_self
      exact follow_cons descending serves hlimit (.next last hlast) (fun h => nomatch h)
        (ih fun r hr => h r (List.mem_cons_of_mem _ hr))

theorem mem_revisionsUpTo {cut : Nat} {row : Nat × RevisionRow lib} :
    row ∈ s.revisionsUpTo caseId cut ↔
      s.revisions.get? row.1 = some row.2 ∧ row.2.caseId = caseId ∧ row.1 ≤ cut := by
  unfold ReportStore.revisionsUpTo
  rw [List.mem_reverse, Table.mem_select, Bool.and_eq_true, decide_eq_true_eq, decide_eq_true_eq]

theorem revisionsUpTo_descending (cut : Nat) :
    (s.revisionsUpTo caseId cut).Pairwise fun a b => b.1 < a.1 := by
  unfold ReportStore.revisionsUpTo
  exact List.pairwise_reverse.mpr (s.revisions.select_ascending _)

/-- Up to a revision that was there, a later store has the same ones. -/
theorem revisionsUpTo_kept {s' : ReportStore lib} (kept : RevisionsKept caseId s s')
    (hcut : s.revisions.get? cutoff.1 = some cutoff.2) (hcase : cutoff.2.caseId = caseId) :
    s'.revisionsUpTo caseId cutoff.1 = s.revisionsUpTo caseId cutoff.1 := by
  unfold ReportStore.revisionsUpTo
  refine congrArg List.reverse (Table.select_congr fun id row => and_congr_left fun hp => ?_)
  rw [Bool.and_eq_true, decide_eq_true_eq, decide_eq_true_eq] at hp
  constructor
  · intro hrow
    obtain hold | habove := kept.above id row hrow hp.1
    · exact hold
    · exact absurd (habove cutoff.1 cutoff.2 hcut hcase) (Nat.not_lt.mpr hp.2)
  · intro hrow
    exact kept.kept id row hrow hp.1

/-- A store of the run serves the pages of an earlier one. -/
theorem serves_of_readable {s' : ReportStore lib} (readable : Readable caseId s')
    (kept : RevisionsKept caseId s s') (hcut : s.revisions.get? cutoff.1 = some cutoff.2)
    (hcase : cutoff.2.caseId = caseId) {c : CaseRow} (hc : s'.base.cases.get? caseId = some c)
    (hactive : c.archivedAt = none) :
    Serves c.ownerScopeId caseId c.publicId cutoff (s.revisionsUpTo caseId cutoff.1) s' := by
  have there : ∀ row ∈ s.revisionsUpTo caseId cutoff.1,
      s'.revisions.get? row.1 = some row.2 ∧ row.2.caseId = caseId ∧ row.1 ≤ cutoff.1 := by
    intro row hrow
    obtain ⟨hget, hrowCase, hle⟩ := mem_revisionsUpTo.mp hrow
    exact ⟨kept.kept row.1 row.2 hget hrowCase, hrowCase, hle⟩
  have hcut' : s'.revisions.get? cutoff.1 = some cutoff.2 := kept.kept _ _ hcut hcase
  have htop := revision?_eq readable.unique hcut'
  rw [hcase] at htop
  refine ⟨⟨c, rfl, requiredCase_active readable.ids hc hactive, fun row hrow => ?_⟩, htop,
    revisionsUpTo_kept kept hcut hcase, fun row hrow => ?_⟩
  · obtain ⟨hget, hrowCase, -⟩ := there row hrow
    have hc' := hc
    rw [← hrowCase] at hc'
    obtain ⟨view, hview, hstored, -⟩ :=
      stored_of_coherent (readable.coherent row.1 row.2 hget hrowCase) hc'
    rw [hrowCase] at hstored
    exact ⟨view, hview, hstored⟩
  · obtain ⟨hget, hrowCase, hle⟩ := there row hrow
    refine (s'.revisions.find?_eq_some_iff fun a b ra rb ha hb hpa hpb => ?_).mpr ⟨hget, ?_⟩
    · simp only [Bool.and_eq_true, decide_eq_true_eq] at hpa hpb
      exact readable.unique a b ra rb ha hb (.inl (hpa.1.2.trans hpb.1.2.symm))
    · simp only [hrowCase, hle, decide_true, Bool.and_self]

end Pages

/-! ## The revisions of a case -/

/-- The revisions of a case, the newest first. -/
def ReportStore.revisionsOf (s : ReportStore lib) (caseId : Nat) :
    List (Nat × RevisionRow lib) :=
  (s.revisions.select fun _ row => row.caseId = caseId).reverse

/-- The revision is stored, and is read unless its case is archived. -/
def StaysReadable (caseId id : Nat) (row : RevisionRow lib)
    (view : RevisionSummary × ReportContent) (s : ReportStore lib) : Prop :=
  s.revisions.get? id = some row ∧ ∃ c, s.base.cases.get? caseId = some c ∧
    (c.archivedAt = none → s.detail c.ownerScopeId c.publicId row.publicId = .ok view) ∧
    (c.archivedAt ≠ none → s.detail c.ownerScopeId c.publicId row.publicId =
      .error (.notFound "Wallet Case not found."))

section Case

variable {sha : Sha256} {caseId : Nat} {world world' : World (reportSystem lib sha)}

theorem revisionsOf_eq {s : ReportStore lib} {cutoff : Nat × RevisionRow lib}
    (h : (s.revisions.latest? fun _ row => row.caseId = caseId) = some cutoff) :
    s.revisionsOf caseId = s.revisionsUpTo caseId cutoff.1 := by
  unfold ReportStore.revisionsOf ReportStore.revisionsUpTo
  refine congrArg List.reverse (Table.select_congr fun id row => and_congr_right fun hrow => ?_)
  rw [Bool.and_eq_true, decide_eq_true_eq, decide_eq_true_eq]
  refine ⟨fun hcase => ⟨hcase, ?_⟩, fun h => h.1⟩
  exact (s.revisions.latest?_eq_some h).2 id row hrow (decide_eq_true hcase)

/-- A case that is not deleted keeps its identity over a run. -/
theorem case_of_run (rest : Run (KeepsReportCase lib caseId) world world') {c : CaseRow}
    (hc : world.state.base.cases.get? caseId = some c) :
    ∃ c', world'.state.base.cases.get? caseId = some c' ∧ c'.fixed = c.fixed := by
  refine rest.inv (fun s : ReportStore lib =>
    ∃ c', s.base.cases.get? caseId = some c' ∧ c'.fixed = c.fixed) ?_ ⟨c, hc, rfl⟩
  rintro sid w s hallowed ⟨c', hc', hfixed⟩
  cases w with
  | base w =>
      obtain ⟨c'', hc'', hfixed'⟩ := cases_keeps
        (fun target now hw => hallowed target now (congrArg ReportWrite.base hw)) hc'
      exact ⟨c'', hc'', hfixed'.trans hfixed⟩
  | insertRevision row =>
      refine ⟨c', ?_, hfixed⟩
      change ((ReportWrite.insertRevision row).commit s).2.base.cases.get? caseId = some c'
      obtain heq | ⟨-, heq⟩ := commit_insertRevision s row <;> rw [heq] <;> exact hc'

theorem stays_readable (start : Run (KeepsReportCase lib caseId) reportStart world) {id : Nat}
    {row : RevisionRow lib} (hrow : world.state.revisions.get? id = some row)
    (hcase : row.caseId = caseId) : ∃ view, rowView row = some view ∧
      ∀ world', Run (KeepsReportCase lib caseId) world world' →
        StaysReadable caseId id row view world'.state := by
  have now := (readable_of_run start (.refl world)).1
  obtain ⟨c, -, report, -, -, hload, -⟩ := now.coherent id row hrow hcase
  have hview : ∃ view, rowView row = some view := by
    unfold rowView
    rw [hload]
    exact ⟨_, rfl⟩
  obtain ⟨view, hview⟩ := hview
  refine ⟨view, hview, fun world' rest => ?_⟩
  obtain ⟨readable, kept, -⟩ := readable_of_run start rest
  have hrow' := kept.kept id row hrow hcase
  obtain ⟨c', -, -, hc', -⟩ := readable.coherent id row hrow' hcase
  rw [hcase] at hc'
  obtain ⟨hread, harchived⟩ := detail_of_readable readable hrow' hcase hc'
  refine ⟨hrow', c', hc', fun hactive => ?_, harchived⟩
  obtain ⟨view', hview', hdetail⟩ := hread hactive
  cases hview.symm.trans hview'
  exact hdetail

/-- Two captures of one content return one revision. -/
theorem same_content_same_revision (start : Run (KeepsReportCase lib caseId) reportStart world)
    {sid sid' : Nat} {t t' : CaptureTarget} {r r' : CapturedRevision}
    (hdone : world.sessions[sid]? = some (.done (.captured t r)))
    (hdone' : world.sessions[sid']? = some (.done (.captured t' r')))
    (hcase : t.caseId = caseId) (hcase' : t'.caseId = caseId) (hsame : t.report = t'.report) :
    r.revision = r'.revision := by
  obtain ⟨readable, -, stored⟩ := readable_of_run start (.refl world)
  obtain ⟨a, ra, va, ha, -, hpa, hva, hra⟩ := stored sid t r hdone hcase
  obtain ⟨b, rb, vb, hb, -, hpb, hvb, hrb⟩ := stored sid' t' r' hdone' hcase'
  obtain rfl := readable.unique a b ra rb ha hb (.inl (hpa.trans (hsame ▸ hpb.symm)))
  cases ha.symm.trans hb
  cases hva.symm.trans hvb
  exact hra.trans hrb.symm

/-- The public ids of what is listed are those of the rows. -/
theorem listedRows_publicIds (rows : List (Nat × RevisionRow lib))
    (h : ∀ row ∈ rows, ∃ view, rowView row.2 = some view) :
    (listedRows rows).map (·.publicId) = rows.map (·.2.publicId) := by
  induction rows with
  | nil => rfl
  | cons row rows ih =>
      obtain ⟨view, hview⟩ := h row List.mem_cons_self
      have hpublic : view.1.publicId = row.2.publicId := by
        unfold rowView at hview
        obtain ⟨report, -, rfl⟩ := Option.map_eq_some_iff.mp hview
        rfl
      unfold listedRows at ih ⊢
      rw [List.filterMap_cons, hview]
      rw [Option.map_some, List.map_cons, List.map_cons, hpublic,
        ih fun r hr => h r (List.mem_cons_of_mem _ hr)]

/-- What there is to list: each revision of the case once. -/
theorem revisionsOf_listed (readable : Readable caseId world.state) :
    (listedRows (world.state.revisionsOf caseId)).map (·.publicId) =
        (world.state.revisionsOf caseId).map (·.2.publicId) ∧
      ((world.state.revisionsOf caseId).map (·.2.publicId)).Nodup := by
  have mem : ∀ row ∈ world.state.revisionsOf caseId,
      world.state.revisions.get? row.1 = some row.2 ∧ row.2.caseId = caseId := by
    intro row hrow
    unfold ReportStore.revisionsOf at hrow
    rw [List.mem_reverse, Table.mem_select, decide_eq_true_eq] at hrow
    exact hrow
  constructor
  · refine listedRows_publicIds _ fun row hrow => ?_
    obtain ⟨hget, hcase⟩ := mem row hrow
    obtain ⟨c, -, report, -, -, hload, -⟩ := readable.coherent row.1 row.2 hget hcase
    unfold rowView
    rw [hload]
    exact ⟨_, rfl⟩
  · have descending : (world.state.revisionsOf caseId).Pairwise fun a b => b.1 < a.1 := by
      unfold ReportStore.revisionsOf
      exact List.pairwise_reverse.mpr (world.state.revisions.select_ascending _)
    refine List.pairwise_map.mpr (descending.imp_of_mem fun {a b} ha hb hlt heq => ?_)
    have hsame := readable.unique a.1 b.1 a.2 b.2 (mem a ha).1 (mem b hb).1 (.inl heq)
    exact absurd hsame (Nat.ne_of_gt hlt)

/-- The pages from the first on, each read while the case is not archived. -/
theorem catalog_listed (start : Run (KeepsReportCase lib caseId) reportStart world) {c : CaseRow}
    (hc : world.state.base.cases.get? caseId = some c) (hactive : c.archivedAt = none) {limit : Nat}
    (hlimit : 1 ≤ limit ∧ limit ≤ 20) {later : List (World (reportSystem lib sha) × Nat)}
    (between : (world :: later.map (·.1)).IsChain (Run (KeepsReportCase lib caseId)))
    (hlater : ∀ request ∈ later, (1 ≤ request.2 ∧ request.2 ≤ 20) ∧
      ∃ c', request.1.state.base.cases.get? caseId = some c' ∧ c'.archivedAt = none) :
    ∃ items left, followRevisions c.ownerScopeId c.publicId
        ((world.state, limit) :: later.map fun r => (r.1.state, r.2)) none = .ok (items, left) ∧
      PagesOf (world.state.revisionsOf caseId) none (limit :: later.map (·.2)) items left := by
  obtain ⟨readable, -, -⟩ := readable_of_run start (.refl world)
  cases hcutoff : world.state.revisions.latest? fun _ row => row.caseId = caseId with
  | none =>
      have hnone : world.state.revisionsOf caseId = [] := by
        refine List.eq_nil_iff_forall_not_mem.mpr fun row hrow => ?_
        unfold ReportStore.revisionsOf at hrow
        rw [List.mem_reverse, Table.mem_select] at hrow
        have absent := world.state.revisions.latest?_eq_none.mp hcutoff row.1 row.2 hrow.1
        rw [hrow.2] at absent
        cases absent
      have hpage : world.state.revisionCatalog c.ownerScopeId c.publicId limit none =
          .ok ⟨none, [], 0, none⟩ :=
        bind_eq_ok.mpr ⟨(), check_eq_ok.mpr hlimit, bind_eq_ok.mpr ⟨_,
          requiredCase_active readable.ids hc hactive, bind_eq_ok.mpr ⟨(), check_eq_ok.mpr rfl,
            bind_eq_ok.mpr ⟨none, congrArg Except.ok hcutoff, rfl⟩⟩⟩⟩
      refine ⟨[], none, ?_, [], ?_, fun _ => rfl, fun h => absurd rfl h⟩
      · exact bind_eq_ok.mpr ⟨_, hpage, rfl⟩
      · rw [hnone]
        rfl
  | some cutoff =>
      obtain ⟨⟨hcut, hcase⟩, -⟩ := world.state.revisions.latest?_eq_some hcutoff
      have hcase := of_decide_eq_true hcase
      rw [revisionsOf_eq hcutoff]
      have descending := @revisionsUpTo_descending lib world.state caseId cutoff.1
      have served : ∀ request ∈ later.map fun r => (r.1.state, r.2),
          Serves c.ownerScopeId caseId c.publicId cutoff
            (ReportStore.revisionsUpTo world.state caseId cutoff.1) request.1 ∧
            1 ≤ request.2 ∧ request.2 ≤ 20 := by
        intro request hrequest
        obtain ⟨r, hr, rfl⟩ := List.mem_map.mp hrequest
        obtain ⟨hlimits, c', hc', hactive'⟩ := hlater r hr
        have : Trans (@Run _ (reportSystem lib sha) (KeepsReportCase lib caseId))
            (Run (KeepsReportCase lib caseId)) (Run (KeepsReportCase lib caseId)) :=
          ⟨fun h h' => h.trans h'⟩
        have run := between.rel_cons (List.mem_map_of_mem hr)
        obtain ⟨readable', kept, -⟩ := readable_of_run start run
        obtain ⟨c'', hc'', hfixed⟩ := case_of_run run hc
        cases hc'.symm.trans hc''
        simp only [CaseRow.fixed, Prod.mk.injEq] at hfixed
        have serves := serves_of_readable readable' kept hcut hcase hc' hactive'
        rw [hfixed.1, hfixed.2.1] at serves
        exact ⟨serves, hlimits⟩
      have rest := follow_cons descending
        (serves_of_readable readable (.refl caseId _) hcut hcase hc hactive) hlimit .first
        (fun _ => hcutoff) (follow_next descending served)
      rw [List.map_map] at rest
      exact rest

end Case

def sampleReportBody : ReportBody where
  assurance := .normalized
  snapshotRecord := []
  activityDigest := sampleDigest 'a'
  aggregate := fun _ => 0
  observedPeriod := none
  evidenceDigest := sampleDigest 'b'
  evidence := fun _ => 0
  historyTruncated := false
  coverage := ⟨.unknown, [], [], [], [], [], [], false⟩
  gaps := []
  eligible := false
  unmet := [.activityRequired]
  limitations := []
  unverifiedClaims := []

/-- A library whose texts are the reports themselves. -/
def sampleLibrary : ReportLibrary where
  contentHash := fun _ => sampleDigest 'f'
  Json := ReportContent
  jsonEq := inferInstance
  dump := id
  load := some
  load_dump := fun _ => rfl

def sampleReportAnswers (seconds : Nat) (publicId : Uuid) : (q : ReportQuery) → q.Answer
  | .base q => sampleAnswers seconds publicId q
  | .build _ _ _ => (.ok (some sampleReportBody) : Except RevisionRaised (Option ReportBody))
  | .now => sampleInstant seconds

def sampleReportSession (sid : Nat) (entry : ReportEntry) (seconds : Nat) (publicId : Uuid)
    (steps : Nat) : List (Move (reportSystem sampleLibrary sampleSha)) :=
  .launch entry :: List.replicate steps (.run sid (sampleReportAnswers seconds publicId))

/-- A case with a published sync, of which a revision is captured. -/
def sampleCaptured : List (Move (reportSystem sampleLibrary sampleSha)) :=
  sampleReportSession 0 (.base (.createOrOpenCase
      ⟨sampleOwner, .mainnet, .live, "0:0a".toList, none, none⟩)) 2000 (sampleUuid '0') 20 ++
    sampleReportSession 1 (.base (.enqueueSync sampleOwner (sampleUuid '0') sampleSyncRequest
      "sync".toList)) 2001 (sampleUuid '1') 30 ++
    sampleReportSession 2 (.base .runSyncWorker) 2002 (sampleUuid '2') 60 ++
    sampleReportSession 3 (.capture sampleOwner (sampleUuid '0') (sampleUuid '1')) 2003
      (sampleUuid '3') 10

/-- Then the case is archived. -/
def sampleReportArchival : List (Move (reportSystem sampleLibrary sampleSha)) :=
  sampleReportSession 4 (.base (.archiveCase sampleOwner (sampleUuid '0'))) 2004 (sampleUuid '4') 20

def sampleReportWorld (moves : List (Move (reportSystem sampleLibrary sampleSha))) :
    World (reportSystem sampleLibrary sampleSha) :=
  moves.foldl World.step reportStart

/-- A write that deletes no case. -/
def ReportWrite.keepsCases : ReportWrite lib → Bool
  | base w => w.keepsCases
  | insertRevision _ => true

theorem keepsReportCase_of_keepsCases {w : ReportWrite lib} (h : w.keepsCases = true)
    (caseId sid : Nat) (s : ReportStore lib) : KeepsReportCase lib caseId sid w s := by
  rintro target now rfl
  exact absurd h Bool.false_ne_true

/-- A list of moves that deletes no case is a run that keeps it. -/
theorem sampleReport_run (caseId : Nat) {moves : List (Move (reportSystem sampleLibrary sampleSha))}
    {world : World (reportSystem sampleLibrary sampleSha)}
    (h : world.commitsAll (fun _ (w : ReportWrite sampleLibrary) _ => w.keepsCases) moves = true) :
    Run (KeepsReportCase sampleLibrary caseId) world (moves.foldl World.step world) :=
  Session.run_foldl _ (fun sid _ s hw => keepsReportCase_of_keepsCases hw caseId sid s) moves _ h

theorem sampleCaptured_run :
    Run (KeepsReportCase sampleLibrary 1) reportStart (sampleReportWorld sampleCaptured) :=
  sampleReport_run 1 (by decide +kernel)

theorem sampleArchival_run : Run (KeepsReportCase sampleLibrary 1) (sampleReportWorld sampleCaptured)
    (sampleReportArchival.foldl World.step (sampleReportWorld sampleCaptured)) :=
  sampleReport_run 1 (by decide +kernel)

/-- The revision of the sample case, and its case before and after. -/
theorem sampleCaptured_state :
    ((sampleReportWorld sampleCaptured).state.revisions.get? 1).map (·.caseId) = some 1 ∧
      ((sampleReportWorld sampleCaptured).state.base.cases.get? 1).map (fun c =>
        (c.ownerScopeId, c.publicId, c.archivedAt.isSome)) =
          some (sampleOwner, sampleUuid '0', false) ∧
      ((sampleReportArchival.foldl World.step
        (sampleReportWorld sampleCaptured)).state.base.cases.get? 1).map (fun c =>
          (c.ownerScopeId, c.publicId, c.archivedAt.isSome)) =
            some (sampleOwner, sampleUuid '0', true) := by
  decide +kernel

end TonTracker
