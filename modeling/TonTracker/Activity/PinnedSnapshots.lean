/-
# `Activity.PinnedSnapshots` — what a published snapshot pins

The view of a snapshot is built from the usable syncs of its case up to
the snapshot, and from their runs.  Three invariants make it final: an
active sync is the newest of its case, so none below the snapshot can
still become usable (`ActiveNewest`); a row that has ended does not change;
and a run is dropped only with the sync that names it (`RunsOwned`).
`Pinned` says what one commit keeps of it, and composes over a run.
-/
import TonTracker.Services.WalletCaseActivity
import TonTracker.Cases.Lifecycle

namespace TonTracker

open Relational (Table)
open Session (World Run Move Reaches)

/-! ## The newest sync of a case -/

/-- An active sync is the newest of its case. -/
def ActiveNewest (s : Store) : Prop :=
  ∀ a b ra rb, s.syncs.get? a = some ra → s.syncs.get? b = some rb → ra.caseId = rb.caseId →
    ra.state.active = true → b ≤ a

/-- No sync lies past the next key. -/
theorem sync_le_nextId {w : Write} {s : Store} {id : Nat} {row : SyncRow}
    (h : (w.commit s).2.syncs.get? id = some row) : id ≤ s.syncs.nextId := by
  rcases Write.syncs_after h with hsame | ⟨-, rfl, -, -⟩ | ⟨v, row₀, -, h₀, -⟩ |
    ⟨p, row₀, -, h₀, -, -⟩
  · exact (s.syncs.lt_nextId hsame).le
  · exact Nat.le_refl _
  · exact (s.syncs.lt_nextId h₀).le
  · exact (s.syncs.lt_nextId h₀).le

theorem ActiveNewest.commit {w : Write} {s : Store} (hw : w.WellFormed) (h : ActiveNewest s) :
    ActiveNewest (w.commit s).2 := by
  intro a b ra rb ha hb hcase hactive
  rcases active_after ha hactive with ⟨ra₀, ha₀, same, hactive₀⟩ | ⟨-, rfl, -⟩
  · rcases Write.syncs_after hb with hsame | ⟨rfl, -, hcollides, -⟩ | ⟨v, rb₀, -, hb₀, happly⟩ |
      ⟨p, rb₀, -, hb₀, -, rfl⟩
    · exact h a b ra₀ rb ha₀ hsame (same.trans hcase) hactive₀
    · -- a sync is inserted where none of the case is active
      have queued : rb.state.active = true := by
        obtain ⟨plan, caseId, c, publicId, settings, key, fingerprint, message, now, rfl⟩ := hw
        rfl
      unfold Store.syncCollides at hcollides
      rw [Option.isSome_eq_false_iff, Option.isNone_iff_eq_none] at hcollides
      have free := s.syncs.find?_eq_none.mp hcollides a ra₀ ha₀
      rw [same.trans hcase, hactive₀, queued] at free
      simp at free
    · have sameCase : rb.caseId = rb₀.caseId :=
        congrArg (·.caseId) (SyncWrite.apply_active happly).2
      exact h a b ra₀ rb₀ ha₀ hb₀ (same.trans (hcase.trans sameCase)) hactive₀
    · exact h a b ra₀ rb₀ ha₀ hb₀ (same.trans hcase) hactive₀
  · exact sync_le_nextId hb

/-! ## Public ids -/

/-- No two cases and no two syncs share a public id. -/
structure PublicIds (s : Store) : Prop where
  cases : ∀ a b ca cb, s.cases.get? a = some ca → s.cases.get? b = some cb →
    ca.publicId = cb.publicId → a = b
  syncs : ∀ a b ra rb, s.syncs.get? a = some ra → s.syncs.get? b = some rb →
    ra.publicId = rb.publicId → a = b

/-- The public id of a sync after a commit: that of the sync before it, or of
an inserted one that shares it with none. -/
theorem publicId_after {w : Write} {s : Store} {id : Nat} {row' : SyncRow}
    (h : (w.commit s).2.syncs.get? id = some row') :
    (∃ row, s.syncs.get? id = some row ∧ row.publicId = row'.publicId) ∨
      (w = .insertSync row' ∧ id = s.syncs.nextId ∧
        ∀ a ra, s.syncs.get? a = some ra → ra.publicId ≠ row'.publicId) := by
  rcases Write.syncs_after h with hsame | ⟨hw, hid, hcollides, -⟩ | ⟨v, row, -, hrow, happly⟩ |
    ⟨p, row, -, hrow, -, rfl⟩
  · exact .inl ⟨row', hsame, rfl⟩
  · refine .inr ⟨hw, hid, fun a ra ha heq => ?_⟩
    unfold Store.syncCollides at hcollides
    rw [Option.isSome_eq_false_iff, Option.isNone_iff_eq_none] at hcollides
    have free := s.syncs.find?_eq_none.mp hcollides a ra ha
    simp only [heq, decide_true, Bool.true_or] at free
    cases free
  · exact .inl ⟨row, hrow, (congrArg (·.publicId) (SyncWrite.apply_active happly).2).symm⟩
  · exact .inl ⟨row, hrow, rfl⟩

theorem caseCollides_publicId {s : Store} {row c : CaseRow} {id : Nat}
    (h : s.caseCollides row = false) (hc : s.cases.get? id = some c) :
    c.publicId ≠ row.publicId := by
  intro heq
  unfold Store.caseCollides at h
  rw [Option.isSome_eq_false_iff, Option.isNone_iff_eq_none] at h
  have free := s.cases.find?_eq_none.mp h id c hc
  simp only [heq, decide_true, Bool.true_or] at free
  cases free

/-- A case after a commit: it was there with the same columns, or it was just
created. -/
theorem cases_after {w : Write} {s : Store} {id : Nat} {c' : CaseRow}
    (h : (w.commit s).2.cases.get? id = some c') :
    (∃ c, s.cases.get? id = some c ∧ c'.fixed = c.fixed) ∨
      (id = s.cases.nextId ∧ s.caseCollides c' = false) := by
  cases w.commit_caseStep s with
  | same hcases hcatalog =>
      rw [hcases] at h
      exact .inl ⟨c', h, rfl⟩
  | created row hw hfree hcases hcatalog =>
      rw [hcases, Table.get?_insert] at h
      split at h
      case isTrue hid =>
        cases h
        exact .inr ⟨hid, hfree⟩
      case isFalse => exact .inl ⟨c', h, rfl⟩
  | touched caseId visible now f c hc hfixed hcases hcatalog why =>
      obtain ⟨c₀, hc₀, hsame, -⟩ := fixed_of_touched hc hfixed hcases h
      exact .inl ⟨c₀, hc₀, hsame⟩
  | deleted target now hw hidle hs =>
      rw [hs] at h
      exact .inl ⟨c', (get?_deleteOf.mp h).1, rfl⟩

theorem PublicIds.commit {w : Write} {s : Store} (h : PublicIds s) : PublicIds (w.commit s).2 := by
  constructor
  · intro a b ca cb ha hb heq
    rcases cases_after ha with ⟨ca₀, ha₀, fa⟩ | ⟨ida, freeA⟩ <;>
      rcases cases_after hb with ⟨cb₀, hb₀, fb⟩ | ⟨idb, freeB⟩
    · exact h.cases a b ca₀ cb₀ ha₀ hb₀
        ((congrArg (·.1) fa).symm.trans (heq.trans (congrArg (·.1) fb)))
    · exact absurd ((congrArg (·.1) fa).symm.trans heq) (caseCollides_publicId freeB ha₀)
    · exact absurd ((congrArg (·.1) fb).symm.trans heq.symm) (caseCollides_publicId freeA hb₀)
    · exact ida.trans idb.symm
  · intro a b ra rb ha hb heq
    rcases publicId_after ha with ⟨ra₀, ha₀, sameA⟩ | ⟨wA, ida, freeA⟩ <;>
      rcases publicId_after hb with ⟨rb₀, hb₀, sameB⟩ | ⟨wB, idb, freeB⟩
    · exact h.syncs a b ra₀ rb₀ ha₀ hb₀ (sameA.trans (heq.trans sameB.symm))
    · exact absurd (sameA.trans heq) (freeB a ra₀ ha₀)
    · exact absurd (sameB.trans heq.symm) (freeA b rb₀ hb₀)
    · exact ida.trans idb.symm

/-! ## One commit -/

/-- What is final at a snapshot `id` with row `row`. -/
structure Pinned (id : Nat) (row : SyncRow) (s s' : Store) : Prop where
  snapshot : s'.syncs.get? id = some row
  sources : ∀ b r, b ≤ id → r.caseId = row.caseId →
    (s'.syncs.get? b = some r ↔ s.syncs.get? b = some r)
  runs : ∀ b r n, b ≤ id → r.caseId = row.caseId → s.syncs.get? b = some r →
    r.ingestionRunId = some n → s'.runs.get? n = s.runs.get? n
  cases : ∀ c, s.cases.get? row.caseId = some c →
    ∃ c', s'.cases.get? row.caseId = some c' ∧ c'.fixed = c.fixed

theorem Pinned.refl {id : Nat} {row : SyncRow} {s : Store} (h : s.syncs.get? id = some row) :
    Pinned id row s s :=
  ⟨h, fun _ _ _ _ => Iff.rfl, fun _ _ _ _ _ _ _ => rfl, fun c hc => ⟨c, hc, rfl⟩⟩

theorem Pinned.trans {id : Nat} {row : SyncRow} {s₁ s₂ s₃ : Store} (h : Pinned id row s₁ s₂)
    (h' : Pinned id row s₂ s₃) : Pinned id row s₁ s₃ where
  snapshot := h'.snapshot
  sources b r hb hcase := (h'.sources b r hb hcase).trans (h.sources b r hb hcase)
  runs b r n hb hcase hr hrun :=
    (h'.runs b r n hb hcase ((h.sources b r hb hcase).mpr hr) hrun).trans
      (h.runs b r n hb hcase hr hrun)
  cases c hc := by
    obtain ⟨c₂, hc₂, fixed₂⟩ := h.cases c hc
    obtain ⟨c₃, hc₃, fixed₃⟩ := h'.cases c₂ hc₂
    exact ⟨c₃, hc₃, fixed₃.trans fixed₂⟩

/-- Only its deletion drops a case. -/
theorem cases_keeps {w : Write} {s : Store} {id : Nat} {c : CaseRow}
    (hd : ∀ target now, w = .deleteCase target now → id ≠ target.caseId)
    (h : s.cases.get? id = some c) :
    ∃ c', (w.commit s).2.cases.get? id = some c' ∧ c'.fixed = c.fixed := by
  cases w.commit_caseStep s with
  | same hcases hcatalog => exact ⟨c, hcases ▸ h, rfl⟩
  | created row hw hfree hcases hcatalog =>
      refine ⟨c, ?_, rfl⟩
      rw [hcases, Table.get?_insert, if_neg (Nat.ne_of_lt (s.cases.lt_nextId h))]
      exact h
  | touched caseId visible now f c₀ hc₀ hfixed hcases hcatalog why =>
      rw [hcases, Table.get?_update, h]
      by_cases hid : id = caseId
      · subst hid
        rw [h] at hc₀
        cases hc₀
        exact ⟨f c, by simp, hfixed⟩
      · exact ⟨c, by simp [hid], rfl⟩
  | deleted target now hw hidle hs =>
      refine ⟨c, ?_, rfl⟩
      rw [hs]
      exact get?_deleteOf.mpr ⟨h, fun heq => hd target now hw (of_decide_eq_true heq)⟩

/-- A commit that does not delete the case leaves what a snapshot pins. -/
theorem pinned_commit {w : Write} {s : Store} {id : Nat} {row : SyncRow}
    (hd : ∀ target now, w = .deleteCase target now → row.caseId ≠ target.caseId)
    (newest : ActiveNewest s) (owned : RunsOwned s) (h : s.syncs.get? id = some row)
    (hended : row.state.active = false) : Pinned id row s (w.commit s).2 := by
  -- no row of the case up to the snapshot is active
  have ended : ∀ b r, b ≤ id → r.caseId = row.caseId → s.syncs.get? b = some r →
      r.state.active = false := by
    intro b r hb hcase hr
    by_contra hactive
    rw [Bool.not_eq_false] at hactive
    have above := newest b id r row hr h hcase hactive
    rw [Nat.le_antisymm hb above, h] at hr
    cases hr
    rw [hended] at hactive
    cases hactive
  have kept : ∀ b r, b ≤ id → r.caseId = row.caseId → s.syncs.get? b = some r →
      (w.commit s).2.syncs.get? b = some r := by
    intro b r hb hcase hr
    obtain ⟨r', hr'⟩ := Write.syncs_keeps (fun target now hw => hcase ▸ hd target now hw) hr
    rw [(Write.syncs_step hr hr').2 (ended b r hb hcase hr)] at hr'
    exact hr'
  refine ⟨kept id row (Nat.le_refl id) rfl h, fun b r hb hcase => ⟨fun hr' => ?_,
    kept b r hb hcase⟩, fun b r n hb hcase hr hrun => ?_, fun c hc => cases_keeps hd hc⟩
  · rcases Write.syncs_after hr' with hsame | ⟨-, rfl, -, -⟩ | ⟨v, r₀, -, hr₀, happly⟩ |
      ⟨p, r₀, -, hr₀, hselects, rfl⟩
    · exact hsame
    · exact absurd (s.syncs.lt_nextId h) (Nat.not_lt.mpr hb)
    · obtain ⟨hactive, hfixed⟩ := SyncWrite.apply_active happly
      rw [ended b r₀ hb ((congrArg (·.caseId) hfixed).symm.trans hcase) hr₀] at hactive
      cases hactive
    · have hrunning := (SyncRow.ownedBy_running (Publication.selects_iff.mp hselects).2.2.1).1
      have hactive := ended b r₀ hb hcase hr₀
      rw [hrunning] at hactive
      cases hactive
  · obtain ⟨run, hget⟩ := Option.isSome_iff_exists.mp (owned.stored b r n hr hrun)
    rw [hget]
    refine runs_keeps (fun target now hw => ?_) hget
    rintro ⟨b', r', hr', hcase', hrun'⟩
    obtain rfl := owned.owner b b' r r' n hr hr' hrun hrun'
    rw [hr] at hr'
    cases hr'
    exact hd target now hw (hcase.symm.trans hcase')

/-! ## The view -/

namespace Pinned

variable {id : Nat} {row : SyncRow} {s s' : Store}

theorem sourceSyncs (h : Pinned id row s s') (period : Interval) (maximum : Nat) :
    s'.sourceSyncs (id, row) period maximum = s.sourceSyncs (id, row) period maximum := by
  unfold Store.sourceSyncs
  rw [@Table.select_congr _ s'.syncs s.syncs _ _ fun b r => ?_]
  refine and_congr_left fun hp => h.sources b r ?_ ?_
  all_goals
    unfold Store.isSource at hp
    simp only [Bool.and_eq_true, decide_eq_true_eq] at hp
  · exact hp.1.2
  · exact hp.1.1.1.1

/-- The syncs the view of a snapshot is built from are among the pinned
ones. -/
theorem mem_sourceSyncs {period : Interval} {maximum : Nat} {syncs : List (Nat × SyncRow)}
    (hsyncs : s.sourceSyncs (id, row) period maximum = some syncs) {b : Nat} {r : SyncRow}
    (hmem : (b, r) ∈ syncs) : s.syncs.get? b = some r ∧ b ≤ id ∧ r.caseId = row.caseId := by
  unfold Store.sourceSyncs at hsyncs
  dsimp only at hsyncs
  split at hsyncs
  · cases hsyncs
  · cases hsyncs
    obtain ⟨hget, hp⟩ := s.syncs.mem_select.mp (List.mem_of_mem_take hmem)
    unfold Store.isSource at hp
    simp only [Bool.and_eq_true, decide_eq_true_eq] at hp
    exact ⟨hget, hp.1.2, hp.1.1.1.1⟩

theorem loadSources (h : Pinned id row s s') {period : Interval} {maximum : Nat}
    {syncs : List (Nat × SyncRow)}
    (hsyncs : s.sourceSyncs (id, row) period maximum = some syncs) (rows : Interval)
    (maximumRows : Nat) : s'.loadSources syncs rows maximumRows =
      s.loadSources syncs rows maximumRows := by
  have sameRuns : s'.runs.select (fun n _ =>
        (syncs.filterMap fun sync => sync.2.ingestionRunId).contains n) =
      s.runs.select fun n _ =>
        (syncs.filterMap fun sync => sync.2.ingestionRunId).contains n := by
    refine Table.select_congr fun n run => and_congr_left fun hmem => ?_
    obtain ⟨⟨b, r⟩, hsync, hrun⟩ := List.mem_filterMap.mp (List.contains_iff_mem.mp hmem)
    obtain ⟨hget, hb, hcase⟩ := mem_sourceSyncs hsyncs hsync
    rw [h.runs b r n hb hcase hget hrun]
  unfold Store.loadSources
  dsimp only
  rw [sameRuns]

theorem activitySources {F : Type} (h : Pinned id row s s') (query : ActivityQuery F) :
    s'.activitySources (id, row) query = s.activitySources (id, row) query := by
  unfold Store.activitySources
  rw [h.sourceSyncs]
  cases hsyncs : s.sourceSyncs (id, row) (some (effectivePeriod row query)) maxSourceSyncs with
  | none => rfl
  | some syncs =>
      dsimp only
      rw [h.loadSources hsyncs]

end Pinned

/-- The snapshot that a public id names. -/
theorem snapshot?_eq {s : Store} (ids : PublicIds s) {id : Nat} {row : SyncRow}
    (h : s.syncs.get? id = some row) : s.snapshot? row.caseId (some row.publicId) =
      if Store.isSource row.caseId row then some (id, row) else none := by
  have unique : ∀ a b ra rb, s.syncs.get? a = some ra → s.syncs.get? b = some rb →
      (Store.isSource row.caseId ra && decide (ra.publicId = row.publicId)) = true →
      (Store.isSource row.caseId rb && decide (rb.publicId = row.publicId)) = true → a = b := by
    intro a b ra rb ha hb hpa hpb
    rw [Bool.and_eq_true, decide_eq_true_eq] at hpa hpb
    exact ids.syncs a b ra rb ha hb (hpa.2.trans hpb.2.symm)
  unfold Store.snapshot?
  dsimp only
  split
  case isTrue hsource =>
    refine (s.syncs.find?_eq_some_iff unique).mpr ⟨h, ?_⟩
    rw [hsource, decide_eq_true rfl]
    rfl
  case isFalse hsource =>
    refine s.syncs.find?_eq_none.mpr fun b r hr => ?_
    by_contra hp
    rw [Bool.not_eq_false, Bool.and_eq_true, decide_eq_true_eq] at hp
    obtain rfl := ids.syncs b id r row hr h hp.2
    rw [h] at hr
    cases hr
    exact hsource hp.1

/-- The case that a public id names, where it is available. -/
theorem caseByPublicId?_eq {s : Store} (ids : PublicIds s) {id : Nat} {c : CaseRow}
    (h : s.cases.get? id = some c) (havailable : c.archivedAt = none) :
    s.caseByPublicId? c.ownerScopeId c.publicId = some (id, c) := by
  refine (s.cases.find?_eq_some_iff fun a b ca cb ha hb hpa hpb => ?_).mpr ⟨h, ?_⟩
  · simp only [Bool.and_eq_true, decide_eq_true_eq] at hpa hpb
    exact ids.cases a b ca cb ha hb (hpa.1.2.trans hpb.1.2.symm)
  · simp only [havailable, decide_true, Option.isNone_none, Bool.and_self]

/-- The view of a pinned snapshot, read of an available case. -/
theorem listActivity_eq {s : Store} (ids : PublicIds s) {id : Nat} {row : SyncRow} {c : CaseRow}
    (hrow : s.syncs.get? id = some row) (hcase : s.cases.get? row.caseId = some c)
    (havailable : c.archivedAt = none) {F R : Type} (view : ActivityView F R)
    {query : ActivityQuery F} (hpinned : query.snapshotPublicId = some row.publicId) :
    s.listActivity view c.ownerScopeId c.publicId query =
      if query.counterpartyNetwork.any fun network => network ≠ c.scope.network then
        .error (.invalidQuery "counterparty address belongs to another TON network.")
      else if Store.isSource row.caseId row then
        some <$> s.snapshotActivity view (c.columns row.caseId) (id, row) query
      else .error .snapshotNotFound := by
  unfold Store.listActivity
  rw [caseByPublicId?_eq ids hcase havailable]
  dsimp only
  rw [hpinned, snapshot?_eq ids hrow]
  split
  · rfl
  · cases Store.isSource row.caseId row <;> rfl

/-- What a snapshot pins stays while its case is not deleted. -/
theorem pinned_of_run {sha : Sha256} {world world' : World (caseSystem sha)}
    (reached : Reaches start world) {id : Nat} {row : SyncRow}
    (hrow : world.state.syncs.get? id = some row) (hended : row.state.active = false)
    (rest : Run (KeepsCase row.caseId) world world') :
    Pinned id row world.state world'.state := by
  have newest : ActiveNewest world.state :=
    (wellFormed_run reached).inv ActiveNewest (fun _ _ _ hw h => h.commit hw.2)
      fun _ _ _ _ h => nomatch h
  obtain ⟨-, -, pinned⟩ := (wellFormed_rest reached rest).inv
    (fun s : Store => ActiveNewest s ∧ RunsOwned s ∧ Pinned id row world.state s)
    (fun _ _ _ hw h => ⟨h.1.commit hw.2, h.2.1.commit hw.2,
      h.2.2.trans (pinned_commit hw.1 h.1 h.2.1 h.2.2.snapshot hended)⟩)
    ⟨newest, runsOwned_of_reaches reached, .refl hrow⟩
  exact pinned

/-- From the moment a sync is usable, whatever the sessions commit while its
case is not deleted, the view of its snapshot has the same sources and the
same response; a case that is archived then has none. -/
theorem pinned_snapshot_immutable {sha : Sha256} {world world' : World (caseSystem sha)}
    (reached : Reaches start world) {id : Nat} {row : SyncRow}
    (hrow : world.state.syncs.get? id = some row) (husable : row.state.usable = true)
    (rest : Run (KeepsCase row.caseId) world world') {F R : Type} (view : ActivityView F R)
    (query : ActivityQuery F) :
    world'.state.activitySources (id, row) query = world.state.activitySources (id, row) query ∧
      ∀ c, world.state.cases.get? row.caseId = some c → c.archivedAt = none →
        query.snapshotPublicId = some row.publicId →
        world'.state.listActivity view c.ownerScopeId c.publicId query =
            world.state.listActivity view c.ownerScopeId c.publicId query ∨
          ∃ c', world'.state.cases.get? row.caseId = some c' ∧ c'.archivedAt.isSome = true := by
  have ended : row.state.active = false := by
    cases hstate : row.state <;> rw [hstate] at husable <;> first | rfl | cases husable
  have inserts := wellFormed_run reached
  have ids : PublicIds world.state := inserts.inv PublicIds (fun _ _ _ _ h => h.commit)
    ⟨fun _ _ _ _ h => (nomatch h), fun _ _ _ _ h => nomatch h⟩
  have ids' : PublicIds world'.state := (wellFormed_rest reached rest).inv PublicIds
    (fun _ _ _ _ h => h.commit) ids
  have pinned := pinned_of_run reached hrow ended rest
  refine ⟨pinned.activitySources query, fun c hcase havailable hpinned => ?_⟩
  obtain ⟨c', hcase', hfixed⟩ := pinned.cases c hcase
  simp only [CaseRow.fixed, Prod.mk.injEq] at hfixed
  obtain ⟨publicId, owner, scope, -⟩ := hfixed
  by_cases harchived : c'.archivedAt = none
  · refine .inl ?_
    have after := listActivity_eq ids' pinned.snapshot hcase' harchived view hpinned
    rw [publicId, owner, scope] at after
    rw [after, listActivity_eq ids hrow hcase havailable view hpinned]
    have columns : c'.columns row.caseId = c.columns row.caseId := by
      unfold CaseRow.columns
      rw [publicId, scope]
    unfold Store.snapshotActivity
    rw [columns, pinned.activitySources]
  · exact .inr ⟨c', hcase', Option.isSome_iff_ne_none.mpr harchived⟩

/-- A second sync of the sample case, queued and cancelled. -/
def sampleLaterSync : List (Move (caseSystem sampleSha)) :=
  sampleSession 4 (.enqueueSync sampleOwner (sampleUuid '0') sampleSyncRequest "later".toList)
    2010 (sampleUuid '4') 30 ++
  sampleSession 5 (.cancelSync sampleOwner (sampleUuid '0') (sampleUuid '4')) 2011
    (sampleUuid '5') 20

/-- The view of the first one stays as it was. -/
theorem pinned_snapshot_immutable_sample :
    ∃ row, (sampleWorld sampleMoves).state.syncs.get? 1 = some row ∧
      (((sampleLaterSync.foldl World.step (sampleWorld sampleMoves)).state.syncs.get?
        2).map (·.state)) = some .cancelled ∧
      ∀ query : ActivityQuery Unit,
        (sampleLaterSync.foldl World.step (sampleWorld sampleMoves)).state.activitySources
            (1, row) query =
          (sampleWorld sampleMoves).state.activitySources (1, row) query := by
  have published : ((sampleWorld sampleMoves).state.syncs.get? 1).map
      (fun row => row.state.usable) = some true := by decide +kernel
  obtain ⟨row, hrow, husable⟩ := Option.map_eq_some_iff.mp published
  have rest : Run (KeepsCase row.caseId) (sampleWorld sampleMoves)
      (sampleLaterSync.foldl World.step (sampleWorld sampleMoves)) :=
    Session.run_foldl (fun _ (w : Write) _ => w.keepsCases)
      (fun sid w s h => KeepsCase.of_keepsCases h _ sid s) sampleLaterSync _
      (by decide +kernel)
  have reached : Reaches start (sampleWorld sampleMoves) := sampleWorld_reached _
  refine ⟨row, hrow, by decide +kernel, fun query => ?_⟩
  exact (pinned_snapshot_immutable reached hrow husable rest
    (⟨fun _ _ _ => true, fun _ _ _ _ _ => ()⟩ : ActivityView Unit Unit) query).1

end TonTracker
