/-
# `Syncs.PublishedOnce` — lease fencing and the publication of a sync

Every statement of a worker about the sync it has claimed is fenced by its
lease and the clock it has read (`Write.fence?`): where that lease is not
the one of the row, or has expired, the commit changes no row.  A
publication is one commit, so what a store shows of it is all there or not
at all (`PublishedTogether`), and as it ends the row no other one of the row
commits.  That the case is open and has the scope of the claim is read
before the publication, and stays while the lease runs (`OpenFor`).
-/
import TonTracker.Cases.MetadataEdits
import TonTracker.Checkpoints.Provenance
import TonTracker.Lib.SessionPhases

namespace TonTracker

open Relational (Table)
open Session (Event Move Protocol Reaches Recorded World commitsOf)
open Session.Prog (all_bindExcept all_tryCatch phased_bind phased_bindExcept phased_bindRaises
  phased_returns returns_true)
open Session.Protocol (triple_bindExcept triple_mono triple_of_all triple_step triple_tryCatch)

/-! ## Fences -/

/-- The lease of a statement about a claimed sync, and the clock it compares
the expiry with. -/
def Write.fence? : Write → Option (SyncLease × Instant)
  | .sync (.closeUnavailable lease now) => some (lease, now)
  | .sync (.advance lease _ _ _ now _) => some (lease, now)
  | .sync (.heartbeat lease now _) => some (lease, now)
  | .sync (.scheduleRetry lease _ _ now _) => some (lease, now)
  | .sync (.finishCancelled lease now) => some (lease, now)
  | .sync (.failWithoutRun lease _ _ _ now) => some (lease, now)
  | .publish p => some (p.lease, p.now)
  | _ => none

/-- A fenced update selects the row that its lease owns. -/
theorem SyncWrite.owned_of_apply {v : SyncWrite} {lease : SyncLease} {now : Instant}
    (hfence : (Write.sync v).fence? = some (lease, now)) {id : Nat} {row row' : SyncRow}
    (h : v.apply id row = some row') : id = lease.jobId ∧ row.ownedBy lease.token now = true := by
  cases v with
  | cancel syncId now => cases hfence
  | recoverExpired now => cases hfence
  | claim syncId token now leaseUntil => cases hfence
  | _ =>
      cases hfence
      simp only [apply, Option.ite_none_right_eq_some, Bool.and_eq_true, decide_eq_true_eq,
        and_assoc] at h
      exact ⟨h.1, h.2.1⟩

/-- Without its lease a statement changes nothing. -/
theorem Write.commit_of_unowned {w : Write} {lease : SyncLease} {now : Instant}
    (hfence : w.fence? = some (lease, now)) {s : Store} (h : ownedSync lease now s = none) :
    (w.commit s).2 = s := by
  have unowned : ∀ row, s.syncs.get? lease.jobId = some row →
      row.ownedBy lease.token now ≠ true := by
    intro row hrow howned
    unfold ownedSync at h
    rw [hrow, Option.filter_some, if_pos howned] at h
    cases h
  cases w with
  | sync v =>
      have same : s.syncs.update v.apply = s.syncs := by
        refine s.syncs.update_eq_self fun id row hrow => ?_
        by_contra hne
        obtain ⟨row', hrow'⟩ := Option.ne_none_iff_exists'.mp hne
        obtain ⟨rfl, howned⟩ := SyncWrite.owned_of_apply hfence hrow'
        exact unowned row hrow howned
      simp only [commit, same]
  | publish p =>
      cases hfence
      rcases publish_cases p s with hsame | ⟨⟨id, row, hrow, hselects⟩, -⟩
      · exact hsame
      · obtain ⟨rfl, -, howned, -⟩ := Publication.selects_iff.mp hselects
        exact absurd howned (unowned row hrow)
  | _ => cases hfence

/-- The rows of a store. -/
def Store.rows (s : Store) : Store := { s with builderStarts := [] }

/-! ## The commits of a worker -/

namespace Write

/-- What a worker commits before it claims. -/
def Recovers (w : Write) : Prop := ∃ now, w = .sync (.recoverExpired now)

/-- A claim under the token. -/
def ClaimsWith (token : Token) (w : Write) : Prop :=
  ∃ syncId now leaseUntil, w = .sync (.claim syncId token now leaseUntil)

/-- What it commits from its claim on: the start of its builder, and what
its token fences. -/
def UnderLease (token : Token) (w : Write) : Prop :=
  w = .startBuilder token ∨ ∃ lease now, w.fence? = some (lease, now) ∧ lease.token = token

theorem underLease_of_fenced {token : Token} {v : SyncWrite} (hv : v.Fenced token) :
    UnderLease token (.sync v) := by
  cases v with
  | cancel syncId now => exact hv.elim
  | recoverExpired now => exact hv.elim
  | claim syncId token now leaseUntil => exact hv.elim
  | _ => exact .inr ⟨_, _, rfl, hv⟩

/-- Under a lease that owns no row it changes no row. -/
theorem UnderLease.rows {token : Token} {w : Write} (hw : w.UnderLease token) {s : Store}
    (h : ∀ lease now, w.fence? = some (lease, now) → ownedSync lease now s = none) :
    (w.commit s).2.rows = s.rows := by
  rcases hw with rfl | ⟨lease, now, hfence, -⟩
  · rfl
  · rw [commit_of_unowned hfence (h lease now hfence)]

end Write

section Phases

variable {token : Token}

/-- A claim, before which nothing is returned. -/
theorem phased_claims (syncId : Nat) (now leaseUntil : Instant) :
    (transactSync (.sync (.claim syncId token now leaseUntil))).run.Phased Write.Recovers
      (Write.ClaimsWith token) (Write.UnderLease token) (fun result => ∀ count, result ≠ .ok count)
      fun _ => True := by
  refine phased_bindExcept (all_askFlag _) (fun _ _ h => nomatch h) fun fails => ?_
  split
  · exact fun _ h => nomatch h
  · refine .inr ⟨⟨_, _, _, rfl⟩, fun result => ?_⟩
    cases result <;> exact ⟨trivial, trivial⟩

theorem phased_claimNextSync : (claimNextSync token).run.Phased Write.Recovers
    (Write.ClaimsWith token) (Write.UnderLease token)
    (fun result => ∀ claimed, result ≠ .ok (some claimed)) fun _ => True := by
  refine phased_bindExcept (all_askFlag _) (fun _ _ h => nomatch h) fun stop => ?_
  split
  · exact fun _ h => nomatch h
  · refine phased_bindExcept (all_askR _) (fun _ _ h => nomatch h) fun tick => ?_
    refine phased_bindExcept (all_selectSync _) (fun _ _ h => nomatch h) fun next => ?_
    split
    · exact fun _ h => nomatch h
    · refine phased_bindExcept (all_askFlag _) (fun _ _ h => nomatch h) fun stop => ?_
      split
      · exact fun _ h => nomatch h
      · refine phased_bindRaises (phased_claims _ _ _) (fun _ _ h => nomatch h)
          (fun _ => trivial) (fun count hcount => absurd rfl (hcount count)) fun count _ =>
            ⟨?_, returns_true _⟩
        split
        · refine all_bindExcept (all_selectSync _) fun row => ?_
          split
          · exact all_bindExcept (all_askR _) fun _ => all_bindExcept
              (all_transactSync (Write.underLease_of_fenced rfl)) fun _ => trivial
          · refine all_bindExcept ?_ fun _ => trivial
            cases claimedCaseSync _ token _ _ <;> trivial
        · trivial

/-- A worker recovers, then claims, and from then on writes under its
lease. -/
theorem phased_runSyncOnce (sha : Sha256) : (runSyncOnce sha token).run.Phased Write.Recovers
    (Write.ClaimsWith token) (Write.UnderLease token) (fun _ => True) fun _ => True := by
  have fenced : ∀ v : SyncWrite, v.Fenced token → Write.UnderLease token (.sync v) :=
    fun _ hv => Write.underLease_of_fenced hv
  refine phased_bindExcept (all_askFlag _) (fun _ => trivial) fun stop => ?_
  split
  case isFalse => trivial
  case isTrue =>
    refine phased_bindExcept (all_askR _) (fun _ => trivial) fun tick => ?_
    refine phased_bindExcept (all_transactSync ⟨_, rfl⟩) (fun _ => trivial) fun _ => ?_
    refine phased_bindExcept (all_askFlag _) (fun _ => trivial) fun stop => ?_
    split
    case isFalse => trivial
    case isTrue =>
      refine phased_bindRaises (phased_returns phased_claimNextSync (returns_claimNextSync token))
        (fun _ => trivial) (fun _ => trivial) (fun claimed hclaimed => ?_) fun claimed hclaimed =>
          ⟨?_, returns_true _⟩
      · cases claimed with
        | none => trivial
        | some claimed => exact absurd rfl (hclaimed.1 claimed)
      · cases claimed with
        | none => trivial
        | some claimed =>
            have htoken := hclaimed.2 _ rfl claimed rfl
            refine all_bindExcept (all_askFlag _) fun stop => ?_
            split
            case isFalse => trivial
            case isTrue =>
              refine all_tryCatch (all_executeClaimedSync fenced htoken sha
                (fun settings => all_buildWithHeartbeats fenced htoken settings (.inl rfl))
                fun run now => .inr ⟨_, _, rfl, htoken⟩) fun _ => ?_
              exact all_failWithoutRun fenced htoken _ _ _

theorem phased_worker (sha : Sha256) (sid : Nat) : (program sha sid .runSyncWorker).Phased
    Write.Recovers (Write.ClaimsWith sid) (Write.UnderLease sid) (fun _ => True)
    fun _ => True := by
  refine phased_bind (phased_runSyncOnce sha) (fun result _ => ?_) fun result _ =>
    ⟨?_, returns_true _⟩
  · cases result <;> trivial
  · cases result <;> trivial

end Phases

/-! ## Publications that commit -/

namespace Publication

/-- The transaction of the publication is committed. -/
def Commits (p : Publication) (s : Store) : Prop := ((Write.publish p).commit s).1 = .rows 1

/-- It is committed in full, for a row that its lease owns, or not at
all. -/
theorem commit_cases (p : Publication) (s : Store) :
    (¬ p.Commits s ∧ ((Write.publish p).commit s).2 = s) ∨
      p.Commits s ∧ ((Write.publish p).commit s).2 = s.published p ∧
        ∃ row, s.syncs.get? p.lease.jobId = some row ∧ p.selects p.lease.jobId row = true := by
  unfold Commits
  simp only [Write.commit]
  split
  · exact .inl ⟨by rintro ⟨⟩, rfl⟩
  case isFalse hfound =>
    split
    · exact .inl ⟨by rintro ⟨⟩, rfl⟩
    · split
      · rw [Bool.not_eq_true, Option.isNone_eq_false_iff] at hfound
        obtain ⟨⟨id, row⟩, hrow⟩ := Option.isSome_iff_exists.mp hfound
        obtain ⟨hget, hselects⟩ := s.syncs.find?_eq_some hrow
        obtain rfl := (selects_iff.mp hselects).1
        exact .inr ⟨rfl, rfl, row, hget, hselects⟩
      · exact .inl ⟨by rintro ⟨⟩, rfl⟩

/-- The row of a publication that commits. -/
theorem Commits.selected {p : Publication} {s : Store} (h : p.Commits s) :
    ∃ row, s.syncs.get? p.lease.jobId = some row ∧ p.selects p.lease.jobId row = true := by
  rcases p.commit_cases s with ⟨hnot, -⟩ | ⟨-, -, hrow⟩
  · exact absurd h hnot
  · exact hrow

end Publication

/-! ## What a store shows of a sync -/

/-- Nothing of a publication. -/
structure Unpublished (id : Nat) (row : SyncRow) (s : Store) : Prop where
  run : row.ingestionRunId = none
  status : row.state.usable = false
  manifests : ∀ i m, s.manifests.get? i = some m → m.caseSyncId ≠ id
  checkpoints : ∀ i c, s.checkpoints.get? i = some c → c.sourceSyncId ≠ id

/-- The publication: its run, its manifest, each of its checkpoints and no
other, the row with its status, and the catalog event. -/
structure Published (p : Publication) (id : Nat) (row : SyncRow) (s : Store) : Prop where
  asPublished : ∃ runId running, row = p.published runId running ∧ s.runs.get? runId = some p.run
  ended : row.state.active = false
  manifests : ∀ m, (∃ i, s.manifests.get? i = some m ∧ m.caseSyncId = id) ↔ m = p.manifest
  checkpoints : ∀ c, (∃ i, s.checkpoints.get? i = some c ∧ c.sourceSyncId = id) ↔
    c ∈ p.checkpoints
  event : ∃ i, s.catalogEvents.get? i = some ⟨row.caseId, p.now, true⟩

/-- Of every sync the store shows nothing of a publication, or one in full;
and there are no other runs. -/
structure PublishedTogether (sha : Sha256) (s : Store) : Prop where
  syncs : ∀ id row, s.syncs.get? id = some row → Unpublished id row s ∨
    ∃ claimed run now, Published (publication sha claimed run now) id row s
  runs : ∀ r run, s.runs.get? r = some run → ∃ id row, s.syncs.get? id = some row ∧
    row.ingestionRunId = some r

section Shown

variable {w : Write} {s : Store} {id : Nat} {row row' : SyncRow}

/-- A row that a deletion leaves is of another case. -/
theorem caseId_of_deleted {target : CaseTarget} {now : Instant}
    (h : (s.deleted target now).syncs.get? id = some row) : row.caseId ≠ target.caseId := fun heq =>
  (get?_deleteOf.mp h).2 (decide_eq_true heq)

/-- A catalog event stays, unless its case is deleted. -/
theorem catalogEvents_keeps {i : Nat} {event : CatalogEventRow}
    (hd : ∀ target now, (w.commit s).2 = s.deleted target now → event.caseId ≠ target.caseId)
    (h : s.catalogEvents.get? i = some event) :
    (w.commit s).2.catalogEvents.get? i = some event := by
  have later := Nat.ne_of_lt (s.catalogEvents.lt_nextId h)
  cases w.commit_caseStep s with
  | same hcases hcatalog => rw [hcatalog, h]
  | created row hw hfree hcases hcatalog => rw [hcatalog, Table.get?_insert, if_neg later, h]
  | touched caseId visible now f c hc hfixed hcases hcatalog why =>
      rw [hcatalog, Table.get?_insert, if_neg later, h]
  | deleted target now hw hidle hs =>
      have other := hd target now hs
      rw [hs]
      exact get?_deleteOf.mpr ⟨h, fun heq => other (of_decide_eq_true heq)⟩

/-- A manifest or checkpoint of a sync that was not there is of a
publication that has just ended the sync. -/
theorem journal_after (hw : w.WellFormed) (hrow' : (w.commit s).2.syncs.get? id = some row')
    (hrun : row'.ingestionRunId = none) :
    (∀ i m, (w.commit s).2.manifests.get? i = some m → m.caseSyncId = id →
        s.manifests.get? i = some m) ∧
      ∀ i c, (w.commit s).2.checkpoints.get? i = some c → c.sourceSyncId = id →
        s.checkpoints.get? i = some c := by
  have published : ∀ {p : Publication} {i : Nat} {running : SyncRow},
      s.syncs.get? i = some running → p.selects i running = true →
      (w.commit s).2 = s.published p → i ≠ id := by
    rintro p i running hrunning hselects hs rfl
    rw [hs, published_row hrunning hselects] at hrow'
    cases hrow'
    cases hrun
  constructor
  · intro i m hm hsync
    rcases manifests_after hm with hm | ⟨p, j, running, rfl, rfl, hrunning, hselects, hs⟩
    · exact hm
    · obtain ⟨sha, claimed, run, now, rfl⟩ := hw
      exact absurd ((Publication.selects_iff.mp hselects).1.trans hsync)
        (published hrunning hselects hs)
  · intro i c hc hsync
    rcases checkpoints_after hc with hc | ⟨p, j, running, rfl, hrunning, hselects, hs, -, -, hnew⟩
    · exact hc
    · obtain ⟨sha, claimed, run, now, rfl⟩ := hw
      have source := (publication_checkpoint (List.mem_of_getElem? hnew)).2
      exact absurd ((Publication.selects_iff.mp hselects).1.trans (source.symm.trans hsync))
        (published hrunning hselects hs)

theorem Unpublished.commit (hw : w.WellFormed) (h : Unpublished id row s)
    (hrow' : (w.commit s).2.syncs.get? id = some row')
    (hrun : row'.ingestionRunId = none) (hstatus : row'.state.usable = false) :
    Unpublished id row' (w.commit s).2 := by
  obtain ⟨manifests, checkpoints⟩ := journal_after hw hrow' hrun
  exact ⟨hrun, hstatus, fun i m hm hsync => h.manifests i m (manifests i m hm hsync) hsync,
    fun i c hc hsync => h.checkpoints i c (checkpoints i c hc hsync) hsync⟩

/-- The manifests and checkpoints of a sync that has ended. -/
theorem journal_keeps (hw : w.WellFormed) (owned : JournalOwned s)
    (hrow : s.syncs.get? id = some row) (hended : row.state.active = false)
    (hrow' : (w.commit s).2.syncs.get? id = some row) :
    (∀ i m, m.caseSyncId = id →
        ((w.commit s).2.manifests.get? i = some m ↔ s.manifests.get? i = some m)) ∧
      ∀ i c, c.sourceSyncId = id →
        ((w.commit s).2.checkpoints.get? i = some c ↔ s.checkpoints.get? i = some c) := by
  -- a publication is of a running sync
  have other : ∀ {p : Publication} {i : Nat} {running : SyncRow},
      s.syncs.get? i = some running → p.selects i running = true → p.lease.jobId ≠ id := by
    rintro p i running hrunning hselects rfl
    obtain ⟨rfl, -, howned, -⟩ := Publication.selects_iff.mp hselects
    cases hrow.symm.trans hrunning
    rw [(SyncRow.ownedBy_running howned).1] at hended
    cases hended
  refine ⟨fun i m hsync => ⟨fun hm => ?_, fun hm => ?_⟩,
    fun i c hsync => ⟨fun hc => ?_, fun hc => ?_⟩⟩
  · rcases manifests_after hm with hm | ⟨p, j, running, rfl, rfl, hrunning, hselects, hs⟩
    · exact hm
    · obtain ⟨sha, claimed, run, now, rfl⟩ := hw
      exact absurd hsync (other hrunning hselects)
  · cases commit_journalStep w s with
    | same hmanifests hcheckpoints => rw [hmanifests, hm]
    | published p j running hw hrunning hselects hfree hs =>
        rw [hs, Store.published_manifests, Table.get?_insert,
          if_neg (Nat.ne_of_lt (s.manifests.lt_nextId hm)), hm]
    | deleted target now hw hs =>
        rw [hs] at hrow' ⊢
        refine get?_deleteOf.mpr ⟨hm, fun hof => ?_⟩
        unfold Store.ofCase at hof
        rw [hsync, hrow, Option.any_some] at hof
        exact caseId_of_deleted hrow' (of_decide_eq_true hof)
  · rcases checkpoints_after hc with hc | ⟨p, j, running, rfl, hrunning, hselects, hs, -, -, hnew⟩
    · exact hc
    · obtain ⟨sha, claimed, run, now, rfl⟩ := hw
      have source := (publication_checkpoint (List.mem_of_getElem? hnew)).2
      exact absurd (source.symm.trans hsync) (other hrunning hselects)
  · cases commit_journalStep w s with
    | same hmanifests hcheckpoints => rw [hcheckpoints, hc]
    | published p j running hw hrunning hselects hfree hs =>
        rw [hs, Store.published_checkpoints, Table.get?_insertAll,
          if_pos (s.checkpoints.lt_nextId hc), hc]
    | deleted target now hw hs =>
        rw [hs] at hrow' ⊢
        refine get?_deleteOf.mpr ⟨hc, fun hof => ?_⟩
        obtain ⟨source, hsource, hcase, -⟩ := owned.sources i c hc
        rw [hsync, hrow] at hsource
        cases hsource
        exact caseId_of_deleted hrow' (hcase.trans (of_decide_eq_true hof))

/-- The run of a sync that a commit leaves. -/
theorem run_keeps (owned : RunsOwned s) {r : Nat} {run : IngestionRun}
    (hrow : s.syncs.get? id = some row) (hr : row.ingestionRunId = some r)
    (hrow' : (w.commit s).2.syncs.get? id = some row') (h : s.runs.get? r = some run) :
    (w.commit s).2.runs.get? r = some run := by
  by_cases hd : ∃ target now, w = .deleteCase target now
  · obtain ⟨target, now, rfl⟩ := hd
    rcases Write.deleteCase_cases target now s with hsame | ⟨-, hdeleted⟩
    · rw [hsame, h]
    · rw [hdeleted] at hrow' ⊢
      exact deleted_runs.mpr ⟨h, owned.notDropped hrow hr hrow'⟩
  · exact runs_keeps (fun target now hw => absurd ⟨target, now, hw⟩ hd) h

theorem Published.commit {p : Publication} (hw : w.WellFormed) (owned : JournalOwned s)
    (runs : RunsOwned s) (hrow : s.syncs.get? id = some row)
    (hrow' : (w.commit s).2.syncs.get? id = some row) (h : Published p id row s) :
    Published p id row (w.commit s).2 := by
  obtain ⟨manifests, checkpoints⟩ := journal_keeps hw owned hrow h.ended hrow'
  refine ⟨?_, h.ended, fun m => ?_, fun c => ?_, ?_⟩
  · obtain ⟨runId, running, hpublished, hrun⟩ := h.asPublished
    exact ⟨runId, running, hpublished,
      run_keeps runs hrow (congrArg (·.ingestionRunId) hpublished) hrow' hrun⟩
  · rw [← h.manifests m]
    exact exists_congr fun i => and_congr_left fun hsync => manifests i m hsync
  · rw [← h.checkpoints c]
    exact exists_congr fun i => and_congr_left fun hsync => checkpoints i c hsync
  · obtain ⟨i, hevent⟩ := h.event
    refine ⟨i, catalogEvents_keeps (fun target now hs => ?_) hevent⟩
    rw [hs] at hrow'
    exact caseId_of_deleted hrow'

/-- An update of a sync publishes nothing. -/
theorem SyncWrite.apply_unusable {v : SyncWrite} (h : v.apply id row = some row') :
    row'.state.usable = false := by
  cases v with
  | cancel syncId now =>
      simp only [apply, Option.ite_none_right_eq_some] at h
      rcases cancelled_cases h.2 with ⟨-, rfl⟩ | ⟨hrunning, -, rfl⟩
      · rfl
      · exact hrunning ▸ rfl
  | recoverExpired now =>
      rcases recovered_cases h with ⟨-, -, rfl⟩ | ⟨-, -, -, rfl⟩ | ⟨-, -, rfl⟩ | ⟨-, rfl⟩ <;> rfl
  | advance lease stage progress message now leaseUntil =>
      simp only [apply, Option.ite_none_right_eq_some, Option.some.injEq, Bool.and_eq_true] at h
      obtain ⟨⟨⟨-, howned⟩, -⟩, rfl⟩ := h
      exact (SyncRow.ownedBy_running howned).1 ▸ rfl
  | heartbeat lease now leaseUntil =>
      simp only [apply, Option.ite_none_right_eq_some, Option.some.injEq, Bool.and_eq_true] at h
      obtain ⟨⟨-, howned⟩, rfl⟩ := h
      exact (SyncRow.ownedBy_running howned).1 ▸ rfl
  | _ =>
      simp only [apply, Option.ite_none_right_eq_some, Option.some.injEq] at h
      obtain ⟨-, rfl⟩ := h
      rfl

/-- The store of a publication shows it. -/
theorem published_shows {p : Publication} (hw : (Write.publish p).WellFormed)
    (owned : JournalOwned s) (hrow : s.syncs.get? id = some row)
    (hselects : p.selects id row = true) :
    Published p id (p.published s.runs.nextId row) (s.published p) := by
  obtain ⟨sha, claimed, run, now, rfl⟩ := hw
  obtain ⟨hid, hcase, howned, -⟩ := Publication.selects_iff.mp hselects
  have hactive : row.state.active = true := (SyncRow.ownedBy_running howned).1 ▸ rfl
  have ended : ∀ {running : SyncRow}, s.syncs.get? id = some running →
      running.state.active ≠ false := by
    intro running hrunning hended
    cases hrow.symm.trans hrunning
    exact Bool.false_ne_true (hended.symm.trans hactive)
  refine ⟨⟨_, row, rfl, ?_⟩, publication_terminal sha claimed run now, fun m => ?_, fun c => ?_, ?_⟩
  · change (s.runs.insert _).get? s.runs.nextId = _
    rw [Table.get?_insert, if_pos rfl]
  · rw [Store.published_manifests]
    constructor
    · rintro ⟨i, hm, hsync⟩
      rw [Table.get?_insert] at hm
      split at hm
      · exact (Option.some.inj hm).symm
      · obtain ⟨running, hrunning, hended⟩ := owned.manifests i m hm
        exact absurd hended (ended (hsync ▸ hrunning))
    · rintro rfl
      exact ⟨s.manifests.nextId, by rw [Table.get?_insert, if_pos rfl], hid.symm⟩
  · rw [Store.published_checkpoints]
    constructor
    · rintro ⟨i, hc, hsync⟩
      rw [Table.get?_insertAll] at hc
      split at hc
      · obtain ⟨running, hrunning, -, hended⟩ := owned.sources i c hc
        exact absurd hended (ended (hsync ▸ hrunning))
      · exact List.mem_of_getElem? hc
    · intro hc
      obtain ⟨n, hn⟩ := List.mem_iff_getElem?.mp hc
      refine ⟨s.checkpoints.nextId + n, ?_, (publication_checkpoint hc).2.trans hid.symm⟩
      rw [Table.get?_insertAll, if_neg (Nat.not_lt.mpr (Nat.le_add_right _ _)),
        Nat.add_sub_cancel_left, hn]
  · refine ⟨s.catalogEvents.nextId, ?_⟩
    change (s.catalogEvents.insert _).get? s.catalogEvents.nextId = _
    rw [Table.get?_insert, if_pos rfl]
    exact congrArg some (CatalogEventRow.mk.injEq _ _ _ _ _ _ ▸ ⟨hcase.symm, rfl, rfl⟩)

end Shown

section Together

variable {sha : Sha256} {w : Write} {s : Store}

/-- What is shown of a sync after a commit. -/
theorem PublishedTogether.syncs_after (hw : w.WellFormed)
    (provided : ∀ p, w = .publish p → ∃ claimed run now, p = publication sha claimed run now)
    (owned : JournalOwned s) (runs : RunsOwned s) (h : PublishedTogether sha s) {id : Nat}
    {row' : SyncRow} (hrow' : (w.commit s).2.syncs.get? id = some row') :
    Unpublished id row' (w.commit s).2 ∨
      ∃ claimed run now, Published (publication sha claimed run now) id row' (w.commit s).2 := by
  rcases Write.syncs_after hrow' with hsame | ⟨rfl, hid, -, -⟩ | ⟨v, row, rfl, hrow, happly⟩ |
    ⟨p, row, rfl, hrow, hselects, rfl⟩
  · rcases h.syncs id row' hsame with unpublished | ⟨claimed, run, now, published⟩
    · exact .inl (unpublished.commit hw hrow' unpublished.run unpublished.status)
    · exact .inr ⟨claimed, run, now, published.commit hw owned runs hsame hrow'⟩
  · -- no manifest and no checkpoint is of a sync that is yet to come
    have absent : ∀ {row : SyncRow}, s.syncs.get? id ≠ some row := by
      intro row hrow
      rw [hid, Table.get?_nextId] at hrow
      cases hrow
    have fresh : Unpublished id row' s := by
      obtain ⟨plan, caseId, c, publicId, settings, key, fingerprint, message, now, rfl⟩ := hw
      refine ⟨rfl, rfl, fun i m hm hsync => ?_, fun i c hc hsync => ?_⟩
      · obtain ⟨row, hrow, -⟩ := owned.manifests i m hm
        exact absent (hsync ▸ hrow)
      · obtain ⟨row, hrow, -⟩ := owned.sources i c hc
        exact absent (hsync ▸ hrow)
    exact .inl (fresh.commit hw hrow' fresh.run fresh.status)
  · obtain ⟨hactive, -⟩ := SyncWrite.apply_active happly
    rcases h.syncs id row hrow with unpublished | ⟨claimed, run, now, published⟩
    · exact .inl (unpublished.commit hw hrow'
        ((SyncWrite.apply_run happly).trans unpublished.run) (SyncWrite.apply_unusable happly))
    · rw [published.ended] at hactive
      cases hactive
  · obtain ⟨claimed, run, now, rfl⟩ := provided p rfl
    rcases Write.publish_cases (publication sha claimed run now) s with hsame |
      ⟨-, -, -, -, hpublished⟩
    · rw [hsame] at hrow'
      have hrun := (Publication.selects_iff.mp hselects).2.2.2.2
      rw [Option.some.inj (hrow.symm.trans hrow')] at hrun
      cases hrun
    · exact .inr ⟨claimed, run, now, hpublished ▸ published_shows hw owned hrow hselects⟩

/-- A run after a commit: it was there, or was just published. -/
theorem runs_after {r : Nat} {run : IngestionRun} (h : (w.commit s).2.runs.get? r = some run) :
    s.runs.get? r = some run ∨ ∃ id row p, r = s.runs.nextId ∧ s.syncs.get? id = some row ∧
      p.selects id row = true ∧ (w.commit s).2 = s.published p := by
  cases w with
  | publish p =>
      rcases Write.publish_cases p s with hsame | ⟨⟨id, row, hrow, hselects⟩, -, -, -, hs⟩
      · rw [hsame] at h
        exact .inl h
      · rw [hs] at h
        change (s.runs.insert p.run).get? r = some run at h
        rw [Table.get?_insert] at h
        split at h
        case isTrue hr => exact .inr ⟨id, row, p, hr, hrow, hselects, hs⟩
        case isFalse => exact .inl h
  | deleteCase target now =>
      rcases Write.deleteCase_cases target now s with hsame | ⟨-, hs⟩
      · rw [hsame] at h
        exact .inl h
      · rw [hs] at h
        exact .inl (deleted_runs.mp h).1
  | insertSync row =>
      rcases Write.insertSync_cases row s with hsame | ⟨-, -, hs⟩
      · rw [hsame] at h
        exact .inl h
      · rw [hs] at h
        exact .inl h
  | sync v => exact .inl h
  | startBuilder token => exact .inl h
  | _ =>
      simp only [Write.commit, Store.touch, Store.touchIf] at h
      split at h <;> exact .inl h

theorem PublishedTogether.commit (hw : w.WellFormed)
    (provided : ∀ p, w = .publish p → ∃ claimed run now, p = publication sha claimed run now)
    (owned : JournalOwned s) (runs : RunsOwned s) (h : PublishedTogether sha s) :
    PublishedTogether sha (w.commit s).2 := by
  refine ⟨fun id row' hrow' => h.syncs_after hw provided owned runs hrow', fun r run hrun => ?_⟩
  rcases runs_after hrun with hrun₀ | ⟨id, row, p, rfl, hrow, hselects, hs⟩
  · obtain ⟨id, row, hrow, hr⟩ := h.runs r run hrun₀
    have hended : row.state.active = false := by
      rcases h.syncs id row hrow with unpublished | ⟨claimed, run, now, published⟩
      · rw [unpublished.run] at hr
        cases hr
      · exact published.ended
    rcases @ended_keeps w s _ _ hrow hended with hkept | ⟨target, now, -, hcase, hs⟩
    · exact ⟨id, row, hkept, hr⟩
    · rw [hs] at hrun
      exact absurd ⟨id, row, hrow, hcase, hr⟩ (deleted_runs.mp hrun).2
  · rw [hs]
    exact ⟨id, _, published_row hrow hselects, rfl⟩

end Together

/-! ## An open case -/

/-- While its lease runs, the claimed sync is that of the row, and its case
is open and has the claimed scope. -/
def OpenFor (claimed : ClaimedCaseSync) (s : Store) : Prop :=
  ∀ row, Leased claimed.lease row s → claimed.Of row ∧ ∃ c,
    s.cases.get? claimed.caseId = some c ∧ c.archivedAt = none ∧ c.scope = claimed.scope

/-- An active sync keeps its case from deletion and archival. -/
theorem open_keeps {w : Write} {s : Store} {id : Nat} {row : SyncRow} {c : CaseRow}
    (hrow : s.syncs.get? id = some row) (hactive : row.state.active = true)
    (hc : s.cases.get? row.caseId = some c) (hopen : c.archivedAt = none) :
    ∃ c', (w.commit s).2.cases.get? row.caseId = some c' ∧ c'.archivedAt = none ∧
      c'.fixed = c.fixed := by
  have busy : s.busy row.caseId ≠ false := by
    intro hidle
    have hended := (Store.idle_of_not_busy hidle).syncs id row hrow rfl
    rw [hactive] at hended
    cases hended
  cases w.commit_caseStep s with
  | same hcases hcatalog => exact ⟨c, hcases ▸ hc, hopen, rfl⟩
  | created new hw hfree hcases hcatalog =>
      refine ⟨c, ?_, hopen, rfl⟩
      rw [hcases, Table.get?_insert, if_neg (Nat.ne_of_lt (s.cases.lt_nextId hc)), hc]
  | touched caseId visible now f c₀ hc₀ hfixed hcases hcatalog why =>
      rw [hcases, Table.get?_update, hc, Option.map_some]
      by_cases hid : row.caseId = caseId
      · subst hid
        cases hc.symm.trans hc₀
        rw [if_pos rfl]
        refine ⟨f c, rfl, ?_, hfixed⟩
        cases why with
        | available h => exact h
        | insert new hw hcase h => exact h.trans hopen
        | publish p hw hrunning h => exact h.trans hopen
        | archive hw hidle h => exact absurd hidle busy
      · rw [if_neg hid]
        exact ⟨c, rfl, hopen, rfl⟩
  | deleted target now hw hidle hs =>
      refine ⟨c, ?_, hopen, rfl⟩
      rw [hs]
      refine get?_deleteOf.mpr ⟨hc, fun htarget => busy ?_⟩
      rw [of_decide_eq_true htarget]
      exact hidle

theorem OpenFor.commit {claimed : ClaimedCaseSync} {w : Write} {s : Store} (hw : w.WellFormed)
    (hclaim : ∀ id now leaseUntil, w ≠ .sync (.claim id claimed.lease.token now leaseUntil))
    (h : OpenFor claimed s) : OpenFor claimed (w.commit s).2 := by
  intro row' hrow'
  obtain ⟨row, hrow, hfixed⟩ := hrow'.before hw fun now leaseUntil => hclaim _ now leaseUntil
  obtain ⟨hof, c, hc, hopen, hscope⟩ := h row hrow
  rw [← hof.caseId] at hc ⊢
  obtain ⟨c', hc', hopen', hsame⟩ :=
    open_keeps (w := w) hrow.stored (hrow.running ▸ rfl) hc hopen
  exact ⟨hof.of_fixed hfixed, c', hc', hopen', (congrArg (·.2.2.1) hsame).trans hscope⟩

/-- In runs of what `provenance` guarantees, a publication is of an open
case. -/
def opened (sha : Sha256) : Protocol caseMachine where
  inv := StoreSound
  allowed := (provenance sha).may
  may := fun sid w s => ∀ p, w = .publish p → p.lease.token = sid ∧ ∃ claimed run now,
    p = publication sha claimed run now ∧ OpenFor claimed s
  preserved := fun _ _ _ hinv hallowed _ => hinv.commit hallowed.1

section Opened

variable {sha : Sha256} {sid : Nat} {claimed : ClaimedCaseSync}

theorem stable_opened {A : Store → Prop} (htoken : claimed.lease.token = sid)
    (keeps : ∀ (w : Write) s, w.WellFormed →
      (∀ id now leaseUntil, w ≠ .sync (.claim id claimed.lease.token now leaseUntil)) →
      A s → A (w.commit s).2) : (opened sha).Stable sid A := by
  intro s other w hother _ hallowed _ h
  refine keeps w s hallowed.1 (fun id now leaseUntil hw => hother ?_) h
  exact (hallowed.2.1 _ _ _ _ hw).symm.trans htoken

/-- The case is read open, with the claimed scope, before the run is
published. -/
theorem triple_publishOpened (htoken : claimed.lease.token = sid) (run : IngestionRun) :
    (opened sha).Triple sid (ClaimKnown claimed) (publishFinalRun sha claimed run).run
      fun _ => ClaimKnown claimed := by
  have stable : (opened sha).Stable sid (ClaimKnown claimed) :=
    stable_opened htoken fun _ _ hw hclaim h => h.commit hw hclaim
  have stableOpen : (opened sha).Stable sid (OpenFor claimed) :=
    stable_opened htoken fun _ _ hw hclaim h => h.commit hw hclaim
  refine triple_step (triple_askR stable _) (fun _ h => h) fun tick => ?_
  refine triple_selected stable (fun _ _ h => h) fun found => ?_
  cases found with
  | none =>
      refine triple_mono (A := ClaimKnown claimed) (fun _ h => h.1) (fun _ _ h => h) ?_
      exact triple_of_all stable (all_failWithoutRun (fun v hv s _ h =>
        ⟨fun _ heq => (nomatch heq), fun _ => h.commit trivial (fenced_ne_claim hv _)⟩) htoken
        _ _ _)
  | some found =>
      refine triple_mono (A := OpenFor claimed) (B := fun _ => OpenFor claimed)
        (fun s h row hrow => ?_) (fun _ _ h row hrow => (h row hrow).1) ?_
      · obtain ⟨hc, hread⟩ := Option.filter_eq_some_iff.mp h.2.symm
        simp only [Bool.and_eq_true, decide_eq_true_eq, Option.isNone_iff_eq_none] at hread
        exact ⟨h.1 row hrow, found, hc, hread.1.2, hread.2⟩
      · refine triple_of_all stableOpen (all_finishSync (fun v hv s _ h =>
          ⟨fun _ heq => (nomatch heq), fun _ => h.commit trivial (fenced_ne_claim hv _)⟩) htoken
          fun s _ h => ⟨fun p heq => ?_, fun allowed => ?_⟩)
        · cases heq
          exact ⟨htoken, claimed, run, tick.now, rfl, h⟩
        · exact h.commit allowed.1 fun _ _ _ heq => nomatch heq

theorem opened_program (sha : Sha256) (sid : Nat) (entry : Entry) :
    (opened sha).Triple sid (fun _ => True) (program sha sid entry) fun _ _ => True := by
  refine @triple_program (opened sha) sha (fun _ _ => True) ?_ ?_ ?_ sid entry
  · rintro sid w s _ hw p rfl
    exact hw.elim
  · intro sid
    refine triple_mono (B := fun _ _ => True) (fun _ h => h) (fun _ _ h => h)
      (triple_runSyncOnce (C := fun claimed s => claimed.lease.token = sid → ClaimKnown claimed s)
        Session.Protocol.stable_true (fun _ h => h) (fun _ _ _ => trivial)
        (fun _ _ _ _ => ⟨fun _ heq => (nomatch heq), fun _ => trivial⟩) ?_ ?_ ?_ ?_)
    · refine triple_mono (fun _ h => h) ?_ (triple_claimNextSync
        (fun _ _ _ _ _ _ heq => (nomatch heq)) fun _ _ _ _ _ heq => nomatch heq)
      rintro (raised | (_ | claimed)) s h
      · trivial
      · trivial
      · exact fun _ => h
    · intro claimed s other w hother hinv hallowed hmay h htoken
      exact stable_opened (A := ClaimKnown claimed) htoken (fun _ _ hw hclaim h =>
        h.commit hw hclaim) s other w hother hinv hallowed hmay (h htoken)
    · intro claimed htoken
      have stable : (opened sha).Stable sid (ClaimKnown claimed) :=
        stable_opened htoken fun _ _ hw hclaim h => h.commit hw hclaim
      refine triple_mono (fun _ h => h htoken) (fun _ _ _ => trivial) (triple_executeClaimed stable
        (fun v hv s _ h => ⟨fun _ heq => (nomatch heq), fun _ =>
          h.commit trivial (fenced_ne_claim hv _)⟩)
        (fun s _ h => ⟨fun _ heq => (nomatch heq), fun _ =>
          h.commit trivial fun _ _ _ heq => nomatch heq⟩) htoken (triple_publishOpened htoken))
    · exact fun claimed code message htoken => Session.Protocol.safe_of_all
        (all_failWithoutRun (fun _ _ _ _ _ heq => nomatch heq) htoken code message false)
  · intro sid
    exact evidencePermits_of (A := fun _ _ _ => True) (fun _ _ _ _ _ heq => nomatch heq)
      (fun _ _ _ _ _ _ _ _ heq => nomatch heq) (fun _ _ => Session.Protocol.stable_true)
      (fun _ _ _ _ _ _ => trivial) fun _ _ _ _ _ _ _ _ heq => nomatch heq

end Opened

/-! ## The claim of a lease -/

section Claims

variable {sha : Sha256} {history : List (Event (caseSystem sha))} {s : Store}

/-- The sync was claimed under the token while its case had this scope. -/
def ClaimRecorded (history : List (Event (caseSystem sha))) (token : Token) (id caseId : Nat)
    (scope : CaseScope) : Prop :=
  ∃ (now leaseUntil : Instant) (u : Store) (c : CaseRow),
    (Event.committed token (Write.sync (.claim id token now leaseUntil)) u :
      Event (caseSystem sha)) ∈ history ∧ u.cases.get? caseId = some c ∧ c.scope = scope

theorem ClaimRecorded.append {token : Token} {id caseId : Nat} {scope : CaseScope}
    (h : ClaimRecorded history token id caseId scope) (later : List (Event (caseSystem sha))) :
    ClaimRecorded (history ++ later) token id caseId scope := by
  obtain ⟨now, leaseUntil, u, c, hmem, hc, hscope⟩ := h
  exact ⟨now, leaseUntil, u, c, List.mem_append_left _ hmem, hc, hscope⟩

/-- The case of a sync is stored, and a lease that runs was claimed under the
scope of the case. -/
def LeasesClaimed (history : List (Event (caseSystem sha))) (s : Store) : Prop :=
  ∀ id row, s.syncs.get? id = some row → ∃ c, s.cases.get? row.caseId = some c ∧
    ∀ token, row.state = .running → row.leaseToken = some token →
      ClaimRecorded history token id row.caseId c.scope

/-- The case of a sync that a commit leaves. -/
theorem case_keeps {w : Write} {id : Nat} {row' : SyncRow} {c : CaseRow}
    (hrow' : (w.commit s).2.syncs.get? id = some row')
    (hc : s.cases.get? row'.caseId = some c) :
    ∃ c', (w.commit s).2.cases.get? row'.caseId = some c' ∧ c'.fixed = c.fixed := by
  by_cases hd : ∃ target now, w = .deleteCase target now
  · obtain ⟨target, now, rfl⟩ := hd
    rcases Write.deleteCase_cases target now s with hsame | ⟨-, hdeleted⟩
    · rw [hsame]
      exact ⟨c, hc, rfl⟩
    · rw [hdeleted] at hrow' ⊢
      exact ⟨c, get?_deleteOf.mpr ⟨hc, fun htarget =>
        caseId_of_deleted hrow' (of_decide_eq_true htarget)⟩, rfl⟩
  · exact cases_keeps (fun target now hw => absurd ⟨target, now, hw⟩ hd) hc

theorem LeasesClaimed.commit {sid : Nat} {w : Write} (hw : w.WellFormed)
    (hclaim : ∀ id token now leaseUntil, w = .sync (.claim id token now leaseUntil) → token = sid)
    (h : LeasesClaimed history s) :
    LeasesClaimed (history ++ [.committed sid w s]) (w.commit s).2 := by
  intro id row' hrow'
  -- the case before, and what it says of a lease that ran before
  have kept : ∀ c, s.cases.get? row'.caseId = some c →
      (∀ token, row'.state = .running → row'.leaseToken = some token →
        ClaimRecorded (history ++ [.committed sid w s]) token id row'.caseId c.scope) →
      ∃ c', (w.commit s).2.cases.get? row'.caseId = some c' ∧
        ∀ token, row'.state = .running → row'.leaseToken = some token →
          ClaimRecorded (history ++ [.committed sid w s]) token id row'.caseId c'.scope := by
    intro c hc hleased
    obtain ⟨c', hc', hfixed⟩ := case_keeps hrow' hc
    have scope : c'.scope = c.scope := congrArg (·.2.2.1) hfixed
    exact ⟨c', hc', fun token hrunning htoken => scope ▸ hleased token hrunning htoken⟩
  rcases Write.syncs_after hrow' with hsame | ⟨rfl, -, -, hcase⟩ | ⟨v, row, rfl, hrow, happly⟩ |
    ⟨p, row, rfl, hrow, hselects, rfl⟩
  · obtain ⟨c, hc, hleased⟩ := h id row' hsame
    exact kept c hc fun token hrunning htoken => (hleased token hrunning htoken).append _
  · obtain ⟨c, hc⟩ := Option.isSome_iff_exists.mp hcase
    refine kept c hc fun token hrunning _ => ?_
    obtain ⟨plan, caseId, c, publicId, settings, key, fingerprint, message, now, rfl⟩ := hw
    cases hrunning
  · obtain ⟨c, hc, hleased⟩ := h id row hrow
    have sameCase : row'.caseId = row.caseId :=
      congrArg (·.caseId) (SyncWrite.apply_active happly).2
    refine kept c (sameCase ▸ hc) fun token hrunning htoken => ?_
    rcases SyncWrite.apply_leased happly hrunning htoken with ⟨hrunning, htoken⟩ |
      ⟨now, leaseUntil, rfl⟩
    · exact sameCase ▸ (hleased token hrunning htoken).append _
    · obtain rfl := hclaim _ _ _ _ rfl
      exact ⟨now, leaseUntil, s, c, List.mem_append_right _ (List.mem_singleton_self _),
        sameCase ▸ hc, rfl⟩
  · obtain ⟨c, hc, -⟩ := h id row hrow
    refine kept c hc fun token hrunning _ => ?_
    obtain ⟨sha', claimed, run, now, rfl⟩ := hw
    have ended := publication_terminal sha' claimed run now
    rw [show (publication sha' claimed run now).state = .running from hrunning] at ended
    cases ended

theorem leasesClaimed {Q : Nat → Write → Store → Prop} {world : World (caseSystem sha)}
    (run : Recorded (Session.Keeping Q) Store.empty history world)
    (hQ : ∀ sid w t, Q sid w t → (provenance sha).may sid w t) :
    LeasesClaimed history world.state := by
  refine run.along (I := fun history (s : Store) => LeasesClaimed history s) ?_ ?_ ?_
  · intro id row hrow
    cases hrow
  · intro history sid entry t h id row hrow
    obtain ⟨c, hc, hleased⟩ := h id row hrow
    exact ⟨c, hc, fun token hrunning htoken => (hleased token hrunning htoken).append _⟩
  · intro history sid w t hw h
    exact h.commit (hQ sid w t hw).1 (hQ sid w t hw).2.1

end Claims

/-! ## Cancellation flags -/

/-- No update takes a flag back. -/
theorem SyncWrite.apply_flagged {v : SyncWrite} {id : Nat} {row row' : SyncRow}
    (h : v.apply id row = some row') (hflag : row.cancelRequestedAt.isSome = true) :
    row'.cancelRequestedAt.isSome = true := by
  cases v with
  | cancel syncId now =>
      simp only [apply, Option.ite_none_right_eq_some] at h
      rcases cancelled_cases h.2 with ⟨-, rfl⟩ | ⟨-, -, rfl⟩ <;> rfl
  | recoverExpired now =>
      rcases recovered_cases h with ⟨-, -, rfl⟩ | ⟨-, -, -, rfl⟩ | ⟨-, -, rfl⟩ | ⟨-, rfl⟩ <;>
        exact hflag
  | _ =>
      simp only [apply, Option.ite_none_right_eq_some, Option.some.injEq] at h
      obtain ⟨-, rfl⟩ := h
      exact hflag

theorem flag_keeps {w : Write} {s : Store} {id : Nat} {row row' : SyncRow}
    (h : s.syncs.get? id = some row) (hflag : row.cancelRequestedAt.isSome = true)
    (h' : (w.commit s).2.syncs.get? id = some row') : row'.cancelRequestedAt.isSome = true := by
  rcases Write.syncs_after h' with hsame | ⟨-, hid, -, -⟩ | ⟨v, row₀, -, h₀, happly⟩ |
    ⟨p, row₀, -, h₀, -, rfl⟩
  · cases h.symm.trans hsame
    exact hflag
  · rw [hid, Table.get?_nextId] at h
    cases h
  · cases h.symm.trans h₀
    exact SyncWrite.apply_flagged happly hflag
  · cases h.symm.trans h₀
    exact hflag

/-! ## Whole runs -/

section Runs

variable {sha : Sha256} {P : List (Event (caseSystem sha)) → World (caseSystem sha) →
  Move (caseSystem sha) → Prop} {history : List (Event (caseSystem sha))}
  {world : World (caseSystem sha)}

/-- What a publication that commits finds: the lease of its session, not
flagged, and an open case with the scope that was claimed. -/
structure PublicationFound (past : List (Event (caseSystem sha))) (sid : Nat) (p : Publication)
    (t : Store) : Prop where
  session : p.lease.token = sid
  unflagged : ∀ row, t.syncs.get? p.lease.jobId = some row →
    row.ownedBy sid p.now = true ∧ row.cancelRequestedAt = none ∧ row.ingestionRunId = none
  opened : ∃ c, t.cases.get? p.caseId = some c ∧ c.archivedAt = none ∧
    ClaimRecorded past sid p.lease.jobId p.caseId c.scope ∧
    ∃ claimed run now, p = publication sha claimed run now ∧ claimed.scope = c.scope
  committed : ((Write.publish p).commit t).2 = t.published p

/-- Leases fence, and publications are atomic, unique, of open cases and not
of flagged syncs. -/
structure PublicationSafe (history : List (Event (caseSystem sha))) (s : Store) : Prop where
  /-- A worker recovers, claims once, and then writes under its lease. -/
  workers : ∀ sid, Event.launched sid Entry.runSyncWorker ∈ history →
    (∀ c ∈ commitsOf sid history, Write.Recovers c.1) ∨ ∃ before c after,
      commitsOf sid history = before ++ c :: after ∧ (∀ c ∈ before, Write.Recovers c.1) ∧
        Write.ClaimsWith sid c.1 ∧ ∀ c ∈ after, Write.UnderLease sid c.1
  /-- Where the row has another lease, or an expired one, it changes no
  row. -/
  stale : ∀ sid w t, Event.committed sid w t ∈ history → Write.UnderLease sid w →
    (∀ lease now, Write.fence? w = some (lease, now) → ownedSync lease now t = none) →
    (Write.commit w t).2.rows = Store.rows t
  together : PublishedTogether sha s
  /-- A publication is found to be allowed, or changes nothing. -/
  found : ∀ past later sid (p : Publication) t,
    history = past ++ Event.committed sid (Write.publish p) t :: later →
    PublicationFound past sid p t ∨ ((Write.publish p).commit t).2 = t ∧ ¬ p.Commits t
  once : ∀ past between later a b (p q : Publication) t u,
    history = past ++ Event.committed a (Write.publish p) t ::
      (between ++ Event.committed b (Write.publish q) u :: later) →
    p.lease.jobId = q.lease.jobId → NotDeleted p.caseId between → p.Commits t → ¬ q.Commits u
  unflagged : ∀ past between later a b w (p : Publication) t u row,
    history = past ++ Event.committed a w t ::
      (between ++ Event.committed b (Write.publish p) u :: later) →
    (Write.commit w t).2.syncs.get? p.lease.jobId = some row →
    row.cancelRequestedAt.isSome = true → NotDeleted row.caseId between → ¬ p.Commits u

/-- What stays true of the row of a sync, and forbids its publication. -/
theorem not_commits_since (run : Recorded P Store.empty history world)
    {past between later : List (Event (caseSystem sha))} {a b : Nat} {w : Write}
    {p : Publication} {t u : Store} {A : SyncRow → Prop}
    (hhistory : history = past ++ Event.committed a w t ::
      (between ++ Event.committed b (Write.publish p) u :: later))
    (starts : ∃ row, (w.commit t).2.syncs.get? p.lease.jobId = some row ∧ A row)
    (continues : ∀ sid v s row, Event.committed sid v s ∈ between →
      s.syncs.get? p.lease.jobId = some row → A row →
      ∃ row', (Write.commit v s).2.syncs.get? p.lease.jobId = some row' ∧ A row')
    (forbids : ∀ row, p.selects p.lease.jobId row = true → ¬ A row) : ¬ p.Commits u := by
  have split : history = (past ++ Event.committed a w t :: between) ++
      Event.committed b (Write.publish p) u :: later := by
    rw [hhistory, List.append_assoc, List.cons_append]
  obtain ⟨world', run', rfl⟩ := run.at_commit split
  obtain ⟨row, hrow, hA⟩ := run'.since rfl
    (fun s : Store => ∃ row, s.syncs.get? p.lease.jobId = some row ∧ A row) starts
    fun sid v s hmem ⟨row, hrow, hA⟩ => continues sid v s row hmem hrow hA
  intro hcommits
  obtain ⟨row', hrow', hselects⟩ := hcommits.selected
  cases hrow.symm.trans hrow'
  exact forbids row hselects hA

/-- A sync that was published stays so, and no publication of it commits. -/
theorem published_once (run : Recorded P Store.empty history world)
    {past between later : List (Event (caseSystem sha))} {a b : Nat} {p q : Publication}
    {t u : Store} (hhistory : history = past ++ Event.committed a (Write.publish p) t ::
      (between ++ Event.committed b (Write.publish q) u :: later))
    (hterminal : p.state.active = false) (hjob : p.lease.jobId = q.lease.jobId)
    (hkept : NotDeleted p.caseId between) (hcommits : p.Commits t) : ¬ q.Commits u := by
  refine not_commits_since (A := fun row => row.state.active = false ∧ row.caseId = p.caseId) run
    hhistory ?_ ?_ ?_
  · rcases p.commit_cases t with ⟨hnot, -⟩ | ⟨-, hpublished, row, hrow, hselects⟩
    · exact absurd hcommits hnot
    · refine ⟨p.published t.runs.nextId row, ?_, hterminal,
        (Publication.selects_iff.mp hselects).2.1⟩
      rw [hpublished, ← hjob]
      exact published_row hrow hselects
  · rintro sid w v row hmem hrow ⟨hended, hcase⟩
    rcases @ended_keeps w v _ _ hrow hended with hrow' | ⟨target, now, rfl, htarget, -⟩
    · exact ⟨row, hrow', hended, hcase⟩
    · exact absurd (htarget.symm.trans hcase) (hkept sid target now v hmem)
  · rintro row hselects ⟨hended, -⟩
    rw [(SyncRow.ownedBy_running (Publication.selects_iff.mp hselects).2.2.1).1] at hended
    cases hended

/-- A sync that was flagged stays so, and no publication of it commits. -/
theorem flagged_unpublished (run : Recorded P Store.empty history world)
    {past between later : List (Event (caseSystem sha))} {a b : Nat} {w : Write}
    {p : Publication} {t u : Store} {row : SyncRow}
    (hhistory : history = past ++ Event.committed a w t ::
      (between ++ Event.committed b (Write.publish p) u :: later))
    (hrow : (w.commit t).2.syncs.get? p.lease.jobId = some row)
    (hflag : row.cancelRequestedAt.isSome = true) (hkept : NotDeleted row.caseId between) :
    ¬ p.Commits u := by
  refine not_commits_since (A := fun row' => row'.cancelRequestedAt.isSome = true ∧
    row'.caseId = row.caseId) run hhistory ⟨row, hrow, hflag, rfl⟩ ?_ ?_
  · rintro sid w' v row₁ hmem hrow₁ ⟨hflag₁, hcase₁⟩
    obtain ⟨row₂, hrow₂⟩ := Write.syncs_keeps (w := w')
      (fun target now hw htarget => hkept sid target now v (hw ▸ hmem)
        (htarget.symm.trans hcase₁)) hrow₁
    exact ⟨row₂, hrow₂, flag_keeps hrow₁ hflag₁ hrow₂,
      (congrArg (·.caseId) (Write.syncs_step hrow₁ hrow₂).1).trans hcase₁⟩
  · rintro row' hselects ⟨hflag', -⟩
    rw [(Publication.selects_iff.mp hselects).2.2.2.1] at hflag'
    cases hflag'

/-- What both protocols guarantee of each commit. -/
def Guarded (sha : Sha256) (sid : Nat) (w : Write) (t : Store) : Prop :=
  StoreSound t ∧ (provenance sha).may sid w t ∧ (opened sha).may sid w t

theorem recorded_guarded (run : Recorded P Store.empty history world) :
    Recorded (Session.Keeping (Guarded sha)) Store.empty history world := by
  have free : Recorded (Session.Keeping fun _ _ _ => True) Store.empty history world :=
    run.mono fun _ _ _ _ _ _ _ => trivial
  obtain ⟨provided, -⟩ := free.guarantee (R := provenance sha) (F := fun _ _ => True)
    (fun _ => Session.Protocol.stable_true) (provenance_program sha) (fun _ _ _ _ => trivial)
    (@storeSound_of_reaches sha _ (.refl _)) fun _ => trivial
  obtain ⟨kept, -⟩ := provided.guarantee (R := opened sha) (F := fun _ _ => True)
    (fun _ => Session.Protocol.stable_true) (opened_program sha) (fun _ _ _ h => h.2.2)
    (@storeSound_of_reaches sha _ (.refl _)) fun _ => trivial
  exact kept.mono fun _ _ _ h sid w hcommit =>
    ⟨(h sid w hcommit).2.1, (h sid w hcommit).1.2.2, (h sid w hcommit).2.2⟩

theorem publishedTogether (run : Recorded (Session.Keeping (Guarded sha)) Store.empty history
    world) : PublishedTogether sha world.state := by
  have both : PublishedTogether sha world.state ∧ RunsOwned world.state := by
    refine run.along (I := fun _ (s : Store) => PublishedTogether sha s ∧ RunsOwned s) ?_
      (fun _ _ _ _ h => h) fun _ sid w t hw h => ?_
    · refine ⟨⟨fun id row hrow => ?_, fun r run hrun => ?_⟩, runsOwned_start⟩
      · cases hrow
      · cases hrun
    · refine ⟨h.1.commit hw.2.1.1 (fun p heq => ?_) hw.1.owned h.2, h.2.commit hw.2.1.1⟩
      obtain ⟨-, claimed, run, now, hp, -⟩ := hw.2.2 p heq
      exact ⟨claimed, run, now, hp⟩
  exact both.1

/-- A publication that commits. -/
theorem publicationFound (run : Recorded (Session.Keeping (Guarded sha)) Store.empty history world)
    {past later : List (Event (caseSystem sha))} {sid : Nat} {p : Publication} {t : Store}
    (hhistory : history = past ++ Event.committed sid (Write.publish p) t :: later)
    (hcommits : p.Commits t) : PublicationFound past sid p t := by
  rcases p.commit_cases t with ⟨hnot, -⟩ | ⟨-, hpublished, row, hrow, hselects⟩
  · exact absurd hcommits hnot
  · obtain ⟨-, -, hopened⟩ := run.committed sid _ t
      (hhistory ▸ List.mem_append_right _ List.mem_cons_self)
    obtain ⟨htoken, claimed, built, now, rfl, hopen⟩ := hopened _ rfl
    obtain ⟨-, hcase, howned, hflag, hrun⟩ := Publication.selects_iff.mp hselects
    obtain ⟨hrunning, hlease⟩ := SyncRow.ownedBy_running howned
    obtain ⟨-, c, hc, harchived, hscope⟩ := hopen row ⟨hrow, hrunning, hlease⟩
    refine ⟨htoken, fun row' hrow' => ?_, ⟨c, hc, harchived, ?_, claimed, built, now, rfl,
      hscope.symm⟩, hpublished⟩
    · cases hrow.symm.trans hrow'
      exact ⟨htoken ▸ howned, hflag, hrun⟩
    · obtain ⟨before, run', rfl⟩ := run.at_commit hhistory
      obtain ⟨c', hc', hleased⟩ := leasesClaimed run' (fun _ _ _ hw => hw.2.1) _ row hrow
      rw [hcase] at hc' hleased
      cases hc.symm.trans hc'
      exact hleased sid hrunning (htoken ▸ hlease)

/-- In every run a lease that is not the current one changes no row, and what
is published of a sync is visible at once, once, of an open case with the
claimed scope, and never after the sync was flagged. -/
theorem publication_fenced (run : Recorded P Store.empty history world) :
    PublicationSafe history world.state where
  workers sid launched := run.phased (phased_worker sha sid) launched
  stale sid w t _ hw hstale := hw.rows hstale
  together := publishedTogether (recorded_guarded run)
  found past later sid p t hhistory := by
    by_cases hcommits : p.Commits t
    · exact .inl (publicationFound (recorded_guarded run) hhistory hcommits)
    · exact .inr ⟨(p.commit_cases t).resolve_right (fun h => hcommits h.1) |>.2, hcommits⟩
  once past between later a b p q t u hhistory hjob hkept hcommits := by
    obtain ⟨-, -, hopened⟩ := (recorded_guarded run).committed a _ t
      (hhistory ▸ List.mem_append_right _ List.mem_cons_self)
    obtain ⟨-, claimed, built, now, rfl, -⟩ := hopened _ rfl
    exact published_once run hhistory (publication_terminal sha claimed built now) hjob hkept
      hcommits
  unflagged past between later a b w p t u row hhistory hrow hflag hkept :=
    flagged_unpublished run hhistory hrow hflag hkept

end Runs

/-- A sync is published. -/
theorem publication_fenced_sample :
    PublicationSafe (World.history (start : World (caseSystem sampleSha)) sampleMoves)
        (sampleWorld sampleMoves).state ∧
      ((sampleWorld sampleMoves).state.runs.get? 1).isSome = true :=
  ⟨publication_fenced (Session.recorded_foldl (P := fun _ _ _ => True) (fun _ _ _ => true)
    (fun _ _ _ _ => trivial) sampleMoves .start (by decide +kernel)), by decide +kernel⟩

end TonTracker
