/-
# `Checkpoints.Provenance` — where a published run comes from

A worker publishes what its builder made of the request of the row it has
claimed, and a resume only after its source checkpoint has passed
`_validate_resume_checkpoint`.  Both hold of the store of the publication,
not only of the one the worker read: while its lease runs the row keeps
the columns that are written once, and no other sync of the case is
active, so the case has no new checkpoint (`Leased.frozen`).
-/
import TonTracker.Checkpoints.Resumes

namespace TonTracker

open Relational (Table)
open Session (World Run Move Reaches Protocol)
open Session.Prog (all_bindExcept all_tryCatch returns_bindExcept)
open Session.Protocol (triple_bindExcept triple_mono triple_of_all triple_returns triple_step
  triple_tryCatch)

/-! ## The row of a lease -/

/-- The row of a lease while the lease is the one it runs under. -/
structure Leased (lease : SyncLease) (row : SyncRow) (s : Store) : Prop where
  stored : s.syncs.get? lease.jobId = some row
  running : row.state = .running
  token : row.leaseToken = some lease.token

namespace SyncWrite

/-- Only a claim gives a row a token. -/
theorem apply_leased {w : SyncWrite} {id : Nat} {row row' : SyncRow} {token : Token}
    (h : w.apply id row = some row') (hrunning : row'.state = .running)
    (htoken : row'.leaseToken = some token) :
    (row.state = .running ∧ row.leaseToken = some token) ∨
      ∃ now leaseUntil, w = .claim id token now leaseUntil := by
  cases w with
  | cancel syncId now =>
      simp only [apply, Option.ite_none_right_eq_some] at h
      rcases cancelled_cases h.2 with ⟨-, rfl⟩ | ⟨hstate, -, rfl⟩
      · cases hrunning
      · exact .inl ⟨hstate, htoken⟩
  | recoverExpired now =>
      rcases recovered_cases h with ⟨-, -, rfl⟩ | ⟨-, -, -, rfl⟩ | ⟨-, -, rfl⟩ | ⟨-, rfl⟩ <;>
        cases hrunning
  | claim syncId other now leaseUntil =>
      simp only [apply, Option.ite_none_right_eq_some, Option.some.injEq, Bool.and_eq_true,
        decide_eq_true_eq] at h
      obtain ⟨⟨⟨⟨⟨rfl, -⟩, -⟩, -⟩, -⟩, rfl⟩ := h
      cases htoken
      exact .inr ⟨now, leaseUntil, rfl⟩
  | advance lease stage progress message now leaseUntil =>
      simp only [apply, Option.ite_none_right_eq_some, Option.some.injEq, Bool.and_eq_true] at h
      obtain ⟨⟨⟨-, howned⟩, -⟩, rfl⟩ := h
      exact .inl ⟨(SyncRow.ownedBy_running howned).1, htoken⟩
  | heartbeat lease now leaseUntil =>
      simp only [apply, Option.ite_none_right_eq_some, Option.some.injEq, Bool.and_eq_true] at h
      obtain ⟨⟨-, howned⟩, rfl⟩ := h
      exact .inl ⟨(SyncRow.ownedBy_running howned).1, htoken⟩
  | _ =>
      simp only [apply, Option.ite_none_right_eq_some, Option.some.injEq] at h
      obtain ⟨-, rfl⟩ := h
      cases hrunning

end SyncWrite

namespace Leased

variable {lease : SyncLease} {row row' : SyncRow} {s : Store} {w : Write}

/-- A lease that runs after a commit other than its claim ran before it. -/
theorem before (hw : w.WellFormed)
    (hclaim : ∀ now leaseUntil, w ≠ .sync (.claim lease.jobId lease.token now leaseUntil))
    (h : Leased lease row' (w.commit s).2) :
    ∃ row, Leased lease row s ∧ row'.fixed = row.fixed := by
  rcases Write.syncs_after h.stored with hsame | ⟨rfl, -, -, -⟩ | ⟨v, row, rfl, hrow, happly⟩ |
    ⟨p, row, rfl, hrow, hselects, rfl⟩
  · exact ⟨row', ⟨hsame, h.running, h.token⟩, rfl⟩
  · obtain ⟨plan, caseId, c, publicId, settings, key, fingerprint, message, now, rfl⟩ := hw
    exact nomatch h.token
  · rcases SyncWrite.apply_leased happly h.running h.token with ⟨hrunning, htoken⟩ |
      ⟨now, leaseUntil, rfl⟩
    · exact ⟨row, ⟨hrow, hrunning, htoken⟩, (SyncWrite.apply_active happly).2⟩
    · exact absurd rfl (hclaim now leaseUntil)
  · exact nomatch h.token

/-- While a lease runs its case has no new checkpoint: a publication is of
the one active sync, and ends it. -/
theorem frozen (hw : w.WellFormed) (owned : JournalOwned s) (sound : SyncsSound s)
    (h : Leased lease row s) (h' : Leased lease row' (w.commit s).2) :
    CheckpointsFrozen row.caseId s (w.commit s).2 := by
  have hactive : row.state.active = true := h.running ▸ rfl
  rcases @keeps_of_active w s _ _ h.stored hactive with hsame | hd
  · rw [hsame]
    exact ⟨.refl _, fun _ _ hc _ => hc⟩
  · refine ⟨checkpointsKept_commit hd hw owned, fun id c hc hcase => ?_⟩
    rcases checkpoints_after hc with hold | ⟨p, i, running, rfl, hrunning, hselects, hs, -, -, hnew⟩
    · exact hold
    · have hfence := Publication.selects_iff.mp hselects
      have hrunningcase : running.caseId = row.caseId := by
        obtain ⟨sha, claimed, run, now, rfl⟩ := hw
        exact hfence.2.1.trans
          ((publication_checkpoint (List.mem_of_getElem? hnew)).1.symm.trans hcase)
      have hone := sound.oneActive i lease.jobId running row hrunning h.stored hrunningcase
        ((SyncRow.ownedBy_running hfence.2.2.1).1 ▸ rfl) hactive
      have hended := h'.stored
      rw [hs, ← hone, published_row hrunning hselects] at hended
      cases hended
      exact nomatch h'.token

end Leased

/-! ## The check of a resume -/

section Frozen

variable {caseId : Nat} {s s' : Store} {sha : Sha256} {casePublicId : Uuid}

theorem streamCheckpoint?_frozen (h : CheckpointsFrozen caseId s s') (owned : JournalOwned s)
    (owned' : JournalOwned s') (publicId : HexDigest) :
    s'.streamCheckpoint? caseId publicId = s.streamCheckpoint? caseId publicId := by
  refine Option.ext fun found => ?_
  rw [streamCheckpoint?_eq_some owned', streamCheckpoint?_eq_some owned]
  exact ⟨fun ⟨hc, hcase, hid⟩ => ⟨h.none_new _ _ hc hcase, hcase, hid⟩,
    fun ⟨hc, hcase, hid⟩ => ⟨h.kept _ _ hc hcase, hcase, hid⟩⟩

theorem recomputedSchedule_frozen (h : CheckpointsFrozen caseId s s') (owned : JournalOwned s)
    (owned' : JournalOwned s') (ids : PublicIds s) (ids' : PublicIds s') (cutoffId : Nat)
    (budget : PageBudget) : recomputedSchedule sha s' caseId casePublicId cutoffId budget =
      recomputedSchedule sha s caseId casePublicId cutoffId budget := by
  have tips : s'.latestStreamCheckpointsAtCutoff caseId (some cutoffId) =
      s.latestStreamCheckpointsAtCutoff caseId (some cutoffId) :=
    List.filterMap_congr fun key _ => h.streamTip? (some cutoffId) key
  have chains : ∀ c ∈ s.latestStreamCheckpointsAtCutoff caseId (some cutoffId),
      verifiedStreamCheckpointChain sha s' caseId casePublicId c =
        verifiedStreamCheckpointChain sha s caseId casePublicId c := by
    intro c hc
    obtain ⟨key, -, hkey⟩ := List.mem_filterMap.mp hc
    exact verifiedStreamCheckpointChain_kept h.toCheckpointsKept owned owned' ids ids'
      (streamTip?_eq_some hkey).1 (streamTip?_eq_some hkey).2.1
  unfold recomputedSchedule backfillProgressResponse checkpointContinuationPlanResponse
  dsimp only
  rw [tips, ExceptFold.mapM_congr fun c hc => by unfold verifiedProgressStream; rw [chains c hc],
    ExceptFold.mapM_congr chains]
  rfl

/-- The check of a resume reads the same while the case has no new
checkpoint. -/
theorem validateResumeCheckpoint_frozen {claimed : ClaimedCaseSync}
    (h : CheckpointsFrozen claimed.caseId s s') (owned : JournalOwned s)
    (owned' : JournalOwned s') (ids : PublicIds s) (ids' : PublicIds s')
    (resume : ResumePlan Uuid HexDigest) :
    validateResumeCheckpoint sha s' claimed resume =
      validateResumeCheckpoint sha s claimed resume := by
  unfold validateResumeCheckpoint
  rw [streamCheckpoint?_frozen h owned owned']
  cases hfound : s.streamCheckpoint? claimed.caseId resume.sourceCheckpoint with
  | none => rfl
  | some found =>
      obtain ⟨hc, hcase, -⟩ := (streamCheckpoint?_eq_some owned).mp hfound
      dsimp only
      rw [streamCheckpointResponse_kept h.toCheckpointsKept hc hcase, h.streamTip?]
      simp only [streamCheckpoint?_frozen h owned owned',
        recomputedSchedule_frozen h owned owned' ids ids']

end Frozen

/-! ## What the worker knows -/

/-- The claimed sync was read from the row. -/
structure ClaimedCaseSync.Of (claimed : ClaimedCaseSync) (row : SyncRow) : Prop where
  caseId : row.caseId = claimed.caseId
  publicId : row.publicId = claimed.publicId
  surfaces : row.requestedSurfaces = claimed.requestedSurfaces
  plan : row.plan = claimed.plan
  interval : claimedInterval row.storedPlan =
    .ok (claimed.acquisitionStart, claimed.acquisitionEnd)

theorem ClaimedCaseSync.Of.of_fixed {claimed : ClaimedCaseSync} {row row' : SyncRow}
    (h : claimed.Of row) (hfixed : row'.fixed = row.fixed) : claimed.Of row' where
  caseId := (congrArg (·.caseId) hfixed).trans h.caseId
  publicId := (congrArg (·.publicId) hfixed).trans h.publicId
  surfaces := (congrArg (·.requestedSurfaces) hfixed).trans h.surfaces
  plan := (congrArg (·.plan) hfixed).trans h.plan
  interval := (congrArg (fun row => claimedInterval row.storedPlan) hfixed).trans h.interval

/-- While its lease runs, the claimed sync is that of the row. -/
def ClaimKnown (claimed : ClaimedCaseSync) (s : Store) : Prop :=
  ∀ row, Leased claimed.lease row s → claimed.Of row

/-- And its source checkpoint passes the check of a resume. -/
def ResumeChecked (sha : Sha256) (claimed : ClaimedCaseSync) (s : Store) : Prop :=
  ∀ row, Leased claimed.lease row s → claimed.Of row ∧
    ∀ resume, claimed.plan.resume? = some resume →
      validateResumeCheckpoint sha s claimed resume = none

/-- What a worker publishes. -/
def Provided (sha : Sha256) (p : Publication) (s : Store) : Prop :=
  ∃ (claimed : ClaimedCaseSync) (settings : ActivitySettings) (answers : ProviderAnswers)
    (run : IngestionRun) (now : Instant), p = publication sha claimed run now ∧
      buildWalletIngestionRun settings claimed.buildRequest answers = .ok run ∧
      ResumeChecked sha claimed s

/-- What holds of the store whatever the sessions do. -/
structure StoreSound (s : Store) : Prop where
  owned : JournalOwned s
  ids : PublicIds s
  syncs : SyncsSound s

theorem StoreSound.commit {w : Write} {s : Store} (hw : w.WellFormed) (h : StoreSound s) :
    StoreSound (w.commit s).2 :=
  ⟨h.owned.commit hw, h.ids.commit, h.syncs.commit hw⟩

theorem storeSound_of_reaches {sha : Sha256} {world : World (caseSystem sha)}
    (reached : Reaches start world) : StoreSound world.state :=
  ⟨journalOwned_of_reaches reached, publicIds_of_reaches reached, syncsSound_of_reaches reached⟩

/-- A token claims for its own session, and a worker publishes what it was
provided with. -/
def provenance (sha : Sha256) : Protocol caseMachine where
  inv := StoreSound
  allowed := fun _ _ _ => True
  may := fun sid w s => Write.WellFormed w ∧
    (∀ id token now leaseUntil, w = .sync (.claim id token now leaseUntil) → token = sid) ∧
    ∀ p, w = .publish p → Provided sha p s
  preserved := fun _ _ _ hinv _ hmay => hinv.commit hmay.1

section Kept

variable {sha : Sha256} {claimed : ClaimedCaseSync} {s : Store} {w : Write}

theorem ClaimKnown.commit (hw : w.WellFormed) (hclaim : ∀ id now leaseUntil,
    w ≠ .sync (.claim id claimed.lease.token now leaseUntil)) (h : ClaimKnown claimed s) :
    ClaimKnown claimed (w.commit s).2 := by
  intro row' hrow'
  obtain ⟨row, hrow, hfixed⟩ := hrow'.before hw fun now leaseUntil => hclaim _ now leaseUntil
  exact (h row hrow).of_fixed hfixed

theorem ResumeChecked.commit (hinv : StoreSound s) (hw : w.WellFormed)
    (hclaim : ∀ id now leaseUntil, w ≠ .sync (.claim id claimed.lease.token now leaseUntil))
    (h : ResumeChecked sha claimed s) :
    ResumeChecked sha claimed (w.commit s).2 := by
  intro row' hrow'
  obtain ⟨row, hrow, hfixed⟩ := hrow'.before hw fun now leaseUntil => hclaim _ now leaseUntil
  obtain ⟨hof, hvalid⟩ := h row hrow
  have frozen := hrow.frozen hw hinv.owned hinv.syncs hrow'
  rw [hof.caseId] at frozen
  refine ⟨hof.of_fixed hfixed, fun resume hresume => ?_⟩
  rw [validateResumeCheckpoint_frozen frozen hinv.owned (hinv.commit hw).owned hinv.ids
    (hinv.commit hw).ids]
  exact hvalid resume hresume

theorem ClaimKnown.stable {sid : Nat} (htoken : claimed.lease.token = sid) :
    (provenance sha).Stable sid (ClaimKnown claimed) := by
  intro s other w hother _ _ hmay h
  refine h.commit hmay.1 fun id now leaseUntil hw => hother ?_
  exact (hmay.2.1 _ _ _ _ hw).symm.trans htoken

theorem ResumeChecked.stable {sid : Nat} (htoken : claimed.lease.token = sid) :
    (provenance sha).Stable sid (ResumeChecked sha claimed) := by
  intro s other w hother hinv _ hmay h
  refine h.commit hinv hmay.1 fun id now leaseUntil hw => hother ?_
  exact (hmay.2.1 _ _ _ _ hw).symm.trans htoken

end Kept

/-! ## The steps of a worker under a protocol -/

section Steps

variable {R : Protocol caseMachine} {sid : Nat}

/-- A step that keeps an assertion, whatever it raises. -/
theorem triple_checked {ε α β : Type} {A : Store → Prop} {p : Raising ε α} {f : α → Raising ε β}
    {B : Except ε β → Store → Prop}
    (hp : R.Triple sid A p.run fun _ => A)
    (hraise : ∀ error s, A s → B (.error error) s)
    (hf : ∀ value, R.Triple sid A (f value).run B) :
    R.Triple sid A (p >>= f).run B := by
  refine triple_bindExcept (C := fun _ => A) (triple_mono (fun _ h => h) ?_ hp) hf
  rintro (error | value) s h
  · exact hraise error s h
  · exact h

theorem triple_selectSync {α : Type} {A : Store → Prop} (stable : R.Stable sid A)
    (f : Store → α) : R.Triple sid A (selectSync f).run fun result s =>
      A s ∧ ∀ value, result = .ok value → value = f s := by
  refine triple_checked (triple_askFlag stable _) (fun _ _ h => ⟨h, fun _ heq => nomatch heq⟩)
    fun fails => ?_
  split
  · exact Session.Protocol.triple_done fun _ h => ⟨h, fun _ heq => nomatch heq⟩
  · refine Session.Protocol.triple_read stable fun s _ h => ?_
    exact Session.Protocol.triple_done fun s' heq => by
      subst heq
      exact ⟨h, fun _ heq => (Except.ok.inj heq).symm⟩

/-- A lookup whose result decides what follows. -/
theorem triple_selected {α β : Type} {A : Store → Prop} {f : Store → α} {g : α → SyncStep β}
    {B : Except SyncRaised β → Store → Prop} (stable : R.Stable sid A)
    (hraise : ∀ error s, A s → B (.error error) s)
    (hg : ∀ value, R.Triple sid (fun s => A s ∧ value = f s) (g value).run B) :
    R.Triple sid A (selectSync f >>= g).run B := by
  refine triple_bindExcept (C := fun value s => A s ∧ value = f s)
    (triple_mono (fun _ h => h) ?_ (triple_selectSync stable f)) hg
  rintro (error | value) s ⟨h, hvalue⟩
  · exact hraise error s h
  · exact ⟨h, hvalue value rfl⟩

/-- What was claimed is what the row of the lease holds. -/
theorem known_of_claimed {claimed : ClaimedCaseSync} {syncId : Nat} {token : Token} {row : SyncRow}
    {c : CaseRow} {s : Store}
    (hrow : claimedRow syncId token s = some (row, c))
    (hclaimed : claimedCaseSync syncId token row c = .ok claimed) : ClaimKnown claimed s := by
  intro row' hleased
  unfold claimedRow at hrow
  obtain ⟨stored, hstored, hrow⟩ := Option.bind_eq_some_iff.mp hrow
  obtain ⟨found, -, hrow⟩ := Option.bind_eq_some_iff.mp hrow
  split at hrow
  case isFalse => cases hrow
  case isTrue =>
    cases hrow
    unfold claimedCaseSync at hclaimed
    split at hclaimed
    · cases hclaimed
    next interval hinterval =>
      cases hclaimed
      have hsame := hleased.stored
      rw [hstored] at hsame
      cases hsame
      exact ⟨rfl, rfl, rfl, rfl, hinterval⟩

/-- A claim, of which the session then knows the row. -/
theorem triple_claimNextSync
    (hclaim : ∀ syncId now leaseUntil s, R.inv s →
      R.may sid (.sync (.claim syncId sid now leaseUntil)) s)
    (hclose : ∀ syncId now s, R.inv s →
      R.may sid (.sync (.closeUnavailable ⟨syncId, sid⟩ now)) s) :
    R.Triple sid (fun _ => True) (claimNextSync sid).run fun result s => match result with
      | .ok (some claimed) => ClaimKnown claimed s
      | .ok none => True
      | .error _ => True := by
  have stable : R.Stable sid fun _ => True := Session.Protocol.stable_true
  have claims : ∀ syncId now leaseUntil, R.Triple sid (fun _ => True)
      (transactSync (.sync (.claim syncId sid now leaseUntil))).run fun _ _ => True :=
    fun syncId now leaseUntil => Session.Protocol.safe_of_all
      (all_transactSync fun s hs => hclaim syncId now leaseUntil s hs)
  have closes : ∀ syncId now, R.Triple sid (fun _ => True)
      (transactSync (.sync (.closeUnavailable ⟨syncId, sid⟩ now))).run fun _ _ => True :=
    fun syncId now => Session.Protocol.safe_of_all
      (all_transactSync fun s hs => hclose syncId now s hs)
  refine triple_checked (triple_askFlag stable _) (fun _ _ _ => trivial) fun stop => ?_
  split
  · exact Session.Protocol.triple_done fun _ _ => trivial
  · refine triple_checked (triple_askR stable _) (fun _ _ _ => trivial) fun tick => ?_
    refine triple_selected stable (fun _ _ _ => trivial) fun next => ?_
    split
    · exact Session.Protocol.triple_done fun _ _ => trivial
    next syncId row =>
      refine triple_mono (A := fun _ => True) (fun _ _ => trivial) (fun _ _ h => h) ?_
      refine triple_checked (triple_askFlag stable _) (fun _ _ _ => trivial) fun stop => ?_
      split
      · exact Session.Protocol.triple_done fun _ _ => trivial
      · refine triple_checked (claims _ _ _) (fun _ _ _ => trivial) fun count => ?_
        split
        · refine triple_selected stable (fun _ _ _ => trivial) fun found => ?_
          split
          · refine triple_mono (A := fun _ => True) (fun _ _ => trivial) (fun _ _ h => h) ?_
            refine triple_checked (triple_askR stable _) (fun _ _ _ => trivial) fun tick => ?_
            exact triple_checked (closes _ _) (fun _ _ _ => trivial) fun _ =>
              Session.Protocol.triple_done fun _ _ => trivial
          next row c =>
            cases hclaimed : claimedCaseSync syncId sid row c with
            | error raised => exact Session.Protocol.triple_done fun _ _ => trivial
            | ok claimed =>
                exact Session.Protocol.triple_done fun s h => known_of_claimed h.2.symm hclaimed
        · exact Session.Protocol.triple_done fun _ _ => trivial

/-- A build that returns runs of `B`, and what becomes of them, under an
assertion that the writes of the session keep. -/
theorem triple_executeSettings {sha : Sha256} {claimed : ClaimedCaseSync} {A : Store → Prop}
    {B : IngestionRun → Prop} (stable : R.Stable sid A)
    (hfenced : ∀ v : SyncWrite, v.Fenced sid → ∀ s, R.inv s → A s → R.may sid (.sync v) s ∧
      (R.allowed sid (.sync v) s → A (Write.commit (.sync v) s).2))
    (htoken : claimed.lease.token = sid) (settings : RuntimeSettings)
    (hbuild : R.Triple sid A (buildWithHeartbeats claimed settings).run fun result s =>
      A s ∧ ∀ built, result = .ok built → B built.1)
    (hfinish : ∀ run, B run → R.Triple sid A (finishRun sha claimed run).run fun _ => A) :
    R.Triple sid A (executeWithSettings sha claimed settings).run fun _ => A := by
  have fails : ∀ code message, R.Triple sid A
      (failWithoutRun claimed.lease code message false).run fun _ => A :=
    fun code message => triple_of_all stable (all_failWithoutRun hfenced htoken code message false)
  refine triple_step (triple_askFlag stable _) (fun _ h => h) fun stop => ?_
  split
  · exact triple_pure _ fun _ h => h
  · refine triple_step (triple_of_all stable (all_advanceSync hfenced htoken _ _ _))
      (fun _ h => h) fun moved => ?_
    split
    case isFalse => exact triple_pure _ fun _ h => h
    case isTrue =>
      refine triple_bindExcept (C := fun built? s => A s ∧ ∀ built, built? = some built →
        B built.1) (triple_tryCatch (C := fun _ => A) ?_ fun raised => ?_) fun built? => ?_
      · refine triple_bindExcept (C := fun built s => A s ∧ B built.1)
          (triple_mono (fun _ h => h) ?_ hbuild) fun built => ?_
        · rintro (raised | built) s h
          · exact h.1
          · exact ⟨h.1, h.2 built rfl⟩
        · refine Session.Protocol.triple_done fun s h => ⟨h.1, fun other heq => ?_⟩
          cases heq
          exact h.2
      · have none_built : R.Triple sid A
            (pure none : SyncStep (Option (IngestionRun × Bool × Bool))).run
              fun result s => match result with
                | .ok built? => A s ∧ ∀ built, built? = some built → B built.1
                | .error _ => A s :=
          Session.Protocol.triple_done fun _ h => ⟨h, fun _ heq => nomatch heq⟩
        cases raised with
        | scopeMismatch message =>
            exact triple_checked (fails _ _) (fun _ _ h => h) fun _ => none_built
        | valueError message =>
            exact triple_checked (fails _ _) (fun _ _ h => h) fun _ => none_built
        | stopRequested => exact none_built
        | _ => exact Session.Protocol.triple_done fun _ h => h
      · cases built? with
        | none => exact Session.Protocol.triple_done fun _ h => h.1
        | some built =>
            obtain ⟨run, owned, seen⟩ := built
            intro s hinv ⟨hA, hrun⟩
            have finishes : ∀ cancelled : Bool, R.Triple sid A
                (if cancelled = true then finishCancelledSync claimed.lease
                  else finishRun sha claimed run).run fun _ => A := by
              intro cancelled
              split
              · exact triple_of_all stable (all_finishCancelledSync hfenced htoken)
              · exact hfinish run (hrun _ rfl)
            refine (?_ : R.Triple sid A _ fun _ => A) s hinv hA
            dsimp only
            split
            case isFalse => exact triple_pure _ fun _ h => h
            case isTrue =>
              split
              · exact triple_step (triple_pure _ fun _ h => h) (fun _ h => h) finishes
              · exact triple_step (triple_of_all stable (all_syncCancelRequested _))
                  (fun _ h => h) finishes

/-- The execution of a claimed sync, under an assertion that its own writes
keep. -/
theorem triple_executeClaimed {sha : Sha256} {claimed : ClaimedCaseSync} {A : Store → Prop}
    (stable : R.Stable sid A)
    (hfenced : ∀ v : SyncWrite, v.Fenced sid → ∀ s, R.inv s → A s → R.may sid (.sync v) s ∧
      (R.allowed sid (.sync v) s → A (Write.commit (.sync v) s).2))
    (hstart : ∀ s, R.inv s → A s → R.may sid (.startBuilder sid) s ∧
      (R.allowed sid (.startBuilder sid) s → A (Write.commit (.startBuilder sid) s).2))
    (htoken : claimed.lease.token = sid)
    (hpublish : ∀ run, R.Triple sid A (publishFinalRun sha claimed run).run fun _ => A) :
    R.Triple sid A (executeClaimedSync sha claimed).run fun _ => A := by
  have fails : ∀ code message, (failWithoutRun claimed.lease code message false).run.All R.inv
      (fun w => ∀ s, R.inv s → A s → R.may sid w s ∧ (R.allowed sid w s → A (w.commit s).2)) :=
    fun code message => all_failWithoutRun hfenced htoken code message false
  have finish : ∀ run, R.Triple sid A (finishRun sha claimed run).run fun _ => A := by
    intro run
    unfold finishRun
    cases run.status with
    | other => exact triple_of_all stable (fails _ _)
    | _ =>
        dsimp only
        split
        · exact triple_of_all stable (all_scheduleSyncRetry hfenced htoken _ _)
        · refine triple_step (triple_of_all stable (all_advanceSync hfenced htoken _ _ _))
            (fun _ h => h) fun moved => ?_
          split
          · exact hpublish run
          · exact triple_pure _ fun _ h => h
  refine triple_step (triple_of_all stable (all_tryCatch ?_ fun raised => ?_)) (fun _ h => h)
    fun settings => ?_
  · exact all_bindExcept (all_validatedSettings sha claimed) fun _ => trivial
  · cases raised with
    | runtimeConflict message => exact all_bindExcept (fails _ _) fun _ => trivial
    | _ => trivial
  · cases settings with
    | none => exact triple_pure _ fun _ h => h
    | some settings =>
        exact triple_executeSettings (B := fun _ => True) stable hfenced htoken settings
          (triple_mono (fun _ h => h) (fun _ _ h => ⟨h, fun _ _ => trivial⟩)
            (triple_of_all stable (all_buildWithHeartbeats hfenced htoken settings hstart)))
          fun run _ => finish run

end Steps

/-! ## The worker -/

section Worker

variable {sha : Sha256} {sid : Nat}

/-- A write of the worker under its lease. -/
theorem may_fenced {v : SyncWrite} (hv : v.Fenced sid) (s : Store) :
    (provenance sha).may sid (.sync v) s := by
  refine ⟨trivial, fun id token now leaseUntil hw => ?_, fun p hw => nomatch hw⟩
  cases hw
  exact hv.elim

theorem fenced_ne_claim {v : SyncWrite} {token : Token} (hv : v.Fenced token) (other : Token) :
    ∀ id now leaseUntil, Write.sync v ≠ .sync (.claim id other now leaseUntil) := by
  intro id now leaseUntil hw
  cases hw
  exact hv.elim

variable {claimed : ClaimedCaseSync}

/-- The writes of a worker under its lease keep what it has checked. -/
theorem keeps_fenced (v : SyncWrite) (hv : v.Fenced sid) (s : Store)
    (hinv : (provenance sha).inv s) (h : ResumeChecked sha claimed s) :
    (provenance sha).may sid (.sync v) s ∧ ((provenance sha).allowed sid (.sync v) s →
      ResumeChecked sha claimed (Write.commit (.sync v) s).2) :=
  ⟨may_fenced hv s, fun _ => h.commit hinv trivial (fenced_ne_claim hv _)⟩

theorem safe_fenced (v : SyncWrite) (hv : v.Fenced sid) (s : Store)
    (_ : (provenance sha).inv s) : (provenance sha).may sid (.sync v) s := may_fenced hv s

/-- The settings are returned once the source checkpoint has passed. -/
theorem triple_validatedSettings (htoken : claimed.lease.token = sid) :
    (provenance sha).Triple sid (ClaimKnown claimed) (validatedSettings sha claimed).run
      fun result s => ∀ settings, result = .ok settings → ResumeChecked sha claimed s := by
  have stable : (provenance sha).Stable sid (ClaimKnown claimed) := ClaimKnown.stable htoken
  have raises : ∀ (error : SyncRaised) (A : Store → Prop), (provenance sha).Triple sid A
      (throw error : SyncStep RuntimeSettings).run
        fun result s => ∀ settings, result = .ok settings → ResumeChecked sha claimed s :=
    fun error A => Session.Protocol.triple_done fun _ _ _ heq => nomatch heq
  refine triple_selected stable (fun _ _ _ _ heq => nomatch heq) fun c => ?_
  refine triple_mono (A := ClaimKnown claimed) (fun _ h => h.1) (fun _ _ h => h) ?_
  cases c with
  | none => exact raises _ _
  | some c =>
      dsimp only
      split
      case isFalse => exact raises _ _
      case isTrue =>
        refine triple_checked (triple_askR stable _) (fun _ _ _ _ heq => nomatch heq)
          fun settings => ?_
        cases settings with
        | error message => exact raises _ _
        | ok settings =>
            dsimp only
            cases hresume : claimed.plan.resume? with
            | none =>
                refine Session.Protocol.triple_done fun s h _ _ row hrow => ⟨h row hrow, ?_⟩
                intro resume heq
                rw [hresume] at heq
                cases heq
            | some resume =>
                dsimp only
                split
                case isFalse => exact raises _ _
                case isTrue =>
                  refine triple_selected stable (fun _ _ _ _ heq => nomatch heq) fun refusal => ?_
                  cases refusal with
                  | some message => exact raises _ _
                  | none =>
                      refine Session.Protocol.triple_done fun s h _ _ row hrow => ⟨h.1 row hrow, ?_⟩
                      intro other heq
                      rw [hresume] at heq
                      cases heq
                      exact h.2.symm

/-- The run is one the builder makes of the request. -/
theorem triple_provided (htoken : claimed.lease.token = sid) (settings : RuntimeSettings) :
    (provenance sha).Triple sid (ResumeChecked sha claimed)
      (buildWithHeartbeats claimed settings).run
      fun result s => ResumeChecked sha claimed s ∧ ∀ built, result = .ok built → ∃ answers,
        buildWalletIngestionRun settings.activity claimed.buildRequest answers = .ok built.1 := by
  have stable : (provenance sha).Stable sid (ResumeChecked sha claimed) :=
    ResumeChecked.stable htoken
  have raised : ∀ (error : SyncRaised) (s : Store), ResumeChecked sha claimed s →
      ResumeChecked sha claimed s ∧ ∀ built : IngestionRun × Bool × Bool,
        (.error error : Except SyncRaised _) = .ok built → ∃ answers,
          buildWalletIngestionRun settings.activity claimed.buildRequest answers = .ok built.1 :=
    fun _ _ h => ⟨h, fun _ heq => nomatch heq⟩
  have starts : (provenance sha).Triple sid (ResumeChecked sha claimed)
      (commitR (ε := SyncRaised) (.startBuilder claimed.lease.token)).run
        fun _ => ResumeChecked sha claimed := by
    refine triple_of_all stable (all_commitR fun s hinv h => ⟨⟨trivial, ?_, ?_⟩, fun _ => ?_⟩)
    · exact fun _ _ _ _ heq => nomatch heq
    · exact fun _ heq => nomatch heq
    · exact h.commit hinv trivial fun _ _ _ heq => nomatch heq
  refine triple_checked (triple_askFlag stable _) raised fun stop => ?_
  split
  · exact Session.Protocol.triple_done (raised _)
  · refine triple_checked starts raised fun _ => ?_
    refine triple_checked (triple_askR stable _) raised fun answers => ?_
    refine triple_checked (triple_askR stable _) raised fun rounds => ?_
    refine triple_checked (triple_of_all stable
      (all_watchBuilder (fun v hv s hinv h => keeps_fenced v hv s hinv h) htoken rounds false))
      raised fun watched => ?_
    obtain ⟨owned, seen⟩ := watched
    dsimp only
    refine triple_checked (triple_askFlag stable _) raised fun stop => ?_
    cases hrun : buildWalletIngestionRun settings.activity claimed.buildRequest answers with
    | ok run =>
        refine Session.Protocol.triple_done fun s h => ⟨h, fun built heq => ?_⟩
        cases heq
        exact ⟨answers, hrun⟩
    | error error => cases error <;> exact Session.Protocol.triple_done (raised _)

/-- The end of an execution may publish the built run. -/
theorem triple_finishBuilt (htoken : claimed.lease.token = sid) {settings : ActivitySettings}
    {answers : ProviderAnswers} {run : IngestionRun}
    (hrun : buildWalletIngestionRun settings claimed.buildRequest answers = .ok run) :
    (provenance sha).Triple sid (ResumeChecked sha claimed) (finishRun sha claimed run).run
      fun _ => ResumeChecked sha claimed := by
  refine triple_of_all (ResumeChecked.stable htoken) (all_finishRun
    (fun v hv s hinv h => keeps_fenced v hv s hinv h) htoken sha run fun now s hinv h => ?_)
  have published : Write.WellFormed (.publish (publication sha claimed run now)) :=
    ⟨sha, claimed, run, now, rfl⟩
  refine ⟨⟨published, fun _ _ _ _ heq => (nomatch heq), fun p heq => ?_⟩, fun _ => ?_⟩
  · cases heq
    exact ⟨claimed, settings, answers, run, now, rfl, hrun, h⟩
  · exact h.commit hinv published fun _ _ _ heq => nomatch heq

theorem triple_executeProvided (htoken : claimed.lease.token = sid) (settings : RuntimeSettings) :
    (provenance sha).Triple sid (ResumeChecked sha claimed)
      (executeWithSettings sha claimed settings).run
      fun _ => ResumeChecked sha claimed := by
  refine triple_executeSettings (B := fun run => ∃ answers, buildWalletIngestionRun
    settings.activity claimed.buildRequest answers = .ok run) (ResumeChecked.stable htoken)
    (fun v hv s hinv h => keeps_fenced v hv s hinv h) htoken settings
    (triple_provided htoken settings) ?_
  rintro run ⟨answers, hrun⟩
  exact triple_finishBuilt htoken hrun

theorem triple_executeChecked (htoken : claimed.lease.token = sid) :
    (provenance sha).Triple sid (ClaimKnown claimed) (executeClaimedSync sha claimed).run
      fun _ _ => True := by
  refine triple_bindExcept (C := fun settings? s => ∀ settings, settings? = some settings →
    ResumeChecked sha claimed s) (triple_tryCatch (C := fun _ _ => True) ?_ fun raised => ?_)
    fun settings? => ?_
  · refine triple_bindExcept (C := fun _ => ResumeChecked sha claimed)
      (triple_mono (fun _ h => h) ?_ (triple_validatedSettings htoken)) fun settings => ?_
    · rintro (raised | settings) s h
      · trivial
      · exact h settings rfl
    · exact Session.Protocol.triple_done fun s h _ _ => h
  · cases raised with
    | runtimeConflict message =>
        exact triple_checked (Session.Protocol.safe_of_all
          (all_failWithoutRun safe_fenced htoken _ _ _)) (fun _ _ _ => trivial) fun _ =>
            Session.Protocol.triple_done fun _ _ _ heq => nomatch heq
    | _ => exact Session.Protocol.triple_done fun _ _ => trivial
  · cases settings? with
    | none => exact Session.Protocol.triple_done fun _ _ => trivial
    | some settings =>
        exact triple_mono (fun s h => h settings rfl) (fun _ _ _ => trivial)
          (triple_executeProvided htoken settings)

end Worker

/-! ## Every session -/

theorem provenance_program (sha : Sha256) (sid : Nat) (entry : Entry) :
    (provenance sha).Triple sid (fun _ => True) (program sha sid entry) fun _ _ => True := by
  refine @triple_program (provenance sha) sha (fun _ _ => True) ?_ ?_ ?_ sid entry
  · intro sid w s _ hw
    refine ⟨?_, fun id token now leaseUntil heq => ?_, fun p heq => ?_⟩
    · cases w with
      | evidence v => exact hw.elim
      | createCase row => exact hw
      | insertSync row => exact hw
      | publish p => exact hw.elim
      | _ => trivial
    · subst heq
      exact hw.elim
    · subst heq
      exact hw.elim
  · intro sid
    refine triple_mono (B := fun _ _ => True) (fun _ h => h) (fun _ _ h => h)
      (triple_runSyncOnce (C := fun claimed s => claimed.lease.token = sid → ClaimKnown claimed s)
        Session.Protocol.stable_true (fun _ h => h) (fun _ _ _ => trivial) ?_ ?_ ?_ ?_ ?_)
    · exact fun now s _ _ => ⟨⟨trivial, fun _ _ _ _ heq => (nomatch heq), fun _ heq => nomatch heq⟩,
        fun _ => trivial⟩
    · refine triple_mono (fun _ h => h) ?_ (triple_claimNextSync
        (fun syncId now leaseUntil s _ => ⟨trivial, fun id token _ _ heq => ?_, fun _ heq =>
          nomatch heq⟩) fun syncId now s _ =>
          may_fenced (v := .closeUnavailable ⟨syncId, sid⟩ now) rfl s)
      swap
      · cases heq
        rfl
      rintro (raised | (_ | claimed)) s h
      · trivial
      · trivial
      · exact fun _ => h
    · intro claimed s other w hother hinv hallowed hmay h htoken
      exact ClaimKnown.stable htoken s other w hother hinv hallowed hmay (h htoken)
    · exact fun claimed htoken => triple_mono (fun _ h => h htoken) (fun _ _ h => h)
        (triple_executeChecked htoken)
    · exact fun claimed code message htoken =>
        Session.Protocol.safe_of_all (all_failWithoutRun safe_fenced htoken code message false)
  · intro sid
    refine evidencePermits_of (A := fun _ _ _ => True) ?_ ?_
      (fun _ _ => Session.Protocol.stable_true) (fun _ _ _ _ _ _ => trivial) ?_
    · intro v hv s _
      refine ⟨?_, fun _ _ _ _ heq => (nomatch heq), fun _ heq => nomatch heq⟩
      cases v with
      | enqueue row => exact hv.elim
      | _ => trivial
    · exact fun request caseId publicId resolved now _ _ => ⟨⟨_, _, _, _, _, rfl⟩,
        fun _ _ _ _ heq => (nomatch heq), fun _ heq => nomatch heq⟩
    · intro v lease loaded s _ hback _
      refine ⟨?_, fun _ _ _ _ heq => (nomatch heq), fun _ heq => nomatch heq⟩
      cases v with
      | enqueue row => cases hback
      | _ => trivial

/-- In every run from a reachable world a publication was provided. -/
theorem provided_rest {sha : Sha256} {P : Nat → Write → Store → Prop}
    {world world' : World (caseSystem sha)} (reached : Reaches start world)
    (run : Session.Run P world world') :
    Session.Run (fun sid (w : Write) s => P sid w s ∧ StoreSound s ∧ w.WellFormed ∧
      ∀ p, w = .publish p → Provided sha p s) world world' := by
  have covers : (provenance sha).Covers (fun _ _ => True) world :=
    (Session.Protocol.covers_start (@storeSound_of_reaches sha _ (.refl _))
      fun _ => trivial).run
      (fun _ => Session.Protocol.stable_true) (provenance_program sha)
      (reached.mono fun _ _ _ _ => trivial)
  exact (covers.guarantee (fun _ => Session.Protocol.stable_true) (provenance_program sha)
    (fun _ _ _ _ => trivial) run).1.mono fun _ _ _ h => ⟨h.1, h.2.1, h.2.2.1, h.2.2.2.2⟩

end TonTracker
