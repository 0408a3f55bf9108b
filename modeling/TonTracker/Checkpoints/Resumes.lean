/-
# `Checkpoints.Resumes` — what an attempt to resume leaves of a continuation

While a sync of a case is active no other one publishes, so the newest
checkpoint of a stream stays what it is until the attempt ends
(`Attempt.frozen`).  An attempt that ends without a run then leaves every
read of the continuation as it was.  One that publishes a run in which no
page of the stream succeeded does not: the blocked revision it adds is the
newest of the stream, and nothing continues from it.
-/
import TonTracker.Checkpoints.Kept

namespace TonTracker

open Relational (Table)
open Session (World Run Move Reaches)

/-! ## Continuing a stream -/

/-- A stream is continued from a cursor and a page: directly, through the
current plan, and through a schedule of an idle case. -/
structure Continuable (sha : Sha256) (s : Store) (caseId : Nat) (casePublicId : Uuid)
    (key : StreamKey) (cursor : Text) (pageIndex : Nat) : Prop where
  direct : ∃ tip response planned resume,
    s.streamTip? caseId none key = some tip ∧
      streamCheckpointResponse sha s casePublicId tip.2 = .ok response ∧
      planResume (resumeSource caseId tip.2 response) .direct = .ok planned ∧
      planned.plan.resume? = some resume ∧ resume.cursor = cursor ∧ resume.pageIndex = pageIndex
  plan : ∃ plan, currentPlan sha caseId casePublicId s = .ok plan ∧
    ∃ stream ∈ plan.document.streams, stream.tipCheckpoint.streamKey = key ∧
      stream.resumeState = .ready ∧ stream.nextPageIndex = some pageIndex
  schedule : ∃ plan progress, currentPlan sha caseId casePublicId s = .ok plan ∧
    currentProgress sha caseId casePublicId s = .ok progress ∧
    (∃ stream ∈ progress.document.streams, stream.tipCheckpoint.streamKey = key ∧
      stream.resumeState = .ready ∧ stream.nextPageIndex = some pageIndex) ∧
    ∀ budget, ∃ schedule, backfillScheduleResponse sha casePublicId progress plan budget none =
      .ok schedule ∧ schedule.document.state = .ready

/-- The budget is only recorded in a schedule. -/
theorem schedule_ready_of_budget {sha : Sha256} {casePublicId : Uuid}
    {progress : Addressed ProgressDocument} {plan : Addressed PlanDocument} {budget : PageBudget}
    {schedule : Addressed ScheduleDocument}
    (h : backfillScheduleResponse sha casePublicId progress plan budget none = .ok schedule)
    (hready : schedule.document.state = .ready) (other : PageBudget) :
    ∃ schedule, backfillScheduleResponse sha casePublicId progress plan other none =
      .ok schedule ∧ schedule.document.state = .ready := by
  unfold backfillScheduleResponse at h ⊢
  obtain ⟨_, hcutoff, h⟩ := ExceptFold.bind_eq_ok.mp h
  obtain ⟨_, hagrees, h⟩ := ExceptFold.bind_eq_ok.mp h
  rw [hcutoff, hagrees]
  cases h
  exact ⟨_, rfl, hready⟩

/-- The checks of a continuation, at one budget. -/
def continues (sha : Sha256) (s : Store) (caseId : Nat) (casePublicId : Uuid) (key : StreamKey)
    (cursor : Text) (pageIndex : Nat) (budget : PageBudget) : Bool :=
  ((s.streamTip? caseId none key).any fun tip =>
    (streamCheckpointResponse sha s casePublicId tip.2).toOption.any fun response =>
      (planResume (resumeSource caseId tip.2 response) .direct).toOption.any fun planned =>
        planned.plan.resume?.any fun resume =>
          resume.cursor = cursor && resume.pageIndex = pageIndex) &&
  (currentPlan sha caseId casePublicId s).toOption.any fun plan =>
    (plan.document.streams.any fun stream => stream.tipCheckpoint.streamKey = key &&
      stream.resumeState = .ready && stream.nextPageIndex = some pageIndex) &&
    (currentProgress sha caseId casePublicId s).toOption.any fun progress =>
      (progress.document.streams.any fun stream => stream.tipCheckpoint.streamKey = key &&
        stream.resumeState = .ready && stream.nextPageIndex = some pageIndex) &&
      (backfillScheduleResponse sha casePublicId progress plan budget none).toOption.any
        fun schedule => schedule.document.state = .ready

theorem any_toOption {ε α : Type} {e : Except ε α} {p : α → Bool}
    (h : e.toOption.any p = true) : ∃ value, e = .ok value ∧ p value = true := by
  cases e with
  | error error => cases h
  | ok value => exact ⟨value, rfl, h⟩

theorem continuable_of_continues {sha : Sha256} {s : Store} {caseId : Nat} {casePublicId : Uuid}
    {key : StreamKey} {cursor : Text} {pageIndex : Nat} {budget : PageBudget}
    (h : continues sha s caseId casePublicId key cursor pageIndex budget = true) :
    Continuable sha s caseId casePublicId key cursor pageIndex := by
  unfold continues at h
  obtain ⟨hdirect, h⟩ := Bool.and_eq_true_iff.mp h
  obtain ⟨tip, htip, hdirect⟩ := (Option.any_eq_true _ _).mp hdirect
  obtain ⟨response, hresponse, hdirect⟩ := any_toOption hdirect
  obtain ⟨planned, hplanned, hdirect⟩ := any_toOption hdirect
  obtain ⟨resume, hresume, hdirect⟩ := (Option.any_eq_true _ _).mp hdirect
  simp only [Bool.and_eq_true, decide_eq_true_eq] at hdirect
  obtain ⟨plan, hplan, h⟩ := any_toOption h
  obtain ⟨hstreams, h⟩ := Bool.and_eq_true_iff.mp h
  obtain ⟨progress, hprogress, h⟩ := any_toOption h
  obtain ⟨hprogressed, h⟩ := Bool.and_eq_true_iff.mp h
  obtain ⟨schedule, hschedule, hready⟩ := any_toOption h
  simp only [List.any_eq_true, Bool.and_eq_true, decide_eq_true_eq, and_assoc]
    at hstreams hprogressed
  exact ⟨⟨tip, response, planned, resume, htip, hresponse, hplanned, hresume, hdirect⟩,
    ⟨plan, hplan, hstreams⟩, ⟨plan, progress, hplan, hprogress, hprogressed,
      schedule_ready_of_budget hschedule (of_decide_eq_true hready)⟩⟩

/-! ## The same checkpoints -/

/-- A later state of a case without a new checkpoint. -/
structure CheckpointsFrozen (caseId : Nat) (s s' : Store) : Prop extends
    CheckpointsKept caseId s s' where
  none_new : ∀ id c, s'.checkpoints.get? id = some c → c.caseId = caseId →
    s.checkpoints.get? id = some c

namespace CheckpointsFrozen

variable {caseId : Nat} {s s' : Store} {sha : Sha256} {casePublicId : Uuid}

theorem streamTip? (h : CheckpointsFrozen caseId s s') (cutoff : Option Nat) (key : StreamKey) :
    s'.streamTip? caseId cutoff key = s.streamTip? caseId cutoff key := by
  unfold Store.streamTip? Table.latest?
  refine congrArg List.getLast? (Table.select_congr fun id c => and_congr_left fun hselected => ?_)
  simp only [Bool.and_eq_true, decide_eq_true_eq] at hselected
  exact ⟨fun hc => h.none_new id c hc hselected.1.1, fun hc => h.kept id c hc hselected.1.1⟩

theorem latestStreamCheckpoints (h : CheckpointsFrozen caseId s s') :
    s'.latestStreamCheckpoints caseId = s.latestStreamCheckpoints caseId := by
  unfold Store.latestStreamCheckpoints Store.latestStreamCheckpointsAtCutoff
  exact List.filterMap_congr fun key _ => h.streamTip? none key

end CheckpointsFrozen

/-- A newest checkpoint is a stored one of its case. -/
theorem streamTip?_eq_some {s : Store} {caseId : Nat} {cutoff : Option Nat} {key : StreamKey}
    {tip : Nat × CheckpointRow} (h : s.streamTip? caseId cutoff key = some tip) :
    s.checkpoints.get? tip.1 = some tip.2 ∧ tip.2.caseId = caseId ∧ tip.2.streamKey = key := by
  obtain ⟨⟨htip, hselected⟩, -⟩ := Table.latest?_eq_some _ h
  simp only [Bool.and_eq_true, decide_eq_true_eq] at hselected
  exact ⟨htip, hselected.1.1, hselected.1.2⟩

theorem mem_latestStreamCheckpoints {s : Store} {caseId : Nat} {c : Nat × CheckpointRow}
    (h : c ∈ s.latestStreamCheckpoints caseId) :
    s.checkpoints.get? c.1 = some c.2 ∧ c.2.caseId = caseId := by
  obtain ⟨key, -, hkey⟩ := List.mem_filterMap.mp h
  exact ⟨(streamTip?_eq_some hkey).1, (streamTip?_eq_some hkey).2.1⟩

section Frozen

variable {caseId : Nat} {s s' : Store} {sha : Sha256} {casePublicId : Uuid}

theorem currentPlan_frozen (h : CheckpointsFrozen caseId s s') (owned : JournalOwned s)
    (owned' : JournalOwned s') (ids : PublicIds s) (ids' : PublicIds s') :
    currentPlan sha caseId casePublicId s' = currentPlan sha caseId casePublicId s := by
  unfold currentPlan checkpointContinuationPlanResponse
  rw [h.latestStreamCheckpoints, ExceptFold.mapM_congr]
  intro c hc
  obtain ⟨hstored, hcase⟩ := mem_latestStreamCheckpoints hc
  exact verifiedStreamCheckpointChain_kept h.toCheckpointsKept owned owned' ids ids' hstored hcase

theorem currentProgress_frozen (h : CheckpointsFrozen caseId s s') (owned : JournalOwned s)
    (owned' : JournalOwned s') (ids : PublicIds s) (ids' : PublicIds s') :
    currentProgress sha caseId casePublicId s' = currentProgress sha caseId casePublicId s := by
  unfold currentProgress backfillProgressResponse
  rw [h.latestStreamCheckpoints, ExceptFold.mapM_congr]
  intro c hc
  obtain ⟨hstored, hcase⟩ := mem_latestStreamCheckpoints hc
  unfold verifiedProgressStream
  rw [verifiedStreamCheckpointChain_kept h.toCheckpointsKept owned owned' ids ids' hstored hcase]

/-- A continuation stays while the case has no new checkpoint. -/
theorem continuable_frozen (h : CheckpointsFrozen caseId s s') (owned : JournalOwned s)
    (owned' : JournalOwned s') (ids : PublicIds s) (ids' : PublicIds s') {key : StreamKey}
    {cursor : Text} {pageIndex : Nat}
    (hcontinues : Continuable sha s caseId casePublicId key cursor pageIndex) :
    Continuable sha s' caseId casePublicId key cursor pageIndex := by
  have plans := @currentPlan_frozen caseId s s' sha casePublicId h owned owned' ids ids'
  have progress := @currentProgress_frozen caseId s s' sha casePublicId h owned owned' ids ids'
  obtain ⟨⟨tip, response, planned, resume, htip, hresponse, hplanned⟩, hplan, hschedule⟩ := hcontinues
  obtain ⟨hstored, hcase, -⟩ := streamTip?_eq_some htip
  refine ⟨⟨tip, response, planned, resume, (h.streamTip? none key).trans htip, ?_, hplanned⟩, ?_, ?_⟩
  · rw [streamCheckpointResponse_kept h.toCheckpointsKept hstored hcase]
    exact hresponse
  · rw [plans]
    exact hplan
  · rw [plans, progress]
    exact hschedule

end Frozen

/-! ## An attempt -/

/-- A step while the sync is active that does not publish a run for it. -/
def WithoutRun (syncId : Nat) (_ : Nat) (w : Write) (s : Store) : Prop :=
  (s.syncs.get? syncId).any (·.state.active) = true ∧
    ∀ p, w = .publish p → p.lease.jobId ≠ syncId

/-- What holds while the sync is the active one of its case. -/
structure Attempted (syncId caseId : Nat) (s₀ s : Store) : Prop extends
    CheckpointsFrozen caseId s₀ s where
  owned : JournalOwned s
  ids : PublicIds s
  alone : ∀ id row, s.syncs.get? id = some row → row.caseId = caseId →
    row.state.active = true → id = syncId

/-- An active sync blocks the deletion of its case. -/
theorem keeps_of_active {w : Write} {s : Store} {id : Nat} {row : SyncRow}
    (hrow : s.syncs.get? id = some row) (hactive : row.state.active = true) :
    (w.commit s).2 = s ∨ ∀ target now, w = .deleteCase target now → row.caseId ≠ target.caseId := by
  by_cases hd : ∃ target now, w = .deleteCase target now ∧ row.caseId = target.caseId
  · obtain ⟨target, now, rfl, hcase⟩ := hd
    rcases Write.deleteCase_cases target now s with hsame | ⟨hidle, -⟩
    · exact .inl hsame
    · have hended := (Store.idle_of_not_busy hidle).syncs id row hrow hcase
      rw [hactive] at hended
      cases hended
  · exact .inr fun target now hw hcase => hd ⟨target, now, hw, hcase⟩

theorem Attempted.commit {w : Write} {s₀ s : Store} {sid syncId caseId : Nat} {row : SyncRow}
    (h : Attempted syncId caseId s₀ s) (hrow : s₀.syncs.get? syncId = some row)
    (hcase : row.caseId = caseId) (hw : WithoutRun syncId sid w s) (hinserts : w.WellFormed) :
    Attempted syncId caseId s₀ (w.commit s).2 := by
  obtain ⟨current, hcurrent, hfixed⟩ := h.syncs syncId row hrow hcase
  have hcurrentcase : current.caseId = caseId := (congrArg (·.caseId) hfixed).trans hcase
  have hactive : current.state.active = true := by
    have := hw.1
    rw [hcurrent, Option.any_some] at this
    exact this
  rcases @keeps_of_active w s _ _ hcurrent hactive with hsame | hd
  · rw [hsame]
    exact h
  · have kept := checkpointsKept_commit (hcurrentcase ▸ hd) hinserts h.owned
    refine ⟨⟨h.toCheckpointsKept.trans kept, fun id c hc hccase => ?_⟩, h.owned.commit hinserts,
      h.ids.commit, fun id row' hrow' hrowcase hactive' => ?_⟩
    · rcases checkpoints_after hc with hold | ⟨p, i, running, rfl, hrunning, hselects, -, -, -, hnew⟩
      · exact h.none_new id c hold hccase
      · -- the sync that publishes is the active one
        have hfence := Publication.selects_iff.mp hselects
        have hrunningcase : running.caseId = caseId := by
          obtain ⟨sha, claimed, run, now, rfl⟩ := hinserts
          exact hfence.2.1.trans
            ((publication_checkpoint (List.mem_of_getElem? hnew)).1.symm.trans hccase)
        have hone := h.alone i running hrunning hrunningcase
          ((SyncRow.ownedBy_running hfence.2.2.1).1 ▸ rfl)
        exact absurd (hfence.1.symm.trans hone) (hw.2 p rfl)
    · rcases active_after hrow' hactive' with ⟨row₀, hrow₀, hsame, hactive₀⟩ | ⟨-, -, hfree⟩
      · exact h.alone id row₀ hrow₀ (hsame.trans hrowcase) hactive₀
      · have := hfree syncId current hcurrent (hcurrentcase.trans hrowcase.symm)
        rw [hactive] at this
        cases this

/-- From the acceptance of a resume to its end without a published run, the
stream stays continuable from where it was, and the case is idle then. -/
theorem resume_without_run_continues {sha : Sha256} {world world' : World (caseSystem sha)}
    (reached : Reaches start world) {syncId : Nat} {row row' : SyncRow}
    (hrow : world.state.syncs.get? syncId = some row) (hactive : row.state.active = true)
    (attempt : Run (WithoutRun syncId) world world')
    (hrow' : world'.state.syncs.get? syncId = some row') (hended : row'.state.active = false)
    {casePublicId : Uuid} {key : StreamKey} {cursor : Text} {pageIndex : Nat}
    (hcontinues : Continuable sha world.state row.caseId casePublicId key cursor pageIndex) :
    Continuable sha world'.state row.caseId casePublicId key cursor pageIndex ∧
      world'.state.activeSync? row.caseId = none := by
  have owned := journalOwned_of_reaches reached
  have ids := publicIds_of_reaches reached
  have before : Attempted syncId row.caseId world.state world.state :=
    ⟨⟨.refl _, fun _ _ h _ => h⟩, owned, ids, fun id other hother hcase hother' =>
      (syncsSound_of_reaches reached).oneActive id syncId other row hother hrow hcase hother' hactive⟩
  have after : Attempted syncId row.caseId world.state world'.state :=
    (wellFormed_rest reached attempt).inv
      (fun s : Store => Attempted syncId row.caseId world.state s)
      (fun _ _ _ hw h => h.commit hrow rfl hw.1 hw.2) before
  refine ⟨continuable_frozen after.toCheckpointsFrozen owned after.owned ids after.ids hcontinues, ?_⟩
  refine Table.find?_eq_none _ |>.mpr fun id other hother => ?_
  by_contra hselected
  rw [Bool.not_eq_false, Bool.and_eq_true] at hselected
  obtain ⟨hcase, hother'⟩ := hselected
  obtain rfl := after.alone id other hother (of_decide_eq_true hcase) hother'
  rw [hrow'] at hother
  cases hother
  rw [hended] at hother'
  cases hother'

/-! ## A published failure -/

/-- A stream without a successful page is not ready. -/
theorem continuation_not_ready {stream : StreamEvidence HexDigest}
    (h : stream.successfulPages = []) : (continuation stream).resumeState ≠ .ready := by
  unfold continuation
  split
  · exact fun h => nomatch h
  · rw [if_neg]
    · exact fun h => nomatch h
    · unfold isReady
      rw [h]
      simp

/-- Only a ready checkpoint is resumed. -/
theorem planned_ready {source : ResumeSource Uuid HexDigest} {authority : ResumeAuthority HexDigest}
    {planned : PlannedSync Uuid HexDigest} (h : planResume source authority = .ok planned) :
    source.resumeState = .ready := by
  unfold planResume at h
  obtain ⟨period, -, h⟩ := ExceptFold.bind_eq_ok.mp h
  obtain ⟨_, hready, -⟩ := ExceptFold.bind_eq_ok.mp h
  by_contra hblocked
  rw [decide_eq_false hblocked] at hready
  cases hready

/-- A run without a successful page of the stream is the end of it. -/
theorem published_failure_not_continuable {sha : Sha256} {s : Store} {claimed : ClaimedCaseSync}
    {run : IngestionRun} {now : Instant} {key : StreamKey}
    (hstream : ∃ stream ∈ run.acquisitionStreams, stream.streamKey = key)
    (hfailed : ∀ stream ∈ run.acquisitionStreams, stream.streamKey = key →
      stream.successfulPages = []) {casePublicId : Uuid} {cursor : Text} {pageIndex : Nat} :
    ¬ Continuable sha (s.published (publication sha claimed run now)) claimed.caseId casePublicId
      key cursor pageIndex := by
  rintro ⟨⟨tip, response, planned, resume, htip, hresponse, hplanned, -⟩, -, -⟩
  obtain ⟨⟨hstored, hselected⟩, hnewest⟩ := Table.latest?_eq_some _ htip
  simp only [Bool.and_eq_true, decide_eq_true_eq] at hselected
  rw [Store.published_checkpoints] at hstored hnewest
  -- the newest revision is one of the publication
  have hlow : s.checkpoints.nextId ≤ tip.1 := by
    obtain ⟨stream, hmem, rfl⟩ := hstream
    have hadded : (buildCheckpoint (publication sha claimed run now).manifest.document
        (publication sha claimed run now).manifest.publicId stream).row sha claimed.caseId
          claimed.lease.jobId now ∈ (publication sha claimed run now).checkpoints :=
      List.mem_map.mpr ⟨_, List.mem_map.mpr ⟨stream, hmem, rfl⟩, rfl⟩
    obtain ⟨n, hn⟩ := List.mem_iff_getElem?.mp hadded
    have hid := hnewest (s.checkpoints.nextId + n) _
      (by rw [Table.get?_insertAll, if_neg (by omega), Nat.add_sub_cancel_left]; exact hn)
      (by simp [CheckpointDocument.row, buildCheckpoint])
    omega
  rw [Table.get?_insertAll, if_neg (Nat.not_lt.mpr hlow)] at hstored
  obtain ⟨document, hdocument, htip⟩ := List.mem_map.mp (List.mem_of_getElem? hstored)
  obtain ⟨stream, hmem, rfl⟩ := List.mem_map.mp hdocument
  have hkey : stream.streamKey = key := by
    rw [← hselected.1.2, ← htip]
    rfl
  have hblocked : tip.2.resumeState ≠ .ready := by
    rw [← htip]
    exact continuation_not_ready (hfailed stream hmem hkey)
  exact hblocked (planned_ready hplanned)

/-! ## A stream of one page a run -/

/-- A hexadecimal character of a public id. -/
def hexOf (id : Uuid) : Char := (id.text.find? isLowerHexDigit).getD '0'

theorem isLowerHexDigit_hexOf (id : Uuid) : isLowerHexDigit (hexOf id) = true := by
  unfold hexOf
  cases h : id.text.find? isLowerHexDigit with
  | none => rfl
  | some c => exact List.find?_some h

def syncDigest (c : Char) (id : Uuid)
    (h : isLowerHexDigit c = true := by exact (rfl : true = true)) : HexDigest :=
  ⟨List.replicate 32 c ++ List.replicate 32 (hexOf id), by simp,
    by simp [h, isLowerHexDigit_hexOf]⟩

/-- One hash for each kind of document of a sync. -/
def syncSha : Sha256
  | .manifest document => syncDigest '2' document.syncPublicId
  | .checkpoint document => syncDigest '3' document.sourceSync
  | document => sampleSha document

/-- The environment of a run of one page. -/
def pagedAnswers (provider : ProviderAnswers) (seconds : Nat) (publicId : Uuid) :
    (q : caseMachine.Query) → caseMachine.Answer q
  | .settings => (.ok ⟨3, tonapiLiveProvider, ⟨1, 1, 1, 1⟩⟩ : Except Text RuntimeSettings)
  | .providerAnswers => provider
  | q => sampleAnswers seconds publicId q

def pagedSession (provider : ProviderAnswers) (sid : Nat) (entry : Entry) (seconds : Nat)
    (publicId : Uuid) (steps : Nat) : List (Move (caseSystem syncSha)) :=
  .launch entry :: List.replicate steps (.run sid (pagedAnswers provider seconds publicId))

/-- A provider whose history is not an object. -/
def brokenProvider : ProviderAnswers :=
  { sampleProvider with
    transactions := { sampleProvider.transactions with fetchJson := fun _ _ => .ok .null } }

/-- A resume of the one ready checkpoint has been accepted. -/
def sampleResume : List (Move (caseSystem syncSha)) :=
  pagedSession sampleProvider 0
    (.createOrOpenCase ⟨sampleOwner, .mainnet, .live, "0:0a".toList, none, none⟩)
    2000 (sampleUuid '0') 20 ++
  pagedSession sampleProvider 1
    (.enqueueSync sampleOwner (sampleUuid '0') sampleSyncRequest "sync".toList)
    2001 (sampleUuid '1') 30 ++
  pagedSession sampleProvider 2 .runSyncWorker 2002 (sampleUuid '2') 60 ++
  pagedSession sampleProvider 3
    (.enqueueCheckpointResume sampleOwner (sampleUuid '0') (syncDigest '3' (sampleUuid '1'))
      "resume".toList) 2003 (sampleUuid '3') 30

/-- The store and the sessions after so many moves. -/
def pagedWorld (moves : List (Move (caseSystem syncSha))) : World (caseSystem syncSha) :=
  moves.foldl World.step start

theorem pagedWorld_reached (moves : List (Move (caseSystem syncSha))) :
    Reaches start (pagedWorld moves) :=
  Session.reaches_foldl moves start

/-- The attempt fails on its first page, publishes a failed sync, and the
blocked revision it adds takes the place of the ready one. -/
theorem failed_attempt_loses_continuation :
    Continuable syncSha (pagedWorld sampleResume).state 1 (sampleUuid '0') .transactions
        "30".toList 2 ∧
      (((pagedWorld (sampleResume ++
        pagedSession brokenProvider 4 .runSyncWorker 2004 (sampleUuid '4') 60)).state.syncs.get?
          2).map (·.state)) = some .failed ∧
      ¬ Continuable syncSha (pagedWorld (sampleResume ++
        pagedSession brokenProvider 4 .runSyncWorker 2004 (sampleUuid '4') 60)).state 1
          (sampleUuid '0') .transactions "30".toList 2 := by
  refine ⟨@continuable_of_continues _ _ _ _ _ _ _ ⟨1, by decide, by decide⟩ (by decide +kernel),
    by decide +kernel, ?_⟩
  rintro ⟨⟨tip, response, planned, resume, htip, -, hplanned, -⟩, -, -⟩
  have blocked : ((pagedWorld (sampleResume ++
      pagedSession brokenProvider 4 .runSyncWorker 2004 (sampleUuid '4') 60)).state.streamTip? 1
        none .transactions).map (·.2.resumeState) = some .blocked := by decide +kernel
  rw [htip, Option.map_some, Option.some.injEq] at blocked
  have ready : tip.2.resumeState = .ready := planned_ready hplanned
  rw [blocked] at ready
  cases ready

/-- The same attempt, cancelled by its owner, leaves the continuation. -/
theorem resume_without_run_continues_sample :
    Continuable syncSha (pagedWorld (sampleResume ++
        pagedSession sampleProvider 4 (.cancelSync sampleOwner (sampleUuid '0') (sampleUuid '3'))
          2004 (sampleUuid '4') 20)).state 1 (sampleUuid '0') .transactions "30".toList 2 ∧
      (pagedWorld (sampleResume ++
        pagedSession sampleProvider 4 (.cancelSync sampleOwner (sampleUuid '0') (sampleUuid '3'))
          2004 (sampleUuid '4') 20)).state.activeSync? 1 = none := by
  have hbefore : ((pagedWorld sampleResume).state.syncs.get? 2).map
      (fun row => (row.state.active, row.caseId)) = some (true, 1) := by decide +kernel
  have hafter : ((pagedWorld (sampleResume ++
      pagedSession sampleProvider 4 (.cancelSync sampleOwner (sampleUuid '0') (sampleUuid '3'))
        2004 (sampleUuid '4') 20)).state.syncs.get? 2).map (·.state.active) = some false := by
    decide +kernel
  obtain ⟨row, hrow, hactive⟩ := Option.map_eq_some_iff.mp hbefore
  obtain ⟨hactive, hcase⟩ := Prod.mk.inj hactive
  obtain ⟨row', hrow', hended⟩ := Option.map_eq_some_iff.mp hafter
  have reached : Reaches start (pagedWorld sampleResume) := pagedWorld_reached _
  have attempt : Run (WithoutRun 2) (pagedWorld sampleResume)
      (pagedWorld (sampleResume ++
        pagedSession sampleProvider 4 (.cancelSync sampleOwner (sampleUuid '0') (sampleUuid '3'))
          2004 (sampleUuid '4') 20)) := by
    unfold pagedWorld
    rw [List.foldl_append]
    refine Session.run_foldl (fun _ (w : Write) s => (s.syncs.get? 2).any (·.state.active) &&
      match w with
      | .publish _ => false
      | _ => true) (fun _ w s h => ?_) _ _ (by decide +kernel)
    obtain ⟨hactive, hw⟩ := Bool.and_eq_true_iff.mp h
    refine ⟨hactive, fun p hp => ?_⟩
    rw [hp] at hw
    cases hw
  have continues : Continuable syncSha (pagedWorld sampleResume).state row.caseId (sampleUuid '0')
      .transactions "30".toList 2 :=
    hcase ▸ @continuable_of_continues _ _ _ _ _ _ _ ⟨1, by decide, by decide⟩ (by decide +kernel)
  rw [← hcase]
  exact resume_without_run_continues reached hrow hactive attempt hrow' hended continues

end TonTracker
