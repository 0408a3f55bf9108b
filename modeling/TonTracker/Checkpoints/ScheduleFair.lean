/-
# `Checkpoints.ScheduleFair` — how far two streams of a schedule come apart

A schedule selects a ready stream with the fewest continuation pages, and
the run it names takes at most ten pages.  Between the reading of a
schedule and the publication of its run the selected stream stands still,
while the others only grow, so its count ends at most ten above theirs.
`CutoffReady` says what a stream had reached at a cutoff of the run, which
is where a worker recomputes the schedule.
-/
import TonTracker.Lib.Fibers
import TonTracker.Checkpoints.Chains
import TonTracker.Checkpoints.Immutable

namespace TonTracker

open Relational (Table)
open Session (World Run Move Reaches)
open ExceptFold (bind_eq_ok eq_ok_of_toOption)

/-! ## The pages of a resumed stream -/

section Pages

variable {D : Type}

theorem transactionLoop_pages (feed : TransactionFeed D) (run : TransactionRun)
    (cursor : Option LogicalTime) (firstPageIndex pageCap : Nat) :
    (transactionLoop feed run cursor firstPageIndex pageCap).loop.pages.length ≤ pageCap := by
  have bound := @ForElse.run_measure _ _ (transactionPass feed run)
    transactionPageCap (fun s => s.pages.length) (fun e => e.loop.pages.length) ?_ ?_
    (fun _ => le_rfl) pageCap (transactionStart cursor firstPageIndex)
  · exact bound.trans_eq (Nat.zero_add _)
  · intro s s' h
    unfold transactionPass at h
    split at h
    · cases h
    · split at h
      · cases h
      · dsimp only at h
        split at h
        · cases h
        · split at h
          · cases h
          · split at h
            · cases h
            · split at h
              · cases h
              · cases h
                simp [absorbTransactionPage]
  · intro s e h
    unfold transactionPass at h
    split at h
    · cases h
      simp [transactionFailure]
    · split at h
      · cases h
        simp [transactionFailure]
      · dsimp only at h
        split at h
        · cases h
          simp [absorbTransactionPage]
        · split at h
          · cases h
            simp [absorbTransactionPage]
          · split at h
            · cases h
              simp [absorbTransactionPage]
            · split at h
              · cases h
                simp [absorbTransactionPage]
              · cases h

theorem eventLoop_pages [DecidableEq D] (feed : EventFeed D) (run : EventRun)
    (cursor : Option LogicalTime) (firstPageIndex pageCap : Nat) :
    (eventLoop feed run cursor firstPageIndex pageCap).loop.pages.length ≤ pageCap := by
  have bound := @ForElse.run_measure _ _ (eventPass feed run) eventPageCap
    (fun s => s.pages.length) (fun e => e.loop.pages.length) ?_ ?_ (fun _ => le_rfl) pageCap
    (eventStart cursor firstPageIndex)
  · exact bound.trans_eq (Nat.zero_add _)
  · intro s s' h
    unfold eventPass at h
    split at h
    · cases h
    · split at h
      · cases h
      · dsimp only at h
        split at h
        · cases h
        · split at h
          · cases h
          · split at h
            · split at h <;> cases h
            · cases h
              simp [absorbEventPage]
  · intro s e h
    unfold eventPass at h
    split at h
    · cases h
      simp [eventFailure]
    · split at h
      · cases h
        simp [eventFailure]
      · dsimp only at h
        split at h
        · cases h
          simp [absorbEventPage]
        · split at h
          · cases h
            simp [absorbEventPage]
          · split at h
            · split at h
              · cases h
                simp [absorbEventPage]
              · cases h
                simp [absorbEventPage]
            · cases h

end Pages

/-- The page cap of a resumed stream is its budget at most. -/
theorem pageCapOf_le {request : AdapterRequest} {key : StreamKey} {budget : Nat}
    (hkey : request.resumeStreamKey = some key) (hbudget : request.resumePageBudget = some budget)
    (mode : Mode) (bounds : Option (Instant × Instant)) (configured : Nat) (hpos : 1 ≤ budget) :
    pageCapOf request mode bounds configured ≤ budget := by
  unfold pageCapOf
  split
  · exact hpos
  · unfold effectiveResumePageCap
    rw [hkey, hbudget]
    exact min_le_right _ _

/-- A stream of a run under a budget has no more pages than the budget. -/
theorem pageCount_le_budget {settings : ActivitySettings} {request : BuildRequest}
    {answers : ProviderAnswers} {run : IngestionRun} {key : StreamKey} {budget : PageBudget}
    (hrun : buildWalletIngestionRun settings request answers = .ok run)
    (hkey : request.resumeStreamKey = some key)
    (hbudget : request.resumePageBudget = some budget.val)
    {stream : StreamEvidence HexDigest} (hstream : stream ∈ run.acquisitionStreams) :
    stream.pageCount ≤ budget.val := by
  unfold buildWalletIngestionRun at hrun
  obtain ⟨_, -, hrun⟩ := bind_eq_ok.mp hrun
  obtain ⟨bounds, -, hrun⟩ := bind_eq_ok.mp hrun
  obtain ⟨_, -, hrun⟩ := bind_eq_ok.mp hrun
  cases henv : request.dataEnvironment with
  | demo =>
      rw [henv] at hrun
      cases hrun
      cases hstream
  | live =>
      rw [henv] at hrun
      cases hrun
      have fetched : (fetchLiveActivity settings (adapterRequest request bounds) request.surfaces
          answers).acquisitionStreams = ((fetchedStreams settings (adapterRequest request bounds)
            request.surfaces answers).map (·.stream)).reverse := by
        unfold fetchLiveActivity
        dsimp only
        split <;> rfl
      rw [fetched, List.mem_reverse] at hstream
      obtain ⟨f, hf, rfl⟩ := List.mem_map.mp hstream
      have capped : ∀ mode bounds' configured,
          pageCapOf (adapterRequest request bounds) mode bounds' configured ≤ budget.val :=
        fun mode bounds' configured => pageCapOf_le hkey hbudget mode bounds' configured budget.pos
      unfold fetchedStreams at hf
      rcases List.mem_append.mp hf with hf | hf
      · split at hf
        · obtain rfl := List.mem_singleton.mp hf
          unfold fetchTransactionAcquisition
          dsimp only
          split
          · exact (transactionLoop_pages _ _ _ _ _).trans (capped _ _ _)
          · exact Nat.zero_le _
        · cases hf
      · split at hf
        · obtain rfl := List.mem_singleton.mp hf
          unfold fetchEventAcquisition
          dsimp only
          split
          · exact (eventLoop_pages _ _ _ _ _).trans (capped _ _ _)
          · exact Nat.zero_le _
        · cases hf

/-! ## What a stream has reached -/

/-- Up to the cutoff the stream is ready, after so many pages of
continuation. -/
def CutoffReady (sha : Sha256) (caseId : Nat) (casePublicId : Uuid) (s : Store)
    (cutoff : Option Nat) (key : StreamKey) (pages : Nat) : Prop :=
  ∃ tip chain, s.streamTip? caseId cutoff key = some tip ∧
    verifiedStreamCheckpointChain sha s caseId casePublicId tip = .ok chain ∧
    chain.tip.document.continuation.resumeState = .ready ∧ chain.continuationPageCount = pages

/-- `get_backfill_progress` reports the stream as ready, after so many
pages of continuation. -/
def ReadyAfter (sha : Sha256) (caseId : Nat) (casePublicId : Uuid) (s : Store) (key : StreamKey)
    (pages : Nat) : Prop :=
  ∃ progress, currentProgress sha caseId casePublicId s = .ok progress ∧
    ∃ stream ∈ progress.document.streams, stream.tipCheckpoint.streamKey = key ∧
      stream.resumeState = .ready ∧ stream.continuationPageCount = pages

section Reached

variable {sha : Sha256} {caseId : Nat} {casePublicId : Uuid} {s s' : Store} {key : StreamKey}

theorem CutoffReady.unique {cutoff : Option Nat} {m n : Nat}
    (h : CutoffReady sha caseId casePublicId s cutoff key m)
    (h' : CutoffReady sha caseId casePublicId s cutoff key n) : m = n := by
  obtain ⟨tip, chain, htip, hchain, -, rfl⟩ := h
  obtain ⟨tip', chain', htip', hchain', -, rfl⟩ := h'
  cases htip.symm.trans htip'
  cases hchain.symm.trans hchain'
  rfl

/-- The descriptor of a revision that was read. -/
theorem response_descriptor {c : CheckpointRow} {response : VerifiedCheckpoint}
    (h : streamCheckpointResponse sha s casePublicId c = .ok response) :
    response.descriptor.publicId = c.publicId ∧ response.descriptor.streamKey = c.streamKey ∧
      response.document = c.document ∧ c.document.casePublicId = casePublicId ∧
      (∀ resume, response.plan.resume? = some resume → resume.streamKey = c.streamKey) ∧
      response.source.verifiedPlan
        "Stored Wallet Case stream checkpoint acquisition plan is invalid." =
          .ok response.plan := by
  unfold streamCheckpointResponse at h
  obtain ⟨_, -, h⟩ := bind_eq_ok.mp h
  obtain ⟨source, -, h⟩ := bind_eq_ok.mp h
  obtain ⟨_, -, h⟩ := bind_eq_ok.mp h
  obtain ⟨plan, hplan, h⟩ := bind_eq_ok.mp h
  obtain ⟨manifest, -, h⟩ := bind_eq_ok.mp h
  obtain ⟨_, -, h⟩ := bind_eq_ok.mp h
  obtain ⟨_, hconsistent, h⟩ := bind_eq_ok.mp h
  cases h
  have consistent := verify_eq_ok.mp hconsistent
  unfold CheckpointRow.consistent at consistent
  simp only [Bool.and_eq_true, decide_eq_true_eq, and_assoc] at consistent
  obtain ⟨hcase, -, -, -, -, hresume, -⟩ := consistent
  refine ⟨rfl, rfl, rfl, hcase, fun resume heq => ?_, hplan⟩
  rw [heq, Option.all_some] at hresume
  exact of_decide_eq_true hresume

/-- A stream of the progress up to a cutoff. -/
theorem progress_streams {cutoff : Option Nat} {progress : Addressed ProgressDocument}
    (h : backfillProgressResponse sha s caseId casePublicId
      (s.latestStreamCheckpointsAtCutoff caseId cutoff) = .ok progress) :
    (∀ stream ∈ progress.document.streams, ∃ tip chain,
      s.streamTip? caseId cutoff tip.2.streamKey = some tip ∧
        verifiedStreamCheckpointChain sha s caseId casePublicId tip = .ok chain ∧
        stream = progressStream sha casePublicId chain) ∧
      ∀ key tip, s.streamTip? caseId cutoff key = some tip →
        ∃ chain, verifiedStreamCheckpointChain sha s caseId casePublicId tip = .ok chain ∧
          progressStream sha casePublicId chain ∈ progress.document.streams := by
  unfold backfillProgressResponse at h
  obtain ⟨_, -, h⟩ := bind_eq_ok.mp h
  obtain ⟨streams, hstreams, h⟩ := bind_eq_ok.mp h
  cases h
  obtain ⟨from_tip, to_stream⟩ := Fibers.mem_of_forall₂ (ExceptFold.mapM_eq_ok.mp hstreams)
  have stream_of : ∀ {tip : Nat × CheckpointRow} {stream : ProgressStream},
      verifiedProgressStream sha s caseId casePublicId tip = .ok stream →
      ∃ chain, verifiedStreamCheckpointChain sha s caseId casePublicId tip = .ok chain ∧
        stream = progressStream sha casePublicId chain := by
    intro tip stream hstream
    unfold verifiedProgressStream at hstream
    obtain ⟨chain, hchain, hstream⟩ := bind_eq_ok.mp hstream
    obtain ⟨_, -, hstream⟩ := bind_eq_ok.mp hstream
    cases hstream
    exact ⟨chain, hchain, rfl⟩
  refine ⟨fun stream hstream => ?_, fun key tip htip => ?_⟩
  · obtain ⟨tip, htip, hverified⟩ := from_tip stream hstream
    obtain ⟨chain, hchain, rfl⟩ := stream_of hverified
    obtain ⟨key, -, hkey⟩ := List.mem_filterMap.mp htip
    refine ⟨tip, chain, ?_, hchain, rfl⟩
    rw [(streamTip?_eq_some hkey).2.2]
    exact hkey
  · have member : tip ∈ s.latestStreamCheckpointsAtCutoff caseId cutoff :=
      List.mem_filterMap.mpr ⟨key, by cases key <;> decide, htip⟩
    obtain ⟨stream, hstream, hverified⟩ := to_stream tip member
    obtain ⟨chain, hchain, rfl⟩ := stream_of hverified
    exact ⟨chain, hchain, hstream⟩

theorem progressStream_fields {tip : Nat × CheckpointRow} {chain : Chain}
    (h : verifiedStreamCheckpointChain sha s caseId casePublicId tip = .ok chain) :
    (progressStream sha casePublicId chain).tipCheckpoint.publicId = tip.2.publicId ∧
      (progressStream sha casePublicId chain).tipCheckpoint.streamKey = tip.2.streamKey ∧
      (progressStream sha casePublicId chain).resumeState =
        chain.tip.document.continuation.resumeState ∧
      (progressStream sha casePublicId chain).continuationPageCount =
        chain.continuationPageCount := by
  obtain ⟨response, hresponse, htip⟩ := chain_tip h
  obtain ⟨hid, hkey, -⟩ := response_descriptor hresponse
  refine ⟨?_, ?_, rfl, rfl⟩
  · change chain.tip.descriptor.publicId = _
    rw [htip]
    exact hid
  · change chain.tip.descriptor.streamKey = _
    rw [htip]
    exact hkey

theorem ReadyAfter.cutoffReady {pages : Nat}
    (h : ReadyAfter sha caseId casePublicId s key pages) :
    CutoffReady sha caseId casePublicId s none key pages := by
  obtain ⟨progress, hprogress, stream, hstream, hkey, hready, hpages⟩ := h
  obtain ⟨tip, chain, htip, hchain, rfl⟩ := (progress_streams hprogress).1 stream hstream
  obtain ⟨-, hstreamKey, hstate, hcount⟩ := progressStream_fields hchain
  refine ⟨tip, chain, ?_, hchain, hstate.symm.trans hready, hcount.symm.trans hpages⟩
  rw [← hkey, hstreamKey]
  exact htip

end Reached

/-! ## The selected stream -/

/-- The selected stream is ready, and no ready stream has fewer pages. -/
theorem selectedProgress_least {document : ProgressDocument} {selected : ProgressStream}
    (h : selectedProgress document = some selected) :
    selected ∈ document.streams ∧ ∀ stream ∈ document.streams, stream.resumeState = .ready →
      selected.continuationPageCount ≤ stream.continuationPageCount := by
  unfold selectedProgress at h
  have least : ∀ step : Option ProgressStream → ProgressStream → Option ProgressStream,
      (∀ stream, step none stream = some stream) →
      (∀ least stream, step (some least) stream =
        if leastContinued least stream then some least else some stream) →
      ∀ (streams : List ProgressStream) (first : Option ProgressStream)
      (found : ProgressStream), streams.foldl step first = some found →
      (found ∈ streams ∨ first = some found) ∧
        (∀ stream ∈ streams, found.continuationPageCount ≤ stream.continuationPageCount) ∧
        ∀ stream, first = some stream →
          found.continuationPageCount ≤ stream.continuationPageCount := by
    intro step hnone hsome streams
    induction streams with
    | nil =>
        rintro first found rfl
        refine ⟨.inr rfl, fun _ hmem => (nomatch hmem), fun stream heq => ?_⟩
        cases heq
        exact Nat.le_refl _
    | cons stream streams ih =>
        intro first found hfound
        rw [List.foldl_cons] at hfound
        obtain ⟨hmem, hall, hfirst⟩ := ih _ found hfound
        cases first with
        | none =>
            rw [hnone] at hmem hfirst
            have hstream := hfirst stream rfl
            refine ⟨.inl ?_, ?_, fun _ heq => nomatch heq⟩
            · rcases hmem with hmem | heq
              · exact List.mem_cons_of_mem _ hmem
              · cases heq
                exact List.mem_cons_self
            · intro other hother
              rcases List.mem_cons.mp hother with rfl | hother
              · exact hstream
              · exact hall other hother
        | some least =>
            rw [hsome] at hmem hfirst
            split at hfirst
            case isTrue hleast =>
              rw [if_pos hleast] at hmem
              have hbest := hfirst least rfl
              have hstream : least.continuationPageCount ≤ stream.continuationPageCount := by
                unfold leastContinued at hleast
                simp only [Bool.or_eq_true, Bool.and_eq_true, decide_eq_true_eq] at hleast
                omega
              refine ⟨?_, ?_, ?_⟩
              · rcases hmem with hmem | heq
                · exact .inl (List.mem_cons_of_mem _ hmem)
                · exact .inr heq
              · intro other hother
                rcases List.mem_cons.mp hother with rfl | hother
                · exact Nat.le_trans hbest hstream
                · exact hall other hother
              · rintro other heq
                cases heq
                exact hbest
            case isFalse hless =>
              rw [if_neg hless] at hmem
              have hbest := hfirst stream rfl
              have hstream : stream.continuationPageCount ≤ least.continuationPageCount := by
                unfold leastContinued at hless
                simp only [Bool.or_eq_true, Bool.and_eq_true, decide_eq_true_eq] at hless
                omega
              refine ⟨.inl ?_, ?_, ?_⟩
              · rcases hmem with hmem | heq
                · exact List.mem_cons_of_mem _ hmem
                · cases heq
                  exact List.mem_cons_self
              · intro other hother
                rcases List.mem_cons.mp hother with rfl | hother
                · exact hbest
                · exact hall other hother
              · rintro other heq
                cases heq
                exact Nat.le_trans hbest hstream
  obtain ⟨hmem, hall, -⟩ := least _ (fun _ => rfl) (fun _ _ => rfl) _ none selected h
  have ready := hmem.resolve_right fun heq => nomatch heq
  refine ⟨(List.mem_filter.mp ready).1, fun stream hstream hready => ?_⟩
  exact hall stream (List.mem_filter.mpr ⟨hstream, decide_eq_true hready⟩)

/-- What the check of a scheduled resume says of its source checkpoint: it
is the newest of its stream, and at the cutoff of the schedule no ready
stream had fewer pages. -/
theorem scheduled_least {sha : Sha256} {s : Store} (sound : StoreSound s)
    {claimed : ClaimedCaseSync} {resume : ResumePlan Uuid HexDigest}
    {continuationPlan backfillSchedule backfillProgress cutoff : HexDigest} {budget : PageBudget}
    (hvalid : validateResumeCheckpoint sha s claimed resume = none)
    (hauthority : resume.authority =
      .schedule continuationPlan budget backfillSchedule backfillProgress cutoff) :
    ∃ source found chain,
      s.streamCheckpoint? claimed.caseId resume.sourceCheckpoint = some source ∧
      s.streamTip? claimed.caseId none resume.streamKey = some source ∧
      s.streamCheckpoint? claimed.caseId cutoff = some found ∧
      verifiedStreamCheckpointChain sha s claimed.caseId claimed.casePublicId source = .ok chain ∧
      ∀ key pages, CutoffReady sha claimed.caseId claimed.casePublicId s (some found.1) key pages →
        chain.continuationPageCount ≤ pages := by
  unfold validateResumeCheckpoint at hvalid
  split at hvalid
  · cases hvalid
  next sourceId source hsource =>
    split at hvalid
    · cases hvalid
    next response hresponse =>
      split at hvalid
      case isFalse => cases hvalid
      case isTrue hmatches =>
        rw [hauthority] at hvalid
        dsimp only at hvalid
        split at hvalid
        · cases hvalid
        next cutoffId cutoffRow hfound =>
          split at hvalid
          · cases hvalid
          next schedule hschedule =>
            split at hvalid
            case isFalse => cases hvalid
            case isTrue hscheduled =>
              obtain ⟨hsourceStored, hsourceCase, hsourceId⟩ :=
                (streamCheckpoint?_eq_some sound.owned).mp hsource
              rw [Bool.and_eq_true, decide_eq_true_eq] at hmatches
              obtain ⟨htip, hresumed⟩ := hmatches
              have hkey : source.streamKey = resume.streamKey := by
                unfold resumeMatches at hresumed
                simp only [Bool.and_eq_true, decide_eq_true_eq, and_assoc] at hresumed
                exact hresumed.2.1
              obtain ⟨tip, htip, htipId⟩ := Option.map_eq_some_iff.mp htip
              obtain rfl : tip = (sourceId, source) := by
                have := (streamTip?_eq_some htip).1
                rw [htipId, hsourceStored] at this
                exact Prod.ext htipId (Option.some.inj this).symm
              unfold recomputedSchedule at hschedule
              obtain ⟨progress, hprogress, hschedule⟩ := bind_eq_ok.mp hschedule
              obtain ⟨plan, -, hschedule⟩ := bind_eq_ok.mp hschedule
              unfold backfillScheduleResponse at hschedule
              obtain ⟨_, -, hschedule⟩ := bind_eq_ok.mp hschedule
              obtain ⟨_, -, hschedule⟩ := bind_eq_ok.mp hschedule
              cases hschedule
              unfold scheduleMatches at hscheduled
              simp only [Bool.and_eq_true, decide_eq_true_eq, and_assoc] at hscheduled
              obtain ⟨-, -, -, -, -, hselection⟩ := hscheduled
              cases hselected : selectedProgress progress.document with
              | none =>
                  rw [hselected] at hselection
                  dsimp only at hselection
                  split at hselection
                  · cases hselection
                  · split at hselection <;> cases hselection
              | some selected =>
                  rw [hselected] at hselection
                  have hcheckpoint : selected.tipCheckpoint.publicId = resume.sourceCheckpoint :=
                    of_decide_eq_true hselection
                  obtain ⟨hmem, hleast⟩ := selectedProgress_least hselected
                  obtain ⟨at_cutoff, to_stream⟩ := progress_streams hprogress
                  obtain ⟨tip, chain, hcutoffTip, hchain, rfl⟩ := at_cutoff selected hmem
                  obtain ⟨hid, -, -, hcount⟩ := progressStream_fields hchain
                  obtain ⟨htipStored, -, -⟩ := streamTip?_eq_some hcutoffTip
                  obtain rfl : tip = (sourceId, source) := by
                    have same : tip.1 = sourceId := sound.owned.ids _ _ _ _ htipStored
                      hsourceStored ((hid.symm.trans hcheckpoint).trans hsourceId.symm)
                    rw [same, hsourceStored] at htipStored
                    exact Prod.ext same (Option.some.inj htipStored).symm
                  refine ⟨_, _, chain, hsource, hkey ▸ htip, hfound, hchain, ?_⟩
                  rintro key pages ⟨other, otherChain, hother, hotherChain, hready, rfl⟩
                  obtain ⟨otherChain', hotherChain', hstream⟩ := to_stream key other hother
                  cases hotherChain.symm.trans hotherChain'
                  obtain ⟨-, -, hstate, hpages⟩ := progressStream_fields hotherChain
                  have := hleast _ hstream (hstate.trans hready)
                  rwa [hcount, hpages] at this

/-! ## What a step does -/

section Step

variable {sha : Sha256} {caseId : Nat} {casePublicId : Uuid} {s s' : Store}

/-- While the case has no new checkpoint its streams have reached the same. -/
theorem cutoffReady_frozen (h : CheckpointsFrozen caseId s s') (sound : StoreSound s)
    (sound' : StoreSound s') (cutoff : Option Nat) (key : StreamKey) (pages : Nat) :
    CutoffReady sha caseId casePublicId s' cutoff key pages ↔
      CutoffReady sha caseId casePublicId s cutoff key pages := by
  unfold CutoffReady
  rw [h.streamTip? cutoff key]
  refine exists_congr fun tip => exists_congr fun chain => and_congr_right fun htip => ?_
  obtain ⟨hstored, hcase, -⟩ := streamTip?_eq_some htip
  rw [verifiedStreamCheckpointChain_kept h.toCheckpointsKept sound.owned sound'.owned sound.ids
    sound'.ids hstored hcase]

/-- The tip of a stream without a new checkpoint is the same. -/
theorem streamTip?_of_kept (h : CheckpointsKept caseId s s') {key : StreamKey}
    (hnew : ∀ id c, s'.checkpoints.get? id = some c → c.caseId = caseId → c.streamKey = key →
      s.checkpoints.get? id = some c) (cutoff : Option Nat) :
    s'.streamTip? caseId cutoff key = s.streamTip? caseId cutoff key := by
  unfold Store.streamTip? Table.latest?
  refine congrArg List.getLast? (Table.select_congr fun id c => and_congr_left fun hselected => ?_)
  simp only [Bool.and_eq_true, decide_eq_true_eq] at hselected
  exact ⟨fun hc => hnew id c hc hselected.1.1 hselected.1.2, fun hc => h.kept id c hc hselected.1.1⟩

/-- A verified chain stays one. -/
theorem chain_later (h : CheckpointsKept caseId s s') (sound : StoreSound s)
    (sound' : StoreSound s') {current : Nat × CheckpointRow}
    (hcurrent : s.checkpoints.get? current.1 = some current.2) (hcase : current.2.caseId = caseId) :
    verifiedStreamCheckpointChain sha s' caseId casePublicId current =
      verifiedStreamCheckpointChain sha s caseId casePublicId current :=
  verifiedStreamCheckpointChain_kept h sound.owned sound'.owned sound.ids sound'.ids hcurrent hcase

/-- A commit leaves the checkpoints of a case, or publishes a run for it, or
deletes it. -/
theorem checkpoints_step {w : Write} (hw : w.WellFormed) (sound : StoreSound s) :
    CheckpointsFrozen caseId s (w.commit s).2 ∨
      (∃ p id row, w = .publish p ∧ s.syncs.get? id = some row ∧ p.selects id row = true ∧
        row.caseId = caseId ∧ (w.commit s).2 = s.published p ∧
        CheckpointsKept caseId s (w.commit s).2) ∨
      ∀ id c, (w.commit s).2.checkpoints.get? id = some c → c.caseId ≠ caseId := by
  by_cases hdelete : ∃ target now, w = .deleteCase target now ∧ caseId = target.caseId
  · obtain ⟨target, now, rfl, hcase⟩ := hdelete
    rcases Write.deleteCase_cases target now s with hsame | ⟨-, hdeleted⟩
    · rw [hsame]
      exact .inl ⟨.refl _, fun _ _ hc _ => hc⟩
    · rw [hdeleted]
      refine .inr (.inr fun id c hc htarget => (get?_deleteOf.mp hc).2 ?_)
      exact decide_eq_true (htarget.trans hcase)
  · have kept := @checkpointsKept_commit w s caseId
      (fun target now heq htarget => hdelete ⟨target, now, heq, htarget⟩) hw sound.owned
    by_cases hnew : ∀ id c, (w.commit s).2.checkpoints.get? id = some c → c.caseId = caseId →
        s.checkpoints.get? id = some c
    · exact .inl ⟨kept, hnew⟩
    · simp only [not_forall] at hnew
      obtain ⟨id, c, hc, hcase, hfresh⟩ := hnew
      rcases checkpoints_after hc with hold | ⟨p, i, row, rfl, hrow, hselects, hs, -, -, hc⟩
      · exact absurd hold hfresh
      · refine .inr (.inl ⟨p, i, row, rfl, hrow, hselects, ?_, hs, kept⟩)
        obtain ⟨sha, claimed, run, now, rfl⟩ := hw
        exact (Publication.selects_iff.mp hselects).2.1.trans
          ((publication_checkpoint (List.mem_of_getElem? hc)).1.symm.trans hcase)

/-- The tip of a stream after a publication: every tip of the stream is the
one before, or the new checkpoint is the tip from its id on. -/
theorem published_tip {p : Publication} (hw : (Write.publish p).WellFormed)
    (hs : (Write.commit (.publish p) s).2 = s') (kept : CheckpointsKept caseId s s')
    {key : StreamKey} {tip : Nat × CheckpointRow}
    (htip : s'.streamTip? caseId none key = some tip) :
    (∀ cutoff, s'.streamTip? caseId cutoff key = s.streamTip? caseId cutoff key) ∨
      tip.2 ∈ p.checkpoints ∧
        (∀ cutoff < tip.1, s'.streamTip? caseId (some cutoff) key =
          s.streamTip? caseId (some cutoff) key) ∧
        ∀ cutoff, tip.1 ≤ cutoff → s'.streamTip? caseId (some cutoff) key = some tip := by
  obtain ⟨⟨hstored, hselected⟩, hnewest⟩ := Table.latest?_eq_some _ htip
  simp only [Option.all_none, Bool.and_true, Bool.and_eq_true, decide_eq_true_eq] at hselected
  have newest : ∀ cid c, s'.checkpoints.get? cid = some c → c.caseId = caseId →
      c.streamKey = key → cid ≤ tip.1 := by
    intro cid c hc hcase hkey
    refine hnewest cid c hc ?_
    simp only [Option.all_none, Bool.and_true, Bool.and_eq_true, decide_eq_true_eq]
    exact ⟨hcase, hkey⟩
  rw [← hs] at hstored newest
  rcases checkpoints_after hstored with hold | ⟨p', i, r, heq, -, -, -, hfree, hlow, hnew⟩
  · left
    refine streamTip?_of_kept kept fun cid c hc hcase hkey => ?_
    rw [← hs] at hc
    rcases checkpoints_after hc with hc | ⟨p', i, r, -, -, -, -, -, hlow, -⟩
    · exact hc
    · have hle := newest cid c hc hcase hkey
      have hlt := s.checkpoints.lt_nextId hold
      exact absurd hle (Nat.not_le.mpr (Nat.lt_of_lt_of_le hlt hlow))
  · right
    cases heq
    have only : ∀ cid c, s'.checkpoints.get? cid = some c → c.caseId = caseId →
        c.streamKey = key → s.checkpoints.get? cid = some c ∨ cid = tip.1 := by
      intro cid c hc hcase hkey
      rw [← hs] at hc
      rcases checkpoints_after hc with hold | ⟨p', i', r', heq, -, -, -, -, hlow', hnew'⟩
      · exact .inl hold
      · cases heq
        right
        have distinct : (p.checkpoints.map fun c => (c.sourceSyncId, c.streamKey)).Nodup := by
          unfold Publication.checkpointsCollide at hfree
          simp only [Bool.or_eq_false_iff, decide_eq_false_iff_not, not_not] at hfree
          exact hfree.2
        obtain ⟨sha, claimed, run, now, rfl⟩ := hw
        have hsource := (publication_checkpoint (List.mem_of_getElem? hnew)).2
        have hsource' := (publication_checkpoint (List.mem_of_getElem? hnew')).2
        have hplace : cid - s.checkpoints.nextId = tip.1 - s.checkpoints.nextId := by
          refine (List.getElem?_inj ?_ distinct).mp ?_
          · rw [List.length_map]
            exact (List.getElem?_eq_some_iff.mp hnew').1
          · rw [List.getElem?_map, List.getElem?_map, hnew, hnew', Option.map_some, Option.map_some,
              hsource, hsource', hkey, hselected.2]
        omega
    refine ⟨List.mem_of_getElem? hnew, fun cutoff hcutoff => ?_, fun cutoff hcutoff => ?_⟩
    · unfold Store.streamTip? Table.latest?
      refine congrArg List.getLast?
        (Table.select_congr fun cid c => and_congr_left fun hselected => ?_)
      simp only [Bool.and_eq_true, decide_eq_true_eq, Option.all_some] at hselected
      refine ⟨fun hc => ?_, fun hc => kept.kept cid c hc hselected.1.1⟩
      rcases only cid c hc hselected.1.1 hselected.1.2 with hold | hid
      · exact hold
      · omega
    · rw [← hs] at *
      cases hat : (Write.commit (.publish p) s).2.streamTip? caseId (some cutoff) key with
      | none =>
          have := (Table.latest?_eq_none _).mp hat tip.1 tip.2 hstored
          simp [hselected, hcutoff] at this
      | some other =>
          obtain ⟨⟨hother, hotherSelected⟩, hotherNewest⟩ := Table.latest?_eq_some _ hat
          simp only [Bool.and_eq_true, decide_eq_true_eq, Option.all_some] at hotherSelected
          have hle := newest other.1 other.2 hother hotherSelected.1.1 hotherSelected.1.2
          have hge := hotherNewest tip.1 tip.2 hstored (by simp [hselected, hcutoff])
          have hid : other.1 = tip.1 := Nat.le_antisymm hle hge
          rw [hid, hstored] at hother
          exact congrArg some (Prod.ext hid (Option.some.inj hother).symm)

/-- The page count of a checkpoint that a resume under a budget publishes. -/
theorem published_pageCount {claimed : ClaimedCaseSync} {settings : ActivitySettings}
    {answers : ProviderAnswers} {run : IngestionRun} {now : Instant}
    {resume : ResumePlan Uuid HexDigest} {budget : PageBudget}
    (hrun : buildWalletIngestionRun settings claimed.buildRequest answers = .ok run)
    (hresume : claimed.plan.resume? = some resume)
    (hbudget : resume.authority.pageBudget = some budget) {c : CheckpointRow}
    (hc : c ∈ (publication sha claimed run now).checkpoints) :
    c.document.pageCount ≤ budget.val := by
  obtain ⟨document, hdocument, rfl⟩ := List.mem_map.mp hc
  obtain ⟨stream, hstream, rfl⟩ := List.mem_map.mp hdocument
  exact pageCount_le_budget hrun
    (show claimed.plan.resume?.map (·.streamKey) = some resume.streamKey by rw [hresume]; rfl)
    (show (claimed.plan.resume?.bind fun r => r.authority.pageBudget.map (·.val)) =
      some budget.val by rw [hresume, Option.bind_some, hbudget]; rfl) hstream

/-- What the publication of a scheduled run does to a stream: nothing, or
it adds the pages of the run to a stream that had no more of them at the
cutoff of the schedule than any other. -/
theorem published_grow {p : Publication} {id : Nat} {row : SyncRow} (sound : StoreSound s)
    (hw : (Write.publish p).WellFormed) (hs : (Write.commit (.publish p) s).2 = s')
    (hpublished : s' = s.published p) (hprovided : Provided sha p s)
    (hrow : s.syncs.get? id = some row) (hselects : p.selects id row = true)
    (hcase : row.caseId = caseId) (kept : CheckpointsKept caseId s s')
    {resume : ResumePlan Uuid HexDigest}
    {continuationPlan backfillSchedule backfillProgress cutoff : HexDigest} {budget : PageBudget}
    (hresume : row.plan.resume? = some resume) (hauthority : resume.authority =
      .schedule continuationPlan budget backfillSchedule backfillProgress cutoff)
    {key : StreamKey} {m m' : Nat} (hm : CutoffReady sha caseId casePublicId s none key m)
    (hm' : CutoffReady sha caseId casePublicId s' none key m') :
    (∀ bound n, CutoffReady sha caseId casePublicId s' bound key n ↔
      CutoffReady sha caseId casePublicId s bound key n) ∨
      key = resume.streamKey ∧ m ≤ m' ∧ m' ≤ m + 10 ∧
        (∃ found, s.streamCheckpoint? caseId cutoff = some found ∧ ∀ other n,
          CutoffReady sha caseId casePublicId s (some found.1) other n → m ≤ n) ∧
        ∃ first, (∀ bound < first, ∀ n, CutoffReady sha caseId casePublicId s' (some bound) key n ↔
            CutoffReady sha caseId casePublicId s (some bound) key n) ∧
          ∀ bound, first ≤ bound → CutoffReady sha caseId casePublicId s' (some bound) key m' := by
  have sound' : StoreSound s' := hs ▸ sound.commit hw
  have same : ∀ bound, s'.streamTip? caseId bound key = s.streamTip? caseId bound key →
      ∀ n, CutoffReady sha caseId casePublicId s' bound key n ↔
        CutoffReady sha caseId casePublicId s bound key n := by
    intro bound htips n
    unfold CutoffReady
    rw [htips]
    refine exists_congr fun tip => exists_congr fun chain => and_congr_right fun htip => ?_
    obtain ⟨hstored, htipCase, -⟩ := streamTip?_eq_some htip
    rw [chain_later kept sound sound' hstored htipCase]
  obtain ⟨tip', chain', htip', hchain', hready', rfl⟩ := hm'
  rcases published_tip hw hs kept htip' with htips | ⟨hnew, hbefore, hafter⟩
  · exact .inl fun bound n => same bound (htips bound) n
  · right
    obtain ⟨claimed, settings, answers, run, now, rfl, hrun, hchecked⟩ := hprovided
    obtain ⟨hid, -, howned, -⟩ := Publication.selects_iff.mp hselects
    obtain ⟨hrunning, htoken⟩ := SyncRow.ownedBy_running howned
    obtain ⟨hof, hvalid⟩ := hchecked row ⟨hid ▸ hrow, hrunning, htoken⟩
    rw [hof.plan] at hresume
    obtain ⟨source, found, chain, hsource, hsourceTip, hfound, hchain, hleast⟩ :=
      scheduled_least sound (hvalid resume hresume) hauthority
    rw [← hof.caseId, hcase] at hsource hsourceTip hfound hchain hleast
    -- the new tip is the published revision, and its plan the claimed one
    obtain ⟨response, hresponse, htip⟩ := chain_tip hchain'
    obtain ⟨-, -, hdocument, -, hkeys, hplan⟩ := response_descriptor hresponse
    have hsourceRow := (streamCheckpointResponse_source hresponse).2.1
    rw [(publication_checkpoint hnew).2, hpublished] at hsourceRow
    have hrowId : claimed.lease.jobId = id := hid.symm
    rw [hrowId, published_row hrow hselects] at hsourceRow
    have hplanResume : response.plan.resume? = some resume := by
      have hacquired : response.source.acquisitionPlan = .ok response.plan := by
        unfold SyncRow.verifiedPlan at hplan
        split at hplan
        case h_1 plan' hplan' =>
          cases hplan
          exact hplan'
        all_goals cases hplan
      have hsame : response.plan = response.source.plan := by
        unfold SyncRow.acquisitionPlan at hacquired
        cases hread : syncAcquisitionPlan response.source.storedPlan with
        | error error => rw [hread] at hacquired; cases hacquired
        | ok fields => rw [hread] at hacquired; exact (Except.ok.inj hacquired).symm
      rw [hsame, ← Option.some.inj hsourceRow]
      exact hof.plan.symm ▸ hresume
    have hkey : resume.streamKey = key :=
      (hkeys resume hplanResume).trans (streamTip?_eq_some htip').2.2
    obtain ⟨parent, before, hparent, hparentChain, hextend⟩ :=
      chain_of_resumed hchain' hresponse hplanResume
    -- its parent is the tip the worker has checked
    obtain ⟨hsourceStored, hsourceCase, hsourceId⟩ :=
      (streamCheckpoint?_eq_some sound.owned).mp hsource
    obtain rfl : parent = source := by
      have := (streamCheckpoint?_eq_some sound'.owned).mpr
        ⟨kept.kept _ _ hsourceStored hsourceCase, hsourceCase, hsourceId⟩
      rw [hparent] at this
      exact Option.some.inj this
    rw [chain_later kept sound sound' hsourceStored hsourceCase] at hparentChain
    obtain ⟨tip, chain₀, htip₀, hchain₀, -, rfl⟩ := hm
    rw [hkey] at hsourceTip
    cases htip₀.symm.trans hsourceTip
    have hbefore₀ : before = chain₀ := Except.ok.inj (hparentChain.symm.trans hchain₀)
    subst hbefore₀
    obtain ⟨_, hresponse₀, -⟩ := chain_tip hchain₀
    obtain ⟨_, hresponse₁, -⟩ := chain_tip hchain
    have hpublic : casePublicId = claimed.casePublicId :=
      (response_descriptor hresponse₀).2.2.2.1.symm.trans
        (response_descriptor hresponse₁).2.2.2.1
    rw [← hpublic] at hchain hleast
    have hbefore₁ : before = chain := Except.ok.inj (hparentChain.symm.trans hchain)
    subst hbefore₁
    have hpages : chain'.continuationPageCount =
        before.continuationPageCount + tip'.2.document.pageCount := by
      rw [hextend, Chain.continuationPageCount_extend]
      exact congrArg (before.continuationPageCount + ·.pageCount) hdocument
    have hbudget : tip'.2.document.pageCount ≤ budget.val :=
      published_pageCount hrun hresume (by rw [hauthority]; rfl) hnew
    have := budget.bounded
    refine ⟨hkey.symm, by omega, by omega, ⟨found, hfound, hleast⟩, tip'.1,
      fun bound hbound => same (some bound) (hbefore bound hbound), fun bound hbound => ?_⟩
    exact ⟨tip', chain', hafter bound hbound, hchain', hready', rfl⟩

end Step

/-! ## Every run -/

/-- The cutoff is not older than what the case had before. -/
def NotOlder (caseId : Nat) (s₀ : Store) (cutoff : Nat) : Prop :=
  ∀ id c, s₀.checkpoints.get? id = some c → c.caseId = caseId → id ≤ cutoff

/-- The sync was enqueued from a schedule that was read since. -/
def ScheduledSince (caseId : Nat) (s₀ s : Store) (row : SyncRow) : Prop :=
  ∃ resume continuationPlan budget backfillSchedule backfillProgress cutoff found,
    row.plan.resume? = some resume ∧
      resume.authority =
        .schedule continuationPlan budget backfillSchedule backfillProgress cutoff ∧
      s.streamCheckpoint? caseId cutoff = some found ∧ NotOlder caseId s₀ found.1

/-- Both streams are ready, and what is published for the case is the run of
a schedule that was read since. -/
structure ScheduleRuns (sha : Sha256) (caseId : Nat) (casePublicId : Uuid) (a b : StreamKey)
    (s₀ : Store) (_ : Nat) (w : Write) (s : Store) : Prop where
  first : ∃ pages, ReadyAfter sha caseId casePublicId s a pages
  second : ∃ pages, ReadyAfter sha caseId casePublicId s b pages
  scheduled : ∀ p id row, w = .publish p → s.syncs.get? id = some row →
    p.selects id row = true → row.caseId = caseId → ScheduledSince caseId s₀ s row

/-- What holds of two streams while they are ready. -/
structure NearEachOther (sha : Sha256) (caseId : Nat) (casePublicId : Uuid) (a b : StreamKey)
    (s₀ : Store) (distance : Nat) (s : Store) : Prop where
  /-- At every cutoff since they had reached no more than now. -/
  grown : ∀ key, key = a ∨ key = b → ∀ now, CutoffReady sha caseId casePublicId s none key now →
    ∀ cutoff, NotOlder caseId s₀ cutoff →
      ∃ reached ≤ now, CutoffReady sha caseId casePublicId s (some cutoff) key reached
  near : ∀ m n, CutoffReady sha caseId casePublicId s none a m →
    CutoffReady sha caseId casePublicId s none b n → m ≤ n + distance ∧ n ≤ m + distance

section Run

variable {sha : Sha256} {caseId : Nat} {casePublicId : Uuid} {a b : StreamKey} {s₀ s : Store}
  {distance : Nat}

theorem NearEachOther.start (hdistance : ∀ m n, CutoffReady sha caseId casePublicId s₀ none a m →
    CutoffReady sha caseId casePublicId s₀ none b n → m ≤ n + distance ∧ n ≤ m + distance) :
    NearEachOther sha caseId casePublicId a b s₀ distance s₀ := by
  refine ⟨fun key _ now hnow cutoff hcutoff => ⟨now, Nat.le_refl _, ?_⟩, hdistance⟩
  obtain ⟨tip, chain, htip, hchain⟩ := hnow
  refine ⟨tip, chain, ?_, hchain⟩
  rw [← htip]
  unfold Store.streamTip? Table.latest?
  refine congrArg List.getLast? (Table.select_congr fun id c => and_congr_right fun hc => ?_)
  simp only [Bool.and_eq_true, decide_eq_true_eq, Option.all_some, Option.all_none, and_true]
  exact and_iff_left_of_imp fun hselected => hcutoff id c hc hselected.1

theorem NearEachOther.step {w : Write} {sid : Nat} (hten : 10 ≤ distance) (sound : StoreSound s)
    (hw : w.WellFormed) (hprovided : ∀ p, w = .publish p → Provided sha p s)
    (hruns : ScheduleRuns sha caseId casePublicId a b s₀ sid w s) {m' n' : Nat}
    (hm' : CutoffReady sha caseId casePublicId (w.commit s).2 none a m')
    (hn' : CutoffReady sha caseId casePublicId (w.commit s).2 none b n')
    (h : NearEachOther sha caseId casePublicId a b s₀ distance s) :
    NearEachOther sha caseId casePublicId a b s₀ distance (w.commit s).2 := by
  rcases @checkpoints_step caseId _ _ hw sound with frozen |
    ⟨p, id, row, rfl, hrow, hselects, hcase, hpublished, kept⟩ | hdeleted
  · have same := @cutoffReady_frozen sha caseId casePublicId s _ frozen sound (sound.commit hw)
    constructor
    · intro key hkey now hnow cutoff hcutoff
      obtain ⟨reached, hle, hreached⟩ := h.grown key hkey now ((same _ _ _).mp hnow) cutoff hcutoff
      exact ⟨reached, hle, (same _ _ _).mpr hreached⟩
    · exact fun m n hm hn => h.near m n ((same _ _ _).mp hm) ((same _ _ _).mp hn)
  · obtain ⟨resume, continuationPlan, budget, backfillSchedule, backfillProgress, cutoff, found,
      hresume, hauthority, hfound, hnotOlder⟩ := hruns.scheduled p id row rfl hrow hselects hcase
    obtain ⟨m, hm⟩ := hruns.first
    obtain ⟨n, hn⟩ := hruns.second
    have ready : ∀ key, key = a ∨ key = b → ∃ pages,
        CutoffReady sha caseId casePublicId s none key pages := by
      rintro key (rfl | rfl)
      · exact ⟨m, hm.cutoffReady⟩
      · exact ⟨n, hn.cutoffReady⟩
    have grow : ∀ key, ∀ {before after : Nat},
        CutoffReady sha caseId casePublicId s none key before →
        CutoffReady sha caseId casePublicId (Write.commit (.publish p) s).2 none key after → _ :=
      fun key before after hbefore hafter => published_grow sound hw rfl hpublished
        (hprovided p rfl) hrow hselects hcase kept hresume hauthority hbefore hafter
    constructor
    · intro key hkey now hnow bound hbound
      obtain ⟨before, hbefore⟩ := ready key hkey
      obtain ⟨reached, hle, hreached⟩ := h.grown key hkey before hbefore bound hbound
      rcases grow key hbefore hnow with same | ⟨-, hmore, -, -, first, hearlier, hlater⟩
      · cases ((same none now).mp hnow).unique hbefore
        exact ⟨reached, hle, (same _ _).mpr hreached⟩
      · by_cases hfirst : first ≤ bound
        · exact ⟨now, Nat.le_refl _, hlater bound hfirst⟩
        · exact ⟨reached, hle.trans hmore, (hearlier bound (Nat.not_le.mp hfirst) _).mpr hreached⟩
    · intro m₁ n₁ hm₁ hn₁
      -- what the selected stream had at the cutoff, no stream has less now
      have least : ∀ key other, key = a ∨ key = b → other = a ∨ other = b →
          ∀ before now, CutoffReady sha caseId casePublicId s none other now →
          (∃ found, s.streamCheckpoint? caseId cutoff = some found ∧ ∀ other n,
            CutoffReady sha caseId casePublicId s (some found.1) other n → before ≤ n) →
          before ≤ now := by
        rintro key other - hother before now hnow ⟨found', hfound', hleast⟩
        cases hfound.symm.trans hfound'
        obtain ⟨reached, hle, hreached⟩ := h.grown other hother now hnow _ hnotOlder
        exact (hleast other reached hreached).trans hle
      have hnear := h.near m n hm.cutoffReady hn.cutoffReady
      rcases grow a hm.cutoffReady hm₁ with sameA | ⟨hkeyA, hmoreA, htenA, hleastA, -⟩ <;>
        rcases grow b hn.cutoffReady hn₁ with sameB | ⟨hkeyB, hmoreB, htenB, hleastB, -⟩
      · cases ((sameA none _).mp hm₁).unique hm.cutoffReady
        cases ((sameB none _).mp hn₁).unique hn.cutoffReady
        exact hnear
      · cases ((sameA none _).mp hm₁).unique hm.cutoffReady
        have := least b a (.inr rfl) (.inl rfl) n m hm.cutoffReady hleastB
        omega
      · cases ((sameB none _).mp hn₁).unique hn.cutoffReady
        have := least a b (.inl rfl) (.inr rfl) m n hn.cutoffReady hleastA
        omega
      · cases hkeyA.trans hkeyB.symm
        cases hm₁.unique hn₁
        omega
  · obtain ⟨tip, -, htip, -⟩ := hm'
    obtain ⟨hstored, hcase, -⟩ := streamTip?_eq_some htip
    exact absurd hcase (hdeleted _ _ hstored)

/-- In every run in which two streams stay ready and nothing is published
for the case but the runs of schedules read in it, their continuation page
counts never differ by more than they did before it, or by more than ten. -/
theorem schedule_fair {world world' : World (caseSystem sha)} (reached : Reaches start world)
    (run : Run (ScheduleRuns sha caseId casePublicId a b world.state) world world')
    {m n m' n' : Nat} (hm : ReadyAfter sha caseId casePublicId world.state a m)
    (hn : ReadyAfter sha caseId casePublicId world.state b n)
    (hm' : ReadyAfter sha caseId casePublicId world'.state a m')
    (hn' : ReadyAfter sha caseId casePublicId world'.state b n') :
    ((m' : Int) - n').natAbs ≤ max ((m : Int) - n).natAbs 10 := by
  have first : NearEachOther sha caseId casePublicId a b world.state
      (max ((m : Int) - n).natAbs 10) world.state := by
    refine .start fun m₁ n₁ hm₁ hn₁ => ?_
    cases hm₁.unique hm.cutoffReady
    cases hn₁.unique hn.cutoffReady
    omega
  have every : ∀ {world' : World (caseSystem sha)},
      Run (fun sid (w : Write) s => ScheduleRuns sha caseId casePublicId a b world.state sid w s ∧
        StoreSound s ∧ w.WellFormed ∧ ∀ p, w = .publish p → Provided sha p s) world world' →
      ∀ {m' n' : Nat}, CutoffReady sha caseId casePublicId world'.state none a m' →
        CutoffReady sha caseId casePublicId world'.state none b n' →
        NearEachOther sha caseId casePublicId a b world.state (max ((m : Int) - n).natAbs 10)
          world'.state := by
    intro world' run
    induction run with
    | refl => exact fun _ _ => first
    | @step world₁ run move allowed ih =>
        intro m' n' hm' hn'
        rw [World.state_step] at hm' hn' ⊢
        split at hm'
        next sid w hcommit =>
          rw [hcommit] at hn'
          obtain ⟨hruns, hsound, hwell, hprovided⟩ := allowed sid w hcommit
          obtain ⟨_, hfirst⟩ := hruns.first
          obtain ⟨_, hsecond⟩ := hruns.second
          exact (ih hfirst.cutoffReady hsecond.cutoffReady).step (le_max_right _ _) hsound hwell
            hprovided hruns hm' hn'
        next hcommit =>
          rw [hcommit] at hn'
          exact ih hm' hn'
  have near := (every (provided_rest reached run) hm'.cutoffReady hn'.cutoffReady).near m' n'
    hm'.cutoffReady hn'.cutoffReady
  omega

end Run

/-! ## Two streams of one case -/

/-- A provider whose account has an event at every logical time. -/
def pairedProvider : ProviderAnswers :=
  { sampleProvider with
    events := { sampleProvider.events with
      fetchJson := fun _ query =>
        let lt : Int := query.beforeLt.elim 40 fun before => before.val - 1
        .ok (.obj [("events", .arr [.obj [("event_id", .str (List.replicate 64 'a')),
          ("lt", .int lt), ("timestamp", .int 1000), ("actions", .arr []),
          ("in_progress", .bool false)]]), ("next_from", .int lt)]) } }

/-- Another hash for another stream. -/
def pairedSha : Sha256
  | .checkpoint document => match document.streamKey with
    | .transactions => syncDigest '3' document.sourceSync
    | .accountEvents => syncDigest '4' document.sourceSync
  | document => journalSha document

def pairedSession (sid : Nat) (entry : Entry) (seconds : Nat) (publicId : Uuid) (steps : Nat) :
    List (Move (caseSystem pairedSha)) :=
  .launch entry :: List.replicate steps (.run sid (pagedAnswers pairedProvider seconds publicId))

def pairedRequest : SyncRequest :=
  ⟨.bounded, .custom, some "1970-01-01T00:10:00Z".toList, some "1970-01-01T00:30:00Z".toList,
    [.transactions, .transfers], by decide, by decide⟩

/-- A case with a page of both streams. -/
def samplePaired : List (Move (caseSystem pairedSha)) :=
  pairedSession 0
    (.createOrOpenCase ⟨sampleOwner, .mainnet, .live, "0:0a".toList, none, none⟩)
    2000 (sampleUuid '0') 20 ++
  pairedSession 1
    (.enqueueSync sampleOwner (sampleUuid '0') pairedRequest "sync".toList)
    2001 (sampleUuid '1') 30 ++
  pairedSession 2 .runSyncWorker 2002 (sampleUuid '2') 60

def pairedWorld (moves : List (Move (caseSystem pairedSha))) : World (caseSystem pairedSha) :=
  moves.foldl World.step start


/-- A page of the stream that a schedule selected. -/
def sampleFair : List (Move (caseSystem pairedSha)) :=
  pairedSession 3
    (.enqueueBackfillSchedule sampleOwner (sampleUuid '0')
      (cutoffDigest '7' (some (syncDigest '3' (sampleUuid '1')))) ⟨1, one_le_pageBudget, pageBudget_le_ten⟩
      "page".toList) 2003 (sampleUuid '3') 60 ++
  pairedSession 4 .runSyncWorker 2004 (sampleUuid '4') 60

/-- The page count of a stream that is ready. -/
def readyCount (sha : Sha256) (caseId : Nat) (casePublicId : Uuid) (s : Store) (key : StreamKey) :
    Option Nat :=
  (currentProgress sha caseId casePublicId s).toOption.bind fun progress =>
    (progress.document.streams.find? fun stream => decide (stream.tipCheckpoint.streamKey = key) &&
      decide (stream.resumeState = .ready)).map (·.continuationPageCount)

theorem readyAfter_of_readyCount {sha : Sha256} {caseId : Nat} {casePublicId : Uuid} {s : Store}
    {key : StreamKey} {pages : Nat} (h : readyCount sha caseId casePublicId s key = some pages) :
    ReadyAfter sha caseId casePublicId s key pages := by
  obtain ⟨progress, hprogress, hfound⟩ := Option.bind_eq_some_iff.mp h
  obtain ⟨stream, hstream, hpages⟩ := Option.map_eq_some_iff.mp hfound
  have hselected := List.find?_some hstream
  simp only [Bool.and_eq_true, decide_eq_true_eq] at hselected
  exact ⟨progress, eq_ok_of_toOption hprogress, stream, List.mem_of_find?_eq_some hstream,
    hselected.1, hselected.2, hpages⟩

/-- What `ScheduleRuns` asks of a commit to the first case. -/
def schedules (sha : Sha256) (casePublicId : Uuid) (a b : StreamKey) (s₀ : Store) (w : Write)
    (s : Store) : Bool :=
  (readyCount sha 1 casePublicId s a).isSome && (readyCount sha 1 casePublicId s b).isSome &&
    match w with
    | .publish p => s.syncs.rows.all fun entry => !p.selects entry.1 entry.2 ||
        entry.2.plan.resume?.any fun resume => match resume.authority with
          | .schedule _ _ _ _ cutoff => (s.streamCheckpoint? 1 cutoff).any fun found =>
              s₀.checkpoints.rows.all fun c => decide (c.1 ≤ found.1)
          | _ => false
    | _ => true

theorem scheduleRuns_of_schedules {sha : Sha256} {casePublicId : Uuid} {a b : StreamKey}
    {s₀ s : Store} {w : Write} (sid : Nat) (h : schedules sha casePublicId a b s₀ w s = true) :
    ScheduleRuns sha 1 casePublicId a b s₀ sid w s := by
  simp only [schedules, Bool.and_eq_true, Option.isSome_iff_exists] at h
  obtain ⟨⟨⟨m, hm⟩, ⟨n, hn⟩⟩, hpublish⟩ := h
  refine ⟨⟨m, readyAfter_of_readyCount hm⟩, ⟨n, readyAfter_of_readyCount hn⟩, ?_⟩
  rintro p id row rfl hrow hselects -
  have hall := List.all_eq_true.mp hpublish _ (s.syncs.mem_rows_iff.mpr hrow)
  rw [hselects, Bool.not_true, Bool.false_or] at hall
  obtain ⟨resume, hresume, hall⟩ := (Option.any_eq_true ..).mp hall
  cases hauthority : resume.authority with
  | schedule continuationPlan budget backfillSchedule backfillProgress cutoff =>
      rw [hauthority] at hall
      obtain ⟨found, hfound, hall⟩ := (Option.any_eq_true ..).mp hall
      refine ⟨resume, continuationPlan, budget, backfillSchedule, backfillProgress, cutoff, found,
        hresume, hauthority, hfound, fun id c hc _ => ?_⟩
      exact of_decide_eq_true (List.all_eq_true.mp hall _ (s₀.checkpoints.mem_rows_iff.mpr hc))
  | direct =>
      rw [hauthority] at hall
      cases hall
  | plan continuationPlan budget =>
      rw [hauthority] at hall
      cases hall

/-- Both streams stay ready while the schedule's page is read. -/
theorem sampleFair_runs : Run (ScheduleRuns pairedSha 1 (sampleUuid '0') .transactions
    .accountEvents (pairedWorld samplePaired).state) (pairedWorld samplePaired)
      (pairedWorld (samplePaired ++ sampleFair)) := by
  unfold pairedWorld
  rw [List.foldl_append]
  exact Session.run_foldl (fun _ => schedules pairedSha (sampleUuid '0') .transactions
    .accountEvents (pairedWorld samplePaired).state) (fun sid _ _ => scheduleRuns_of_schedules sid)
    _ _ (by decide +kernel)

/-- The events are one page ahead of the transactions. -/
theorem schedule_fair_sample :
    readyCount pairedSha 1 (sampleUuid '0') (pairedWorld (samplePaired ++ sampleFair)).state
        .accountEvents = some 1 ∧
      ((0 : Int) - 1).natAbs ≤ max ((0 : Int) - 0).natAbs 10 := by
  have counts : (readyCount pairedSha 1 (sampleUuid '0') (pairedWorld samplePaired).state
        .transactions = some 0 ∧
      readyCount pairedSha 1 (sampleUuid '0') (pairedWorld samplePaired).state
        .accountEvents = some 0) := by decide +kernel
  have later : (readyCount pairedSha 1 (sampleUuid '0')
        (pairedWorld (samplePaired ++ sampleFair)).state .transactions = some 0 ∧
      readyCount pairedSha 1 (sampleUuid '0') (pairedWorld (samplePaired ++ sampleFair)).state
        .accountEvents = some 1) := by decide +kernel
  exact ⟨later.2,
    schedule_fair (Session.reaches_foldl samplePaired start) sampleFair_runs
      (readyAfter_of_readyCount counts.1) (readyAfter_of_readyCount counts.2)
      (readyAfter_of_readyCount later.1) (readyAfter_of_readyCount later.2)⟩

end TonTracker
