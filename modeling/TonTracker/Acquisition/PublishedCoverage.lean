/-
# `Acquisition.PublishedCoverage` — when a stored coverage is read back

The adapter lists a surface as unavailable where its call or its stream
failed, and as incomplete where its stream did not complete.  A stream
that fails before it accepts a row is both, so its surfaces are in both
lists, which the reader of the record asks to be disjoint.  Every other
condition of the reader holds of every run the adapter can build.
-/
import TonTracker.Lib.Reordering
import TonTracker.Services.Coverage
import TonTracker.Concurrency.Sessions

namespace TonTracker

open Reordering (nodup_eraseDups)

/-! ## Distinct surfaces -/

theorem eraseDups_of_nodup {α : Type} [BEq α] [LawfulBEq α] {l : List α} (h : l.Nodup) :
    l.eraseDups = l := by
  induction l with
  | nil => rfl
  | cons a l ih =>
      obtain ⟨ha, hl⟩ := List.nodup_cons.mp h
      have kept : (l.filter fun b => !b == a) = l := by
        refine List.filter_eq_self.mpr fun b hb => ?_
        have : b ≠ a := fun heq => ha (heq ▸ hb)
        simpa using this
      rw [List.eraseDups_cons, kept, ih hl]

theorem surfaceList_surfaceList (surfaces : List Surface) :
    surfaceList (surfaceList surfaces) = surfaceList surfaces :=
  eraseDups_of_nodup (nodup_eraseDups surfaces)

theorem mem_surfaceList {surface : Surface} {surfaces : List Surface} :
    surface ∈ surfaceList surfaces ↔ surface ∈ surfaces := List.mem_eraseDups

theorem surfaceList_eq_nil {surfaces : List Surface} :
    surfaceList surfaces = [] ↔ surfaces = [] := by
  simp only [List.eq_nil_iff_forall_not_mem, mem_surfaceList]

/-! ## Compact streams -/

theorem compactStream_idem {stream compact : CoverageStream}
    (h : compactStream stream = some compact) : compactStream compact = some compact := by
  unfold compactStream at h
  split at h
  · cases h
  case isFalse hnonempty =>
    cases h
    rw [not_or] at hnonempty
    unfold compactStream
    rw [if_neg (by simpa using hnonempty)]
    have code : ∀ code : Option Text,
        coverageErrorCode (coverageErrorCode code) = coverageErrorCode code := by
      intro code
      cases code with
      | none => rfl
      | some text =>
          cases text with
          | nil => rfl
          | cons a text => simp [coverageErrorCode, Option.filter, List.take_take]
    simp only [List.take_take, Nat.min_self, code]

/-- A compacted record is compact. -/
theorem compactCoverageStreams_idem (streams : List CoverageStream) :
    compactCoverageStreams (compactCoverageStreams streams) = compactCoverageStreams streams := by
  unfold compactCoverageStreams
  induction streams with
  | nil => rfl
  | cons stream streams ih =>
      cases h : compactStream stream with
      | none => rw [List.filterMap_cons_none h, ih]
      | some compact =>
          rw [List.filterMap_cons_some h, List.filterMap_cons_some (compactStream_idem h), ih]

/-! ## The ends of the transaction stream -/

section Ends

variable {D : Type}

/-- A fatal end is an error, and a complete one has no error code. -/
structure TransactionEnd.Settled (e : TransactionEnd D) : Prop where
  fatal : e.fatal = true → e.completionState ≠ .complete
  complete : e.completionState = .complete → e.errorCode = none

theorem transactionFailure_settled (feed : TransactionFeed D) (run : TransactionRun)
    (s : TransactionLoop D) (response : Option TransactionPage) (errorCode : EvidenceError)
    (reason : TerminationReason) :
    (transactionFailure feed run s response errorCode reason).Settled := by
  unfold transactionFailure
  cases s.acceptedRows.isEmpty
  · exact ⟨fun h => (nomatch h), fun h => nomatch h⟩
  · exact ⟨fun _ h => (nomatch h), fun h => nomatch h⟩

theorem transactionPass_settled {feed : TransactionFeed D} {run : TransactionRun}
    {s : TransactionLoop D} {e : TransactionEnd D} (h : transactionPass feed run s = .inr e) :
    e.Settled := by
  unfold transactionPass at h
  split at h
  · cases h
    exact transactionFailure_settled _ _ _ _ _ _
  · split at h
    · cases h
      exact transactionFailure_settled _ _ _ _ _ _
    · dsimp only at h
      split at h
      · cases h
        exact ⟨fun h => (nomatch h), fun h => nomatch h⟩
      · split at h
        · cases h
          exact ⟨fun h => (nomatch h), fun h => nomatch h⟩
        · split at h
          · cases h
            exact ⟨fun h => (nomatch h), fun _ => rfl⟩
          · split at h
            · cases h
              exact ⟨fun h => (nomatch h), fun _ => rfl⟩
            · cases h

theorem transactionLoop_settled (feed : TransactionFeed D) (run : TransactionRun)
    (cursor : Option LogicalTime) (firstPageIndex pageCap : Nat) :
    (transactionLoop feed run cursor firstPageIndex pageCap).Settled := by
  unfold transactionLoop ForElse.run
  cases hpasses : ForElse.passes (transactionPass feed run) pageCap
      (transactionStart cursor firstPageIndex) with
  | inl s => exact ⟨fun h => (nomatch h), fun h => nomatch h⟩
  | inr e =>
      obtain ⟨s, -, hpass⟩ := ForElse.passes_break (fun _ => True) (fun _ _ _ _ => trivial)
        trivial hpasses
      exact transactionPass_settled hpass

/-- A transaction stream that failed is incomplete; one that is not has no
error. -/
theorem fetchTransactionAcquisition_settled (feed : TransactionFeed D)
    (settings : ActivitySettings) (request : AdapterRequest) (mode : Mode) :
    let outcome := fetchTransactionAcquisition feed settings request mode
    (outcome.fatal = true → outcome.incomplete = true) ∧
      (outcome.incomplete = false → outcome.stream.completionState = .complete ∧
        outcome.stream.errorCode = none) := by
  unfold fetchTransactionAcquisition
  dsimp only
  split
  case h_1 bounds cursor firstPageIndex _ _ =>
    have settled := transactionLoop_settled feed
      ⟨mode, bounds, transactionPageSize settings⟩ cursor firstPageIndex
      (pageCapOf request mode bounds (clamp 100 settings.liveTxMaxPages))
    refine ⟨fun h => decide_eq_true (settled.fatal h), fun h => ?_⟩
    have complete := not_not.mp (of_decide_eq_false h)
    exact ⟨complete, settled.complete complete⟩
  · exact ⟨fun _ => rfl, fun h => nomatch h⟩

end Ends

/-! ## The surfaces of a live run -/

/-- What the lists of a run are made of. -/
structure FetchedStream.Fits (surfaces : List Surface) (f : FetchedStream) : Prop where
  nonempty : f.surfaces ≠ []
  requested : ∀ surface ∈ f.surfaces, surface ∈ surfaces
  streamed : ∀ surface ∈ f.surfaces, surface ≠ .balances ∧ surface ≠ .jettons
  incomplete : ∀ surface ∈ f.incomplete, surface ∈ f.surfaces
  fatal : f.fatal = true → f.incomplete = f.surfaces
  complete : f.incomplete = [] → f.stream.completionState = .complete ∧ f.stream.errorCode = none

theorem mem_eventSurfaces {surfaces : List Surface} {surface : Surface} :
    surface ∈ eventSurfaces surfaces ↔
      (surface = .transfers ∨ surface = .swaps) ∧ surface ∈ surfaces := by
  unfold eventSurfaces
  rw [List.mem_filter, List.contains_iff_mem]
  simp

theorem fits_of_fetched {settings : ActivitySettings} {request : AdapterRequest}
    {surfaces : List Surface} {answers : ProviderAnswers} {f : FetchedStream}
    (h : f ∈ fetchedStreams settings request surfaces answers) : f.Fits surfaces := by
  unfold fetchedStreams at h
  rcases List.mem_append.mp h with h | h
  · split at h
    case isTrue hrequested =>
      obtain rfl := List.mem_singleton.mp h
      obtain ⟨fatal, complete⟩ :=
        fetchTransactionAcquisition_settled answers.transactions settings request .ingest
      refine ⟨List.cons_ne_nil _ _, fun surface hsurface => ?_, fun surface hsurface => ?_,
        fun surface hsurface => ?_, fun hfatal => if_pos (fatal hfatal), fun hnone => ?_⟩
      · rw [List.mem_singleton.mp hsurface]
        exact List.contains_iff_mem.mp hrequested
      · rw [List.mem_singleton.mp hsurface]
        exact ⟨fun h => (nomatch h), fun h => nomatch h⟩
      · dsimp only at hsurface
        split at hsurface
        · exact hsurface
        · cases hsurface
      · dsimp only at hnone
        split at hnone
        · cases hnone
        case isFalse hcomplete => exact complete (Bool.not_eq_true _ ▸ hcomplete)
    case isFalse => cases h
  · split at h
    case isTrue hevents =>
      obtain rfl := List.mem_singleton.mp h
      refine ⟨hevents, fun surface hsurface => (mem_eventSurfaces.mp hsurface).2,
        fun surface hsurface => ?_, fun _ hsurface => hsurface, fun _ => rfl,
        fun hnone => absurd hnone hevents⟩
      rcases (mem_eventSurfaces.mp hsurface).1 with rfl | rfl <;>
        exact ⟨fun h => (nomatch h), fun h => nomatch h⟩
    case isFalse => cases h

section Run

variable (settings : ActivitySettings) (request : AdapterRequest) (surfaces : List Surface)
  (answers : ProviderAnswers)

/-- No stream of the run failed before it accepted a row. -/
def NoFatalStream : Prop :=
  ∀ f ∈ fetchedStreams settings request surfaces answers, f.fatal = false

variable {settings request surfaces answers}

/-- The failed calls of a run. -/
theorem mem_unavailableSurfaces {surface : Surface} :
    surface ∈ (fetchLiveActivity settings request surfaces answers).unavailableSurfaces ↔
      ((surface = .balances ∧ answers.balancesFound = false ∨
          surface = .jettons ∧ answers.jettonsFound = false) ∧ surface ∈ surfaces) ∨
        ∃ f ∈ fetchedStreams settings request surfaces answers,
          f.fatal = true ∧ surface ∈ f.surfaces := by
  have lists : (fetchLiveActivity settings request surfaces answers).unavailableSurfaces =
      ((([(Surface.balances, answers.balancesFound), (.jettons, answers.jettonsFound)].filter
        fun surface => surfaces.contains surface.1).filter fun surface => !surface.2).map (·.1)) ++
        ((fetchedStreams settings request surfaces answers).filter (·.fatal)).flatMap
          (·.surfaces) := by
    unfold fetchLiveActivity
    dsimp only
    split <;> rfl
  rw [lists, List.mem_append, List.mem_flatMap]
  refine or_congr ?_ ?_
  · simp only [List.mem_map, List.mem_filter, List.mem_cons, List.not_mem_nil, or_false,
      List.contains_iff_mem, Bool.not_eq_true', Prod.exists, Prod.mk.injEq]
    constructor
    · rintro ⟨surface', found, ⟨⟨⟨rfl, rfl⟩ | ⟨rfl, rfl⟩, hmem⟩, hfailed⟩, rfl⟩
      · exact ⟨.inl ⟨rfl, hfailed⟩, hmem⟩
      · exact ⟨.inr ⟨rfl, hfailed⟩, hmem⟩
    · rintro ⟨⟨rfl, hfailed⟩ | ⟨rfl, hfailed⟩, hmem⟩
      · exact ⟨_, _, ⟨⟨.inl ⟨rfl, rfl⟩, hmem⟩, hfailed⟩, rfl⟩
      · exact ⟨_, _, ⟨⟨.inr ⟨rfl, rfl⟩, hmem⟩, hfailed⟩, rfl⟩
  · simp only [List.mem_filter, and_assoc]

theorem mem_incompleteSurfaces {surface : Surface} :
    surface ∈ (fetchLiveActivity settings request surfaces answers).incompleteSurfaces ↔
      ∃ f ∈ fetchedStreams settings request surfaces answers, surface ∈ f.incomplete := by
  have lists : (fetchLiveActivity settings request surfaces answers).incompleteSurfaces =
      (fetchedStreams settings request surfaces answers).flatMap (·.incomplete) := by
    unfold fetchLiveActivity
    dsimp only
    split <;> rfl
  rw [lists, List.mem_flatMap]

/-- The surfaces of a run are requested ones. -/
theorem surfaces_requested {surface : Surface}
    (h : surface ∈ (fetchLiveActivity settings request surfaces answers).unavailableSurfaces ∨
      surface ∈ (fetchLiveActivity settings request surfaces answers).incompleteSurfaces) :
    surface ∈ surfaces := by
  rw [mem_unavailableSurfaces, mem_incompleteSurfaces] at h
  rcases h with (⟨-, hmem⟩ | ⟨f, hf, -, hmem⟩) | ⟨f, hf, hmem⟩
  · exact hmem
  · exact (fits_of_fetched hf).requested surface hmem
  · exact (fits_of_fetched hf).requested surface ((fits_of_fetched hf).incomplete surface hmem)

/-- The lists are disjoint exactly where no stream failed. -/
theorem disjoint_iff_noFatalStream :
    (∀ surface ∈ (fetchLiveActivity settings request surfaces answers).unavailableSurfaces,
      surface ∉ (fetchLiveActivity settings request surfaces answers).incompleteSurfaces) ↔
      NoFatalStream settings request surfaces answers := by
  constructor
  · intro h f hf
    by_contra hfatal
    rw [Bool.not_eq_false] at hfatal
    have fits := fits_of_fetched hf
    obtain ⟨surface, hsurface⟩ := List.exists_mem_of_ne_nil _ fits.nonempty
    refine h surface (mem_unavailableSurfaces.mpr (.inr ⟨f, hf, hfatal, hsurface⟩))
      (mem_incompleteSurfaces.mpr ⟨f, hf, ?_⟩)
    rw [fits.fatal hfatal]
    exact hsurface
  · intro h surface hunavailable hincomplete
    obtain ⟨f, hf, hmem⟩ := mem_incompleteSurfaces.mp hincomplete
    have fits := fits_of_fetched hf
    obtain ⟨balances, jettons⟩ := fits.streamed surface (fits.incomplete surface hmem)
    rcases mem_unavailableSurfaces.mp hunavailable with ⟨⟨heq, -⟩ | ⟨heq, -⟩, -⟩ | ⟨g, hg, hfatal, -⟩
    · exact balances heq
    · exact jettons heq
    · rw [h g hg] at hfatal
      cases hfatal

/-- Where nothing is incomplete, every stream completed without an error. -/
theorem streams_complete
    (h : (fetchLiveActivity settings request surfaces answers).incompleteSurfaces = [])
    {stream : StreamEvidence HexDigest}
    (hstream : stream ∈ (fetchLiveActivity settings request surfaces answers).acquisitionStreams) :
    stream.completionState = .complete ∧ stream.errorCode = none := by
  have lists : (fetchLiveActivity settings request surfaces answers).acquisitionStreams =
      ((fetchedStreams settings request surfaces answers).map (·.stream)).reverse := by
    unfold fetchLiveActivity
    dsimp only
    split <;> rfl
  rw [lists, List.mem_reverse] at hstream
  obtain ⟨f, hf, rfl⟩ := List.mem_map.mp hstream
  refine (fits_of_fetched hf).complete (List.eq_nil_iff_forall_not_mem.mpr fun surface hmem => ?_)
  have listed := mem_incompleteSurfaces.mpr ⟨f, hf, hmem⟩
  rw [h] at listed
  cases listed

end Run

/-! ## The record of a publication -/

/-- What the reader asks of a record. -/
structure CoverageAccepted (value : Coverage) (row : SyncRow) : Prop where
  notFull : value.fullHistoryProven = false
  interval : value.requestedStartAt = row.requestedStart.isoformat ∧
    value.requestedEndAt = row.requestedEnd.isoformat
  lists : value.requestedSurfaces = surfaceList value.requestedSurfaces ∧
    value.unavailableSurfaces = surfaceList value.unavailableSurfaces ∧
      value.incompleteSurfaces = surfaceList value.incompleteSurfaces
  requested : surfaceList value.requestedSurfaces ≠ [] ∧
    surfaceList value.requestedSurfaces = surfaceList row.requestedSurfaces
  within : ∀ surface ∈ surfaceList value.unavailableSurfaces ++
    surfaceList value.incompleteSurfaces, surface ∈ surfaceList value.requestedSurfaces
  disjoint : ∀ surface ∈ surfaceList value.unavailableSurfaces,
    surface ∉ surfaceList value.incompleteSurfaces
  streams : (compactCoverageStreams value.streams).length = value.streams.length
  mock : row.dataMode ≠ .mock ∨ value.state = .unknown
  real : value.state = .unknown ∨ row.dataMode = .real
  complete : value.state ≠ .boundedComplete ∨
    ((row.state = .succeeded ∧ surfaceList value.unavailableSurfaces = []) ∧
      surfaceList value.incompleteSurfaces = []) ∧
      ∀ stream ∈ compactCoverageStreams value.streams,
        stream.completionState = .complete ∧ stream.errorCode = none

theorem validCoverage_eq_true {value : Coverage} {row : SyncRow} :
    validCoverage value row = true ↔ CoverageAccepted value row := by
  unfold validCoverage
  simp only [Bool.and_eq_true, decide_eq_true_eq, Bool.not_eq_true', List.all_eq_true,
    List.any_eq_false, List.contains_iff_mem, Bool.and_eq_false_iff, decide_eq_false_iff_not,
    Bool.or_eq_false_iff, not_not, ne_eq, Bool.or_eq_true, not_or, Bool.not_eq_true,
    Option.isSome_eq_false_iff, Option.isNone_iff_eq_none]
  constructor
  · rintro ⟨⟨⟨⟨⟨⟨⟨⟨notFull, start⟩, stop⟩, ⟨⟨requested, unavailable⟩, incomplete⟩⟩,
      ⟨⟨⟨nonempty, same⟩, within⟩, disjoint⟩⟩, streams⟩, mock⟩, real⟩, complete⟩
    exact ⟨notFull, ⟨start, stop⟩, ⟨requested, unavailable, incomplete⟩, ⟨nonempty, same⟩, within,
      disjoint, streams, mock, real, complete⟩
  · intro h
    exact ⟨⟨⟨⟨⟨⟨⟨⟨h.notFull, h.interval.1⟩, h.interval.2⟩, ⟨⟨h.lists.1, h.lists.2.1⟩,
      h.lists.2.2⟩⟩, ⟨⟨⟨h.requested.1, h.requested.2⟩, h.within⟩, h.disjoint⟩⟩, h.streams⟩, h.mock⟩, h.real⟩,
      h.complete⟩

/-- A record is complete only where nothing is missing. -/
theorem coverageRecord_complete {run : IngestionRun} {startAt endAt : Instant} {state : SyncState}
    {surfaces : List Surface} {plan : Option Plan}
    (h : (coverageRecord (some run) startAt endAt state surfaces plan).state = .boundedComplete) :
    state = .succeeded ∧ run.unavailableSurfaces = [] ∧ run.incompleteSurfaces = [] := by
  have complete : (if some run.dataMode ≠ some .real ∨ ¬ state.usable = true then
        CoverageState.unknown
      else if state = .partialResult ∨ surfaceList run.unavailableSurfaces ≠ [] ∨
        surfaceList run.incompleteSurfaces ≠ [] then .boundedPartial
      else .boundedComplete) = .boundedComplete := by
    unfold coverageRecord at h
    dsimp only [Option.map_some, Option.getD_some] at h
    by_contra hne
    rw [ite_eq_right_iff.mpr (fun hboth => absurd hboth.2 hne)] at h
    exact hne h
  split at complete
  · cases complete
  case isFalse hreal =>
    split at complete
    · cases complete
    case isFalse hlimited =>
      simp only [ne_eq, not_or, not_not, surfaceList_eq_nil] at hreal hlimited
      refine ⟨?_, hlimited.2.1, hlimited.2.2⟩
      have husable := hreal.2
      cases state with
      | succeeded => rfl
      | partialResult => exact absurd rfl hlimited.1
      | queued => cases husable
      | running => cases husable
      | failed => cases husable
      | cancelled => cases husable

section Published

variable {sha : Sha256} {settings : ActivitySettings} {request : AdapterRequest}
  {answers : ProviderAnswers} {claimed : ClaimedCaseSync} {now : Instant} {runId syncId : Nat}
  {token : Token} {row : SyncRow} {c : CaseRow} {run : IngestionRun}

theorem claimedCaseSync_row (h : claimedCaseSync syncId token row c = .ok claimed) :
    claimed.requestedStart = row.requestedStart ∧ claimed.requestedEnd = row.requestedEnd ∧
      claimed.requestedSurfaces = row.requestedSurfaces := by
  unfold claimedCaseSync at h
  split at h
  · cases h
  · cases h
    exact ⟨rfl, rfl, rfl⟩

/-- The reader accepts the record of a live run exactly where its lists are
disjoint. -/
theorem validCoverage_published (hclaimed : claimedCaseSync syncId token row c = .ok claimed)
    (hreal : row.dataMode = .real) (hsurfaces : row.requestedSurfaces ≠ []) :
    let run := fetchLiveActivity settings request claimed.requestedSurfaces answers
    validCoverage (publishedCoverage claimed run)
        ((publication sha claimed run now).published runId row) = true ↔
      ∀ surface ∈ run.unavailableSurfaces, surface ∉ run.incompleteSurfaces := by
  intro run
  obtain ⟨hstart, hend, hrequested⟩ := claimedCaseSync_row hclaimed
  have hcomplete : (publishedCoverage claimed run).state = .boundedComplete →
      (publication sha claimed run now).state = .succeeded ∧ run.unavailableSurfaces = [] ∧
        run.incompleteSurfaces = [] := fun h => coverageRecord_complete h
  have hstreams : run.incompleteSurfaces = [] →
      ∀ stream ∈ compactCoverageStreams (run.acquisitionStreams.map (·.coverageStream)),
        stream.completionState = .complete ∧ stream.errorCode = none := by
    intro hincomplete stream hstream
    obtain ⟨raw, hraw, hcompact⟩ := List.mem_filterMap.mp hstream
    obtain ⟨evidence, hevidence, rfl⟩ := List.mem_map.mp hraw
    obtain ⟨hstate, herror⟩ := streams_complete hincomplete hevidence
    unfold compactStream at hcompact
    split at hcompact
    · cases hcompact
    · cases hcompact
      exact ⟨hstate, by simp [StreamEvidence.coverageStream, herror, coverageErrorCode]⟩
  have hwithin : ∀ surface ∈ surfaceList run.unavailableSurfaces ++
      surfaceList run.incompleteSurfaces, surface ∈ surfaceList row.requestedSurfaces := by
    intro surface hsurface
    rw [List.mem_append, mem_surfaceList, mem_surfaceList] at hsurface
    rw [mem_surfaceList, ← hrequested]
    exact surfaces_requested hsurface
  rw [validCoverage_eq_true]
  constructor
  · intro accepted surface hunavailable hincomplete
    refine accepted.disjoint surface ?_ ?_
    · exact mem_surfaceList.mpr (mem_surfaceList.mpr hunavailable)
    · exact mem_surfaceList.mpr (mem_surfaceList.mpr hincomplete)
  · intro disjoint
    exact
      { notFull := rfl
        interval := ⟨congrArg Instant.isoformat hstart, congrArg Instant.isoformat hend⟩
        lists := ⟨(surfaceList_surfaceList _).symm, (surfaceList_surfaceList _).symm,
          (surfaceList_surfaceList _).symm⟩
        requested := by
          change surfaceList (surfaceList claimed.requestedSurfaces) ≠ [] ∧
            surfaceList (surfaceList claimed.requestedSurfaces) = surfaceList row.requestedSurfaces
          rw [surfaceList_surfaceList, hrequested, Ne, surfaceList_eq_nil]
          exact ⟨hsurfaces, rfl⟩
        within := by
          intro surface hsurface
          change surface ∈ surfaceList (surfaceList run.unavailableSurfaces) ++
            surfaceList (surfaceList run.incompleteSurfaces) at hsurface
          rw [surfaceList_surfaceList, surfaceList_surfaceList] at hsurface
          change surface ∈ surfaceList (surfaceList claimed.requestedSurfaces)
          rw [surfaceList_surfaceList, hrequested]
          exact hwithin surface hsurface
        disjoint := fun surface hunavailable hincomplete =>
          disjoint surface (mem_surfaceList.mp (mem_surfaceList.mp hunavailable))
            (mem_surfaceList.mp (mem_surfaceList.mp hincomplete))
        streams := congrArg List.length (compactCoverageStreams_idem _)
        mock := .inl fun hmock => nomatch hreal.symm.trans hmock
        real := .inr hreal
        complete := by
          by_cases hstate : (publishedCoverage claimed run).state = .boundedComplete
          · obtain ⟨succeeded, hunavailable, hincomplete⟩ := hcomplete hstate
            refine .inr ⟨⟨⟨succeeded, ?_⟩, ?_⟩, ?_⟩
            · exact surfaceList_eq_nil.mpr (surfaceList_eq_nil.mpr hunavailable)
            · exact surfaceList_eq_nil.mpr (surfaceList_eq_nil.mpr hincomplete)
            · rw [show (publishedCoverage claimed run).streams = compactCoverageStreams
                (run.acquisitionStreams.map (·.coverageStream)) from rfl,
                compactCoverageStreams_idem]
              exact hstreams hincomplete
          · exact .inl hstate }

theorem storedCoverage_published
    (h : validCoverage (publishedCoverage claimed run) row = true) :
    storedCoverage (publishedCoverage claimed run) row = publishedCoverage claimed run := by
  unfold storedCoverage
  rw [if_pos h]
  unfold publishedCoverage coverageRecord
  simp only [compactCoverageStreams_idem]

/-- The stored record of a published live run is returned exactly where no
stream of the run failed before it accepted a row; elsewhere the unknown
record takes its place. -/
theorem published_coverage_returned
    (hclaimed : claimedCaseSync syncId token row c = .ok claimed)
    (hreal : row.dataMode = .real) (hsurfaces : row.requestedSurfaces ≠ []) :
    let coverage := publishedCoverage claimed
      (fetchLiveActivity settings request claimed.requestedSurfaces answers)
    let published := (publication sha claimed
      (fetchLiveActivity settings request claimed.requestedSurfaces answers) now).published runId row
    (validCoverage coverage published = true ∧ storedCoverage coverage published = coverage) ↔
      NoFatalStream settings request claimed.requestedSurfaces answers := by
  intro coverage published
  have accepted : validCoverage coverage published = true ↔
      NoFatalStream settings request claimed.requestedSurfaces answers :=
    (validCoverage_published hclaimed hreal hsurfaces).trans disjoint_iff_noFatalStream
  rw [← accepted]
  exact ⟨fun h => h.1, fun h => ⟨h, storedCoverage_published h⟩⟩

end Published

/-! ## A run whose history stream fails -/

def sampleSurfaces : SyncRequest :=
  ⟨.bounded, .day, none, none, [.balances, .transactions], by decide,
    sampleSyncRequest.windowValid⟩

/-- A provider that finds the balances and refuses the history. -/
def refusingProvider : ProviderAnswers :=
  { sampleProvider with
    transactions := { sampleProvider.transactions with fetchJson := fun _ _ => .error ⟨.http 503, "HTTP error 503"⟩ } }

/-- The row and the case of a claimed sync of two surfaces. -/
def sampleClaimedRow : Option (SyncRow × CaseRow) :=
  claimedRow 1 2 (sampleWorld (sampleCase ++
    sampleSession 1 (.enqueueSync sampleOwner (sampleUuid '0') sampleSurfaces "sync".toList)
      2001 (sampleUuid '1') 30 ++
    sampleSession 2 .runSyncWorker 2002 (sampleUuid '2') 12)).state

/-- The response to a claimed sync, and its published row. -/
def samplePublished (row : SyncRow) (claimed : ClaimedCaseSync) (answers : ProviderAnswers) :
    IngestionRun × SyncRow :=
  let run := fetchLiveActivity ⟨100, 5, 100, 5⟩
    ⟨some (sampleInstant 1000), some (sampleInstant 2000), none, none, none, none⟩
    claimed.requestedSurfaces answers
  (run, (publication sampleSha claimed run (sampleInstant 2003)).published 1 row)

/-- The record of a partial sync whose history stream failed is replaced by
the unknown one. -/
theorem failed_stream_coverage_replaced :
    ∃ row c claimed, sampleClaimedRow = some (row, c) ∧
      claimedCaseSync 1 2 row c = .ok claimed ∧ row.dataMode = .real ∧
      let (run, published) := samplePublished row claimed refusingProvider
      published.state = .partialResult ∧
        (publishedCoverage claimed run).state = .boundedPartial ∧
        validCoverage (publishedCoverage claimed run) published = false ∧
        (storedCoverage (publishedCoverage claimed run) published).state = .unknown := by
  have hclaim : sampleClaimedRow.any (fun (row, c) =>
      (claimedCaseSync 1 2 row c).toOption.any fun claimed =>
        let (run, published) := samplePublished row claimed refusingProvider
        decide (row.dataMode = .real ∧ published.state = .partialResult ∧
          (publishedCoverage claimed run).state = .boundedPartial ∧
          validCoverage (publishedCoverage claimed run) published = false ∧
          (storedCoverage (publishedCoverage claimed run) published).state = .unknown)) = true := by
    decide +kernel
  obtain ⟨⟨row, c⟩, hrow, hclaim⟩ := (Option.any_eq_true _ _).mp hclaim
  obtain ⟨claimed, hclaimed, hfails⟩ := (Option.any_eq_true _ _).mp hclaim
  obtain ⟨hreal, hfails⟩ := of_decide_eq_true hfails
  cases hresult : claimedCaseSync 1 2 row c with
  | error raised =>
      rw [hresult] at hclaimed
      cases hclaimed
  | ok result =>
      rw [hresult] at hclaimed
      cases hclaimed
      exact ⟨row, c, claimed, hrow, hresult, hreal, hfails⟩

/-- The record of a run whose streams answer is returned. -/
theorem published_coverage_returned_sample :
    ∃ row c claimed, sampleClaimedRow = some (row, c) ∧
      claimedCaseSync 1 2 row c = .ok claimed ∧
      let (run, published) := samplePublished row claimed sampleProvider
      published.state = .succeeded ∧
        (validCoverage (publishedCoverage claimed run) published = true ∧
          storedCoverage (publishedCoverage claimed run) published =
            publishedCoverage claimed run ↔
          NoFatalStream ⟨100, 5, 100, 5⟩
            ⟨some (sampleInstant 1000), some (sampleInstant 2000), none, none, none, none⟩
            claimed.requestedSurfaces sampleProvider) := by
  have hclaim : sampleClaimedRow.any (fun (row, c) =>
      (claimedCaseSync 1 2 row c).toOption.any fun claimed =>
        decide (row.dataMode = .real ∧ row.requestedSurfaces ≠ [] ∧
          (samplePublished row claimed sampleProvider).2.state = .succeeded)) = true := by
    decide +kernel
  obtain ⟨⟨row, c⟩, hrow, hclaim⟩ := (Option.any_eq_true _ _).mp hclaim
  obtain ⟨claimed, hclaimed, hready⟩ := (Option.any_eq_true _ _).mp hclaim
  obtain ⟨hreal, hsurfaces, hsucceeded⟩ := of_decide_eq_true hready
  cases hresult : claimedCaseSync 1 2 row c with
  | error raised =>
      rw [hresult] at hclaimed
      cases hclaimed
  | ok result =>
      rw [hresult] at hclaimed
      cases hclaimed
      exact ⟨row, c, claimed, hrow, hresult, hsucceeded,
        published_coverage_returned hresult hreal hsurfaces⟩

end TonTracker
