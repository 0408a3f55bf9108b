/-
# `Services.Coverage` — the coverage record of a published sync

`_coverage_record`, which a publication stores with its sync, and
`_stored_coverage`, which every later read returns: the stored record
where `_valid_coverage` accepts it, and the unknown coverage elsewhere
(`services/wallet_cases.py`).
-/
import TonTracker.Services.CaseSyncJobs

namespace TonTracker

inductive CoverageState where
  | unknown
  | boundedPartial
  | boundedComplete
deriving DecidableEq, Repr

/-- A stream of the record. -/
structure CoverageStream where
  provider : Text
  streamKey : Text
  completionState : CompletionState
  errorCode : Option Text
deriving DecidableEq

/-- `coverage_summary_json`, without the plan, which is a column of its own
here. -/
structure Coverage where
  state : CoverageState
  requestedStartAt : Text
  requestedEndAt : Text
  requestedSurfaces : List Surface
  unavailableSurfaces : List Surface
  incompleteSurfaces : List Surface
  streams : List CoverageStream
  fullHistoryProven : Bool
deriving DecidableEq

/-! ## Building -/

/-- `_surface_list`: the first of each surface. -/
def surfaceList (surfaces : List Surface) : List Surface := surfaces.eraseDups

/-- `error_code[:64]`, none where it is empty. -/
def coverageErrorCode (code : Option Text) : Option Text :=
  (code.filter fun text => !text.isEmpty).map (·.take 64)

/-- An item of `_compact_coverage_streams`. -/
def compactStream (stream : CoverageStream) : Option CoverageStream :=
  if stream.provider = [] ∨ stream.streamKey = [] then none
  else some
    { stream with
      provider := stream.provider.take 64
      streamKey := stream.streamKey.take 64
      errorCode := coverageErrorCode stream.errorCode }

/-- `_compact_coverage_streams`. -/
def compactCoverageStreams (streams : List CoverageStream) : List CoverageStream :=
  streams.filterMap compactStream

/-- A stream of the run response. -/
def StreamEvidence.coverageStream (stream : StreamEvidence HexDigest) : CoverageStream :=
  { provider := "tonapi".toList
    streamKey := stream.streamKey.text
    completionState := stream.completionState
    errorCode := stream.errorCode.map (·.code) }

/-- `_coverage_record`; no response is the empty one. -/
def coverageRecord (response : Option IngestionRun) (startAt endAt : Instant) (state : SyncState)
    (requestedSurfaces : List Surface) (plan : Option Plan) : Coverage :=
  let unavailable := surfaceList ((response.map (·.unavailableSurfaces)).getD [])
  let incomplete := surfaceList ((response.map (·.incompleteSurfaces)).getD [])
  let coverageState :=
    if (response.map (·.dataMode)) ≠ some .real ∨ ¬ state.usable then .unknown
    else if state = .partialResult ∨ unavailable ≠ [] ∨ incomplete ≠ [] then .boundedPartial
    else .boundedComplete
  { state :=
      if (plan.any fun p => p.mode.acquisitionMode ≠ .bounded) ∧ coverageState = .boundedComplete
      then .boundedPartial else coverageState
    requestedStartAt := startAt.isoformat
    requestedEndAt := endAt.isoformat
    requestedSurfaces := surfaceList requestedSurfaces
    unavailableSurfaces := unavailable
    incompleteSurfaces := incomplete
    streams := compactCoverageStreams
      (((response.map (·.acquisitionStreams)).getD []).map (·.coverageStream))
    fullHistoryProven := false }

/-- What `_publish_final_run` stores. -/
def publishedCoverage (claimed : ClaimedCaseSync) (run : IngestionRun) : Coverage :=
  coverageRecord (some run) claimed.requestedStart claimed.requestedEnd (syncState run.status).1
    claimed.requestedSurfaces (some claimed.plan)

/-! ## Reading -/

/-- `_valid_coverage`. -/
def validCoverage (value : Coverage) (row : SyncRow) : Bool :=
  let requested := surfaceList value.requestedSurfaces
  let unavailable := surfaceList value.unavailableSurfaces
  let incomplete := surfaceList value.incompleteSurfaces
  let streams := compactCoverageStreams value.streams
  !value.fullHistoryProven && value.requestedStartAt = row.requestedStart.isoformat &&
    value.requestedEndAt = row.requestedEnd.isoformat &&
    (value.requestedSurfaces = requested && value.unavailableSurfaces = unavailable &&
      value.incompleteSurfaces = incomplete) &&
    (requested ≠ [] && requested = surfaceList row.requestedSurfaces &&
      (unavailable ++ incomplete).all requested.contains &&
      !unavailable.any incomplete.contains) &&
    streams.length = value.streams.length &&
    !(row.dataMode = .mock && value.state ≠ .unknown) &&
    !(value.state ≠ .unknown && row.dataMode ≠ .real) &&
    !(value.state = .boundedComplete && (row.state ≠ .succeeded || unavailable ≠ [] ||
      incomplete ≠ [] || streams.any fun stream =>
        stream.completionState ≠ .complete || stream.errorCode.isSome))

/-- `_stored_coverage`. -/
def storedCoverage (coverage : Coverage) (row : SyncRow) : Coverage :=
  if validCoverage coverage row then
    { coverage with streams := compactCoverageStreams coverage.streams }
  else
    coverageRecord none row.requestedStart row.requestedEnd row.state row.requestedSurfaces none

end TonTracker
