/-
# `Services.WalletIntervalCoverage` — interval math for validated acquisition evidence

Of the evidence rows of the selected runs, those in the layer's eligible
state whose two timestamps are in order give an accepted interval.  The
sweep cuts time at the endpoints, notes which runs are active in each cell,
and reads the union, the overlaps and the gaps off the cells.
-/
import Mathlib.Data.Char
import TonTracker.IsoText
import TonTracker.Lib.KeySort
import TonTracker.Lib.IntervalSweep

namespace TonTracker

open IntervalSweep (Segment push)

inductive IntervalCoverageRaised where
  | valueError (message : String)
  | typeError
  | overflowError
deriving DecidableEq, Repr

abbrev IntervalCoverageResult := Except IntervalCoverageRaised

/-- `{"run_id", "start", "end"}` of a row whose start is before its end. -/
structure AcceptedInterval where
  runId : Int
  start : Instant
  stop : Instant
  ordered : start < stop

instance : DecidableEq AcceptedInterval := fun a b =>
  decidable_of_iff (a.runId = b.runId ∧ a.start = b.start ∧ a.stop = b.stop)
    (by cases a; cases b; simp only [AcceptedInterval.mk.injEq])

/-- The fields of an evidence row, by their keys. -/
abbrev CoverageRow := List (String × Json)

/-! ## Reading the rows -/

/-- `_parse_timestamp`. -/
def parseEvidenceTimestamp : Json → IntervalCoverageResult (Option Instant)
  | .str value =>
      if value = [] ∨ isStripped value = false ∨ 40 < value.length then .ok none
      else
        match fromIsoformat (cleaned value) with
        | none => .ok none
        | some parsed =>
            match parsed.offset with
            | none => .ok none
            | some _ =>
                match asUtc parsed with
                | .ok instant => .ok (some instant)
                | .error _ => .error .overflowError
  | _ => .ok none

/-- `_duration_microseconds`. -/
def durationMicroseconds (start stop : Instant) : Int := (stop.micros : Int) - start.micros

/-- `str(value)` of an integer. -/
def strInt (value : Int) : Text := (toString value).toList

/-- `_recorded_value`. -/
def recordedValue : Json → Option Text
  | .str value => some value
  | _ => none

/-- `_normalized_interval`. -/
def normalizedInterval (runId : Int) (row : CoverageRow) :
    IntervalCoverageResult (Option AcceptedInterval) := do
  let start ← parseEvidenceTimestamp (Json.get row "interval_start")
  let stop ← parseEvidenceTimestamp (Json.get row "interval_end")
  match start, stop with
  | some start, some stop =>
      if h : start < stop then return some ⟨runId, start, stop, h⟩ else return none
  | _, _ => return none

/-- `sorted(…)` of texts. -/
def sortedTextValues (texts : List Text) : List Text := texts.mergeSort fun a b => decide (a ≤ b)

/-- `_candidate_states`. -/
def candidateStates (rows : List CoverageRow) : List Text :=
  sortedTextValues (rows.filterMap fun row => recordedValue (Json.get row "state"))

inductive RunClassification where
  | included
  | excluded
  | notRequested
deriving DecidableEq, Repr

inductive ExclusionReason where
  | missingEvidenceRecord
  | ambiguousEvidenceRecord
  | stateNotEligible
  | invalidState
  | invalidInterval
deriving DecidableEq, Repr

structure RunEvidenceRecord where
  runId : Int
  sourceState : Option Text
  candidateStates : List Text
  classification : RunClassification
  reason : Option ExclusionReason
  sourceReasonCodes : List Text
  recordedIntervalStart : Option Text
  recordedIntervalEnd : Option Text
  intervalStart : Option Text
  intervalEnd : Option Text
  durationMicroseconds : Option Text
  includedInUnion : Bool
deriving DecidableEq, Repr

/-- What a `for` over the value of `reason_codes` goes through. -/
def iterated : Json → IntervalCoverageResult (List Json)
  | .arr values => .ok values
  | .str value => .ok (value.map fun c => .str [c])
  | .obj fields => .ok (fields.map fun field => .str field.1.toList)
  | _ => .error .typeError

/-- `sorted({code for code in row.get("reason_codes", []) …})`. -/
def sourceReasonCodes (row : Option CoverageRow) : IntervalCoverageResult (List Text) := do
  let codes ←
    match row.bind (List.lookup "reason_codes") with
    | some value => iterated value
    | none => pure []
  return sortedTextValues ((codes.filterMap recordedValue).filter (· ≠ [])).dedup

/-- `_run_evidence_record`. -/
def runEvidenceRecord (runId : Int) (sourceState : Option Text)
    (classification : RunClassification) (reason : Option ExclusionReason)
    (candidateStates : List Text) (row : Option CoverageRow)
    (interval : Option AcceptedInterval) : IntervalCoverageResult RunEvidenceRecord := do
  let codes ← sourceReasonCodes row
  return {
    runId
    sourceState
    candidateStates
    classification
    reason
    sourceReasonCodes := codes
    recordedIntervalStart := row.bind fun row => recordedValue (Json.get row "interval_start")
    recordedIntervalEnd := row.bind fun row => recordedValue (Json.get row "interval_end")
    intervalStart := interval.map (·.start.isoformat)
    intervalEnd := interval.map (·.stop.isoformat)
    durationMicroseconds := interval.map fun interval =>
      strInt (TonTracker.durationMicroseconds interval.start interval.stop)
    includedInUnion := interval.isSome }

/-- `_classify_run_evidence`. -/
def classifyRunEvidence (runId : Int) (candidates : List CoverageRow) (eligibleState : Text) :
    IntervalCoverageResult (RunEvidenceRecord × Option AcceptedInterval) :=
  match candidates with
  | [] => do
      let record ← runEvidenceRecord runId none .excluded (some .missingEvidenceRecord) [] none none
      return (record, none)
  | [row] =>
      let sourceState := recordedValue (Json.get row "state")
      let states := sourceState.toList
      if sourceState = some "not_requested".toList then do
        let record ← runEvidenceRecord runId sourceState .notRequested none states (some row) none
        return (record, none)
      else if sourceState ≠ some eligibleState then do
        let reason := if sourceState.isSome then .stateNotEligible else .invalidState
        let record ←
          runEvidenceRecord runId sourceState .excluded (some reason) states (some row) none
        return (record, none)
      else do
        match ← normalizedInterval runId row with
        | none =>
            let record ← runEvidenceRecord runId sourceState .excluded (some .invalidInterval)
              states (some row) none
            return (record, none)
        | some interval =>
            let record ← runEvidenceRecord runId sourceState .included none states (some row)
              (some interval)
            return (record, some interval)
  | _ => do
      let record ← runEvidenceRecord runId none .excluded (some .ambiguousEvidenceRecord)
        (TonTracker.candidateStates candidates) none none
      return (record, none)

/-! ## The sweep -/

/-- A cell between two endpoints, with the runs active in it. -/
abbrev IntervalCell := Segment Instant (List Int)

/-- `sorted(…)` of run ids. -/
def sortedRunIds (runIds : List Int) : List Int := runIds.mergeSort fun a b => decide (a ≤ b)

/-- The distinct endpoints, sorted. -/
def boundaries (intervals : List AcceptedInterval) : List Instant :=
  (intervals.flatMap fun interval => [interval.start, interval.stop]).dedup.mergeSort
    fun a b => decide (a ≤ b)

/-- The runs whose interval meets `[start, stop)`. -/
def activeRunIds (intervals : List AcceptedInterval) (start stop : Instant) : List Int :=
  sortedRunIds ((intervals.filter fun interval =>
    decide (interval.start < stop) && decide (start < interval.stop)).map (·.runId))

/-- `_interval_cells`. -/
def intervalCells (intervals : List AcceptedInterval) : List IntervalCell :=
  let boundaries := boundaries intervals
  ((boundaries.zip boundaries.tail).filter fun (start, stop) => decide (start < stop)).map
    fun (start, stop) => ⟨start, stop, activeRunIds intervals start stop⟩

/-- `_union_intervals`. -/
def unionIntervals (cells : List IntervalCell) : List (Segment Instant Unit) :=
  cells.foldl (fun segments cell =>
    if cell.label = [] then segments else push segments ⟨cell.start, cell.stop, ()⟩) []

/-- `_overlap_intervals`. -/
def overlapIntervals (cells : List IntervalCell) : List IntervalCell :=
  cells.foldl (fun segments cell =>
    if cell.label.length < 2 then segments else push segments cell) []

structure GapRunIds where
  leftRunIds : List Int
  rightRunIds : List Int
deriving DecidableEq, Repr

/-- `_gap_intervals`, behind the cell `before`.  The first empty cell gives
the gap, up to the last of the empty cells that follow it; these are then
passed over. -/
def gapIntervals (before : Option IntervalCell) :
    List IntervalCell → List (Segment Instant GapRunIds)
  | [] => []
  | cell :: rest =>
      if cell.label ≠ [] ∨ before.any (·.label.isEmpty) = true then gapIntervals (some cell) rest
      else
        { start := cell.start
          stop := ((rest.takeWhile (·.label.isEmpty)).getLastD cell).stop
          label := {
            leftRunIds := (before.map (·.label)).getD []
            rightRunIds := ((rest.dropWhile (·.label.isEmpty)).head?.map (·.label)).getD [] } } ::
          gapIntervals (some cell) rest

/-! ## One layer -/

structure PublicInterval where
  start : Text
  stop : Text
  durationMicroseconds : Text
deriving DecidableEq, Repr

/-- `_public_interval`. -/
def publicInterval (start stop : Instant) : PublicInterval where
  start := start.isoformat
  stop := stop.isoformat
  durationMicroseconds := strInt (TonTracker.durationMicroseconds start stop)

structure PublicOverlap extends PublicInterval where
  runIds : List Int
  coverageDepth : Nat
deriving DecidableEq, Repr

/-- `_public_overlap`. -/
def publicOverlap (segment : IntervalCell) : PublicOverlap where
  toPublicInterval := publicInterval segment.start segment.stop
  runIds := segment.label
  coverageDepth := segment.label.length

structure PublicGap extends PublicInterval where
  leftRunIds : List Int
  rightRunIds : List Int
deriving DecidableEq, Repr

/-- `_public_gap`. -/
def publicGap (segment : Segment Instant GapRunIds) : PublicGap where
  toPublicInterval := publicInterval segment.start segment.stop
  leftRunIds := segment.label.leftRunIds
  rightRunIds := segment.label.rightRunIds

structure PublicAcceptedInterval extends PublicInterval where
  runId : Int
deriving DecidableEq, Repr

/-- `_public_accepted_interval`. -/
def publicAcceptedInterval (interval : AcceptedInterval) : PublicAcceptedInterval where
  toPublicInterval := publicInterval interval.start interval.stop
  runId := interval.runId

inductive SpanState where
  | noValidatedIntervals
  | contiguousSelectedSpan
  | gappedSelectedSpan
deriving DecidableEq, Repr

inductive SelectedRunCoverageState where
  | none
  | complete
  | partly
deriving DecidableEq, Repr

structure CoverageLayer where
  streamKey : String
  coverageKind : String
  eligibleState : String
  providerSemantics : String
  state : SpanState
  selectedRunCount : Nat
  requestedRunCount : Nat
  includedRunCount : Nat
  includedRunIds : List Int
  excludedRunIds : List Int
  notRequestedRunIds : List Int
  selectedRunCoverageState : SelectedRunCoverageState
  runEvidence : List RunEvidenceRecord
  acceptedIntervals : List PublicAcceptedInterval
  selectedSpan : Option PublicInterval
  unionIntervals : List PublicInterval
  overlapIntervals : List PublicOverlap
  gapIntervals : List PublicGap
  spanDurationMicroseconds : Text
  coveredDurationMicroseconds : Text
  gapDurationMicroseconds : Text
  overlappedDurationMicroseconds : Text
  maxCoverageDepth : Nat
  isContiguousWithinSelectedSpan : Bool
  outsideSelectedSpanCoverage : String := "unknown"
  establishesFullHistory : Bool := false
  isAuthoritativeActivityCoverage : Bool := false
deriving DecidableEq, Repr

/-- `rows_by_run_id.get(run_id, [])`. -/
def rowsByRunId (selectedRunIds : List Int) (evidenceRows : Json) (runId : Int) :
    List CoverageRow :=
  match evidenceRows with
  | .arr rows => rows.filterMap fun
      | .obj row =>
          match Json.get row "run_id" with
          | .int id => if id ∈ selectedRunIds ∧ id = runId then some row else none
          | _ => none
      | _ => none
  | _ => []

/-- `intervals.sort(key=…)`. -/
def sortIntervals (intervals : List AcceptedInterval) : List AcceptedInterval :=
  KeySort.sortBy (fun a b => decide (a ≤ b))
    (fun interval => toLex (interval.start, toLex (interval.stop, interval.runId))) intervals

/-- `sum(_duration_microseconds(…))`. -/
def totalDuration {label : Type} (segments : List (Segment Instant label)) : Int :=
  (segments.map fun segment => durationMicroseconds segment.start segment.stop).sum

/-- From the start of the first segment to the end of the last. -/
def spanOf (union : List (Segment Instant Unit)) : Option (Instant × Instant) :=
  match union.head?, union.getLast? with
  | some first, some last => some (first.start, last.stop)
  | _, _ => none

/-- `_duration_microseconds(span_start, span_end)`, zero without a span. -/
def spanDuration (span : Option (Instant × Instant)) : Int :=
  (span.map fun span => durationMicroseconds span.1 span.2).getD 0

/-- `_coverage_layer`. -/
def coverageLayer (selectedRunIds : List Int) (evidenceRows : Json)
    (streamKey coverageKind eligibleState providerSemantics : String) :
    IntervalCoverageResult CoverageLayer := do
  let classified ← selectedRunIds.mapM fun runId =>
    classifyRunEvidence runId (rowsByRunId selectedRunIds evidenceRows runId) eligibleState.toList
  let runEvidence := classified.map (·.1)
  let intervals := sortIntervals (classified.filterMap (·.2))
  let cells := intervalCells intervals
  let union := TonTracker.unionIntervals cells
  let overlaps := TonTracker.overlapIntervals cells
  let gaps := TonTracker.gapIntervals none cells
  let span := spanOf union
  let includedRunIds :=
    (runEvidence.filter fun record => record.classification = .included).map (·.runId)
  return {
    streamKey
    coverageKind
    eligibleState
    providerSemantics
    state :=
      if span.isNone then .noValidatedIntervals
      else if union.length = 1 then .contiguousSelectedSpan else .gappedSelectedSpan
    selectedRunCount := selectedRunIds.length
    requestedRunCount := runEvidence.countP fun record =>
      record.sourceState ≠ none ∧ record.sourceState ≠ some "not_requested".toList
    includedRunCount := includedRunIds.length
    includedRunIds
    excludedRunIds :=
      (runEvidence.filter fun record => record.classification = .excluded).map (·.runId)
    notRequestedRunIds :=
      (runEvidence.filter fun record => record.classification = .notRequested).map (·.runId)
    selectedRunCoverageState :=
      if includedRunIds = [] then .none
      else if includedRunIds.length = selectedRunIds.length then .complete else .partly
    runEvidence
    acceptedIntervals := intervals.map publicAcceptedInterval
    selectedSpan := span.map fun span => publicInterval span.1 span.2
    unionIntervals := union.map fun segment => publicInterval segment.start segment.stop
    overlapIntervals := overlaps.map publicOverlap
    gapIntervals := gaps.map publicGap
    spanDurationMicroseconds := strInt (spanDuration span)
    coveredDurationMicroseconds := strInt (totalDuration union)
    gapDurationMicroseconds := strInt (totalDuration gaps)
    overlappedDurationMicroseconds := strInt (totalDuration overlaps)
    maxCoverageDepth := (cells.map (·.label.length)).foldl max 0
    isContiguousWithinSelectedSpan := union.length = 1 }

/-! ## Both layers -/

def maxRuns : Nat := 50

/-- A run id that is an integer from 1 on. -/
def positiveRunId : Json → Option Int
  | .int runId => if 1 ≤ runId then some runId else none
  | _ => none

/-- `_validate_selected_run_ids`. -/
def validateSelectedRunIds (selectedRunIds : Json) : IntervalCoverageResult (List Int) :=
  match selectedRunIds with
  | .arr values =>
      if 2 ≤ values.length ∧ values.length ≤ maxRuns then
        match values.mapM positiveRunId with
        | none => .error (.valueError "Every selected run id must be a positive integer.")
        | some runIds =>
            if runIds.dedup.length ≠ runIds.length then
              .error (.valueError "selected_run_ids must be distinct.")
            else .ok (sortedRunIds runIds)
      else .error (.valueError "selected_run_ids must contain 2-50 ids.")
  | _ => .error (.valueError "selected_run_ids must be a list.")

structure WalletIntervalCoverage where
  contractVersion : String := "wallet_multi_run_interval_coverage_v1"
  selectedRunIds : List Int
  intervalSemantics : String := "[start,end)"
  coverageScope : String := "selected_validated_run_intervals_only"
  gapScope : String := "inside_validated_selected_span_only"
  lowLevelTransactions : CoverageLayer
  providerDisplayEvents : CoverageLayer
deriving DecidableEq, Repr

/-- `build_wallet_interval_coverage`. -/
def buildWalletIntervalCoverage (selectedRunIds transactionEvidence eventEvidence : Json) :
    IntervalCoverageResult WalletIntervalCoverage := do
  let runIds ← validateSelectedRunIds selectedRunIds
  let lowLevelTransactions ← coverageLayer runIds transactionEvidence "transactions"
    "low_level_transaction_stream" "complete" "bounded_low_level_transaction_query"
  let providerDisplayEvents ← coverageLayer runIds eventEvidence "account_events"
    "provider_display_event_stream" "provider_stream_complete" "display_only_actions"
  return { selectedRunIds := runIds, lowLevelTransactions, providerDisplayEvents }

end TonTracker
