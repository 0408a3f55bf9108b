/-
# `Acquisition.PlanRoundTrip` — when a committed plan reads back

The reader of stored plans compares timestamps as texts.  A plan whose
instants are in order is read back exactly when the texts are in order
too, and they are not when the earlier instant is a whole second and the
later one a fraction of the same second (`Instant.TextInverted`).  Which
accepted requests commit such a plan is `EnqueueRequest.KeepsTextOrder`;
the main theorem is `syncAcquisitionPlan_planned_iff`.
-/
import TonTracker.Services.SyncPlanning
import TonTracker.Lib.ExceptFold

namespace TonTracker

variable {P D : Type}

/-! ## A plan built by the service -/

/-- What every planning function establishes: the plan's texts are those of
an interval inside the requested one, and its other fields are in range. -/
structure WellPlanned (planned : PlannedSync P D) (acquisitionStart : Instant) : Prop where
  startAt : planned.plan.startAt = acquisitionStart.isoformat
  endAt : planned.plan.endAt = planned.requestedEnd.isoformat
  inside : planned.requestedStart ≤ acquisitionStart
  nonempty : acquisitionStart < planned.requestedEnd
  fields : match planned.plan.mode with
    | .bounded => acquisitionStart = planned.requestedStart
    | .incremental overlapSeconds _ => overlapSeconds ≤ 86400
    | .resume plan => isLogicalTimeText (.str plan.cursor) = true ∧ 1 ≤ plan.pageIndex

theorem hasKeys_toDict (texts : IdTexts P D) (plan : AcquisitionPlan P D) :
    hasKeys (expectedKeys plan.version) (plan.toDict texts) = true := by
  obtain ⟨_, _, mode⟩ := plan
  cases mode with
  | bounded => rfl
  | incremental => rfl
  | resume resumePlan =>
      obtain ⟨_, _, _, _, _, authority⟩ := resumePlan
      cases authority <;> rfl

theorem planVersion_toDict (texts : IdTexts P D) (plan : AcquisitionPlan P D) :
    planVersion (Json.get (plan.toDict texts) "version") = some plan.version := by
  obtain ⟨_, _, mode⟩ := plan
  cases mode with
  | bounded => rfl
  | incremental => rfl
  | resume resumePlan =>
      obtain ⟨_, _, _, _, _, authority⟩ := resumePlan
      cases authority <;> rfl

theorem isPlanMode_toDict (texts : IdTexts P D) (plan : AcquisitionPlan P D) :
    isPlanMode (Json.get (plan.toDict texts) "mode") = true := by
  obtain ⟨_, _, mode⟩ := plan
  cases mode <;> rfl

theorem isUuidText_uuid (id : Uuid) : isUuidText (.str id.text) = true := by
  simp [isUuidText, id.length]

/-- A content-addressed id passes the check of its prefix. -/
theorem isContentId_contentId (texts : IdTexts P D) {tag : String} (four : tag.toList.length = 4)
    (id : D) : isContentId tag (texts.contentId tag id) = true := by
  have split : (tag.toList ++ (texts.hexdigest id).text).drop 4 = (texts.hexdigest id).text := by
    rw [← four, List.drop_left]
  simp only [isContentId, IdTexts.contentId, List.length_append, four,
    (texts.hexdigest id).length, split, (texts.hexdigest id).hex, Bool.and_true, Bool.and_eq_true]
  exact ⟨rfl, List.isPrefixOf_iff_prefix.mpr (List.prefix_append _ _)⟩

theorem isIntBetween_budget (budget : PageBudget) :
    isIntBetween 1 10 (.int budget.val) = true := by
  have low := budget.pos
  have high := budget.bounded
  simp only [isIntBetween, Bool.and_eq_true, decide_eq_true_eq]
  omega

theorem isStreamKey_text (key : StreamKey) :
    (isText "transactions" (.str key.text) || isText "account_events" (.str key.text)) = true := by
  cases key <;> rfl

theorem resumeFieldsValid_toDict (texts : IdTexts P D) (startAt endAt : Text)
    {plan : ResumePlan P D} (cursor : isLogicalTimeText (.str plan.cursor) = true)
    (pageIndex : 1 ≤ plan.pageIndex) :
    resumeFieldsValid (AcquisitionPlan.version (P := P) (D := D) ⟨startAt, endAt, .resume plan⟩) 0
      (AcquisitionPlan.toDict texts ⟨startAt, endAt, .resume plan⟩) = true := by
  have base := isUuidText_uuid (texts.uuid plan.baseSnapshot)
  have source := @isContentId_contentId P D texts "scp_" rfl plan.sourceCheckpoint
  have key := isStreamKey_text plan.streamKey
  have index : decide ((1 : Int) ≤ (plan.pageIndex : Int)) = true := by
    rw [decide_eq_true_eq]
    omega
  have planId := @isContentId_contentId P D texts "cpl_" rfl
  have scheduleId := @isContentId_contentId P D texts "bfs_" rfl
  have progressId := @isContentId_contentId P D texts "bfp_" rfl
  have cutoffId := @isContentId_contentId P D texts "scp_" rfl
  obtain ⟨_, _, _, _, _, authority⟩ := plan
  cases authority with
  | direct =>
      show (true && _ && _ && _ && _ && _ && _ && true && true && true && true) = true
      simp only [Bool.and_eq_true, and_true]
      exact ⟨⟨⟨⟨⟨⟨trivial, base⟩, source⟩, key⟩, cursor⟩, index⟩, rfl⟩
  | plan continuationPlan budget =>
      show (true && _ && _ && _ && _ && _ && _ && (false || _) && (false || _) && true && true) =
        true
      simp only [Bool.and_eq_true, and_true, Bool.false_or]
      exact ⟨⟨⟨⟨⟨⟨⟨⟨trivial, base⟩, source⟩, key⟩, cursor⟩, index⟩, rfl⟩, planId continuationPlan⟩,
        isIntBetween_budget budget⟩
  | schedule continuationPlan budget schedule progress cutoff =>
      show (true && _ && _ && _ && _ && _ && _ && (false || _) && (false || _) && (false || _) &&
        (false || (_ && _))) = true
      simp only [Bool.and_eq_true, Bool.false_or]
      exact ⟨⟨⟨⟨⟨⟨⟨⟨⟨⟨trivial, base⟩, source⟩, key⟩, cursor⟩, index⟩, rfl⟩, planId continuationPlan⟩,
        isIntBetween_budget budget⟩, scheduleId schedule⟩, progressId progress, cutoffId cutoff⟩

/-- The overlap a plan stores. -/
def AcquisitionPlan.overlap (plan : AcquisitionPlan P D) : Nat :=
  match plan.mode with
  | .incremental overlapSeconds _ => overlapSeconds
  | _ => 0

theorem get_overlap (texts : IdTexts P D) (plan : AcquisitionPlan P D) :
    Json.get (plan.toDict texts) "overlap_seconds" = .int plan.overlap := by
  obtain ⟨_, _, mode⟩ := plan
  cases mode <;> rfl

theorem modeValid_toDict (texts : IdTexts P D) {planned : PlannedSync P D}
    {acquisitionStart : Instant} (well : WellPlanned planned acquisitionStart) :
    modeValid planned.plan.version planned.plan.startAt planned.requestedStart.isoformat
      planned.plan.overlap (planned.plan.toDict texts) = true := by
  obtain ⟨startAt, -, -, -, fields⟩ := well
  obtain ⟨_, _, _, _, _, ⟨_, _, mode⟩⟩ := planned
  cases mode with
  | bounded =>
      have same := startAt
      rw [fields] at same
      show (_ == _ && true && true) = true
      simp only [Bool.and_true, beq_iff_eq]
      exact same
  | incremental overlapSeconds base => exact isUuidText_uuid (texts.uuid base)
  | resume plan => exact resumeFieldsValid_toDict texts _ _ fields.1 fields.2

theorem overlap_le {planned : PlannedSync P D} {acquisitionStart : Instant}
    (well : WellPlanned planned acquisitionStart) : planned.plan.overlap ≤ 86400 := by
  have fields := well.fields
  unfold AcquisitionPlan.overlap
  split
  case h_1 mode => simpa only [mode] using fields
  case h_2 => exact Nat.zero_le _

theorem canonicalPlanTimestamp_isoformat (t : Instant) :
    canonicalPlanTimestamp t.isoformat = .ok t.isoformat := by
  unfold canonicalPlanTimestamp
  rw [t.canonical_isoformat]

/-- The reader returns a well-planned row's plan when the texts are in
order, and calls it invalid otherwise. -/
theorem syncAcquisitionPlan_stored (texts : IdTexts P D) {planned : PlannedSync P D}
    {acquisitionStart : Instant} (well : WellPlanned planned acquisitionStart) :
    syncAcquisitionPlan (planned.stored texts) =
      if acquisitionStart.TextInverted planned.requestedEnd ∨
          planned.requestedStart.TextInverted acquisitionStart then .error .invalid
      else .ok (planned.plan.toDict texts) := by
  have order := Instant.isoformat_lt_iff_of_lt well.nonempty
  have inside := Instant.not_isoformat_lt_iff_of_le well.inside
  have overlap := overlap_le well
  have mode := modeValid_toDict texts well
  rw [well.startAt] at mode
  have checked : checkedPlan (planned.stored texts) planned.plan.version
      (planned.plan.toDict texts) =
      if acquisitionStart.TextInverted planned.requestedEnd ∨
          planned.requestedStart.TextInverted acquisitionStart then .error .invalid
      else .ok (planned.plan.toDict texts) := by
    have startText : Json.get (planned.plan.toDict texts) "start_at" =
        .str acquisitionStart.isoformat := by rw [← well.startAt]; rfl
    have endText : Json.get (planned.plan.toDict texts) "end_at" =
        .str planned.requestedEnd.isoformat := by rw [← well.endAt]; rfl
    unfold checkedPlan
    rw [startText, endText, get_overlap]
    have inRange : ¬ ((!isPlanMode (Json.get (planned.plan.toDict texts) "mode")) = true ∨
        (planned.plan.overlap : Int) < 0 ∨ 86400 < (planned.plan.overlap : Int)) := by
      simp only [isPlanMode_toDict, Bool.not_true, Bool.false_eq_true, false_or]
      omega
    have comparisons : (acquisitionStart.isoformat ≠ acquisitionStart.isoformat ∨
        planned.requestedEnd.isoformat ≠ planned.requestedEnd.isoformat ∨
        ¬ acquisitionStart.isoformat < planned.requestedEnd.isoformat ∨
        planned.requestedEnd.isoformat ≠ planned.requestedEnd.isoformat ∨
        acquisitionStart.isoformat < planned.requestedStart.isoformat) ↔
        (acquisitionStart.TextInverted planned.requestedEnd ∨
          planned.requestedStart.TextInverted acquisitionStart) := by
      rw [order, ← not_not (a := acquisitionStart.isoformat < planned.requestedStart.isoformat),
        inside]
      simp only [ne_eq, not_true, not_not, false_or]
    simp only [inRange, if_false, canonicalPlanTimestamp_isoformat, bind, Except.bind, pure,
      Except.pure, PlannedSync.stored, comparisons, mode, if_true]
    split <;> rfl
  have stored : (planned.stored texts).acquisitionPlan = .obj (planned.plan.toDict texts) := rfl
  unfold syncAcquisitionPlan
  rw [stored]
  dsimp only
  rw [planVersion_toDict]
  simp only [hasKeys_toDict, if_true]
  exact checked

/-! ## What each entry point plans -/

theorem parseCanonicalTimestamp_eq_ok {text : Text} {canonical : Text} {t : Instant}
    (hc : canonicalRequestTimestamp text = .ok canonical)
    (ht : parseCanonicalTimestamp canonical = .ok t) : canonical = t.isoformat := by
  unfold canonicalRequestTimestamp at hc
  split at hc
  case isFalse => cases hc
  case isTrue =>
    cases parsed : parseCanonicalTimestamp text with
    | error e =>
        rw [parsed] at hc
        cases hc
    | ok u =>
        rw [parsed] at hc
        cases hc
        rw [u.parse_isoformat] at ht
        cases ht
        rfl

theorem wellPlanned_bounded {request : SyncRequest} {queuedAt : Instant}
    {planned : PlannedSync P D} (accepted : planBounded request queuedAt = .ok planned) :
    WellPlanned planned planned.requestedStart ∧ ∃ bounds : AcquisitionBounds,
      resolveWalletAcquisitionBounds request.timeWindow request.customStart request.customEnd
        queuedAt = .ok bounds ∧
      planned.requestedStart = bounds.start ∧ planned.requestedEnd = bounds.stop := by
  obtain ⟨bounds, resolved, built⟩ := ExceptFold.bind_eq_ok.mp accepted
  cases built
  exact ⟨⟨rfl, rfl, le_refl _, bounds.ordered, rfl⟩, bounds, resolved, rfl, rfl⟩

/-- A rolling window never ends within the second it starts in. -/
theorem not_textInverted_of_minus {now start : Instant} {window : Nat}
    (h : now.minus window = some start) (long : microsPerSecond ≤ window) :
    ¬ start.TextInverted now := by
  obtain ⟨difference, fits⟩ := Instant.micros_of_minus h
  rintro ⟨-, second, -⟩
  unfold Instant.second microsPerSecond at second
  unfold microsPerSecond at long
  omega

theorem bounded_inverted_iff {request : SyncRequest} {queuedAt : Instant}
    {bounds : AcquisitionBounds}
    (resolved : resolveWalletAcquisitionBounds request.timeWindow request.customStart
      request.customEnd queuedAt = .ok bounds) :
    ¬ bounds.start.TextInverted bounds.stop ↔
      ∀ start stop, parseIso request.customStart "custom_start" = .ok start →
        parseIso request.customEnd "custom_end" = .ok stop → ¬ start.TextInverted stop := by
  unfold resolveWalletAcquisitionBounds at resolved
  split at resolved
  case h_1 window rolling =>
    split at resolved
    case isTrue => cases resolved
    case isFalse absent =>
      split at resolved
      case h_2 => cases resolved
      case h_1 start minus =>
        obtain ⟨hstart, hstop⟩ := checkedBounds_ok resolved
        have long : microsPerSecond ≤ window := by
          cases hw : request.timeWindow <;> rw [hw] at rolling <;> cases rolling <;> decide
        rw [hstart, hstop]
        constructor
        · intro _ a b ha
          simp only [Bool.or_eq_true, not_or, Option.not_isSome_iff_eq_none] at absent
          rw [absent.1] at ha
          cases ha
        · intro _
          exact not_textInverted_of_minus minus long
  case h_2 =>
    obtain ⟨start, hstart, resolved⟩ := ExceptFold.bind_eq_ok.mp resolved
    obtain ⟨stop, hstop, resolved⟩ := ExceptFold.bind_eq_ok.mp resolved
    split at resolved
    case isTrue => cases resolved
    case isFalse =>
      obtain ⟨rfl, rfl⟩ := checkedBounds_ok resolved
      constructor
      · intro keeps a b ha hb
        rw [hstart] at ha
        rw [hstop] at hb
        cases ha
        cases hb
        exact keeps
      · intro keeps
        exact keeps _ _ hstart hstop

/-- The start of an incremental acquisition. -/
def incrementalStart (base : BaseSnapshot P) (overlapStart : Instant) : Instant :=
  max base.requestedStart overlapStart

theorem overlapSeconds_le {base : BaseSnapshot P} {overlapStart : Instant}
    (h : base.requestedEnd.minus incrementalOverlap = some overlapStart) :
    overlapSeconds base.requestedEnd (incrementalStart base overlapStart) ≤ 86400 := by
  obtain ⟨difference, fits⟩ := Instant.micros_of_minus h
  have later := Instant.le_iff.mp (le_max_right base.requestedStart overlapStart)
  unfold incrementalOverlap microsPerSecond at difference fits
  unfold overlapSeconds incrementalStart microsPerSecond
  omega

theorem wellPlanned_incremental {request : SyncRequest} {base : Option (BaseSnapshot P)}
    {queuedAt : Instant} {planned : PlannedSync P D}
    (accepted : planIncremental request base queuedAt = .ok planned) :
    ∃ snapshot overlapStart, base = some snapshot ∧
      snapshot.requestedEnd.minus incrementalOverlap = some overlapStart ∧
      planned.requestedStart = snapshot.requestedStart ∧ planned.requestedEnd = queuedAt ∧
      WellPlanned planned (incrementalStart snapshot overlapStart) := by
  unfold planIncremental at accepted
  split at accepted
  case h_1 => cases accepted
  case h_2 snapshot =>
    split at accepted
    case isFalse => cases accepted
    case isTrue =>
      split at accepted
      case isTrue => cases accepted
      case isFalse late =>
        split at accepted
        case h_1 => cases accepted
        case h_2 overlapStart minus =>
          cases accepted
          have fits := Instant.micros_of_minus minus
          have before : overlapStart ≤ snapshot.requestedEnd := by
            rw [Instant.le_iff]
            omega
          refine ⟨snapshot, overlapStart, rfl, minus, rfl, rfl, ?_⟩
          exact
            { startAt := rfl
              endAt := rfl
              inside := le_max_left _ _
              nonempty := max_lt (lt_trans snapshot.ordered (not_le.mp late))
                (lt_of_le_of_lt before (not_le.mp late))
              fields := overlapSeconds_le minus }

/-! ## Resumes: the source plan has already been read -/

theorem canonicalPlanTimestamp_eq_ok {text canonical : Text}
    (h : canonicalPlanTimestamp text = .ok canonical) :
    canonicalRequestTimestamp text = .ok canonical := by
  unfold canonicalPlanTimestamp at h
  split at h
  case h_1 read => cases h; exact read
  case h_2 => cases h
  case h_3 => cases h

/-- What the reader has checked of a stored plan it returns. -/
theorem checkedPlan_eq_ok {row : StoredPlan} {version : Nat} {stored plan : List (String × Json)}
    (h : checkedPlan row version stored = .ok plan) :
    ∃ startAt endAt, planText plan "start_at" = some startAt ∧
      planText plan "end_at" = some endAt ∧ canonicalRequestTimestamp startAt = .ok startAt ∧
      endAt = row.requestedEnd.isoformat ∧ startAt < endAt ∧
      ¬ startAt < row.requestedStart.isoformat := by
  unfold checkedPlan at h
  split at h
  case h_2 => cases h
  case h_1 startAt endAt overlap hstart hend hoverlap =>
    simp only [bind, Except.bind, pure, Except.pure] at h
    split at h
    case isTrue => cases h
    case isFalse =>
      cases cs : canonicalPlanTimestamp startAt with
      | error e => rw [cs] at h; cases h
      | ok canonicalStart =>
          cases ce : canonicalPlanTimestamp endAt with
          | error e => rw [cs, ce] at h; cases h
          | ok canonicalEnd =>
              rw [cs, ce] at h
              dsimp only at h
              split at h
              case isTrue => cases h
              case isFalse inOrder =>
                split at h
                case isFalse => cases h
                case isTrue =>
                  cases h
                  simp only [not_or, not_not, ne_eq] at inOrder
                  obtain ⟨rfl, rfl, nonempty, rfl, inside⟩ := inOrder
                  exact ⟨_, _, by rw [planText, hstart], by rw [planText, hend],
                    canonicalPlanTimestamp_eq_ok cs, rfl, nonempty, inside⟩

/-- The start text of a plan the reader returned is canonical, and unless the
row stores no plan it passed the comparisons. -/
theorem syncAcquisitionPlan_eq_ok {row : StoredPlan} {plan : List (String × Json)}
    (h : syncAcquisitionPlan row = .ok plan) :
    ∃ startAt, planText plan "start_at" = some startAt ∧
      planText plan "end_at" = some row.requestedEnd.isoformat ∧
      canonicalRequestTimestamp startAt = .ok startAt ∧
      (row.acquisitionPlan = .null ∧ startAt = row.requestedStart.isoformat ∨
        (∃ stored, row.acquisitionPlan = .obj stored) ∧
          startAt < row.requestedEnd.isoformat ∧ ¬ startAt < row.requestedStart.isoformat) := by
  unfold syncAcquisitionPlan at h
  split at h
  case h_1 stored =>
    cases h
    exact ⟨_, rfl, rfl, row.requestedStart.canonical_isoformat, .inl ⟨stored, rfl⟩⟩
  case h_2 stored hstored =>
    split at h
    case h_2 => cases h
    case h_1 version _ =>
      split at h
      case isFalse => cases h
      case isTrue =>
        obtain ⟨startAt, endAt, hstart, hend, canonical, rfl, nonempty, inside⟩ :=
          checkedPlan_eq_ok h
        exact ⟨startAt, hstart, hend, canonical, .inr ⟨⟨stored, hstored⟩, nonempty, inside⟩⟩
  case h_3 => cases h

theorem verifiedPeriod_eq_ok {source : ResumeSource P D} {periodStart periodEnd : Text}
    (h : verifiedPeriod source = .ok (periodStart, periodEnd)) :
    ∃ plan, syncAcquisitionPlan source.sourceRow = .ok plan ∧
      planText plan "start_at" = some periodStart ∧ planText plan "end_at" = some periodEnd := by
  unfold verifiedPeriod at h
  split at h
  case h_1 => cases h
  case h_2 => cases h
  case h_3 plan read =>
    split at h
    case h_1 =>
      split at h
      case isTrue same =>
        cases h
        exact ⟨plan, read, same⟩
      case isFalse => cases h
    case h_2 => cases h

theorem periodBound_eq_ok {text canonical : Text} {t : Instant}
    (h : periodBound text = .ok (canonical, t)) :
    canonicalRequestTimestamp text = .ok canonical ∧ canonical = t.isoformat := by
  unfold periodBound at h
  split at h
  case h_1 => cases h
  case h_2 => cases h
  case h_3 read =>
    split at h
    case h_1 => cases h
    case h_2 => cases h
    case h_3 parsed =>
      cases h
      exact ⟨read, parseCanonicalTimestamp_eq_ok read parsed⟩

theorem wellPlanned_resume {source : ResumeSource P D} {authority : ResumeAuthority D}
    {planned : PlannedSync P D} (accepted : planResume source authority = .ok planned) :
    ∃ acquisitionStart, WellPlanned planned acquisitionStart ∧
      planned.requestedStart = source.sourceRow.requestedStart ∧
      planned.requestedEnd = source.sourceRow.requestedEnd ∧
      ∃ plan, syncAcquisitionPlan source.sourceRow = .ok plan ∧
        planText plan "start_at" = some acquisitionStart.isoformat := by
  obtain ⟨⟨periodStart, periodEnd⟩, verified, accepted⟩ := ExceptFold.bind_eq_ok.mp accepted
  obtain ⟨plan, read, hstart, hend⟩ := verifiedPeriod_eq_ok verified
  obtain ⟨startAt, hstart', hend', canonicalStart, -⟩ := syncAcquisitionPlan_eq_ok read
  rw [hstart] at hstart'
  rw [hend] at hend'
  cases hstart'
  cases hend'
  obtain ⟨-, -, accepted⟩ := ExceptFold.bind_eq_ok.mp accepted
  obtain ⟨-, -, accepted⟩ := ExceptFold.bind_eq_ok.mp accepted
  obtain ⟨-, -, accepted⟩ := ExceptFold.bind_eq_ok.mp accepted
  obtain ⟨⟨startText, acquisitionStart⟩, boundStart, accepted⟩ := ExceptFold.bind_eq_ok.mp accepted
  obtain ⟨⟨endText, acquisitionEnd⟩, boundEnd, inserted⟩ := ExceptFold.bind_eq_ok.mp accepted
  obtain ⟨canonical, rfl⟩ := periodBound_eq_ok boundStart
  obtain ⟨-, rfl⟩ := periodBound_eq_ok boundEnd
  rw [canonicalStart] at canonical
  cases canonical
  dsimp only at inserted
  by_cases bounds : source.sourceRow.requestedStart ≤ acquisitionStart ∧
      acquisitionEnd = source.sourceRow.requestedEnd ∧ acquisitionStart < acquisitionEnd
  case neg =>
    rw [dif_neg bounds] at inserted
    cases inserted
  case pos =>
    rw [dif_pos bounds] at inserted
    split at inserted
    case h_2 => cases inserted
    case h_1 cursor pageIndex _ _ =>
      split at inserted
      case isFalse => cases inserted
      case isTrue position =>
        cases inserted
        obtain ⟨inside, same, nonempty⟩ := bounds
        rw [Bool.and_eq_true, decide_eq_true_eq] at position
        refine ⟨acquisitionStart, ?_, rfl, rfl, plan, read, hstart⟩
        exact
          { startAt := rfl
            endAt := congrArg Instant.isoformat same
            inside := inside
            nonempty := same ▸ nonempty
            fields := position }

/-! ## The condition -/

/-- The condition under which an accepted request commits a row that reads
back: no bound of the plan is a whole second followed, as the next bound, by
a fraction of that same second. -/
def EnqueueRequest.KeepsTextOrder : EnqueueRequest P D → Prop
  | .sync request base queuedAt =>
      match request.mode with
      | .bounded =>
          ∀ start stop, parseIso request.customStart "custom_start" = .ok start →
            parseIso request.customEnd "custom_end" = .ok stop → ¬ start.TextInverted stop
      | .incremental =>
          ∀ snapshot overlapStart, base = some snapshot →
            snapshot.requestedEnd.minus incrementalOverlap = some overlapStart →
            ¬ (max snapshot.requestedStart overlapStart).TextInverted queuedAt ∧
              ¬ snapshot.requestedStart.TextInverted (max snapshot.requestedStart overlapStart)
  | .checkpointResume source _ =>
      source.sourceRow.acquisitionPlan matches .null →
        ¬ source.sourceRow.requestedStart.TextInverted source.sourceRow.requestedEnd

/-- The acquisition interval of an accepted request, and when its texts are in order. -/
theorem wellPlanned_of_planned {request : EnqueueRequest P D} {planned : PlannedSync P D}
    (accepted : request.planned = .ok planned) :
    ∃ acquisitionStart, WellPlanned planned acquisitionStart ∧
      (¬ (acquisitionStart.TextInverted planned.requestedEnd ∨
        planned.requestedStart.TextInverted acquisitionStart) ↔ request.KeepsTextOrder) := by
  have irrefl : ∀ t : Instant, ¬ t.TextInverted t := fun t inverted => lt_irrefl t inverted.1
  cases request with
  | sync request base queuedAt =>
      obtain ⟨mode, timeWindow, customStart, customEnd, surfaces, hs, hw⟩ := request
      cases mode with
      | bounded =>
          obtain ⟨well, bounds, resolved, start, stop⟩ := wellPlanned_bounded accepted
          refine ⟨_, well, ?_⟩
          rw [not_or, start, stop]
          simp only [irrefl, not_false_iff, and_true]
          exact bounded_inverted_iff resolved
      | incremental =>
          obtain ⟨snapshot, overlapStart, rfl, minus, start, stop, well⟩ :=
            wellPlanned_incremental accepted
          refine ⟨_, well, ?_⟩
          rw [not_or, start, stop]
          constructor
          · rintro keeps _ _ ⟨⟩ minus'
            rw [minus] at minus'
            cases minus'
            exact keeps
          · intro keeps
            exact keeps snapshot overlapStart rfl minus
  | checkpointResume source authority =>
      obtain ⟨acquisitionStart, well, start, stop, plan, read, hstart⟩ :=
        wellPlanned_resume accepted
      refine ⟨acquisitionStart, well, ?_⟩
      obtain ⟨startAt, hstart', -, -, origin⟩ := syncAcquisitionPlan_eq_ok read
      rw [hstart] at hstart'
      cases hstart'
      rw [not_or, stop, start]
      have nonempty := well.nonempty
      have inside := well.inside
      rw [stop] at nonempty
      rw [start] at inside
      rcases origin with ⟨none, same⟩ | ⟨⟨stored, some⟩, order, notBefore⟩
      · rw [Instant.isoformat_inj] at same
        subst same
        simp only [EnqueueRequest.KeepsTextOrder, none, irrefl, not_false_iff, and_true,
          forall_const]
      · have keeps := (Instant.isoformat_lt_iff_of_lt nonempty).mp order
        have keeps' := (Instant.not_isoformat_lt_iff_of_le inside).mp notBefore
        simp only [EnqueueRequest.KeepsTextOrder, some, keeps, keeps', not_false_iff, and_self]
        simp

theorem planInstant_isoformat {plan : List (String × Json)} {key : String} {t : Instant}
    (h : planText plan key = some t.isoformat) : planInstant plan key = .ok t := by
  unfold planInstant
  rw [h, Option.map_some, t.parse_isoformat]

theorem claimedInterval_eq_ok {texts : IdTexts P D} {planned : PlannedSync P D}
    {acquisitionStart : Instant} (well : WellPlanned planned acquisitionStart)
    (read : syncAcquisitionPlan (planned.stored texts) = .ok (planned.plan.toDict texts)) :
    claimedInterval (planned.stored texts) = .ok (acquisitionStart, planned.requestedEnd) := by
  have startAt : planInstant (planned.plan.toDict texts) "start_at" = .ok acquisitionStart :=
    planInstant_isoformat (congrArg some well.startAt)
  have endAt : planInstant (planned.plan.toDict texts) "end_at" = .ok planned.requestedEnd :=
    planInstant_isoformat (congrArg some well.endAt)
  unfold claimedInterval
  rw [read]
  exact ExceptFold.bind_eq_ok.mpr
    ⟨_, rfl, ExceptFold.bind_eq_ok.mpr ⟨_, startAt, ExceptFold.bind_eq_ok.mpr ⟨_, endAt, rfl⟩⟩⟩

/-- **When a committed plan reads back.**  The row of an accepted request
returns exactly the plan stored with it, and is claimed with its acquisition
interval, if and only if the request keeps the order of its texts; otherwise
every reader of the row raises. -/
theorem syncAcquisitionPlan_planned_iff (texts : IdTexts P D) {request : EnqueueRequest P D}
    {planned : PlannedSync P D} (accepted : request.planned = .ok planned) :
    (syncAcquisitionPlan (planned.stored texts) = .ok (planned.plan.toDict texts) ∧
      ∃ interval, claimedInterval (planned.stored texts) = .ok interval) ↔
      request.KeepsTextOrder := by
  obtain ⟨acquisitionStart, well, condition⟩ := wellPlanned_of_planned accepted
  have read := syncAcquisitionPlan_stored texts well
  rw [← condition]
  constructor
  · rintro ⟨ok, -⟩ inverted
    rw [read, if_pos inverted] at ok
    cases ok
  · intro keeps
    rw [if_neg keeps] at read
    exact ⟨read, _, claimedInterval_eq_ok well read⟩

/-! ## A committed row that never reads back -/

/-- Row ids and digests written with one digit throughout. -/
def sampleTexts : IdTexts Unit Unit where
  uuid := fun _ => ⟨List.replicate 36 '0', rfl⟩
  hexdigest := fun _ => ⟨List.replicate 64 '0', rfl, by decide⟩

/-- 2026-01-02T12:00:00Z. -/
def sampleClock : Instant := ⟨(epochSeconds + 1767355200) * microsPerSecond, by decide⟩

/-- A custom window over the first half of one second. -/
def halfSecondRequest : SyncRequest where
  mode := .bounded
  timeWindow := .custom
  customStart := some "2026-01-01T12:00:00Z".toList
  customEnd := some "2026-01-01T12:00:00.500Z".toList
  surfaces := [.transactions]
  surfacesValid := by decide
  windowValid := by
    refine ⟨⟨_, rfl, ?_⟩, _, rfl, ?_⟩ <;> decide

/-- Whether an accepted request's row is then refused by its reader. -/
def refusedOnRead (request : EnqueueRequest Unit Unit) : Bool :=
  match request.planned with
  | .ok planned =>
      match syncAcquisitionPlan (planned.stored sampleTexts) with
      | .error .invalid => true
      | _ => false
  | .error _ => false

theorem halfSecondRequest_refused :
    refusedOnRead (.sync halfSecondRequest none sampleClock) = true := by
  decide +kernel

/-- The request is accepted, and the row it commits never reads back. -/
theorem syncAcquisitionPlan_half_second :
    ∃ planned : PlannedSync Unit Unit,
      (EnqueueRequest.sync halfSecondRequest none sampleClock).planned = .ok planned ∧
        syncAcquisitionPlan (planned.stored sampleTexts) = .error .invalid := by
  have refused := halfSecondRequest_refused
  unfold refusedOnRead at refused
  split at refused
  case h_2 => cases refused
  case h_1 planned accepted =>
    split at refused
    case h_2 => cases refused
    case h_1 invalid => exact ⟨planned, accepted, invalid⟩

theorem syncAcquisitionPlan_planned_iff_sample :
    ∃ planned : PlannedSync Unit Unit,
      (EnqueueRequest.sync halfSecondRequest none sampleClock).planned = .ok planned ∧
        ((syncAcquisitionPlan (planned.stored sampleTexts) = .ok (planned.plan.toDict sampleTexts) ∧
          ∃ interval, claimedInterval (planned.stored sampleTexts) = .ok interval) ↔
          (EnqueueRequest.sync (P := Unit) (D := Unit) halfSecondRequest none
            sampleClock).KeepsTextOrder) := by
  have refused := halfSecondRequest_refused
  unfold refusedOnRead at refused
  split at refused
  case h_2 => cases refused
  case h_1 planned accepted =>
    exact ⟨planned, accepted, syncAcquisitionPlan_planned_iff sampleTexts accepted⟩

end TonTracker
