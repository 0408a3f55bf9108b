/-
# `Services.StreamCheckpoints` — where a stream may continue

`services/wallet_case_stream_checkpoints.py`, the part that decides the
resume state of a stream from its evidence: a complete stream is
complete, an incomplete one is ready exactly when it stopped for a
resumable reason at the cursor of its last successful page, and every
other one is blocked with its reason.
-/
import TonTracker.Adapters.Acquisition

namespace TonTracker

inductive ResumeState where
  | complete
  | ready
  | blocked
deriving DecidableEq, Repr

inductive ResumeBlocker where
  | previewOnly
  | resolvedBoundsUnavailable
  | providerEventInProgress
  | providerProtocolError
  | noSuccessfulPage
  | continuationCursorUnavailable
  | continuationCursorUnverified
  | terminationNotResumable
deriving DecidableEq, Repr

variable {D : Type}

/-- `_RESUMABLE_TERMINATIONS`. -/
def isResumableTermination : TerminationReason → Bool
  | .pageCapReached => true
  | .providerError => true
  | _ => false

/-- `last_successful`: the last page without an error. -/
def lastSuccessful (stream : StreamEvidence D) : Option (PageEvidence D) :=
  stream.successfulPages.getLast?

/-- The local `ready` of `_build_checkpoint`. -/
def isReady (stream : StreamEvidence D) : Bool :=
  stream.completionState == .incomplete &&
    isResumableTermination stream.terminationReason &&
    !stream.successfulPages.isEmpty &&
    stream.terminalCursor.isSome &&
    (lastSuccessful stream).bind (·.responseCursor) == stream.terminalCursor

/-- `_resume_blocker`. -/
def resumeBlocker (stream : StreamEvidence D) : ResumeBlocker :=
  if stream.completionState = .previewOnly then .previewOnly
  else if stream.terminationReason = .legacyUnavailable then .resolvedBoundsUnavailable
  else if stream.terminationReason = .providerEventInProgress then .providerEventInProgress
  else if stream.terminationReason = .protocolError then .providerProtocolError
  else if stream.successfulPages.isEmpty then .noSuccessfulPage
  else if stream.terminalCursor.isNone then .continuationCursorUnavailable
  else if (lastSuccessful stream).bind (·.responseCursor) ≠ stream.terminalCursor then
    .continuationCursorUnverified
  else .terminationNotResumable

/-- The continuation a checkpoint records. -/
structure Continuation where
  resumeState : ResumeState
  resumeBlocker : Option ResumeBlocker
  continuationCursor : Option LogicalTime
  continuationPageIndex : Option Nat
deriving DecidableEq

/-- The resume fields of `_build_checkpoint`. -/
def continuation (stream : StreamEvidence D) : Continuation :=
  if stream.completionState = .complete then ⟨.complete, none, none, none⟩
  else if isReady stream then
    ⟨.ready, none, stream.terminalCursor,
      (lastSuccessful stream).map (·.pageIndex + 1)⟩
  else ⟨.blocked, some (resumeBlocker stream), none, none⟩

/-- A page budget the service admits. -/
structure PageBudget where
  val : Nat
  pos : 1 ≤ val
  bounded : val ≤ 10
deriving Repr

instance : DecidableEq PageBudget := fun a b =>
  decidable_of_iff (a.val = b.val) (by cases a; cases b; simp only [PageBudget.mk.injEq])

theorem one_le_pageBudget : 1 ≤ 1 := by decide

theorem pageBudget_le_ten : 1 ≤ 10 := by decide

/-- The request of a run that resumes a ready continuation over the same
interval. -/
def resumeRequest (start stop : Instant) (streamKey : StreamKey) (c : Continuation)
    (pageBudget : Option PageBudget) : Option AdapterRequest :=
  if c.resumeState = .ready then
    some
      { resolvedStart := some start, resolvedEnd := some stop
        resumeStreamKey := some streamKey
        resumeCursor := c.continuationCursor
        resumePageIndex := c.continuationPageIndex
        resumePageBudget := pageBudget.map (·.val) }
  else none

/-- The request of a first run over the interval. -/
def firstRequest (start stop : Instant) : AdapterRequest :=
  { resolvedStart := some start, resolvedEnd := some stop
    resumeStreamKey := none, resumeCursor := none, resumePageIndex := none
    resumePageBudget := none }

/-! ## Cutting an acquisition into runs -/

/-- What one run of a chain is given of its own: the page cap configured
at the time, the page budget it was resumed with, and its clock. -/
structure Leg where
  maxPages : Int
  pageBudget : Option PageBudget
  clock : Nat → Instant
  startedAt : Instant
  finishedAt : Instant

/-- A run followed by resumed runs: each leg runs the request it is given
and, if that leaves the stream ready, hands the continuation on. -/
def runLegs {O : Type} (fetch : Leg → AdapterRequest → O) (stream : O → StreamEvidence D)
    (start stop : Instant) (streamKey : StreamKey) : AdapterRequest → List Leg → List O
  | _, [] => []
  | request, leg :: legs =>
      let outcome := fetch leg request
      outcome ::
        match resumeRequest start stop streamKey (continuation (stream outcome))
          (legs.head?.bind (·.pageBudget)) with
        | some next => runLegs fetch stream start stop streamKey next legs
        | none => []

/-- A page cap under an optional page budget. -/
def budgeted (pageBudget : Option PageBudget) (pageCap : Nat) : Nat :=
  match pageBudget with
  | none => pageCap
  | some budget => min pageCap budget.val

theorem one_le_budgeted {pageCap : Nat} (h : 1 ≤ pageCap) (pageBudget : Option PageBudget) :
    1 ≤ budgeted pageBudget pageCap := by
  cases pageBudget with
  | none => exact h
  | some budget => exact le_min h budget.pos

/-- The request reads the interval from this cursor and page index on,
under this page budget. -/
structure StartsAt (start stop : Instant) (streamKey : StreamKey) (request : AdapterRequest)
    (first : Option LogicalTime) (pageIndex : Nat) (pageBudget : Option PageBudget) : Prop where
  bounds : resolvedTransactionBounds request = .ok (some (start, stop))
  position : resumePosition request streamKey = .ok (first, pageIndex)
  cap : ∀ pageCap, effectiveResumePageCap request pageCap = budgeted pageBudget pageCap

theorem startsAt_first {start stop : Instant} (h : start < stop) (streamKey : StreamKey) :
    StartsAt start stop streamKey (firstRequest start stop) none 1 none where
  bounds := by simp [resolvedTransactionBounds, firstRequest, not_le.mpr h]
  position := rfl
  cap _ := rfl

/-- A ready continuation carries the stream's cursor, and the index after
that of its last successful page. -/
theorem continuation_ready {stream : StreamEvidence D}
    (h : (continuation stream).resumeState = .ready) :
    stream.completionState = .incomplete ∧
      isResumableTermination stream.terminationReason = true ∧
      ∃ cursor page, stream.terminalCursor = some cursor ∧ lastSuccessful stream = some page ∧
        continuation stream = ⟨.ready, none, some cursor, some (page.pageIndex + 1)⟩ := by
  unfold continuation at h ⊢
  split at h
  case isTrue => cases h
  case isFalse hne =>
    rw [if_neg hne]
    split at h
    case isFalse => cases h
    case isTrue hready =>
      rw [if_pos hready]
      simp only [isReady, Bool.and_eq_true, beq_iff_eq] at hready
      obtain ⟨⟨⟨⟨hstate, hreason⟩, -⟩, hcursor⟩, hlast⟩ := hready
      obtain ⟨cursor, hc⟩ := Option.isSome_iff_exists.mp hcursor
      refine ⟨hstate, hreason, cursor, ?_⟩
      cases hl : lastSuccessful stream with
      | none => rw [hl, hc] at hlast; cases hlast
      | some page => exact ⟨page, hc, rfl, by rw [hc]; rfl⟩

/-- The request that resumes a stream starts at its terminal cursor. -/
theorem startsAt_resume {start stop : Instant} (h : start < stop) {streamKey : StreamKey}
    {stream : StreamEvidence D} {pageBudget : Option PageBudget} {next : AdapterRequest}
    (hnext : resumeRequest start stop streamKey (continuation stream) pageBudget = some next) :
    (continuation stream).resumeState = .ready ∧
      ∃ page, lastSuccessful stream = some page ∧
        StartsAt start stop streamKey next stream.terminalCursor (page.pageIndex + 1)
          pageBudget := by
  unfold resumeRequest at hnext
  split at hnext
  case isFalse => cases hnext
  case isTrue hready =>
    obtain ⟨-, -, cursor, page, hcursor, hlast, hc⟩ := continuation_ready hready
    cases hnext
    refine ⟨hready, page, hlast, by simp [resolvedTransactionBounds, not_le.mpr h], ?_, ?_⟩
    · have hbudget : (pageBudget.map (·.val)).any (fun n => decide (n < 1) || decide (10 < n)) =
          false := by
        cases pageBudget with
        | none => rfl
        | some budget =>
            have h1 := budget.pos
            have h2 := budget.bounded
            simp
            omega
      have hindex : ¬ page.pageIndex + 1 < 1 := by omega
      simp only [resumePosition, hc, hcursor, ne_eq, not_true_eq_false, if_false, hindex, hbudget,
        Bool.false_eq_true]
    · intro pageCap
      cases pageBudget <;> rfl

/-- A stream whose last page was taken in and turned, and that stopped at
its page cap, is ready to continue behind that page. -/
theorem continuation_of_cut {stream : StreamEvidence D} {init : List (PageEvidence D)}
    {last : PageEvidence D} (hstate : stream.completionState = .incomplete)
    (hreason : stream.terminationReason = .pageCapReached)
    (hcursor : stream.terminalCursor.isSome) (hpages : stream.pages = init ++ [last])
    (hok : last.errorCode = none) (hresponse : last.responseCursor = stream.terminalCursor) :
    (continuation stream).resumeState = .ready ∧ lastSuccessful stream = some last := by
  have hsuccess : stream.successfulPages =
      (init.filter fun page => page.errorCode.isNone) ++ [last] := by
    simp [StreamEvidence.successfulPages, hpages, List.filter_append, hok]
  have hlast : lastSuccessful stream = some last := by
    rw [lastSuccessful, hsuccess, List.getLast?_concat]
  have hready : isReady stream = true := by
    simp [isReady, hstate, hreason, isResumableTermination, hsuccess, hcursor, hlast, hresponse]
  exact ⟨by simp [continuation, hstate, hready], hlast⟩

/-- What every fetch makes of a request of the chain, every outcome is. -/
theorem runLegs_forall {O : Type} (fetch : Leg → AdapterRequest → O)
    (stream : O → StreamEvidence D) (start stop : Instant) (streamKey : StreamKey)
    (P : AdapterRequest → Prop) (Q : O → Prop)
    (hfetch : ∀ leg request, P request → Q (fetch leg request))
    (hnext : ∀ leg request pageBudget next, P request →
      resumeRequest start stop streamKey (continuation (stream (fetch leg request))) pageBudget =
        some next → P next) :
    ∀ (legs : List Leg) {request : AdapterRequest}, P request →
      ∀ o ∈ runLegs fetch stream start stop streamKey request legs, Q o := by
  intro legs
  induction legs with
  | nil => intro request _ o ho; cases ho
  | cons leg legs ih =>
      intro request hP o ho
      rw [runLegs] at ho
      rcases List.mem_cons.mp ho with rfl | ho
      · exact hfetch leg request hP
      · split at ho
        next next hsome => exact ih (hnext leg request _ next hP hsome) o ho
        next => cases ho

end TonTracker
