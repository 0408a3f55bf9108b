/-
# `Deployment.Methods` — what each method does, step by step

Every durable step of the three methods leads from one shape of
`Deployment.Journal` to another.  The one call that does not keep an attempt
to one event is `complete_attempt` where the attempt redeploys the active
release and its receipt is already there (`Repeats`): the base it compares
is then that receipt's own release.
-/
import TonTracker.Deployment.Journal

namespace TonTracker.Deployment

open Session (Machine Prog)
open CrashRuns (Replies Does does_mono does_pure does_except does_then)
open ExceptFold (check present check_eq_ok present_eq_ok bind_eq_ok)

variable {Digest : Type} [DecidableEq Digest] (lib : DeploymentLibrary Digest)

/-- The attempt ids that are drawn have no event yet. -/
def NewIds : Replies (machine Digest) := fun d q =>
  match q with
  | .attemptId => fun id => id ∉ d.recorded
  | .utcnow => fun _ => True

/-- A method under way: every durable step leaves a sound directory, and
where the call is `fine` nothing is raised. -/
abbrev Runs {α : Type} (fine : Prop) (body : Job Digest α)
    (ok : α → DeploymentDirectory Digest → Prop) (d : DeploymentDirectory Digest) : Prop :=
  Does (M := machine Digest) fine NewIds (fun step d => Sound lib (step.commit d)) body ok
    (Sound lib) d

section Rules

variable {lib} {fine : Prop} {α : Type} {d : DeploymentDirectory Digest}

theorem runs_via {β : Type} (mid : α → DeploymentDirectory Digest → Prop) {body : Job Digest α}
    {f : α → Job Digest β} {ok : β → DeploymentDirectory Digest → Prop}
    (h : Runs lib fine body mid d)
    (hf : ∀ value d', mid value d' → Runs lib fine (f value) ok d') :
    Runs lib fine (body >>= f) ok d := does_then h hf

theorem runs_checked {checked : Except Raised α} {ok : α → DeploymentDirectory Digest → Prop}
    (hok : ∀ value, checked = .ok value → ok value d) (hd : Sound lib d)
    (hfine : fine → ∃ value, checked = .ok value) :
    Runs lib fine (liftChecked checked) ok d := does_except hok hd hfine

/-- A check that passes. -/
theorem runs_known {β : Type} {checked : Except Raised α} {value : α} {f : α → Job Digest β}
    {ok : β → DeploymentDirectory Digest → Prop} (h : checked = .ok value)
    (hf : Runs lib fine (f value) ok d) : Runs lib fine (liftChecked checked >>= f) ok d := by
  subst h
  exact hf

/-- A check before what follows. -/
theorem runs_check {β : Type} {holds : Prop} [Decidable holds] {raised : Raised}
    {f : Unit → Job Digest β} {ok : β → DeploymentDirectory Digest → Prop} (hd : Sound lib d)
    (hfine : fine → holds) (hf : holds → Runs lib fine (f ()) ok d) :
    Runs lib fine (liftChecked (check holds raised) >>= f) ok d :=
  runs_via (fun _ d' => d' = d ∧ holds)
    (runs_checked (fun _ h => ⟨rfl, check_eq_ok.mp h⟩) hd fun h => ⟨(), check_eq_ok.mpr (hfine h)⟩)
    fun _ _ h => h.1 ▸ hf h.2

theorem runs_look {β : Type} {checked : DeploymentDirectory Digest → Except Raised α} {value : α}
    {f : α → Job Digest β} {ok : β → DeploymentDirectory Digest → Prop}
    (h : checked d = .ok value) (hf : Runs lib fine (f value) ok d) :
    Runs lib fine (look checked >>= f) ok d := by
  show Runs lib fine (liftChecked (checked d) >>= f) ok d
  exact runs_known h hf

theorem runs_durable {β : Type} {step : DurableStep Digest} {f : Unit → Job Digest β}
    {ok : β → DeploymentDirectory Digest → Prop} (hsound : Sound lib (step.commit d))
    (hf : Runs lib fine (f ()) ok (step.commit d)) :
    Runs lib fine (durable step >>= f) ok d := ⟨hsound, hf⟩

theorem runs_last {step : DurableStep Digest} {ok : Unit → DeploymentDirectory Digest → Prop}
    (hsound : Sound lib (step.commit d)) (hok : ok () (step.commit d)) :
    Runs lib fine (durable step) ok d := ⟨hsound, hok⟩

/-- A time with a time zone, or the clock's. -/
theorem runs_momentOr {given : Option Moment} {text : String} (hd : Sound lib d)
    (hfine : fine → ∀ moment, given = some moment → moment.aware = true) :
    Runs lib fine (momentOr given text) (fun _ d' => d' = d) d := by
  cases given with
  | none => exact fun _ _ => rfl
  | some moment => exact runs_check hd (fun h => hfine h moment rfl) fun _ => does_pure rfl

end Rules

/-! ## From shape to shape -/

section Shapes

variable {lib} {d d' : DeploymentDirectory Digest} {snapshot : LedgerSnapshot Digest}

theorem recorded_congr (h : d'.files = d.files) : d'.recorded = d.recorded := by
  unfold DeploymentDirectory.recorded
  rw [h]

/-- A change that leaves the ledger's files alone. -/
theorem Holds.congr (h : Holds lib d snapshot) (hfiles : d'.files = d.files)
    (hjournal : ∀ a, d'.attempt = some a → validateAttempt lib a = .ok a)
    (hagree : Agree lib d' snapshot) : Holds lib d' snapshot where
  ledger := (readLedger_congr hfiles).trans h.ledger
  once := recorded_congr hfiles ▸ h.once
  journal := hjournal
  agree := hagree

/-- The journal is cleared where the receipt is that of the head. -/
theorem holds_cleared (h : Holds lib d snapshot)
    (hreceipt : d.receipt = snapshot.head.map receiptOf) :
    Holds lib (DurableStep.unlinkAttempt.commit d) snapshot :=
  h.congr rfl nofun (.idle hreceipt rfl)

/-- The receipt of an event that had none. -/
theorem holds_bound (h : Holds lib d snapshot) {a : Attempt} {head : LedgerEvent Digest}
    (hhead : snapshot.head = some head) (hattempt : d.attempt = some a)
    (hmatches : pendingMatchesEvent a head) :
    Holds lib ((DurableStep.replaceReceipt (receiptOf head)).commit d) snapshot :=
  h.congr rfl h.journal (.bound a head hhead rfl hattempt hmatches)

theorem holds_mkdir (h : Holds lib d snapshot) :
    Holds lib (DurableStep.mkdirLedger.commit d) snapshot := by
  refine h.congr rfl h.journal ?_
  cases h.agree with
  | idle receipt attempt => exact .idle receipt attempt
  | prepared a receipt attempt ready =>
      exact .prepared a receipt attempt ⟨ready.base, ready.allowed, ready.new⟩
  | written a head there receipt attempt hmatches base =>
      exact .written a head there receipt attempt hmatches base
  | bound a head there receipt attempt hmatches => exact .bound a head there receipt attempt hmatches

/-- The event of a prepared attempt. -/
theorem holds_written (h : Holds lib d snapshot) {a : Attempt} {payload : Event Digest}
    (hreceipt : d.receipt = snapshot.head.map receiptOf) (hattempt : d.attempt = some a)
    (hbase : a.baseRelease = headRelease snapshot.head) (hnew : a.attemptId ∉ d.recorded)
    (hlimit : d.files.length < maxLedgerEvents)
    (hevent : validateEvent lib payload = .ok ())
    (hchain : validateEventChain payload snapshot.head = .ok ())
    (hsequence : payload.sequence = snapshot.eventCount + 1)
    (hmatches : pendingMatchesEvent a ⟨payload, lib.sha256 payload⟩) :
    Holds lib ((DurableStep.replaceEvent ⟨payload.sequence, lib.sha256 payload, payload⟩).commit d)
        ⟨snapshot.eventCount + 1, snapshot.head, some ⟨payload, lib.sha256 payload⟩⟩ ∧
      ((DurableStep.replaceEvent ⟨payload.sequence, lib.sha256 payload, payload⟩).commit
        d).recorded = d.recorded ++ [payload.attemptId] := by
  obtain ⟨-, hfold⟩ := readLedger_eq_ok h.ledger
  have upTo := read_files hfold
  -- the new name comes after all others
  have hfiles : ((DurableStep.replaceEvent
      ⟨payload.sequence, lib.sha256 payload, payload⟩).commit d).files =
        d.files ++ [⟨payload.sequence, lib.sha256 payload, payload⟩] := by
    refine insertByName_eq_append fun other hother => ?_
    show other.sequence < payload.sequence
    rw [hsequence, upTo.count]
    exact Nat.lt_succ_of_le (upTo.bound other hother)
  have hrecorded : ((DurableStep.replaceEvent
      ⟨payload.sequence, lib.sha256 payload, payload⟩).commit d).recorded =
        d.recorded ++ [payload.attemptId] := by
    unfold DeploymentDirectory.recorded
    rw [hfiles, List.map_append]
    rfl
  refine ⟨⟨?_, ?_, h.journal, .written a _ rfl hreceipt hattempt hmatches hbase⟩, hrecorded⟩
  · rw [readLedger_eq, hfiles]
    refine bind_eq_ok.mpr ⟨(), check_eq_ok.mpr ?_, ?_⟩
    · rw [List.length_append, List.length_singleton]
      omega
    · rw [List.foldlM_append]
      refine bind_eq_ok.mpr ⟨snapshot, hfold, ?_⟩
      show (readEntry lib snapshot _ >>= pure) = _
      rw [readEntry_eq_ok.mpr ⟨hsequence, rfl, hevent, hsequence, hchain, rfl⟩]
      rfl
  · rw [hrecorded]
    refine List.nodup_append.mpr ⟨h.once, List.nodup_singleton _, ?_⟩
    rintro id hid _ hlast rfl
    rw [List.mem_singleton.mp hlast, ← hmatches.1] at hid
    exact hnew hid

end Shapes

/-! ## Resuming -/

/-- What a resumed attempt is. -/
structure Resumed (d : DeploymentDirectory Digest) (a : Attempt) (out : DeploymentAttempt)
    (d' : DeploymentDirectory Digest) : Prop where
  attemptId : out.attemptId = a.attemptId
  operation : out.operation = a.operation
  sound : Sound lib d'
  outcome : (out.alreadyCompleted = true ∧ d'.attempt = none ∧ d'.recorded = d.recorded ∧
      a.attemptId ∈ d.recorded) ∨
    (out.alreadyCompleted = false ∧ d' = d ∧ a.attemptId ∉ d.recorded)

section Resuming

variable {lib} {fine : Prop} {d : DeploymentDirectory Digest} {snapshot : LedgerSnapshot Digest}

/-- An attempt whose event is the head. -/
theorem runs_finishRecorded (h : Holds lib d snapshot) {a : Attempt} {head : LedgerEvent Digest}
    (hattempt : d.attempt = some a) (hhead : snapshot.head = some head)
    (hid : head.payload.attemptId = a.attemptId) :
    Runs lib fine (finishRecorded lib ⟨d.receipt, d.attempt, snapshot⟩ a head)
      (Resumed lib d a) d := by
  have hvalid := (h.read.head head hhead).1
  have hrecorded : a.attemptId ∈ d.recorded := hid ▸ head_recorded h hhead
  unfold finishRecorded
  refine runs_known (receiptMatchesEvent_ok hvalid) ?_
  by_cases hbound : d.receipt = some (receiptOf head)
  · rw [if_pos (decide_eq_true hbound)]
    have hcleared := holds_cleared h (by rw [hbound, hhead]; rfl)
    exact runs_durable ⟨_, hcleared⟩ (does_pure
      ⟨rfl, rfl, ⟨_, hcleared⟩, .inl ⟨rfl, rfl, rfl, hrecorded⟩⟩)
  · rw [if_neg (by simpa using hbound)]
    refine runs_known (receiptFromEvent_ok hvalid) ?_
    -- only an event that has no receipt yet is left
    cases h.agree with
    | idle _ attempt => rw [attempt] at hattempt; cases hattempt
    | prepared b _ attempt ready =>
        rw [attempt] at hattempt
        cases hattempt
        exact absurd hrecorded ready.new
    | bound b head' there receipt attempt hmatches =>
        rw [hhead] at there
        cases there
        exact absurd receipt hbound
    | written b head' there receipt attempt hmatches base =>
        rw [hhead] at there
        cases there
        have hreceipt := holds_bound h hhead attempt hmatches
        have hcleared := holds_cleared hreceipt (by rw [hhead]; rfl)
        exact runs_durable ⟨_, hreceipt⟩ (runs_durable ⟨_, hcleared⟩ (does_pure
          ⟨rfl, rfl, ⟨_, hcleared⟩, .inl ⟨rfl, rfl, rfl, hrecorded⟩⟩))

/-- The receipt of a head gives the head's release. -/
theorem release_of_head (head : Option (LedgerEvent Digest)) :
    (head.map receiptOf).map Receipt.release = headRelease head := by
  cases head <;> rfl

/-- `prepare_attempt` where an attempt is pending. -/
theorem runs_resumeAttempt (h : Holds lib d snapshot) {a : Attempt} (hattempt : d.attempt = some a)
    {identity : DeploymentIdentity} {operation : Operation} {resume : Bool}
    (hfine : fine → resume = true ∧ a.targetRelease = identity ∧ a.operation = operation) :
    Runs lib fine
      (resumeAttempt lib ⟨d.receipt, d.attempt, snapshot⟩ a identity operation resume)
      (Resumed lib d a) d := by
  have hd : Sound lib d := ⟨snapshot, h⟩
  unfold resumeAttempt
  refine runs_check hd (fun hf => (hfine hf).1) fun _ => ?_
  refine runs_check hd (fun hf => (hfine hf).2) fun htarget => ?_
  obtain ⟨rfl, rfl⟩ := htarget
  cases hfilter : snapshot.head.filter
      (fun head => decide (head.payload.attemptId = a.attemptId)) with
  | some head =>
      obtain ⟨hhead, hid⟩ := Option.filter_eq_some_iff.mp hfilter
      exact runs_finishRecorded h hattempt hhead (of_decide_eq_true hid)
  | none =>
      have hnot : ∀ head, snapshot.head = some head → head.payload.attemptId ≠ a.attemptId := by
        intro head hhead heq
        simp [hhead, heq] at hfilter
      -- so it has no event
      cases h.agree with
      | idle _ attempt => rw [attempt] at hattempt; cases hattempt
      | written b head there _ attempt hmatches _ =>
          rw [attempt] at hattempt
          cases hattempt
          exact absurd hmatches.1.symm (hnot head there)
      | bound b head there _ attempt hmatches =>
          rw [attempt] at hattempt
          cases hattempt
          exact absurd hmatches.1.symm (hnot head there)
      | prepared b receipt attempt ready =>
          rw [attempt] at hattempt
          cases hattempt
          have hlegacy : legacyRecorded ⟨d.receipt, d.attempt, snapshot⟩ a = false := by
            unfold legacyRecorded
            rw [receipt]
            cases hhead : snapshot.head with
            | none => rfl
            | some head =>
                refine decide_eq_false fun hr => hnot head hhead ?_
                exact Option.some.inj hr.1
          show Runs lib fine (if legacyRecorded _ a = true then _ else _) _ d
          rw [if_neg (by rw [hlegacy]; exact Bool.false_ne_true)]
          have hbase : a.baseRelease = d.receipt.map Receipt.release := by
            rw [receipt, release_of_head]
            exact ready.base
          have hallowed : authorize lib a.targetRelease (a.operation = .rollback) d.receipt =
              .ok () := by
            rw [receipt]
            exact ready.allowed
          exact runs_check hd (fun _ => hbase) fun _ => runs_known hallowed (does_pure
            ⟨rfl, rfl, hd, .inr ⟨rfl, rfl, ready.new⟩⟩)

end Resuming

/-! ## A new attempt -/

section Fresh

variable {lib} {fine : Prop} {d : DeploymentDirectory Digest} {snapshot : LedgerSnapshot Digest}

theorem validateAttempt_eq_ok {a : Attempt} : validateAttempt lib a = .ok a ↔
    a.contract = true ∧ lib.identityMatches a.targetRelease = true ∧
      a.baseRelease.all lib.identityMatches = true ∧
        (a.rolloutPhase = some .initialBootstrapVerified →
          a.baseRelease = none ∧ a.operation = .deployment) := by
  unfold validateAttempt
  constructor
  · intro h
    obtain ⟨_, hcontract, h⟩ := bind_eq_ok.mp h
    obtain ⟨_, hfields, h⟩ := bind_eq_ok.mp h
    exact ⟨check_eq_ok.mp hcontract, check_eq_ok.mp hfields⟩
  · rintro ⟨hcontract, hfields⟩
    exact bind_eq_ok.mpr ⟨(), check_eq_ok.mpr hcontract,
      bind_eq_ok.mpr ⟨(), check_eq_ok.mpr hfields, rfl⟩⟩

/-- The journal of a new attempt. -/
theorem holds_prepared (h : Holds lib d snapshot) {a : Attempt}
    (hreceipt : d.receipt = snapshot.head.map receiptOf) (hvalid : validateAttempt lib a = .ok a)
    (ready : Prepared lib d snapshot.head a) :
    Holds lib ((DurableStep.replaceAttempt a).commit d) snapshot := by
  refine h.congr rfl (fun b hb => ?_)
    (.prepared a hreceipt rfl ⟨ready.base, ready.allowed, ready.new⟩)
  cases hb
  exact hvalid

theorem validateAttempt_id {a payload : Attempt} (h : validateAttempt lib a = .ok payload) :
    payload = a := by
  unfold validateAttempt at h
  obtain ⟨_, -, h⟩ := bind_eq_ok.mp h
  obtain ⟨_, -, h⟩ := bind_eq_ok.mp h
  cases h
  rfl

/-- `prepare_attempt` where none is pending. -/
theorem runs_freshAttempt (h : Holds lib d snapshot) (hattempt : d.attempt = none)
    {identity : DeploymentIdentity} {operation : Operation} {resume : Bool}
    {startedAt : Option Moment} :
    Runs lib False
      (freshAttempt lib ⟨d.receipt, d.attempt, snapshot⟩ identity operation resume startedAt)
      (fun _ d' => Sound lib d') d := by
  have hd : Sound lib d := ⟨snapshot, h⟩
  have hreceipt := h.settled hattempt
  unfold freshAttempt
  refine runs_check hd False.elim fun _ => ?_
  refine runs_via (fun _ d' => d' = d ∧
      authorize lib identity (operation = .rollback) d.receipt = .ok ())
    (runs_checked (fun _ hallowed => ⟨rfl, hallowed⟩) hd False.elim) fun _ d₁ h₁ => ?_
  obtain ⟨rfl, hallowed⟩ := h₁
  refine runs_via (fun _ d' => d' = d₁) (runs_momentOr hd False.elim) fun started d₂ h₂ => ?_
  subst h₂
  refine runs_via (fun id d' => d' = d₂ ∧ id ∉ d₂.recorded) (fun id hid => ⟨rfl, hid⟩)
    fun (id : AttemptId) d₃ h₃ => ?_
  obtain ⟨rfl, hnew⟩ := h₃
  refine runs_via (fun payload d' => d' = d₃ ∧
      validateAttempt lib (newAttempt ⟨d₃.receipt, d₃.attempt, snapshot⟩ identity operation
        started id) = .ok payload)
    (runs_checked (fun _ hpayload => ⟨rfl, hpayload⟩) hd False.elim) fun payload d₄ h₄ => ?_
  obtain ⟨rfl, hpayload⟩ := h₄
  have same := validateAttempt_id hpayload
  subst same
  have hprepared := holds_prepared h hreceipt hpayload ⟨by
    show d₄.receipt.map Receipt.release = _
    rw [hreceipt, release_of_head], hreceipt ▸ hallowed, hnew⟩
  exact runs_durable ⟨_, hprepared⟩ (does_pure ⟨_, hprepared⟩)

/-- `prepare_attempt`, whatever it is asked for. -/
theorem runs_prepareAttempt (hd : Sound lib d) (identity : DeploymentIdentity)
    (operation : Operation) (resume : Bool) (startedAt : Option Moment) :
    Runs lib False (prepareAttempt lib identity operation resume startedAt)
      (fun _ d' => Sound lib d') d := by
  obtain ⟨snapshot, h⟩ := hd
  unfold prepareAttempt
  refine runs_check ⟨snapshot, h⟩ False.elim fun _ => ?_
  refine runs_look (consistentView_ok h) ?_
  split
  next a hattempt =>
    exact does_mono (runs_resumeAttempt h hattempt False.elim) (fun _ _ h => h.sound) fun _ h => h
  next hattempt => exact runs_freshAttempt h hattempt

/-- With the identity and the operation of the pending attempt. -/
theorem runs_prepareAttempt_resume (h : Holds lib d snapshot) {a : Attempt}
    (hattempt : d.attempt = some a) (startedAt : Option Moment) :
    Runs lib True (prepareAttempt lib a.targetRelease a.operation true startedAt)
      (Resumed lib d a) d := by
  have hvalid : validateIdentity lib a.targetRelease = .ok () :=
    check_eq_ok.mpr (validateAttempt_eq_ok.mp (h.journal a hattempt)).2.1
  unfold prepareAttempt
  refine runs_known hvalid ?_
  refine runs_look (consistentView_ok h) ?_
  split
  next b hb =>
    cases hattempt.symm.trans hb
    exact runs_resumeAttempt h hattempt fun _ => ⟨rfl, rfl, rfl⟩
  next hnone => cases hattempt.symm.trans hnone

end Fresh

/-! ## The phase of the first rollout -/

section Phase

variable {lib} {d : DeploymentDirectory Digest} {snapshot : LedgerSnapshot Digest}

/-- The attempt in another phase. -/
theorem holds_phase (h : Holds lib d snapshot) {a : Attempt} (hattempt : d.attempt = some a)
    {schema : AttemptSchema} {phase : Option RolloutPhase}
    (hvalid : validateAttempt lib { a with schema := schema, rolloutPhase := phase } =
      .ok { a with schema := schema, rolloutPhase := phase }) :
    Holds lib ((DurableStep.replaceAttempt
      { a with schema := schema, rolloutPhase := phase }).commit d) snapshot := by
  refine h.congr rfl (fun b hb => ?_) ?_
  · cases hb
    exact hvalid
  · cases h.agree with
    | idle _ attempt => cases attempt.symm.trans hattempt
    | prepared b receipt attempt ready =>
        cases attempt.symm.trans hattempt
        exact .prepared _ receipt rfl ⟨ready.base, ready.allowed, ready.new⟩
    | written b head there receipt attempt hmatches base =>
        cases attempt.symm.trans hattempt
        exact .written _ head there receipt rfl hmatches base
    | bound b head there receipt attempt hmatches =>
        cases attempt.symm.trans hattempt
        exact .bound _ head there receipt rfl hmatches

/-- `mark_initial_bootstrap_verified`. -/
theorem runs_markInitialBootstrapVerified (hd : Sound lib d) (identity : DeploymentIdentity)
    (attempt : DeploymentAttempt) :
    Runs lib False (markInitialBootstrapVerified lib identity attempt)
      (fun _ d' => Sound lib d') d := by
  obtain ⟨snapshot, h⟩ := hd
  have hd : Sound lib d := ⟨snapshot, h⟩
  unfold markInitialBootstrapVerified
  refine runs_check hd False.elim fun _ => ?_
  refine runs_look (currentAttempt_ok h) ?_
  refine runs_via (fun a d' => d' = d ∧ d.attempt = some a)
    (runs_checked (fun a ha => ⟨rfl, present_eq_ok.mp ha⟩) hd False.elim) fun a d' h' => ?_
  obtain ⟨rfl, hattempt⟩ := h'
  refine runs_check hd False.elim fun _ => ?_
  refine runs_look (consistentView_ok h) ?_
  refine runs_check hd False.elim fun _ => ?_
  split
  next => exact does_pure hd
  next =>
    refine runs_via (fun checkpoint d'' => d'' = d' ∧ checkpoint =
        { a with schema := .v2, rolloutPhase := some .initialBootstrapVerified } ∧
        validateAttempt lib checkpoint = .ok checkpoint)
      (runs_checked (fun checkpoint hcheckpoint => ?_) hd False.elim) fun checkpoint d'' h'' => ?_
    · cases validateAttempt_id hcheckpoint
      exact ⟨rfl, rfl, hcheckpoint⟩
    · obtain ⟨rfl, rfl, hvalid⟩ := h''
      have hphase := holds_phase h hattempt hvalid
      exact runs_last ⟨_, hphase⟩ ⟨_, hphase⟩

end Phase

/-! ## A success -/

section Success

variable {lib} {fine : Prop} {d : DeploymentDirectory Digest} {snapshot : LedgerSnapshot Digest}

/-- The number of a success. -/
theorem successEvent_sequence (hread : Read lib snapshot) {receipt : Option (Receipt Digest)}
    {pending : Option Attempt} {identity : DeploymentIdentity} {operation : Operation}
    {id : AttemptId} {completed : Int} :
    (successEvent ⟨receipt, pending, snapshot⟩ identity operation id completed).sequence =
      snapshot.eventCount + 1 := by
  show (snapshot.head.map fun head => head.payload.sequence).getD 0 + 1 = _
  cases hhead : snapshot.head with
  | none => rw [(hread.fresh hhead).1]; rfl
  | some head => exact congrArg (· + 1) (hread.head head hhead).2.1

/-- What `authorize` lets through, the chain lets through. -/
theorem validateTransition_of_authorize {head : LedgerEvent Digest} {identity : DeploymentIdentity}
    {operation : Operation} {payload : Event Digest} (hrelease : payload.release = identity)
    (hoperation : payload.operation = operation)
    (h : authorize lib identity (operation = .rollback) (some (receiptOf head)) = .ok ()) :
    validateTransition payload head.payload = .ok () := by
  obtain ⟨_, -, h⟩ := bind_eq_ok.mp h
  unfold validateTransition
  rw [hoperation, hrelease]
  cases operation with
  | rollback =>
      obtain ⟨previous, hprevious, h⟩ := bind_eq_ok.mp h
      refine check_eq_ok.mpr ?_
      rw [check_eq_ok.mp h]
      exact (present_eq_ok.mp hprevious).symm
  | deployment =>
      show (if identity = head.payload.release then _ else _) = _
      by_cases hsame : identity = head.payload.release
      · rw [if_pos hsame]
      · change (if identity = head.payload.release then _ else _) = _ at h
        rw [if_neg hsame] at h ⊢
        obtain ⟨target, htarget, h⟩ := bind_eq_ok.mp h
        obtain ⟨active, hactive, h⟩ := bind_eq_ok.mp h
        exact bind_eq_ok.mpr ⟨target, htarget, bind_eq_ok.mpr ⟨active, hactive,
          check_eq_ok.mpr (check_eq_ok.mp h)⟩⟩

/-- A success follows the head. -/
theorem successEvent_chain {pending : Option Attempt} {identity : DeploymentIdentity}
    {operation : Operation} {id : AttemptId} {completed : Int}
    (hallowed : authorize lib identity (operation = .rollback) (snapshot.head.map receiptOf) =
      .ok ()) :
    validateEventChain (successEvent ⟨snapshot.head.map receiptOf, pending, snapshot⟩ identity
      operation id completed) snapshot.head = .ok () := by
  unfold successEvent
  dsimp only
  cases hhead : snapshot.head with
  | none => exact check_eq_ok.mpr ⟨rfl, rfl⟩
  | some head =>
      rw [hhead] at hallowed
      refine bind_eq_ok.mpr ⟨(), check_eq_ok.mpr ⟨rfl, rfl, rfl⟩, ?_⟩
      refine bind_eq_ok.mpr ⟨(), check_eq_ok.mpr ?_, validateTransition_of_authorize rfl rfl hallowed⟩
      show (if head.payload.release = identity then _ else _) = _
      by_cases hsame : head.payload.release = identity
      · rw [if_pos hsame, if_pos hsame.symm]
        rfl
      · rw [if_neg hsame, if_neg (Ne.symm hsame)]
        rfl

/-- Its fields are valid while the ledger has room. -/
theorem successEvent_valid (hread : Read lib snapshot) {pending : Option Attempt} {a : Attempt}
    (hvalid : validateAttempt lib a = .ok a) (hbase : a.baseRelease = headRelease snapshot.head)
    {completed : Int} (hroom : snapshot.eventCount < maxLedgerEvents) :
    validateEvent lib (successEvent ⟨snapshot.head.map receiptOf, pending, snapshot⟩
      a.targetRelease a.operation a.attemptId completed) = .ok () := by
  obtain ⟨-, htarget, hbases, -⟩ := validateAttempt_eq_ok.mp hvalid
  have hsequence : (successEvent ⟨snapshot.head.map receiptOf, pending, snapshot⟩
      a.targetRelease a.operation a.attemptId completed).sequence = snapshot.eventCount + 1 :=
    successEvent_sequence hread
  refine check_eq_ok.mpr ⟨by omega, by omega, htarget, ?_, ?_⟩
  · show ((snapshot.head.map receiptOf).map Receipt.release).all lib.identityMatches = true
    rw [release_of_head, ← hbase]
    exact hbases
  · unfold successEvent
    cases hhead : snapshot.head with
    | none => exact ⟨rfl, nofun⟩
    | some head =>
        obtain ⟨-, -, hrelease, -, hprevious, hne⟩ := check_eq_ok.mp (hread.head head hhead).1
        show (if head.payload.release = a.targetRelease then head.payload.previousRelease
            else some head.payload.release).all lib.identityMatches = true ∧
          (if head.payload.release = a.targetRelease then head.payload.previousRelease
            else some head.payload.release) ≠ some a.targetRelease
        by_cases hsame : head.payload.release = a.targetRelease
        · rw [if_pos hsame, ← hsame]
          exact ⟨hprevious, hne⟩
        · rw [if_neg hsame]
          exact ⟨hrelease, fun heq => hsame (Option.some.inj heq)⟩

end Success

/-! ## Completing -/

/-- A second `complete_attempt` of the pending attempt, which redeploys the
active release: the receipt is already there, and its release is the
attempt's base. -/
def Repeats (identity : DeploymentIdentity) (attempt : DeploymentAttempt)
    (d : DeploymentDirectory Digest) : Prop :=
  ∃ a r, d.attempt = some a ∧ d.receipt = some r ∧ r.attemptId = some a.attemptId ∧
    a.baseRelease = some a.targetRelease ∧ a.attemptId = attempt.attemptId ∧
      a.operation = attempt.operation ∧ a.targetRelease = identity

section Completing

variable {lib} {fine : Prop} {d : DeploymentDirectory Digest} {snapshot : LedgerSnapshot Digest}

/-- A check that does not pass. -/
theorem runs_refused {α β : Type} {checked : Except Raised α} {f : α → Job Digest β}
    {ok : β → DeploymentDirectory Digest → Prop} (hd : Sound lib d) (hfine : ¬fine)
    (h : ∀ value, checked ≠ .ok value) : Runs lib fine (liftChecked checked >>= f) ok d :=
  runs_via (fun _ _ => False) (runs_checked (fun value hvalue => h value hvalue) hd
    fun hf => absurd hf hfine) fun _ _ => False.elim

variable (lib) in
/-- What the new event leaves. -/
structure Written (d : DeploymentDirectory Digest) (snapshot : LedgerSnapshot Digest)
    (event : LedgerEvent Digest) (d' : DeploymentDirectory Digest) : Prop where
  holds : Holds lib d' ⟨snapshot.eventCount + 1, snapshot.head, some event⟩
  attempt : d'.attempt = d.attempt
  recorded : d'.recorded = d.recorded ++ [event.payload.attemptId]

theorem runs_writeLedgerEvent (h : Holds lib d snapshot) {a : Attempt} {payload : Event Digest}
    (hreceipt : d.receipt = snapshot.head.map receiptOf) (hattempt : d.attempt = some a)
    (ready : Prepared lib d snapshot.head a) (hevent : validateEvent lib payload = .ok ())
    (hchain : validateEventChain payload snapshot.head = .ok ())
    (hsequence : payload.sequence = snapshot.eventCount + 1)
    (hmatches : pendingMatchesEvent a ⟨payload, lib.sha256 payload⟩) :
    Runs lib fine (writeLedgerEvent lib payload) (fun event d' =>
      event = ⟨payload, lib.sha256 payload⟩ ∧ Written lib d snapshot event d') d := by
  have hroom : d.files.length < maxLedgerEvents := by
    have hlimit := (check_eq_ok.mp hevent).2.1
    have hcount := h.count
    omega
  have hmade := holds_mkdir h
  have hwritten := holds_written hmade hreceipt hattempt ready.base ready.new hroom hevent hchain
    hsequence hmatches
  -- no file has the new number
  have hfree : (DurableStep.mkdirLedger.commit d).files.all (fun other =>
      decide (other.sequence ≠ payload.sequence ∨ other.digest ≠ lib.sha256 payload)) = true := by
    refine List.all_eq_true.mpr fun other hother => decide_eq_true (.inl fun heq => ?_)
    have hbound := (read_files (readLedger_eq_ok h.ledger).2).bound other hother
    rw [heq, hsequence, h.count] at hbound
    omega
  unfold writeLedgerEvent
  refine runs_durable ⟨_, hmade⟩ ?_
  refine runs_look (show _ = Except.ok () from check_eq_ok.mpr hfree) ?_
  refine runs_durable ⟨_, hwritten.1⟩ (does_pure ⟨rfl, ?_⟩)
  exact ⟨hwritten.1, rfl, hwritten.2⟩

/-- `record_success` of a prepared attempt. -/
theorem runs_recordSuccess (h : Holds lib d snapshot) {a : Attempt}
    (hreceipt : d.receipt = snapshot.head.map receiptOf) (hattempt : d.attempt = some a)
    (ready : Prepared lib d snapshot.head a) {completedAt : Option Moment}
    (hfine : fine → d.files.length < maxLedgerEvents ∧
      ∀ moment, completedAt = some moment → moment.aware = true) :
    Runs lib fine (recordSuccess lib a.targetRelease a.operation completedAt a.attemptId)
      (fun _ d' => d'.recorded = d.recorded ++ [a.attemptId] ∧
        ∃ snapshot', Holds lib d' snapshot' ∧ d'.receipt = snapshot'.head.map receiptOf) d := by
  have hd : Sound lib d := ⟨snapshot, h⟩
  have hvalid := h.journal a hattempt
  have hid : validateIdentity lib a.targetRelease = .ok () :=
    check_eq_ok.mpr (validateAttempt_eq_ok.mp hvalid).2.1
  have hcommitted : requireCommittedLedgerHead lib d.receipt snapshot = .ok () := by
    unfold requireCommittedLedgerHead
    rw [hreceipt]
    cases hhead : snapshot.head with
    | none => rfl
    | some head =>
        refine bind_eq_ok.mpr ⟨true, ?_, rfl⟩
        rw [receiptMatchesEvent_ok (h.read.head head hhead).1]
        simp
  have hallows : pendingAllows ⟨d.receipt, d.attempt, snapshot⟩ a.targetRelease a.operation
      a.attemptId := by
    intro b hb
    cases hattempt.symm.trans hb
    refine ⟨rfl, rfl, ?_, rfl⟩
    show _ = d.receipt.map Receipt.release
    rw [hreceipt, release_of_head]
    exact ready.base
  unfold recordSuccess
  refine runs_known hid ?_
  refine runs_look (consistentView_ok h) ?_
  refine runs_known hcommitted ?_
  refine runs_known (hreceipt ▸ ready.allowed) ?_
  refine runs_check hd (fun _ => hallows) fun _ => ?_
  refine runs_via (fun _ d' => d' = d) (runs_momentOr hd fun hf => (hfine hf).2)
    fun completed d₁ h₁ => ?_
  subst h₁
  have hsequence : (successEvent ⟨d₁.receipt, d₁.attempt, snapshot⟩ a.targetRelease a.operation
      a.attemptId completed).sequence = snapshot.eventCount + 1 := successEvent_sequence h.read
  have hchain : validateEventChain (successEvent ⟨d₁.receipt, d₁.attempt, snapshot⟩
      a.targetRelease a.operation a.attemptId completed) snapshot.head = .ok () := by
    rw [hreceipt]
    exact successEvent_chain ready.allowed
  refine runs_via (fun _ d' => d' = d₁ ∧ validateEvent lib (successEvent
      ⟨d₁.receipt, d₁.attempt, snapshot⟩ a.targetRelease a.operation a.attemptId completed) = .ok ())
    (runs_checked (fun _ hevent => ⟨rfl, hevent⟩) hd fun hf => ⟨(), ?_⟩) fun _ d₂ h₂ => ?_
  · rw [hreceipt]
    exact successEvent_valid h.read hvalid ready.base (h.count ▸ (hfine hf).1)
  obtain ⟨rfl, hevent⟩ := h₂
  have hbase : a.baseRelease = d₂.receipt.map Receipt.release := by
    rw [hreceipt, release_of_head]
    exact ready.base
  refine runs_known hchain ?_
  refine runs_via _ (runs_writeLedgerEvent h hreceipt hattempt ready hevent hchain hsequence
    ⟨rfl, rfl, hbase, rfl⟩) fun event d₃ h₃ => ?_
  obtain ⟨rfl, written⟩ := h₃
  refine runs_known (receiptFromEvent_ok hevent) ?_
  have hbound := holds_bound written.holds rfl (written.attempt.trans hattempt)
    ⟨rfl, rfl, hbase, rfl⟩
  exact runs_last ⟨_, hbound⟩ ⟨written.recorded, _, hbound, rfl⟩

/-- `complete_attempt`, but for a second one of a redeployment. -/
theorem runs_completeAttempt (hd : Sound lib d) {identity : DeploymentIdentity}
    {attempt : DeploymentAttempt} {completedAt : Option Moment} (hnot : ¬Repeats identity attempt d)
    (hfine : fine → d.files.length < maxLedgerEvents ∧
      (∀ moment, completedAt = some moment → moment.aware = true) ∧
      ∃ a, d.attempt = some a ∧ a.attemptId ∉ d.recorded ∧ a.attemptId = attempt.attemptId ∧
        a.operation = attempt.operation ∧ a.targetRelease = identity) :
    Runs lib fine (completeAttempt lib identity attempt completedAt) (fun _ d' =>
      Sound lib d' ∧ d'.attempt = none ∧ d'.recorded = d.recorded ++ [attempt.attemptId]) d := by
  obtain ⟨snapshot, h⟩ := hd
  have hd : Sound lib d := ⟨snapshot, h⟩
  have hidentity : fine → lib.identityMatches identity = true := by
    intro hf
    obtain ⟨a, hattempt, -, -, -, rfl⟩ := (hfine hf).2.2
    exact (validateAttempt_eq_ok.mp (h.journal a hattempt)).2.1
  have hpending : fine → ∃ a, present d.attempt (Raised.deploymentState
      "pending deployment attempt is unavailable") = .ok a := by
    intro hf
    obtain ⟨a, hattempt, -⟩ := (hfine hf).2.2
    exact ⟨a, present_eq_ok.mpr hattempt⟩
  unfold completeAttempt
  refine runs_check hd hidentity fun _ => ?_
  refine runs_look (currentAttempt_ok h) ?_
  refine runs_via (fun a d' => d' = d ∧ d.attempt = some a)
    (runs_checked (fun a ha => ⟨rfl, present_eq_ok.mp ha⟩) hd hpending) fun a d' h' => ?_
  obtain ⟨rfl, hattempt⟩ := h'
  have hsame : fine → a.attemptId ∉ d'.recorded ∧ a.attemptId = attempt.attemptId ∧
      a.operation = attempt.operation ∧ a.targetRelease = identity := by
    intro hf
    obtain ⟨b, hb, hrest⟩ := (hfine hf).2.2
    cases hattempt.symm.trans hb
    exact hrest
  refine runs_check hd (fun hf => (hsame hf).2) fun htarget => ?_
  obtain ⟨hid, hoperation, rfl⟩ := htarget
  refine runs_look (consistentView_ok h) ?_
  -- a new attempt's base is that of the receipt
  refine runs_check hd (fun hf => ?_) fun hbase => ?_
  · show a.baseRelease = d'.receipt.map Receipt.release
    obtain ⟨receipt, ready⟩ := h.ready hattempt (hsame hf).1
    rw [receipt, release_of_head]
    exact ready.base
  rw [← hid, ← hoperation]
  cases h.agree with
  | idle _ none => cases none.symm.trans hattempt
  | prepared b receipt there ready =>
      cases there.symm.trans hattempt
      refine runs_via _ (runs_recordSuccess h receipt hattempt ready
        fun hf => ⟨(hfine hf).1, (hfine hf).2.1⟩) fun _ d₁ h₁ => ?_
      obtain ⟨hrecorded, snapshot', h', hreceipt⟩ := h₁
      have hcleared := holds_cleared h' hreceipt
      exact runs_last ⟨_, hcleared⟩ ⟨⟨_, hcleared⟩, rfl, hrecorded⟩
  | written b head there receipt attempt hmatches base =>
      cases attempt.symm.trans hattempt
      have hraises : ¬fine := fun hf =>
        absurd (hmatches.1 ▸ head_recorded h there) (hsame hf).1
      refine runs_via (fun _ _ => False) ?_ fun _ _ => False.elim
      unfold recordSuccess
      refine runs_check hd (fun hf => absurd hf hraises) fun _ => ?_
      refine runs_look (consistentView_ok h) ?_
      refine runs_refused hd hraises fun value hvalue => ?_
      unfold requireCommittedLedgerHead at hvalue
      dsimp only at hvalue
      rw [there] at hvalue
      obtain ⟨bound, hbound, hvalue⟩ := bind_eq_ok.mp hvalue
      rw [receiptMatchesEvent_ok (h.read.head head there).1, receipt,
        decide_eq_false (receipt_ne_head h.read there)] at hbound
      cases hbound
      exact absurd (check_eq_ok.mp hvalue) Bool.false_ne_true
  | bound b head there receipt attempt hmatches =>
      cases attempt.symm.trans hattempt
      refine absurd ⟨a, receiptOf head, hattempt, receipt, ?_, ?_, hid, hoperation, rfl⟩ hnot
      · exact congrArg some hmatches.1.symm
      · change a.baseRelease = d'.receipt.map Receipt.release at hbase
        rw [hbase, receipt, hmatches.2.2.2]
        rfl

end Completing

end TonTracker.Deployment
