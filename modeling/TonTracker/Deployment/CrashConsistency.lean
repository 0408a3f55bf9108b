/-
# `Deployment.CrashConsistency` — a rollout that stops anywhere

A process calls one method at a time under the lock and may die between any
two durable steps; the next one starts from the directory it left.  As long
as no `complete_attempt` repeats one that redeployed the active release,
every directory is consistent, and resuming the pending attempt records it
once (`deployment_crash_consistent`).
-/
import TonTracker.Deployment.Methods

namespace TonTracker.Deployment

open Session (Machine Prog)
open CrashRuns (Leads Fair Meets StepAnswers after does_mono does_then does_pure meets_mono
  meets_weaken)

section Claims

variable {Digest : Type} [DecidableEq Digest] (lib : DeploymentLibrary Digest)

/-- A call of a method. -/
inductive Call where
  | prepareAttempt (identity : DeploymentIdentity) (operation : Operation) (resume : Bool)
      (startedAt : Option Moment)
  | markInitialBootstrapVerified (identity : DeploymentIdentity) (attempt : DeploymentAttempt)
  | completeAttempt (identity : DeploymentIdentity) (attempt : DeploymentAttempt)
      (completedAt : Option Moment)

def Call.job : Call → Job Digest Unit
  | prepareAttempt identity operation resume startedAt =>
      Deployment.prepareAttempt lib identity operation resume startedAt >>= fun _ => pure ()
  | markInitialBootstrapVerified identity attempt =>
      Deployment.markInitialBootstrapVerified lib identity attempt
  | completeAttempt identity attempt completedAt =>
      Deployment.completeAttempt lib identity attempt completedAt

def Call.program (call : Call) : Prog (machine Digest) (Except Raised Unit) := (call.job lib).run

/-- No call but a repeated completion. -/
def Call.Once : Call → DeploymentDirectory Digest → Prop
  | completeAttempt identity attempt _, d => ¬Repeats identity attempt d
  | _, _ => True

/-- The directories that calls lead to, from an empty one. -/
abbrev Reached (allowed : Call → DeploymentDirectory Digest → Prop)
    (d : DeploymentDirectory Digest) : Prop :=
  Leads (M := machine Digest) (Call.program lib) allowed NewIds .empty d

/-- The attempt has one event, and the journal is clear. -/
def RecordedOnce (id : AttemptId) (d : DeploymentDirectory Digest) : Prop :=
  d.attempt = none ∧ d.recorded.count id = 1

/-- The job succeeds. -/
def Succeeds {α : Type} (job : Job Digest α) (ok : α → DeploymentDirectory Digest → Prop)
    (d : DeploymentDirectory Digest) : Prop :=
  Meets (M := machine Digest) NewIds (fun _ _ => True) job.run
    (fun result d' => ∃ value, result = .ok value ∧ ok value d') d

/-- Resuming the attempt finds it completed, or hands it out to be
completed. -/
def Resumes (a : Attempt) (d : DeploymentDirectory Digest) : Prop :=
  ∀ startedAt, Succeeds (prepareAttempt lib a.targetRelease a.operation true startedAt)
    (fun out d' => out.attemptId = a.attemptId ∧
      if out.alreadyCompleted then RecordedOnce a.attemptId d'
      else ∀ completedAt, (∀ moment, completedAt = some moment → moment.aware = true) →
        d'.files.length < maxLedgerEvents →
          Succeeds (completeAttempt lib a.targetRelease out completedAt)
            (fun _ d'' => RecordedOnce a.attemptId d'') d') d

/-- What a crash may not break. -/
structure CrashConsistent (d : DeploymentDirectory Digest) : Prop where
  consistent : validateConsistency lib d = .ok ()
  resumes : ∀ a, d.attempt = some a → Resumes lib a d
  settled : d.attempt = none →
    d.receipt = d.files.getLast?.map fun file => receiptOf file.entry
  follows : (d.files.map LedgerFile.event).IsChain Follows

end Claims

section Proof

variable {Digest : Type} [DecidableEq Digest] {lib : DeploymentLibrary Digest}
  {d : DeploymentDirectory Digest}

/-- Every durable step of a call leaves a sound directory. -/
theorem runs_call (call : Call) (hd : Sound lib d) (hok : call.Once d) :
    Runs lib False (call.job lib) (fun _ d' => Sound lib d') d := by
  cases call with
  | prepareAttempt identity operation resume startedAt =>
      exact does_then (runs_prepareAttempt hd identity operation resume startedAt)
        fun _ _ h => does_pure h
  | markInitialBootstrapVerified identity attempt =>
      exact runs_markInitialBootstrapVerified hd identity attempt
  | completeAttempt identity attempt completedAt =>
      exact does_mono (runs_completeAttempt hd hok False.elim) (fun _ _ h => h.1) fun _ h => h

theorem sound_reached (h : Reached lib Call.Once d) : Sound lib d := by
  have safe : ∀ (call : Call) (d : DeploymentDirectory Digest), call.Once d → Sound lib d →
      Meets (M := machine Digest) NewIds (fun step d => Sound lib (step.commit d))
        (call.program lib) (fun _ _ => True) d :=
    fun call _ hok hd => meets_mono (fun _ _ _ => trivial) (runs_call call hd hok)
  exact h.inv (Sound lib) (fun _ _ hstep _ => hstep) safe sound_empty

theorem succeeds_of_runs {α : Type} {job : Job Digest α}
    {ok ok' : α → DeploymentDirectory Digest → Prop} (h : Runs lib True job ok d)
    (hok : ∀ value d', ok value d' → ok' value d') : Succeeds job ok' d := by
  refine meets_mono ?_ (meets_weaken (fun _ _ _ h => h) (fun _ _ _ => trivial) h)
  intro result d' hresult
  cases result with
  | ok value => exact ⟨value, rfl, hok value d' hresult⟩
  | error error => exact absurd trivial hresult.1

theorem Sound.once (h : Sound lib d) : d.recorded.Nodup := by
  obtain ⟨_, h⟩ := h
  exact h.once

theorem recordedOnce (hd : Sound lib d) {id : AttemptId} (hattempt : d.attempt = none)
    (hid : id ∈ d.recorded) : RecordedOnce id d :=
  ⟨hattempt, List.count_eq_one_of_mem hd.once hid⟩

theorem resumes_of_sound (hd : Sound lib d) {a : Attempt} (hattempt : d.attempt = some a) :
    Resumes lib a d := by
  intro startedAt
  obtain ⟨snapshot, h⟩ := hd
  refine succeeds_of_runs (runs_prepareAttempt_resume h hattempt startedAt) fun out d' resumed => ?_
  refine ⟨resumed.attemptId, ?_⟩
  rcases resumed.outcome with ⟨hdone, hcleared, hrecorded, hid⟩ | ⟨hpending, rfl, hnew⟩
  · rw [if_pos hdone]
    exact recordedOnce resumed.sound hcleared (hrecorded ▸ hid)
  · rw [if_neg (by rw [hpending]; exact Bool.false_ne_true)]
    intro completedAt haware hroom
    -- an attempt without an event has no receipt
    have hnot : ¬Repeats a.targetRelease out d' := by
      rintro ⟨b, r, hb, hr, hid, -⟩
      cases hattempt.symm.trans hb
      obtain ⟨head, hhead, rfl⟩ := Option.map_eq_some_iff.mp
        ((h.ready hattempt hnew).1.symm.trans hr)
      exact hnew (Option.some.inj hid ▸ head_recorded h hhead)
    refine succeeds_of_runs (runs_completeAttempt ⟨snapshot, h⟩ hnot fun _ => ⟨hroom, haware, a,
      hattempt, hnew, resumed.attemptId.symm, resumed.operation.symm, rfl⟩) fun _ d'' hdone => ?_
    obtain ⟨hsound, hcleared, hrecorded⟩ := hdone
    refine recordedOnce hsound hcleared ?_
    rw [hrecorded, resumed.attemptId]
    exact List.mem_append_right _ List.mem_cons_self

theorem crashConsistent_of_sound (hd : Sound lib d) : CrashConsistent lib d where
  consistent := consistent_of_sound hd
  resumes := fun _ hattempt => resumes_of_sound hd hattempt
  settled := fun hattempt => by
    obtain ⟨snapshot, h⟩ := hd
    rw [h.settled hattempt, (read_files (readLedger_eq_ok h.ledger).2).last, Option.map_map]
    rfl
  follows := by
    obtain ⟨snapshot, h⟩ := hd
    exact (read_files (readLedger_eq_ok h.ledger).2).follows

end Proof

/-- Along every run from an empty directory in which no `complete_attempt`
repeats one that redeployed the active release. -/
theorem deployment_crash_consistent {Digest : Type} [DecidableEq Digest]
    (lib : DeploymentLibrary Digest) {d : DeploymentDirectory Digest}
    (h : Reached lib Call.Once d) : CrashConsistent lib d :=
  crashConsistent_of_sound (sound_reached h)

/-! ## A redeployment completed twice -/

/-- The identity below matches both patterns. -/
def sampleLibrary : DeploymentLibrary Nat where
  sha256 := Event.sequence
  identityMatches := fun _ => true

def sampleIdentity : DeploymentIdentity where
  tag := ⟨0, 64, 0⟩
  sourceCommit := "0123456789abcdef0123456789abcdef01234567"
  manifestSha256 := "0123456789abcdef0123456789abcdef0123456789abcdef0123456789abcdef"

/-- Every draw is `id`. -/
def sampleAnswers (id : AttemptId) : StepAnswers (machine Nat)
  | .attemptId => id
  | .utcnow => (1783641600000000 : Int)

/-- At each of so many steps the draw is a new one. -/
def newAt (id : AttemptId) {α : Type} :
    Nat → Prog (machine Nat) α → DeploymentDirectory Nat → Bool
  | 0, _, _ => true
  | steps + 1, p, d => decide (id ∉ d.recorded) &&
      newAt id steps (p.advance (sampleAnswers id) d).1 (p.advance (sampleAnswers id) d).2

theorem fair_of_newAt {id : AttemptId} {α : Type} {steps : Nat} {p : Prog (machine Nat) α}
    {d : DeploymentDirectory Nat} (h : newAt id steps p d = true) :
    Fair NewIds p d (List.replicate steps (sampleAnswers id)) := by
  induction steps generalizing p d with
  | zero => exact trivial
  | succ steps ih =>
      obtain ⟨hnew, hrest⟩ := Bool.and_eq_true_iff.mp h
      refine ⟨fun q => ?_, ih hrest⟩
      cases q with
      | attemptId =>
          have hid : id ∉ d.recorded := of_decide_eq_true hnew
          exact hid
      | utcnow => trivial

def samplePrepare : Call := .prepareAttempt sampleIdentity .deployment false none

def sampleComplete (id : AttemptId) : Call :=
  .completeAttempt sampleIdentity ⟨id, .deployment, false, .prepared, false⟩ none

/-- What a call that is stopped after so many steps leaves. -/
def sampleStep (id steps : Nat) (call : Call) (d : DeploymentDirectory Nat) :
    DeploymentDirectory Nat :=
  (after (call.program sampleLibrary) d (List.replicate steps (sampleAnswers id))).2

theorem sampleStep_reached {allowed : Call → DeploymentDirectory Nat → Prop}
    {d : DeploymentDirectory Nat} (h : Reached sampleLibrary allowed d) {id steps : Nat}
    {call : Call} (hallowed : allowed call d)
    (hnew : newAt id steps (call.program sampleLibrary) d = true) :
    Reached sampleLibrary allowed (sampleStep id steps call d) :=
  .call h call hallowed _ (fair_of_newAt hnew)

/-- A first deployment that has its event and no receipt yet. -/
def firstWritten : DeploymentDirectory Nat :=
  sampleStep 1 7 (sampleComplete 0) <| sampleStep 0 8 samplePrepare .empty

/-- A redeployment whose journal was not cleared, and a second completion of
it that stopped there too. -/
def completedTwice : DeploymentDirectory Nat :=
  sampleStep 2 8 (sampleComplete 1) <| sampleStep 2 8 (sampleComplete 1) <|
    sampleStep 1 8 samplePrepare <| sampleStep 1 9 (sampleComplete 0) <|
      sampleStep 0 8 samplePrepare .empty

set_option maxRecDepth 10000 in
theorem firstWritten_reached : Reached sampleLibrary Call.Once firstWritten := by
  refine sampleStep_reached (sampleStep_reached .refl trivial rfl) ?_ rfl
  rintro ⟨_, _, -, hreceipt, -⟩
  cases hreceipt

set_option maxRecDepth 10000 in
theorem completedTwice_reached : Reached sampleLibrary (fun _ _ => True) completedTwice :=
  sampleStep_reached (sampleStep_reached (sampleStep_reached (sampleStep_reached
    (sampleStep_reached .refl trivial rfl) trivial rfl) trivial rfl) trivial rfl) trivial rfl

/-- There the receipt is written and the journal cleared. -/
theorem deployment_crash_consistent_sample : CrashConsistent sampleLibrary firstWritten :=
  deployment_crash_consistent sampleLibrary firstWritten_reached

set_option maxRecDepth 10000 in
/-- Resuming what was completed twice leaves two events of one attempt. -/
theorem deployment_recorded_twice :
    ¬∀ d, Reached sampleLibrary (fun _ _ => True) d → CrashConsistent sampleLibrary d := by
  intro h
  obtain ⟨a, hattempt⟩ : ∃ a, completedTwice.attempt = some a := ⟨_, rfl⟩
  have resumes := (h completedTwice completedTwice_reached).resumes a hattempt none
  cases hattempt
  have hnew : newAt 2 3 (prepareAttempt sampleLibrary sampleIdentity .deployment true none).run
      completedTwice = true := rfl
  obtain ⟨out, hout, -, hrecorded⟩ := CrashRuns.post_after resumes (fair_of_newAt hnew) rfl
  cases hout
  have hcount : 2 = 1 := hrecorded.2
  cases hcount

end TonTracker.Deployment
