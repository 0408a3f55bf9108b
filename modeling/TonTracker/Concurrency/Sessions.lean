/-
# `Concurrency.Sessions` — which session commits what

What a proof about every interleaving needs to know of the programs:
which transactions a session may commit, and that a worker signs its
fenced writes with its own token.  The two programs that write back a row
they read are the only ones whose writes depend on more than that; they
are left to the protocol at hand (`EvidencePermits`).
-/
import TonTracker.Services.WalletCases
import TonTracker.Acquisition.TransactionCuts
import TonTracker.Lib.SessionHistory

namespace TonTracker

open Session (Prog Protocol Move World Reaches)
open Session.Prog (all_bindExcept all_bindExceptReplies all_tryCatch replies_bindExcept
  returns_bindExcept)
open Session.Protocol (triple_bindExcept triple_mono triple_of_all triple_returns triple_step
  triple_tryCatch   safe_bindExcept safe_tryCatch safe_of_all)

/-! ## Who signs what -/

/-- A fenced write that carries the token. -/
def SyncWrite.Fenced (token : Token) : SyncWrite → Prop
  | .cancel _ _ => False
  | .recoverExpired _ => False
  | .claim _ _ _ _ => False
  | .closeUnavailable lease _ => lease.token = token
  | .advance lease _ _ _ _ _ => lease.token = token
  | .heartbeat lease _ _ => lease.token = token
  | .scheduleRetry lease _ _ _ _ => lease.token = token
  | .finishCancelled lease _ => lease.token = token
  | .failWithoutRun lease _ _ _ _ => lease.token = token

/-- A row as a request inserts it. -/
def SyncRow.AsQueued (row : SyncRow) : Prop :=
  ∃ plan caseId c publicId settings key fingerprint message now,
    row = queuedSync plan caseId c publicId settings key fingerprint message now

/-- A case as a request inserts it. -/
def CaseRow.AsCreated (row : CaseRow) : Prop :=
  ∃ (request : CaseCreateRequest) (canonical : Text) (publicId : Uuid) (now : Instant),
    row = request.row canonical publicId now

/-- No case is deleted. -/
def Write.keepsCases : Write → Bool
  | .deleteCase _ _ => false
  | _ => true

/-- The case is not deleted. -/
def KeepsCase (caseId : Nat) (_ : Nat) (w : Write) (_ : Store) : Prop :=
  ∀ target now, w = .deleteCase target now → caseId ≠ target.caseId

theorem KeepsCase.of_keepsCases {w : Write} (h : w.keepsCases = true) (caseId sid : Nat)
    (s : Store) : KeepsCase caseId sid w s := by
  rintro target now rfl
  exact absurd h Bool.false_ne_true

/-- The writes of a request. -/
def Write.ByRequest : Write → Prop
  | .createCase row => row.AsCreated
  | .reopenCase _ _ => True
  | .updateMetadata _ _ _ _ => True
  | .archiveCase _ _ => True
  | .restoreCase _ _ => True
  | .deleteCase _ _ => True
  | .insertSync row => row.AsQueued
  | .sync (.cancel _ _) => True
  | _ => False

/-! ## The sync worker -/

section SyncWorker

variable {inv : Store → Prop} {P : Write → Prop} {token : Token}

theorem all_selectSync {α : Type} (f : Store → α) : (selectSync f).run.All inv P := by
  refine all_bindExcept (all_askFlag _) fun fails => ?_
  split
  · trivial
  · exact all_bindExcept all_readR fun _ => trivial

theorem all_transactSync {w : Write} (h : P w) : (transactSync w).run.All inv P := by
  refine all_bindExcept (all_askFlag _) fun fails => ?_
  split
  · trivial
  · refine all_bindExcept (all_commitR h) fun result => ?_
    cases result <;> trivial

variable (hP : ∀ v : SyncWrite, v.Fenced token → P (.sync v))

include hP

theorem all_finishCancelledSync {lease : SyncLease} (h : lease.token = token) :
    (finishCancelledSync lease).run.All inv P :=
  all_bindExcept (all_askR _) fun _ =>
    all_bindExcept (all_transactSync (hP _ h)) fun _ => trivial

theorem all_finishSync {lease : SyncLease} {w : Write} (h : lease.token = token) (hw : P w) :
    (finishSync lease w).run.All inv P := by
  refine all_bindExcept (all_transactSync hw) fun count => ?_
  split
  · exact all_finishCancelledSync hP h
  · trivial

theorem all_failWithoutRun {lease : SyncLease} (h : lease.token = token) (code message : Text)
    (retryable : Bool) : (failWithoutRun lease code message retryable).run.All inv P :=
  all_bindExcept (all_askR _) fun _ => all_finishSync hP h (hP _ h)

theorem all_scheduleSyncRetry {lease : SyncLease} (h : lease.token = token)
    (code message : Text) : (scheduleSyncRetry lease code message).run.All inv P :=
  all_bindExcept (all_askR _) fun _ => all_finishSync hP h (hP _ h)

theorem all_advanceSync {lease : SyncLease} (h : lease.token = token) (stage : Stage)
    (progress : Nat) (message : String) :
    (advanceSync lease stage progress message).run.All inv P := by
  refine all_bindExcept (all_askR _) fun tick => ?_
  refine all_bindExcept (all_transactSync (hP _ h)) fun count => ?_
  split
  · exact all_bindExcept (all_finishCancelledSync hP h) fun _ => trivial
  · trivial

theorem all_heartbeatSync {lease : SyncLease} (h : lease.token = token) :
    (heartbeatSync lease).run.All inv P := by
  refine all_bindExcept (all_askR _) fun tick => ?_
  refine all_bindExcept (all_selectSync _) fun row => ?_
  cases row with
  | none => trivial
  | some row => exact all_bindExcept (all_transactSync (hP _ h)) fun _ => trivial

theorem all_watchBuilder {lease : SyncLease} (h : lease.token = token) (rounds : Nat)
    (seen : Bool) : (watchBuilder lease rounds seen).run.All inv P := by
  induction rounds generalizing seen with
  | zero => trivial
  | succ rounds ih =>
      refine all_bindExcept (all_askFlag _) fun stop => ?_
      split
      · trivial
      · refine all_bindExcept (all_heartbeatSync hP h) fun result => ?_
        obtain ⟨owned, cancelRequested⟩ := result
        dsimp only
        split
        · exact ih _
        · trivial

theorem all_publishFinalRun {claimed : ClaimedCaseSync} (h : claimed.lease.token = token)
    (sha : Sha256) (run : IngestionRun)
    (hpublish : ∀ now, P (.publish (publication sha claimed run now))) :
    (publishFinalRun sha claimed run).run.All inv P := by
  refine all_bindExcept (all_askR _) fun tick => ?_
  refine all_bindExcept (all_selectSync _) fun c => ?_
  cases c with
  | none => exact all_failWithoutRun hP h _ _ _
  | some c => exact all_finishSync hP h (hpublish _)

omit hP in
theorem all_syncCancelRequested (lease : SyncLease) :
    (syncCancelRequested lease).run.All inv P :=
  all_bindExcept (all_askR _) fun _ => all_selectSync _

omit hP in
theorem all_validatedSettings (sha : Sha256) (claimed : ClaimedCaseSync) :
    (validatedSettings sha claimed).run.All inv P := by
  refine all_bindExcept (all_selectSync _) fun c => ?_
  cases c with
  | none => trivial
  | some c =>
      dsimp only
      split
      · refine all_bindExcept (all_askR _) fun settings => ?_
        cases settings with
        | error message => trivial
        | ok settings =>
            dsimp only
            split
            · trivial
            · split
              · refine all_bindExcept (all_selectSync _) fun refusal => ?_
                cases refusal <;> trivial
              · trivial
      · trivial

omit hP in
/-- A claim is the session's only write without a lease. -/
theorem all_claimNextSync (hclaim : ∀ syncId now leaseUntil,
      P (.sync (.claim syncId token now leaseUntil)))
    (hclose : ∀ syncId now, P (.sync (.closeUnavailable ⟨syncId, token⟩ now))) :
    (claimNextSync token).run.All inv P := by
  refine all_bindExcept (all_askFlag _) fun stop => ?_
  split
  · trivial
  · refine all_bindExcept (all_askR _) fun tick => ?_
    refine all_bindExcept (all_selectSync _) fun next => ?_
    split
    · trivial
    · refine all_bindExcept (all_askFlag _) fun stop => ?_
      split
      · trivial
      · refine all_bindExcept (all_transactSync (hclaim _ _ _)) fun count => ?_
        split
        · refine all_bindExcept (all_selectSync _) fun row => ?_
          split
          · exact all_bindExcept (all_askR _) fun _ =>
              all_bindExcept (all_transactSync (hclose _ _)) fun _ => trivial
          · refine all_bindExcept ?_ fun _ => trivial
            cases claimedCaseSync _ token _ _ <;> trivial
        · trivial

theorem all_finishRun {claimed : ClaimedCaseSync} (h : claimed.lease.token = token)
    (sha : Sha256) (run : IngestionRun)
    (hpublish : ∀ now, P (.publish (publication sha claimed run now))) :
    (finishRun sha claimed run).run.All inv P := by
  unfold finishRun
  cases hstatus : run.status with
  | other => exact all_failWithoutRun hP h _ _ _
  | _ =>
      dsimp only
      split
      · exact all_scheduleSyncRetry hP h _ _
      · refine all_bindExcept (all_advanceSync hP h _ _ _) fun moved => ?_
        split
        · exact all_publishFinalRun hP h sha run hpublish
        · trivial

theorem all_executeWithSettings {claimed : ClaimedCaseSync} (h : claimed.lease.token = token)
    (sha : Sha256) (settings : RuntimeSettings)
    (hbuild : (buildWithHeartbeats claimed settings).run.All inv P)
    (hpublish : ∀ run now, P (.publish (publication sha claimed run now))) :
    (executeWithSettings sha claimed settings).run.All inv P := by
  refine all_bindExcept (all_askFlag _) fun stop => ?_
  split
  · trivial
  · refine all_bindExcept (all_advanceSync hP h _ _ _) fun moved => ?_
    split
    · refine all_bindExcept (all_tryCatch ?_ fun raised => ?_) fun built => ?_
      · exact all_bindExcept hbuild fun _ => trivial
      · cases raised with
        | scopeMismatch message =>
            exact all_bindExcept (all_failWithoutRun hP h _ _ _) fun _ => trivial
        | valueError message =>
            exact all_bindExcept (all_failWithoutRun hP h _ _ _) fun _ => trivial
        | _ => trivial
      · cases built with
        | none => trivial
        | some built =>
            obtain ⟨run, owned, seen⟩ := built
            dsimp only
            split
            · split
              · refine all_bindExcept trivial fun cancelled => ?_
                split
                · exact all_finishCancelledSync hP h
                · exact all_finishRun hP h sha run (hpublish run)
              · refine all_bindExcept (all_syncCancelRequested _) fun cancelled => ?_
                split
                · exact all_finishCancelledSync hP h
                · exact all_finishRun hP h sha run (hpublish run)
            · trivial
    · trivial

theorem all_buildWithHeartbeats {claimed : ClaimedCaseSync} (h : claimed.lease.token = token)
    (settings : RuntimeSettings) (hstart : P (.startBuilder token)) :
    (buildWithHeartbeats claimed settings).run.All inv P := by
  refine all_bindExcept (all_askFlag _) fun stop => ?_
  split
  · trivial
  · rw [h]
    refine all_bindExcept (all_commitR hstart) fun _ => ?_
    refine all_bindExcept (all_askR _) fun answers => ?_
    refine all_bindExcept (all_askR _) fun rounds => ?_
    refine all_bindExcept (all_watchBuilder hP h rounds false) fun watched => ?_
    obtain ⟨owned, seen⟩ := watched
    refine all_bindExcept (all_askFlag _) fun stop => ?_
    split <;> trivial

theorem all_executeClaimedSync {claimed : ClaimedCaseSync} (h : claimed.lease.token = token)
    (sha : Sha256)
    (hbuild : ∀ settings, (buildWithHeartbeats claimed settings).run.All inv P)
    (hpublish : ∀ run now, P (.publish (publication sha claimed run now))) :
    (executeClaimedSync sha claimed).run.All inv P := by
  refine all_bindExcept (all_tryCatch ?_ fun raised => ?_) fun settings => ?_
  · exact all_bindExcept (all_validatedSettings sha claimed) fun _ => trivial
  · cases raised with
    | runtimeConflict message =>
        exact all_bindExcept (all_failWithoutRun hP h _ _ _) fun _ => trivial
    | _ => trivial
  · cases settings with
    | none => trivial
    | some settings => exact all_executeWithSettings hP h sha settings (hbuild settings) hpublish

end SyncWorker

/-- A claimed sync carries the token it was claimed with. -/
theorem returns_claimNextSync (token : Token) :
    (claimNextSync token).run.Returns fun result =>
      ∀ claimed?, result = .ok claimed? → ∀ c, claimed? = some c → c.lease.token = token := by
  have nothing : (pure none : SyncStep (Option ClaimedCaseSync)).run.Returns fun result =>
      ∀ claimed?, result = .ok claimed? → ∀ c, claimed? = some c → c.lease.token = token := by
    intro claimed? h c hc
    cases h
    cases hc
  refine returns_bindExcept fun stop => ?_
  split
  · exact nothing
  · refine returns_bindExcept fun tick => returns_bindExcept fun next => ?_
    split
    · exact nothing
    · refine returns_bindExcept fun stop => ?_
      split
      · exact nothing
      · refine returns_bindExcept fun count => ?_
        split
        · refine returns_bindExcept fun row => ?_
          split
          next => exact returns_bindExcept fun _ => returns_bindExcept fun _ => nothing
          next syncId _ _ _ _ row c =>
            cases hclaimed : claimedCaseSync syncId token row c with
            | error raised => exact fun _ h => nomatch h
            | ok claimed =>
                intro claimed? h c' hc'
                cases h
                cases hc'
                unfold claimedCaseSync at hclaimed
                split at hclaimed
                · cases hclaimed
                · cases hclaimed
                  rfl
        · exact nothing

section RunOnce

variable {R : Protocol caseMachine} {sid : Nat} {A B : Store → Prop}

theorem triple_pure {ε α : Type} (value : α) (h : ∀ s, A s → B s) :
    R.Triple sid A (pure value : Raising ε α).run fun _ => B :=
  Session.Protocol.triple_done h

theorem triple_askR {ε : Type} (stable : R.Stable sid A) (q : Query) :
    R.Triple sid A (askR (ε := ε) q).run fun _ => A :=
  triple_of_all stable (all_askR q)

theorem triple_askFlag {ε : Type} (stable : R.Stable sid A) (f : Flag) :
    R.Triple sid A (askFlag (ε := ε) f).run fun _ => A :=
  triple_of_all stable (all_askFlag f)

/-- `run_once`: what holds before the claim, and what of a claimed sync. -/
theorem triple_runSyncOnce {sha : Sha256} {token : Token} {C : ClaimedCaseSync → Store → Prop}
    (stable : R.Stable sid A) (hAB : ∀ s, A s → B s) (hCB : ∀ claimed s, C claimed s → B s)
    (hrecover : ∀ now s, R.inv s → A s → R.may sid (.sync (.recoverExpired now)) s ∧
      (R.allowed sid (.sync (.recoverExpired now)) s →
        A (Write.commit (.sync (.recoverExpired now)) s).2))
    (hclaim : R.Triple sid A (claimNextSync token).run fun result s => match result with
      | .ok (some claimed) => C claimed s
      | .ok none => B s
      | .error _ => B s)
    (stableC : ∀ claimed, R.Stable sid (C claimed))
    (hexecute : ∀ claimed, claimed.lease.token = token →
      R.Triple sid (C claimed) (executeClaimedSync sha claimed).run fun _ => B)
    (hfail : ∀ (claimed : ClaimedCaseSync) code message, claimed.lease.token = token →
      R.Triple sid B (failWithoutRun claimed.lease code message false).run fun _ => B) :
    R.Triple sid A (runSyncOnce sha token).run fun _ => B := by
  refine triple_step (triple_askFlag stable _) hAB fun stop => ?_
  split
  case isFalse => exact triple_pure _ hAB
  case isTrue =>
    refine triple_step (triple_askR stable _) hAB fun tick => ?_
    refine triple_step (triple_of_all stable (all_transactSync (hrecover tick.now))) hAB
      fun _ => ?_
    refine triple_step (triple_askFlag stable _) hAB fun stop => ?_
    split
    case isFalse => exact triple_pure _ hAB
    case isTrue =>
      refine triple_bindExcept (C := fun claimed? s => match claimed? with
        | some claimed => C claimed s ∧ claimed.lease.token = token
        | none => B s)
        (triple_mono (fun _ h => h) ?_
          (triple_returns hclaim (returns_claimNextSync token))) fun claimed? => ?_
      · rintro (raised | claimed?) s ⟨h, htoken⟩
        · exact h
        · cases claimed? with
          | none => exact h
          | some claimed => exact ⟨h, htoken _ rfl claimed rfl⟩
      · cases claimed? with
        | none => exact triple_pure _ fun _ h => h
        | some claimed =>
            by_cases htoken : claimed.lease.token = token
            case neg =>
              intro s _ h
              exact absurd h.2 htoken
            case pos =>
              refine triple_mono (A := C claimed) (fun _ h => h.1) (fun _ _ h => h) ?_
              refine triple_step (triple_askFlag (stableC claimed) _) (hCB claimed) fun stop => ?_
              split
              case isFalse => exact triple_pure _ (hCB claimed)
              case isTrue =>
                refine triple_tryCatch (C := fun _ => B) (triple_mono (fun _ h => h) ?_
                  (hexecute claimed htoken)) fun _ => hfail claimed _ _ htoken
                rintro (raised | value) s h
                · exact h
                · exact h

end RunOnce

/-! ## The evidence worker -/

/-- A transaction that neither inserts a row nor writes one back. -/
def EvidenceWrite.Plain : EvidenceWrite → Prop
  | .enqueue _ => False
  | .bind _ _ _ _ _ _ => False
  | .finishCancelled _ _ _ _ _ => False
  | _ => True

theorem EvidenceWrite.Plain.writesBack {v : EvidenceWrite} (hv : v.Plain) :
    v.writesBack = none := by
  cases v with
  | bind => exact hv.elim
  | finishCancelled => exact hv.elim
  | _ => rfl

/-- What the protocol must allow an evidence session. -/
structure EvidencePermits (R : Protocol caseMachine) (sid : Nat) : Prop where
  plain : ∀ v, EvidenceWrite.Plain v → ∀ s, R.inv s → R.may sid (.evidence v) s
  enqueue : ∀ (request : EvidenceRequest) caseId publicId resolved now s, R.inv s →
    R.may sid (.evidence (.enqueue (request.row caseId publicId resolved now))) s
  bindArtifact : ∀ lease artifact, R.Safe sid (bindArtifact lease artifact).run
  finishCancelled : ∀ lease, R.Safe sid (finishCancelledEvidence lease).run

section EvidenceWorker

variable {R : Protocol caseMachine} {sid : Nat}

theorem safe_pure {ε α : Type} (value : α) : R.Safe sid (pure value : Raising ε α).run :=
  safe_of_all trivial

theorem safe_throw {ε α : Type} (error : ε) : R.Safe sid (throw error : Raising ε α).run :=
  safe_of_all trivial

theorem safe_askR {ε : Type} (q : Query) : R.Safe sid (askR (ε := ε) q).run :=
  safe_of_all (all_askR q)

theorem safe_askFlag {ε : Type} (f : Flag) : R.Safe sid (askFlag (ε := ε) f).run :=
  safe_of_all (all_askFlag f)

theorem safe_guardStorage : R.Safe sid guardStorage.run := by
  refine safe_bindExcept (safe_askFlag _) fun fails => ?_
  split
  · exact safe_throw _
  · exact safe_pure _

theorem safe_selectEvidence {α : Type} (f : Store → α) : R.Safe sid (selectEvidence f).run :=
  safe_bindExcept safe_guardStorage fun _ =>
    safe_bindExcept (safe_of_all all_readR) fun _ => safe_pure _

variable (permits : EvidencePermits R sid)

include permits

omit permits in
theorem safe_transactEvidence {v : EvidenceWrite}
    (hmay : ∀ s, R.inv s → R.may sid (.evidence v) s) :
    R.Safe sid (transactEvidence v).run := by
  refine safe_bindExcept safe_guardStorage fun _ => ?_
  refine safe_bindExcept
    (safe_of_all (all_commitR hmay)) fun result => ?_
  cases result with
  | rows count => exact safe_pure _
  | inserted id => exact safe_pure _
  | _ => exact safe_throw _

theorem safe_finishEvidence (lease : EvidenceLease) {v : EvidenceWrite}
    (hv : v.Plain) : R.Safe sid (finishEvidence lease v).run := by
  refine safe_bindExcept (safe_transactEvidence (permits.plain v hv)) fun count => ?_
  split
  · exact permits.finishCancelled lease
  · exact safe_pure _

theorem safe_finishSuccess (lease : EvidenceLease) : R.Safe sid (finishSuccess lease).run :=
  safe_bindExcept (safe_askR _) fun _ => safe_bindExcept (safe_askFlag _) fun _ =>
    safe_bindExcept (safe_askR _) fun _ => safe_finishEvidence permits lease trivial

theorem safe_finishFailure (lease : EvidenceLease) (code message : Text) :
    R.Safe sid (finishFailure lease code message).run :=
  safe_bindExcept (safe_askR _) fun _ => safe_bindExcept (safe_askR _) fun _ =>
    safe_bindExcept (safe_askFlag _) fun _ => safe_bindExcept (safe_askR _) fun _ =>
      safe_finishEvidence permits lease trivial

theorem safe_finishInvalidSelection (lease : EvidenceLease) (code message : Text) :
    R.Safe sid (finishInvalidSelection lease code message).run :=
  safe_bindExcept (safe_askR _) fun _ => safe_bindExcept (safe_askR _) fun _ =>
    safe_bindExcept (safe_askFlag _) fun _ =>
      safe_bindExcept (safe_transactEvidence (permits.plain _ trivial)) fun _ => safe_pure _

theorem safe_scheduleEvidenceRetry (lease : EvidenceLease) (code message : Text) :
    R.Safe sid (scheduleEvidenceRetry lease code message).run :=
  safe_bindExcept (safe_askR _) fun _ => safe_finishEvidence permits lease trivial

theorem safe_retryOrFail (claimed : ClaimedEvidence) (code message : Text) :
    R.Safe sid (retryOrFail claimed code message).run := by
  unfold retryOrFail
  split
  · exact safe_scheduleEvidenceRetry permits _ _ _
  · exact safe_finishFailure permits _ _ _

omit permits in
theorem safe_evidenceCancelled (lease : EvidenceLease) :
    R.Safe sid (evidenceCancelled lease).run :=
  safe_bindExcept (safe_askR _) fun _ => safe_selectEvidence _

omit permits in
theorem safe_hasEvidenceBinding (lease : EvidenceLease) (stage : EvidenceStage) :
    R.Safe sid (hasEvidenceBinding lease stage).run :=
  safe_bindExcept (safe_askR _) fun _ => safe_selectEvidence _

omit permits in
theorem safe_revalidateBound (lease : EvidenceLease) :
    R.Safe sid (revalidateBound lease).run := by
  refine safe_bindExcept (safe_askR _) fun tick => ?_
  refine safe_bindExcept (safe_selectEvidence _) fun row => ?_
  cases row with
  | none => exact safe_throw _
  | some row =>
      refine safe_bindExcept (safe_askFlag _) fun valid => ?_
      split
      · exact safe_throw _
      · exact safe_pure _

theorem safe_advanceEvidence (lease : EvidenceLease) (stage : EvidenceStage) :
    R.Safe sid (advanceEvidence lease stage).run :=
  safe_bindExcept (safe_askR _) fun _ =>
    safe_bindExcept (safe_transactEvidence (permits.plain _ trivial)) fun _ => safe_pure _

theorem safe_heartbeatEvidence (lease : EvidenceLease) :
    R.Safe sid (heartbeatEvidence lease).run := by
  refine safe_bindExcept (safe_askFlag _) fun stop => ?_
  split
  · exact safe_pure _
  · exact safe_bindExcept (safe_askR _) fun _ =>
      safe_bindExcept (safe_transactEvidence (permits.plain _ trivial)) fun _ => safe_pure _

theorem safe_watchOperation (lease : EvidenceLease) (rounds : Nat) (watch : OperationWatch) :
    R.Safe sid (watchOperation lease rounds watch).run := by
  induction rounds generalizing watch with
  | zero => exact safe_pure _
  | succ rounds ih =>
      refine safe_bindExcept (safe_askFlag _) fun stop => ?_
      dsimp only
      split
      · exact safe_bindExcept (safe_pure _) fun _ =>
          safe_bindExcept (safe_heartbeatEvidence permits lease) fun _ => ih _
      · exact safe_bindExcept (safe_evidenceCancelled lease) fun _ =>
          safe_bindExcept (safe_heartbeatEvidence permits lease) fun _ => ih _

theorem safe_callWithHeartbeats (lease : EvidenceLease) (stage : EvidenceStage) :
    R.Safe sid (callWithHeartbeats lease stage).run := by
  refine safe_bindExcept (safe_askFlag _) fun stop => ?_
  split
  · exact safe_throw _
  · refine safe_bindExcept (safe_askR _) fun rounds => ?_
    refine safe_bindExcept (safe_watchOperation permits lease rounds _) fun watch => ?_
    split
    · exact safe_throw _
    · refine safe_bindExcept (safe_askFlag _) fun stopped => ?_
      split
      · exact safe_throw _
      · refine safe_bindExcept (safe_askR _) fun outcome => ?_
        cases outcome with
        | returned id digest trusted => exact safe_pure _
        | raised retryable code message => exact safe_throw _

theorem safe_proveStage (lease : EvidenceLease) (stage : EvidenceStage) :
    R.Safe sid (proveStage lease stage).run := by
  refine safe_bindExcept (safe_callWithHeartbeats permits lease stage) fun value => ?_
  split
  · exact permits.bindArtifact lease _
  · exact safe_throw _

theorem safe_stageRaised (claimed : ClaimedEvidence) (raised : EvidenceRaised) :
    R.Safe sid (stageRaised claimed raised).run := by
  have rest : R.Safe sid (do
      if ← evidenceCancelled claimed.lease then
        finishCancelledEvidence claimed.lease
      else if raised.retryable && claimed.attempt < claimed.maxAttempts then
        scheduleEvidenceRetry claimed.lease (raised.code "evidence_provider_unavailable")
          raised.message
      else if raised.retryable then
        finishFailure claimed.lease "evidence_retry_budget_exhausted".toList
          "Evidence verification exhausted its bounded retry budget.".toList
      else
        finishFailure claimed.lease (raised.code "evidence_conflict") raised.message
      return false : EvidenceStep Bool).run := by
    refine safe_bindExcept (safe_evidenceCancelled _) fun cancelled => ?_
    split
    · exact safe_bindExcept (permits.finishCancelled _) fun _ => safe_pure _
    · split
      · exact safe_bindExcept (safe_scheduleEvidenceRetry permits _ _ _) fun _ => safe_pure _
      · split
        · exact safe_bindExcept (safe_finishFailure permits _ _ _) fun _ => safe_pure _
        · exact safe_bindExcept (safe_finishFailure permits _ _ _) fun _ => safe_pure _
  cases raised with
  | workerStop => exact safe_throw _
  | operationCancelled =>
      exact safe_bindExcept (permits.finishCancelled _) fun _ => safe_pure _
  | _ => exact rest

theorem safe_runUnboundStage (claimed : ClaimedEvidence) (stage : EvidenceStage) :
    R.Safe sid (runUnboundStage claimed stage).run := by
  refine safe_bindExcept (safe_advanceEvidence permits _ _) fun moved => ?_
  split
  · refine safe_tryCatch ?_ fun raised => safe_stageRaised permits claimed raised
    refine safe_bindExcept (safe_proveStage permits _ _) fun _ => ?_
    refine safe_bindExcept (safe_evidenceCancelled _) fun cancelled => ?_
    split
    · exact safe_bindExcept (permits.finishCancelled _) fun _ => safe_pure _
    · exact safe_pure _
  · exact safe_bindExcept (permits.finishCancelled _) fun _ => safe_pure _

theorem safe_runStage (claimed : ClaimedEvidence) (stage : EvidenceStage) :
    R.Safe sid (runStage claimed stage).run := by
  refine safe_bindExcept (safe_askFlag _) fun stop => ?_
  split
  · exact safe_throw _
  · refine safe_bindExcept (safe_evidenceCancelled _) fun cancelled => ?_
    split
    · exact safe_bindExcept (permits.finishCancelled _) fun _ => safe_pure _
    · refine safe_bindExcept (safe_hasEvidenceBinding _ _) fun bound => ?_
      split
      · exact safe_bindExcept (safe_revalidateBound _) fun _ => safe_pure _
      · exact safe_runUnboundStage permits claimed stage

theorem safe_runStages (claimed : ClaimedEvidence) (stages : List EvidenceStage) :
    R.Safe sid (runStages claimed stages).run := by
  induction stages with
  | nil => exact safe_finishSuccess permits _
  | cons stage rest ih =>
      refine safe_bindExcept (safe_runStage permits claimed stage) fun goesOn => ?_
      split
      · exact ih
      · exact safe_pure _

theorem safe_executeClaimedEvidence (claimed : ClaimedEvidence) :
    R.Safe sid (executeClaimedEvidence claimed).run := by
  refine safe_tryCatch ?_ fun raised => ?_
  · refine safe_bindExcept (safe_askR _) fun selection => ?_
    cases selection with
    | valid => exact safe_runStages permits claimed _
    | runtimeUnavailable message => exact safe_retryOrFail permits _ _ _
    | invalid => exact safe_finishInvalidSelection permits _ _ _
  · cases raised with
    | storage => exact safe_retryOrFail permits _ _ _
    | _ => exact safe_throw _

theorem safe_finishRecovered (rows : List (Nat × EvidenceRow)) :
    R.Safe sid (finishRecovered rows).run := by
  induction rows with
  | nil => exact safe_pure _
  | cons row rest ih =>
      exact safe_bindExcept (safe_askR _) fun _ => safe_bindExcept (safe_askFlag _) fun _ =>
        safe_bindExcept (safe_transactEvidence (permits.plain _ trivial)) fun _ => ih

theorem safe_finishExhausted (cutoff : Instant) (rows : List (Nat × EvidenceRow)) :
    R.Safe sid (finishExhausted cutoff rows).run := by
  induction rows with
  | nil => exact safe_pure _
  | cons row rest ih =>
      obtain ⟨jobId, e⟩ := row
      refine safe_bindExcept (safe_askR _) fun tick => safe_bindExcept (safe_askFlag _) fun valid =>
        safe_bindExcept (safe_askR _) fun digest => ?_
      split
      · exact ih
      · exact safe_bindExcept (safe_transactEvidence (permits.plain _ trivial)) fun _ => ih

theorem safe_recoverExpiredEvidence : R.Safe sid recoverExpiredEvidence.run :=
  safe_bindExcept (safe_askR _) fun _ => safe_bindExcept (safe_selectEvidence _) fun _ =>
    safe_bindExcept (safe_transactEvidence (permits.plain _ trivial)) fun _ =>
      safe_bindExcept (safe_selectEvidence _) fun _ =>
        safe_bindExcept (safe_finishRecovered permits _) fun _ => safe_finishExhausted permits _ _

theorem safe_claimNextEvidence (token : Token) :
    R.Safe sid (claimNextEvidence token).run := by
  refine safe_bindExcept (safe_askFlag _) fun stop => ?_
  split
  · exact safe_pure _
  · refine safe_bindExcept (safe_askR _) fun tick => ?_
    refine safe_bindExcept (safe_selectEvidence _) fun next => ?_
    split
    · exact safe_pure _
    · refine safe_bindExcept (safe_transactEvidence (permits.plain _ trivial)) fun count => ?_
      split
      · refine safe_bindExcept (safe_selectEvidence _) fun row => ?_
        cases row <;> exact safe_pure _
      · exact safe_pure _

theorem safe_runEvidenceOnce (token : Token) : R.Safe sid (runEvidenceOnce token).run := by
  refine safe_bindExcept (safe_askFlag _) fun stop => ?_
  split
  · refine safe_bindExcept (safe_recoverExpiredEvidence permits) fun _ => ?_
    refine safe_bindExcept (safe_claimNextEvidence permits token) fun claimed => ?_
    cases claimed with
    | none => exact safe_pure _
    | some claimed =>
        refine safe_tryCatch (safe_executeClaimedEvidence permits claimed) fun raised => ?_
        cases raised with
        | workerStop => exact safe_pure _
        | storage => exact safe_pure _
        | _ => exact safe_tryCatch (safe_finishFailure permits _ _ _) fun _ => safe_pure _
  · exact safe_pure _

theorem safe_cancelEvidence (owner : Text) (casePublicId publicId : Uuid) :
    R.Safe sid (cancelEvidence owner casePublicId publicId).run := by
  have attempt : ∀ caseId attempts,
      R.Safe sid (cancelEvidenceAttempts caseId publicId attempts).run := by
    intro caseId attempts
    induction attempts with
    | zero => exact safe_pure _
    | succ attempts ih =>
        refine safe_bindExcept (safe_selectEvidence _) fun row => ?_
        split
        · exact safe_pure _
        · split
          · exact safe_pure _
          · refine safe_bindExcept (safe_askR _) fun tick => ?_
            refine safe_bindExcept (safe_transactEvidence (permits.plain _ ?_)) fun count => ?_
            · split <;> trivial
            · split
              · exact ih
              · exact safe_pure _
  refine safe_bindExcept (safe_selectEvidence _) fun c => ?_
  split
  · exact safe_pure _
  · exact attempt _ _

theorem safe_enqueueEvidence (request : EvidenceRequest) :
    R.Safe sid (enqueueEvidence request).run := by
  refine safe_bindExcept (safe_selectEvidence _) fun c => ?_
  split
  · exact safe_pure _
  · refine safe_bindExcept (safe_selectEvidence _) fun replay => ?_
    split
    · exact safe_pure _
    · refine safe_bindExcept (safe_selectEvidence _) fun c => ?_
      split
      · exact safe_pure _
      · refine safe_bindExcept (safe_askR _) fun resolved => ?_
        cases resolved with
        | error message => exact safe_pure _
        | ok resolved =>
            refine safe_bindExcept (safe_selectEvidence _) fun active => ?_
            split
            · exact safe_pure _
            · exact safe_bindExcept (safe_askR _) fun _ => safe_bindExcept (safe_askR _) fun _ =>
                safe_bindExcept (safe_transactEvidence (permits.enqueue _ _ _ _ _)) fun _ =>
                  safe_pure _

end EvidenceWorker

/-! ## Requests -/

section Requests

variable {inv : Store → Prop} {P : Write → Prop}

theorem all_select {α : Type} (f : Store → α) : (select f).run.All inv P := by
  refine all_bindExcept (all_askFlag _) fun fails => ?_
  split
  · trivial
  · exact all_bindExcept all_readR fun _ => trivial

theorem all_selectVerified {α : Type} (f : Store → Except ReadError α) :
    (selectVerified f).run.All inv P := by
  refine all_bindExcept (all_select f) fun value => ?_
  cases value <;> trivial

theorem all_requiredCase (owner : Text) (publicId : Uuid) :
    (requiredCase owner publicId).run.All inv P := by
  refine all_bindExcept (all_select _) fun found => ?_
  cases found <;> trivial

theorem all_anyCase (owner : Text) (publicId : Uuid) :
    (anyCase owner publicId).run.All inv P := by
  refine all_bindExcept (all_select _) fun found => ?_
  cases found <;> trivial

theorem all_runtimeSettings : runtimeSettings.run.All inv P := by
  refine all_bindExcept (all_askR _) fun settings => ?_
  cases settings <;> trivial

theorem all_raiseIfBusy (caseId : Nat) (conflict : ServiceError) :
    (raiseIfBusy caseId conflict).run.All inv P := by
  refine all_bindExcept (all_select _) fun _ => all_bindExcept (all_select _) fun _ => ?_
  split <;> trivial

theorem all_syncResponse (row : SyncRow) (replayed : Bool) :
    (syncResponse row replayed).run.All inv P := by
  unfold syncResponse
  split <;> trivial

theorem all_replaySync (row : SyncRow) (fingerprint : HexDigest) :
    (replaySync row fingerprint).run.All inv P := by
  unfold replaySync
  split
  · exact all_syncResponse _ _
  · trivial

theorem all_planned (plan : Except PlanningError (PlannedSync Uuid HexDigest)) :
    (planned plan).run.All inv P := by
  cases plan <;> trivial

theorem all_getBackfillSchedule (sha : Sha256) (owner : Text) (casePublicId : Uuid)
    (budget : PageBudget) :
    (getBackfillSchedule sha owner casePublicId budget).run.All inv P := by
  refine all_bindExcept (all_requiredCase _ _) fun found => ?_
  obtain ⟨caseId, c⟩ := found
  refine all_bindExcept (all_selectVerified _) fun progress => ?_
  refine all_bindExcept (all_selectVerified _) fun plan => ?_
  refine all_bindExcept (all_select _) fun active => ?_
  split <;> trivial

theorem all_plannedResume (caseId : Nat) (casePublicId : Uuid) (checkpoint : HexDigest)
    (sha : Sha256) (authority : ResumeAuthority HexDigest) :
    (plannedResume caseId casePublicId checkpoint sha authority).run.All inv P := by
  refine all_bindExcept (all_select _) fun found => ?_
  split
  · trivial
  · refine all_bindExcept (all_selectVerified _) fun response => ?_
    refine all_bindExcept (all_select _) fun tip => ?_
    split
    · exact all_planned _
    · trivial

theorem replies_select {α : Type} {f : Store → α} {r : Except ServiceError α → Prop}
    (hf : ∀ s, inv s → r (.ok (f s))) (hstorage : r (.error .storage)) :
    (select f).run.Replies inv r := by
  refine replies_bindExcept (q := fun _ => True) (fun _ => trivial) fun fails _ => ?_
  split
  · exact hstorage
  · exact replies_bindExcept (q := inv) (fun s hs => hs) fun s hs => hf s hs

/-- What follows a verified read knows a store it was read from. -/
theorem replies_bindVerified {α β : Type} {f : Store → Except ReadError α} {g : α → Request β}
    {r : Except ServiceError β → Prop} (hraise : ∀ {error : ServiceError}, r (.error error))
    (hg : ∀ value, (∃ s, inv s ∧ f s = .ok value) → (g value).run.Replies inv r) :
    (selectVerified f >>= g).run.Replies inv r := by
  refine replies_bindExcept (q := fun value => ∃ s, inv s ∧ f s = .ok value) ?_ hg
  refine replies_bindExcept (q := fun value => ∃ s, inv s ∧ f s = value)
    (replies_select (fun s hs => ⟨s, hs, rfl⟩) hraise) fun value hvalue => ?_
  cases value with
  | ok value => exact hvalue
  | error error => exact hraise

/-- A schedule that `get_backfill_schedule` answers, from what it reads. -/
structure BuiltSchedule (sha : Sha256) (inv : Store → Prop) (casePublicId : Uuid)
    (budget : PageBudget) (schedule : Addressed ScheduleDocument) : Prop where
  built : ∃ caseId progress plan s t u, inv s ∧ inv t ∧ inv u ∧
    currentProgress sha caseId casePublicId s = .ok progress ∧
    currentPlan sha caseId casePublicId t = .ok plan ∧
    backfillScheduleResponse sha casePublicId progress plan budget
      ((u.activeSync? caseId).map fun row => row.2.publicId) = .ok schedule

theorem replies_getBackfillSchedule (sha : Sha256) (owner : Text) (casePublicId : Uuid)
    (budget : PageBudget) :
    (getBackfillSchedule sha owner casePublicId budget).run.Replies inv fun result =>
      ∀ schedule, result = .ok schedule → BuiltSchedule sha inv casePublicId budget schedule := by
  have raised : ∀ {error : ServiceError} (schedule : Addressed ScheduleDocument),
      Except.error error = .ok schedule → BuiltSchedule sha inv casePublicId budget schedule :=
    fun _ heq => nomatch heq
  refine replies_bindExcept (q := fun _ => True) ?_ fun found _ => ?_
  · refine replies_bindExcept (q := fun _ => True) (replies_select (fun _ _ => trivial) raised)
      fun found _ => ?_
    cases found with
    | some found => trivial
    | none => exact raised
  obtain ⟨caseId, c⟩ := found
  dsimp only
  refine replies_bindVerified raised fun progress ⟨s, hs, hprogress⟩ => ?_
  refine replies_bindVerified raised fun plan ⟨t, ht, hplan⟩ => ?_
  refine replies_bindExcept (q := fun active => ∃ u, inv u ∧ u.activeSync? caseId = active)
    (replies_select (fun u hu => ⟨u, hu, rfl⟩) raised) fun active ⟨u, hu, hactive⟩ => ?_
  split
  next schedule hschedule =>
    rintro _ ⟨⟩
    exact ⟨caseId, progress, plan, s, t, u, hs, ht, hu, hprogress, hplan, hactive ▸ hschedule⟩
  next => exact raised

/-- The continuation that a schedule authorizes. -/
structure Authorizes (sha : Sha256) (inv : Store → Prop) (casePublicId : Uuid)
    (schedule : HexDigest) (budget : PageBudget) (document : ScheduleDocument)
    (checkpoint : HexDigest) (authority : ResumeAuthority HexDigest) : Prop where
  built : BuiltSchedule sha inv casePublicId budget ⟨schedule, document⟩
  selected : ∃ selection cutoff, document.selection = some selection ∧
    document.checkpointCutoff = some cutoff ∧ checkpoint = selection.checkpoint ∧
    authority = .schedule document.inputPlan budget schedule document.inputProgress cutoff

/-- The rows queued under a fingerprint are writes of `P`. -/
def Queues (P : Write → Prop) (fingerprint : HexDigest) : Prop :=
  ∀ row : SyncRow, row.AsQueued → row.requestFingerprint = fingerprint → P (.insertSync row)

theorem all_transact {w : Write} (h : P w) : (transact w).run.All inv P := by
  refine all_bindExcept (all_askFlag _) fun fails => ?_
  split
  · trivial
  · exact all_commitR h

theorem all_insertQueued {row : SyncRow} (h : P (.insertSync row)) :
    (insertQueued row).run.All inv P := by
  refine all_bindExcept (all_transact h) fun result => ?_
  cases result with
  | inserted id => exact all_syncResponse _ _
  | integrityError =>
      refine all_bindExcept (all_select _) fun replay => ?_
      split
      · exact all_replaySync _ _
      · refine all_bindExcept (all_select _) fun active => ?_
        split <;> trivial
  | _ => trivial

theorem all_insertSync (caseId : Nat) (c : CaseRow) (request : SyncRequest) (key : Text)
    {fingerprint : HexDigest} (h : Queues P fingerprint) :
    (insertSync caseId c request key fingerprint).run.All inv P := by
  have rest : ∀ tick settings (base : Option (Nat × SyncRow)), (do
      let plan ← planned (planSync request (base.map fun row => row.2.baseSnapshot)
        (Tick.now tick))
      let publicId ← askR .publicId
      insertQueued (queuedSync plan caseId c publicId settings key fingerprint
        "Wallet Case synchronization is queued." tick.now) : Request AcceptedSync).run.All inv P :=
    fun tick settings base => all_bindExcept (all_planned _) fun _ =>
      all_bindExcept (all_askR _) fun _ => all_insertQueued (h _ ⟨_, _, _, _, _, _, _, _, _, rfl⟩ rfl)
  refine all_bindExcept (all_askR _) fun tick => ?_
  refine all_bindExcept all_runtimeSettings fun settings => ?_
  dsimp only
  split
  · exact all_bindExcept (all_select _) fun base => rest tick settings base
  · exact all_bindExcept trivial fun base => rest tick settings base

theorem all_enqueueSync (sha : Sha256) (owner : Text) (casePublicId : Uuid)
    (request : SyncRequest) (key : Text)
    (h : ∀ document, syncRequestDocument request = .ok document →
      Queues P (sha (.request document))) :
    (enqueueSync sha owner casePublicId request key).run.All inv P := by
  refine all_bindExcept (all_requiredCase _ _) fun found => ?_
  obtain ⟨caseId, c⟩ := found
  refine all_bindExceptReplies (q := Queues P) ?_ fun fingerprint hfingerprint => ?_
  · unfold syncRequestFingerprint
    split
    next document hdocument =>
      rintro _ ⟨⟩
      exact h document hdocument
    next => exact fun _ heq => nomatch heq
  · refine all_bindExcept (all_select _) fun replay => ?_
    split
    · exact all_replaySync _ _
    · refine all_bindExcept (all_select _) fun active => ?_
      split
      · refine all_bindExcept (all_select _) fun replay => ?_
        split
        · exact all_replaySync _ _
        · trivial
      · exact all_insertSync _ _ _ _ hfingerprint

theorem all_enqueueCheckpointResume (sha : Sha256) (owner : Text) (casePublicId : Uuid)
    (checkpoint : HexDigest) (authority : ResumeAuthority HexDigest) (key : Text)
    (h : Queues P (sha (.request (.checkpointResume checkpoint authority)))) :
    (enqueueCheckpointResume sha owner casePublicId checkpoint authority key).run.All inv P := by
  refine all_bindExcept (all_requiredCase _ _) fun found => ?_
  obtain ⟨caseId, c⟩ := found
  refine all_bindExcept (all_plannedResume _ _ _ _ _) fun plan => ?_
  refine all_bindExcept (all_select _) fun replay => ?_
  split
  · exact all_replaySync _ _
  · refine all_bindExcept (all_select _) fun active => ?_
    split
    · trivial
    · exact all_bindExcept (all_askR _) fun _ => all_bindExcept all_runtimeSettings fun _ =>
        all_bindExcept (all_askR _) fun _ => all_insertQueued (h _ ⟨_, _, _, _, _, _, _, _, _, rfl⟩ rfl)

theorem all_enqueuePlanResume (sha : Sha256) (owner : Text) (casePublicId : Uuid)
    (checkpoint : HexDigest) (authority : ResumeAuthority HexDigest) (key : Text)
    (h : Queues P (sha (.request (.checkpointResume checkpoint authority)))) :
    (enqueuePlanResume sha owner casePublicId checkpoint authority key).run.All inv P := by
  refine all_bindExcept (all_requiredCase _ _) fun found => ?_
  obtain ⟨caseId, c⟩ := found
  refine all_bindExcept (all_select _) fun replay => ?_
  split
  · exact all_replaySync _ _
  · refine all_bindExcept (all_selectVerified _) fun plan => ?_
    split
    · split
      · trivial
      · split
        · exact all_enqueueCheckpointResume _ _ _ _ _ _ h
        · trivial
    · trivial

theorem all_enqueueBackfillSchedule (sha : Sha256) (owner : Text) (casePublicId : Uuid)
    (schedule : HexDigest) (budget : PageBudget) (key : Text)
    (h : ∀ document checkpoint authority,
      Authorizes sha inv casePublicId schedule budget document checkpoint authority →
        Queues P (sha (.request (.checkpointResume checkpoint authority)))) :
    (enqueueBackfillSchedule sha owner casePublicId schedule budget key).run.All inv P := by
  refine all_bindExcept (all_requiredCase _ _) fun found => ?_
  obtain ⟨caseId, c⟩ := found
  refine all_bindExcept (all_select _) fun replay => ?_
  split
  · split
    · trivial
    · split
      · exact all_syncResponse _ _
      · trivial
  · refine all_bindExceptReplies (replies_getBackfillSchedule sha owner casePublicId budget)
      fun current hbuilt => ?_
    split
    next hschedule =>
      subst hschedule
      split
      next selection cutoff _ hselection hcutoff =>
        refine all_tryCatch (all_enqueuePlanResume _ _ _ _ _ _ (h current.document _ _
          ⟨hbuilt, selection, cutoff, hselection, hcutoff, rfl, rfl⟩)) fun raised => ?_
        split
        · exact all_bindExcept (all_getBackfillSchedule _ _ _ _) fun _ => trivial
        · trivial
      · trivial
    · trivial

variable (hP : ∀ w : Write, w.ByRequest → P w)

include hP

theorem all_createOrOpenCase (request : CaseCreateRequest) :
    (createOrOpenCase request).run.All inv P := by
  refine all_bindExcept (all_askR _) fun canonical => ?_
  cases canonical with
  | error message => trivial
  | ok canonical =>
      refine all_bindExcept (all_select _) fun existing => ?_
      split
      · split
        · exact all_bindExcept (all_askR _) fun _ =>
            all_bindExcept (all_transact (hP _ trivial)) fun _ => trivial
        · trivial
      · exact all_bindExcept all_runtimeSettings fun _ => all_bindExcept (all_askR _) fun _ =>
          all_bindExcept (all_askR _) fun _ =>
            all_bindExcept (all_transact (hP _ ⟨_, _, _, _, rfl⟩)) fun _ => trivial

theorem all_updateCaseMetadata (owner : Text) (publicId : Uuid) (expected : Nat)
    (change : MetadataChange) :
    (updateCaseMetadata owner publicId expected change).run.All inv P := by
  refine all_bindExcept (all_requiredCase _ _) fun found => ?_
  obtain ⟨caseId, c⟩ := found
  refine all_bindExcept (all_askR _) fun tick => ?_
  refine all_bindExcept (all_transact (hP _ trivial)) fun result => ?_
  split <;> exact all_bindExcept (all_requiredCase _ _) fun _ => trivial

theorem all_archiveCase (owner : Text) (publicId : Uuid) :
    (archiveCase owner publicId).run.All inv P := by
  refine all_bindExcept (all_anyCase _ _) fun found => ?_
  obtain ⟨caseId, c⟩ := found
  dsimp only
  split
  · trivial
  · refine all_bindExcept (all_raiseIfBusy _ _) fun _ => all_bindExcept (all_askR _) fun tick => ?_
    refine all_bindExcept (all_transact (hP _ trivial)) fun result => ?_
    split
    · exact all_bindExcept (all_anyCase _ _) fun _ => trivial
    · refine all_bindExcept (all_anyCase _ _) fun current => ?_
      obtain ⟨currentId, current⟩ := current
      dsimp only
      split
      · trivial
      · exact all_bindExcept (all_raiseIfBusy _ _) fun _ => trivial

theorem all_restoreCase (owner : Text) (publicId : Uuid) :
    (restoreCase owner publicId).run.All inv P := by
  refine all_bindExcept (all_anyCase _ _) fun found => ?_
  obtain ⟨caseId, c⟩ := found
  dsimp only
  split
  · trivial
  · refine all_bindExcept (all_askR _) fun tick => ?_
    refine all_bindExcept (all_transact (hP _ trivial)) fun result => ?_
    split
    · exact all_bindExcept (all_requiredCase _ _) fun _ => trivial
    · refine all_bindExcept (all_anyCase _ _) fun current => ?_
      obtain ⟨currentId, current⟩ := current
      dsimp only
      split <;> trivial

theorem all_deleteCase (owner : Text) (publicId : Uuid) :
    (deleteCase owner publicId).run.All inv P := by
  refine all_bindExcept (all_requiredCase _ _) fun found => ?_
  obtain ⟨caseId, c⟩ := found
  refine all_bindExcept (all_raiseIfBusy _ _) fun _ => all_bindExcept (all_askR _) fun tick => ?_
  refine all_bindExcept (all_transact (hP _ trivial)) fun result => ?_
  split
  · trivial
  · refine all_bindExcept (all_requiredCase _ _) fun current => ?_
    obtain ⟨currentId, current⟩ := current
    exact all_bindExcept (all_raiseIfBusy _ _) fun _ => trivial

theorem all_cancelSync (owner : Text) (casePublicId publicId : Uuid) :
    (cancelSync owner casePublicId publicId).run.All inv P := by
  refine all_bindExcept (all_requiredCase _ _) fun found => ?_
  obtain ⟨caseId, c⟩ := found
  refine all_bindExcept (all_select _) fun row => ?_
  split
  · trivial
  · split
    · exact all_bindExcept (all_askR _) fun _ =>
        all_bindExcept (all_transact (hP _ trivial)) fun _ => trivial
    · trivial

end Requests

/-! ## Rows written back

What a session knows of the row it read, `A`, holds when it reads it, and
no other session makes it false; it has to allow the write. -/

section WrittenBack

variable {R : Protocol caseMachine} {sid : Nat}
  {A : EvidenceLease → EvidenceRow → Store → Prop}

theorem triple_selectEvidence {α : Type} (f : Store → α) :
    R.Triple sid (fun _ => True) (selectEvidence f).run fun result s => match result with
      | .ok value => value = f s
      | .error _ => True := by
  refine triple_bindExcept (C := fun _ _ => True) (triple_mono (fun _ h => h) ?_
    safe_guardStorage) fun _ => ?_
  · rintro (error | value) s h <;> trivial
  · exact Session.Protocol.triple_read Session.Protocol.stable_true fun s _ _ =>
      Session.Protocol.triple_done fun s' h => congrArg f h.symm

/-- A transaction of the worker, from an assertion that permits it. -/
theorem triple_transactEvidence {v : EvidenceWrite} {B : Store → Prop}
    (stable : R.Stable sid B) (hmay : ∀ s, R.inv s → B s → R.may sid (.evidence v) s) :
    R.Triple sid B (transactEvidence v).run fun _ _ => True := by
  refine triple_step (C := B) (triple_of_all stable ?_) (fun _ _ => trivial) fun _ => ?_
  · refine all_bindExcept (all_askFlag _) fun fails => ?_
    split <;> trivial
  · have committed : R.Triple sid B (commitR (ε := EvidenceRaised) (.evidence v)).run
        fun _ _ => True :=
      Session.Protocol.triple_bind (Session.Protocol.triple_write stable
        fun s hs hB => ⟨hmay s hs hB, fun _ => trivial⟩) fun _ =>
          Session.Protocol.triple_done fun _ h => h
    refine triple_step committed (fun _ h => h) fun result => ?_
    cases result with
    | rows count => exact safe_pure _
    | inserted id => exact safe_pure _
    | _ => exact safe_throw _

/-- A read of the owned row, and what is done with it. -/
theorem safe_withOwned {lease : EvidenceLease} {now : Instant}
    (known : ∀ loaded s, R.inv s → ownedEvidence lease now s = some loaded → A lease loaded s)
    {f : Option EvidenceRow → EvidenceStep Unit} (hnone : R.Safe sid (f none).run)
    (hsome : ∀ loaded, R.Triple sid (A lease loaded) (f (some loaded)).run fun _ _ => True) :
    R.Safe sid (selectEvidence (ownedEvidence lease now) >>= f).run := by
  refine triple_bindExcept (C := fun loaded s => loaded = ownedEvidence lease now s)
    (triple_mono (fun _ h => h) ?_ (triple_selectEvidence _)) fun loaded => ?_
  · rintro (error | loaded) s h
    · trivial
    · exact h
  · cases loaded with
    | none => exact triple_mono (fun _ _ => trivial) (fun _ _ h => h) hnone
    | some loaded => exact fun s hs h => hsome loaded s hs (known loaded s hs h.symm)

/-- The two programs that write back a row they read. -/
theorem evidencePermits_of
    (plain : ∀ v, EvidenceWrite.Plain v → ∀ s, R.inv s → R.may sid (.evidence v) s)
    (enqueue : ∀ (request : EvidenceRequest) caseId publicId resolved now s, R.inv s →
      R.may sid (.evidence (.enqueue (request.row caseId publicId resolved now))) s)
    (stable : ∀ lease loaded, R.Stable sid (A lease loaded))
    (known : ∀ lease now loaded s, R.inv s → ownedEvidence lease now s = some loaded →
      A lease loaded s)
    (hback : ∀ v lease loaded s, R.inv s → v.writesBack = some (lease.jobId, loaded) →
      A lease loaded s → R.may sid (.evidence v) s) : EvidencePermits R sid := by
  have askA : ∀ lease loaded q, R.Triple sid (A lease loaded)
      (askR (ε := EvidenceRaised) q).run fun _ => A lease loaded := fun lease loaded q =>
    triple_askR (stable lease loaded) q
  have transactA : ∀ lease loaded v, EvidenceWrite.writesBack v = some (lease.jobId, loaded) →
      R.Triple sid (A lease loaded) (transactEvidence v).run fun _ _ => True :=
    fun lease loaded v hv => triple_transactEvidence (stable lease loaded)
      fun s hs hA => hback v lease loaded s hs hv hA
  refine ⟨plain, enqueue, fun lease artifact => ?_, fun lease => ?_⟩
  · refine safe_bindExcept (safe_askR _) fun completed => safe_bindExcept (safe_askR _)
      fun tick => safe_withOwned (known lease tick.now) (safe_throw _) fun loaded => ?_
    refine triple_step (triple_askFlag (stable lease loaded) _) (fun _ _ => trivial)
      fun valid => ?_
    split
    · refine triple_step (C := fun _ => True) (transactA lease loaded _ rfl) (fun _ h => h)
        fun count => ?_
      split
      · exact safe_throw _
      · exact safe_pure _
    · exact triple_mono (fun _ _ => trivial) (fun _ _ h => h) (safe_throw _)
  · refine safe_bindExcept (safe_askR _) fun tick =>
      safe_withOwned (known lease tick.now) (safe_pure _) fun loaded => ?_
    dsimp only
    split
    · refine triple_step (askA lease loaded _) (fun _ _ => trivial) fun terminal => ?_
      refine triple_step (triple_askFlag (stable lease loaded) _) (fun _ _ => trivial)
        fun valid => ?_
      refine triple_step (C := fun _ => True) (transactA lease loaded _ rfl) (fun _ h => h)
        fun count => ?_
      split
      · exact safe_throw _
      · exact safe_pure _
    · exact triple_mono (fun _ _ => trivial) (fun _ _ h => h) (safe_pure _)

end WrittenBack

/-! ## Every session -/

section Every

variable {R : Protocol caseMachine} {sha : Sha256}

/-- A worker whose writes are all allowed keeps to the protocol. -/
theorem safe_runSyncOnce {sid : Nat} (hsync : ∀ v s, R.inv s → R.may sid (.sync v) s)
    (hstart : ∀ token s, R.inv s → R.may sid (.startBuilder token) s)
    (hpublish : ∀ claimed run now s, R.inv s →
      R.may sid (.publish (publication sha claimed run now)) s) (token : Token) :
    R.Safe sid (runSyncOnce sha token).run := by
  have fenced : ∀ v : SyncWrite, v.Fenced token →
      ∀ s, R.inv s → R.may sid (.sync v) s := fun v _ s hs => hsync v s hs
  refine triple_runSyncOnce (C := fun _ _ => True) Session.Protocol.stable_true (fun _ h => h)
    (fun _ _ h => h) (fun now s hs _ => ⟨hsync _ s hs, fun _ => trivial⟩) ?_
    (fun _ => Session.Protocol.stable_true) ?_ ?_
  · refine triple_mono (fun _ h => h) ?_ (safe_of_all (all_claimNextSync
      (fun _ _ _ s hs => hsync _ s hs) fun _ _ s hs => hsync _ s hs))
    rintro (raised | (_ | claimed)) s h <;> trivial
  · intro claimed htoken
    exact safe_of_all (all_executeClaimedSync fenced htoken sha
      (fun settings => all_buildWithHeartbeats fenced htoken settings fun s hs => hstart _ s hs)
      fun run now s hs => hpublish _ _ _ s hs)
  · intro claimed code message htoken
    exact safe_of_all (all_failWithoutRun fenced htoken code message false)

variable {fresh : Nat → Store → Prop}

theorem triple_reply {α : Type} {sid : Nat} {p : Request α} {A : Store → Prop} (f : α → Reply)
    (hp : R.Triple sid A p.run fun _ _ => True) :
    R.Triple sid A (p.reply f) fun _ _ => True := by
  refine Session.Protocol.triple_bind hp fun result => ?_
  cases result <;> exact Session.Protocol.triple_done fun _ h => h

theorem triple_workerReply {ε : Type} {sid : Nat} {p : Raising ε Unit} {A : Store → Prop}
    (hp : R.Triple sid A p.run fun _ _ => True) :
    R.Triple sid A (workerReply p) fun _ _ => True := by
  refine Session.Protocol.triple_bind hp fun result => ?_
  cases result <;> exact Session.Protocol.triple_done fun _ h => h

/-- Every session keeps to a protocol that allows every request, the sync
worker from its start, and the evidence sessions. -/
theorem triple_program (hrequest : ∀ sid w s, R.inv s → Write.ByRequest w → R.may sid w s)
    (hworker : ∀ sid, R.Triple sid (fresh sid) (runSyncOnce sha sid).run fun _ _ => True)
    (hevidence : ∀ sid, EvidencePermits R sid) (sid : Nat) (entry : Entry) :
    R.Triple sid (fresh sid) (program sha sid entry) fun _ _ => True := by
  have requests : ∀ {α : Type} (p : Request α) (f : α → Reply),
      p.run.All R.inv (fun w => ∀ s, R.inv s → R.may sid w s) →
      R.Triple sid (fresh sid) (p.reply f) fun _ _ => True := fun p f hp =>
    triple_mono (fun _ _ => trivial) (fun _ _ h => h) (triple_reply f (safe_of_all hp))
  have evidence : ∀ {p : EvidenceStep Unit}, R.Safe sid p.run →
      R.Triple sid (fresh sid) (workerReply p) fun _ _ => True := fun hp =>
    triple_mono (fun _ _ => trivial) (fun _ _ h => h) (triple_workerReply hp)
  have hP : ∀ w : Write, w.ByRequest → ∀ s, R.inv s → R.may sid w s :=
    fun w hw s hs => hrequest sid w s hs hw
  have queues : ∀ {fingerprint}, Queues (fun w => ∀ s, R.inv s → R.may sid w s) fingerprint :=
    fun row hrow _ => hP _ hrow
  cases entry with
  | createOrOpenCase request => exact requests _ _ (all_createOrOpenCase hP _)
  | updateCaseMetadata owner publicId expected change =>
      exact requests _ _ (all_updateCaseMetadata hP _ _ _ _)
  | archiveCase owner publicId => exact requests _ _ (all_archiveCase hP _ _)
  | restoreCase owner publicId => exact requests _ _ (all_restoreCase hP _ _)
  | deleteCase owner publicId => exact requests _ _ (all_deleteCase hP _ _)
  | enqueueSync owner casePublicId request key =>
      exact requests _ _ (all_enqueueSync _ _ _ _ _ fun _ _ => queues)
  | enqueueCheckpointResume owner casePublicId checkpoint key =>
      exact requests _ _ (all_enqueueCheckpointResume _ _ _ _ _ _ queues)
  | enqueuePlanResume owner casePublicId continuationPlan checkpoint budget key =>
      exact requests _ _ (all_enqueuePlanResume _ _ _ _ _ _ queues)
  | enqueueBackfillSchedule owner casePublicId schedule budget key =>
      exact requests _ _ (all_enqueueBackfillSchedule _ _ _ _ _ _ fun _ _ _ _ => queues)
  | cancelSync owner casePublicId publicId => exact requests _ _ (all_cancelSync hP _ _ _)
  | runSyncWorker => exact triple_workerReply (hworker sid)
  | enqueueEvidence request => exact evidence (safe_enqueueEvidence (hevidence sid) request)
  | cancelEvidence owner casePublicId publicId =>
      exact evidence (safe_cancelEvidence (hevidence sid) _ _ _)
  | runEvidenceWorker => exact evidence (safe_runEvidenceOnce (hevidence sid) sid)

end Every

/-! ## The shape of what is inserted -/

/-- A row is inserted as a request makes it, a run published as a worker
does. -/
def Write.WellFormed : Write → Prop
  | .createCase row => row.AsCreated
  | .insertSync row => row.AsQueued
  | .publish p => ∃ (sha : Sha256) (claimed : ClaimedCaseSync) (run : IngestionRun)
      (now : Instant), p = publication sha claimed run now
  | .evidence (.enqueue row) => ∃ (request : EvidenceRequest) (caseId : Nat) (publicId : Uuid)
      (resolved : ResolvedActivity) (now : Instant),
      row = request.row caseId publicId resolved now
  | _ => True

/-- The protocol of all sessions: rows are inserted well formed. -/
def wellFormedWrites : Protocol caseMachine where
  inv := fun _ => True
  allowed := fun _ _ _ => True
  may := fun _ w _ => Write.WellFormed w
  preserved := fun _ _ _ _ _ _ => trivial

theorem wellFormedWrites_program (sha : Sha256) (sid : Nat) (entry : Entry) :
    wellFormedWrites.Triple sid (fun _ => True) (program sha sid entry) fun _ _ => True := by
  refine @triple_program wellFormedWrites sha (fun _ _ => True) ?_ ?_ ?_ sid entry
  · intro sid w s _ hw
    cases w with
    | evidence v => exact hw.elim
    | createCase row => exact hw
    | insertSync row => exact hw
    | _ => trivial
  · intro sid
    have built : ∀ claimed run now,
        Write.WellFormed (.publish (publication sha claimed run now)) :=
      fun _ _ _ => ⟨_, _, _, _, rfl⟩
    exact safe_runSyncOnce (fun _ _ _ => trivial) (fun _ _ _ => trivial)
      (fun claimed run now _ _ => built claimed run now) sid
  · intro sid
    refine evidencePermits_of (A := fun _ _ _ => True) ?_ ?_ (fun _ _ => Session.Protocol.stable_true)
      (fun _ _ _ _ _ _ => trivial) ?_
    · intro v hv s _
      cases v with
      | enqueue row => exact hv.elim
      | _ => trivial
    · exact fun request caseId publicId resolved now _ _ => ⟨_, _, _, _, _, rfl⟩
    · intro v lease loaded s _ hback _
      cases v with
      | enqueue row => cases hback
      | _ => trivial

/-- From every world the services reach, each insert is well formed. -/
theorem wellFormed_rest {sha : Sha256} {P : Nat → Write → Store → Prop}
    {world world' : World (caseSystem sha)} (reached : Reaches start world)
    (run : Session.Run P world world') :
    Session.Run (fun sid (w : Write) s => P sid w s ∧ w.WellFormed) world world' := by
  have covers : wellFormedWrites.Covers (fun _ _ => True) world :=
    (Session.Protocol.covers_start trivial fun _ => trivial).run
      (fun _ => Session.Protocol.stable_true) (wellFormedWrites_program sha)
      (reached.mono fun _ _ _ _ => trivial)
  exact (covers.guarantee (fun _ => Session.Protocol.stable_true) (wellFormedWrites_program sha)
    (fun _ _ _ _ => trivial) run).1.mono fun _ _ _ h => ⟨h.1, h.2.2⟩

/-- In every run of the services each insert is well formed. -/
theorem wellFormed_run {sha : Sha256} {P : Nat → Write → Store → Prop}
    {world : World (caseSystem sha)} (run : Session.Run P start world) :
    Session.Run (fun sid (w : Write) s => P sid w s ∧ w.WellFormed) start world :=
  wellFormed_rest (.refl _) run

/-! ## One case, from its creation to a verification

A case is created, a sync of its transactions is queued and published, and
a verification of one of them is queued. -/

theorem length_sampleUuid (c : Char) : (List.replicate 36 c).length = 36 := List.length_replicate

theorem length_sampleDigest (c : Char) : (List.replicate 64 c).length = 64 := List.length_replicate

theorem all_sampleDigest (c : Char) (h : isLowerHexDigit c = true) :
    (List.replicate 64 c).all isLowerHexDigit = true := by simp [h]

def sampleUuid (c : Char) : Uuid := ⟨List.replicate 36 c, length_sampleUuid c⟩

def sampleDigest (c : Char) (h : isLowerHexDigit c = true := by exact (rfl : true = true)) :
    HexDigest :=
  ⟨List.replicate 64 c, length_sampleDigest c, all_sampleDigest c h⟩

/-- One hash for each kind of document. -/
def sampleSha : Sha256
  | .request _ => sampleDigest '1'
  | .manifest _ => sampleDigest '2'
  | .checkpoint _ => sampleDigest '3'
  | .chain _ => sampleDigest '4'
  | .plan _ => sampleDigest '5'
  | .progress _ => sampleDigest '6'
  | .schedule _ => sampleDigest '7'
  | .receipt _ => sampleDigest '8'
  | .outcome _ => sampleDigest '9'

/-- So many seconds after the epoch. -/
def sampleInstant (seconds : Nat) : Instant := (Instant.fromTimestamp seconds).getD ⟨0, zero_lt_maxMicros⟩

/-- A provider with the three transactions of `sampleHistory` and no
events. -/
def sampleProvider : ProviderAnswers where
  identity := .expected
  balancesFound := true
  jettonsFound := true
  transactions :=
    { fetchJson := pagingProvider sampleHistory, clock := fun _ => sampleInstant 2000
      startedAt := sampleInstant 2000, finishedAt := sampleInstant 2000
      digest := fun _ => sampleDigest 'a' }
  events :=
    { fetchJson := fun _ _ => .ok (.obj [("events", .arr []), ("next_from", .int 0)])
      clock := fun _ => sampleInstant 2000, startedAt := sampleInstant 2000
      finishedAt := sampleInstant 2000, digest := fun _ => sampleDigest 'a'
      fingerprint := fun _ => sampleDigest 'b', derive := fun _ => .ok [] }
  rows := ⟨[⟨some (sampleInstant 1500), []⟩], [], []⟩

/-- The environment at a second, with the id it would draw. -/
def sampleAnswers (seconds : Nat) (publicId : Uuid) :
    (q : caseMachine.Query) → caseMachine.Answer q
  | .clock => (⟨sampleInstant seconds, sampleInstant (seconds + 60),
      sampleInstant (seconds + 10)⟩ : Tick)
  | .publicId => publicId
  | .settings => (.ok ⟨3, tonapiLiveProvider, ⟨100, 5, 100, 5⟩⟩ : Except Text RuntimeSettings)
  | .canonicalWallet => (.ok "0:0a".toList : Except Text Text)
  | .providerAnswers => sampleProvider
  | .flag f => decide (f = .artifactsValid)
  | .heartbeats => (1 : Nat)
  | .resultDigest => sampleDigest 'c'
  | .selection => SelectionCheck.valid
  | .resolvedActivity => (.ok ⟨1, 1, 1, sampleDigest 'd'⟩ : Except Text ResolvedActivity)
  | .proofOperation _ => OperationOutcome.returned 1 (sampleDigest 'e') true

/-- A session that takes so many steps at once. -/
def sampleSession (sid : Nat) (entry : Entry) (seconds : Nat) (publicId : Uuid) (steps : Nat) :
    List (Move (caseSystem sampleSha)) :=
  .launch entry :: List.replicate steps (.run sid (sampleAnswers seconds publicId))

def sampleOwner : Text := "owner".toList

theorem transactions_valid :
    [Surface.transactions] ≠ [] ∧ [Surface.transactions].Nodup := by decide

def sampleSyncRequest : SyncRequest :=
  ⟨.bounded, .day, none, none, [.transactions], transactions_valid, by decide⟩

def sampleCase : List (Move (caseSystem sampleSha)) :=
  sampleSession 0 (.createOrOpenCase ⟨sampleOwner, .mainnet, .live, "0:0a".toList, none, none⟩)
    2000 (sampleUuid '0') 20

def sampleMoves : List (Move (caseSystem sampleSha)) :=
  sampleCase ++
    sampleSession 1 (.enqueueSync sampleOwner (sampleUuid '0') sampleSyncRequest "sync".toList)
      2001 (sampleUuid '1') 30 ++
    sampleSession 2 .runSyncWorker 2002 (sampleUuid '2') 60 ++
    sampleSession 3 (.enqueueEvidence ⟨sampleOwner, sampleUuid '0', sampleDigest 'a',
      sampleDigest 'b', "verify".toList, 3⟩) 2003 (sampleUuid '3') 20

/-- The case is archived while a request that has found it available has
still to insert its sync. -/
def sampleArchived : List (Move (caseSystem sampleSha)) :=
  sampleCase ++
    sampleSession 1 (.enqueueSync sampleOwner (sampleUuid '0') sampleSyncRequest "sync".toList)
      2001 (sampleUuid '1') 10 ++
    sampleSession 2 (.archiveCase sampleOwner (sampleUuid '0')) 2002 (sampleUuid '2') 20

/-- More steps of a session that was launched before. -/
def sampleSteps (sid seconds steps : Nat) : List (Move (caseSystem sampleSha)) :=
  List.replicate steps (.run sid (sampleAnswers seconds (sampleUuid '9')))

/-- The store and the sessions after so many moves. -/
def sampleWorld (moves : List (Move (caseSystem sampleSha))) : World (caseSystem sampleSha) :=
  moves.foldl World.step start

theorem sampleWorld_reached (moves : List (Move (caseSystem sampleSha))) :
    Reaches start (sampleWorld moves) :=
  Session.reaches_foldl moves start

end TonTracker
