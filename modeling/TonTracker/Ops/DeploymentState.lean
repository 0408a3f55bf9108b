/-
# `Ops.DeploymentState` — the rollout journal

`LockedDeploymentState` (`ops/deployment_state.py`): the receipt of the
active release, the pending attempt, and the ledger of events, with the
durable steps that change them; what a step does not replace or unlink it
does not touch, and its temporary file is never read.  A document is its
fields.  The bytes of an event stand for their hash, commits and manifest
digests for their patterns; attempt ids are the numbers they write.
Documents are within their size limit.
-/
import Mathlib.Algebra.Order.Ring.Nat
import Mathlib.Data.List.Sort
import TonTracker.Lib.CrashRuns
import TonTracker.Lib.ExceptFold

namespace TonTracker.Deployment

open Session (Machine Prog)
open ExceptFold (check present)

/-! ## Documents -/

/-- `_MAX_LEDGER_EVENTS`. -/
def maxLedgerEvents : Nat := 100000

/-- What `int` reads: at most 4300 digits. -/
def intLimit : Nat := 10 ^ 4300

inductive Raised where
  | deploymentState (text : String)
  | valueError
deriving DecidableEq

/-- The numbers of a tag `v{major}.{minor}.{patch}`. -/
structure Version where
  major : Nat
  minor : Nat
  patch : Nat
deriving DecidableEq

/-- The order of the tuples. -/
def Version.lt (a b : Version) : Prop :=
  a.major < b.major ∨ a.major = b.major ∧
    (a.minor < b.minor ∨ a.minor = b.minor ∧ a.patch < b.patch)

instance (a b : Version) : Decidable (a.lt b) := inferInstanceAs (Decidable (_ ∨ _))

structure DeploymentIdentity where
  tag : Version
  sourceCommit : String
  manifestSha256 : String
deriving DecidableEq

inductive Operation where
  | deployment
  | rollback
deriving DecidableEq

inductive RolloutPhase where
  | prepared
  | initialBootstrapVerified
deriving DecidableEq

abbrev AttemptId : Type := Nat

inductive ReceiptSchema where
  | v1
  | v2
  | v3
  | v4
deriving DecidableEq

/-- `current-deployment.json`. -/
structure Receipt (Digest : Type) where
  schema : ReceiptSchema
  operation : Option Operation
  attemptId : Option AttemptId
  completedAt : Int
  release : DeploymentIdentity
  previousRelease : Option DeploymentIdentity
  ledgerSequence : Option Nat
  ledgerEventSha256 : Option Digest
deriving DecidableEq

inductive AttemptSchema where
  | v1
  | v2
deriving DecidableEq

/-- `pending-deployment.json`. -/
structure Attempt where
  schema : AttemptSchema
  operation : Operation
  attemptId : AttemptId
  startedAt : Int
  baseRelease : Option DeploymentIdentity
  targetRelease : DeploymentIdentity
  rolloutPhase : Option RolloutPhase
deriving DecidableEq

/-- A file of `deployment-events`, decoded. -/
structure Event (Digest : Type) where
  sequence : Nat
  operation : Operation
  attemptId : AttemptId
  completedAt : Int
  baseRelease : Option DeploymentIdentity
  release : DeploymentIdentity
  previousRelease : Option DeploymentIdentity
  previousEventSha256 : Option Digest
deriving DecidableEq

/-- A file of `deployment-events`: the two parts of its name, and what it
holds. -/
structure LedgerFile (Digest : Type) where
  sequence : Nat
  digest : Digest
  event : Event Digest

/-- The state directory; the files of the ledger are in the order of their
names. -/
structure DeploymentDirectory (Digest : Type) where
  receipt : Option (Receipt Digest)
  attempt : Option Attempt
  ledger : Option (List (LedgerFile Digest))

def DeploymentDirectory.empty {Digest : Type} : DeploymentDirectory Digest := ⟨none, none, none⟩

/-- `_LedgerEvent`. -/
structure LedgerEvent (Digest : Type) where
  payload : Event Digest
  sha256 : Digest

/-- `_LedgerSnapshot`. -/
structure LedgerSnapshot (Digest : Type) where
  eventCount : Nat
  previous : Option (LedgerEvent Digest)
  head : Option (LedgerEvent Digest)

/-- SHA-256 of the canonical bytes of an event, and the patterns of a commit
and of a manifest digest. -/
structure DeploymentLibrary (Digest : Type) where
  sha256 : Event Digest → Digest
  identityMatches : DeploymentIdentity → Bool

/-! ## Validation -/

section Validation

variable {Digest : Type} [DecidableEq Digest] (lib : DeploymentLibrary Digest)

/-- `_release_version`. -/
def releaseVersion (identity : DeploymentIdentity) : Except Raised Version := do
  check (identity.tag.major < intLimit ∧ identity.tag.minor < intLimit ∧
    identity.tag.patch < intLimit) .valueError
  return identity.tag

/-- `_validate_identity`. -/
def validateIdentity (identity : DeploymentIdentity) : Except Raised Unit :=
  check (lib.identityMatches identity = true) (.deploymentState "deployment identity is invalid")

/-- The keys each schema has. -/
def Receipt.contract (r : Receipt Digest) : Bool :=
  match r.schema with
  | .v1 => r.operation.isNone && r.attemptId.isNone && r.ledgerSequence.isNone &&
      r.ledgerEventSha256.isNone
  | .v2 => r.operation.isSome && r.attemptId.isNone && r.ledgerSequence.isNone &&
      r.ledgerEventSha256.isNone
  | .v3 => r.operation.isSome && r.attemptId.isSome && r.ledgerSequence.isNone &&
      r.ledgerEventSha256.isNone
  | .v4 => r.operation.isSome && r.attemptId.isSome &&
      r.ledgerSequence.any (fun sequence => decide (1 ≤ sequence ∧ sequence ≤ maxLedgerEvents)) &&
        r.ledgerEventSha256.isSome

/-- `_validate_receipt`. -/
def validateReceipt (r : Receipt Digest) : Except Raised (Receipt Digest) := do
  check (r.contract = true) (.deploymentState "deployment receipt contract is invalid")
  check (lib.identityMatches r.release = true ∧ r.previousRelease.all lib.identityMatches = true ∧
    r.previousRelease ≠ some r.release) (.deploymentState "deployment receipt fields are invalid")
  return r

/-- The keys and the phase of each schema. -/
def Attempt.contract (a : Attempt) : Bool :=
  match a.schema with
  | .v1 => a.rolloutPhase.isNone
  | .v2 => a.rolloutPhase.isSome

/-- `_validate_attempt`. -/
def validateAttempt (a : Attempt) : Except Raised Attempt := do
  check (a.contract = true) (.deploymentState "deployment attempt contract is invalid")
  check (lib.identityMatches a.targetRelease = true ∧
    a.baseRelease.all lib.identityMatches = true ∧
      (a.rolloutPhase = some .initialBootstrapVerified →
        a.baseRelease = none ∧ a.operation = .deployment))
    (.deploymentState "deployment attempt fields are invalid")
  return a

/-- `_attempt_rollout_phase`. -/
def attemptRolloutPhase (a : Attempt) : RolloutPhase := a.rolloutPhase.getD .prepared

/-- `_validate_event`. -/
def validateEvent (e : Event Digest) : Except Raised Unit :=
  check (1 ≤ e.sequence ∧ e.sequence ≤ maxLedgerEvents ∧ lib.identityMatches e.release = true ∧
    e.baseRelease.all lib.identityMatches = true ∧
      e.previousRelease.all lib.identityMatches = true ∧ e.previousRelease ≠ some e.release)
    (.deploymentState "deployment ledger event fields are invalid")

/-- The last two branches of `_validate_event_chain`. -/
def validateTransition (payload prior : Event Digest) : Except Raised Unit :=
  match payload.operation with
  | .rollback => check (some payload.release = prior.previousRelease)
      (.deploymentState "deployment ledger rollback is invalid")
  | .deployment =>
      if payload.release = prior.release then .ok ()
      else do
        let target ← releaseVersion payload.release
        let active ← releaseVersion prior.release
        check (active.lt target) (.deploymentState "deployment ledger deployment is invalid")

/-- `_validate_event_chain`. -/
def validateEventChain (payload : Event Digest) :
    Option (LedgerEvent Digest) → Except Raised Unit
  | none => check (payload.sequence = 1 ∧ payload.previousEventSha256 = none)
      (.deploymentState "deployment ledger genesis is invalid")
  | some prior => do
      check (payload.sequence = prior.payload.sequence + 1 ∧
          payload.previousEventSha256 = some prior.sha256 ∧
            payload.baseRelease = some prior.payload.release)
        (.deploymentState "deployment ledger chain is invalid")
      check (payload.previousRelease =
          if payload.release = prior.payload.release then prior.payload.previousRelease
          else some prior.payload.release)
        (.deploymentState "deployment ledger transition is invalid")
      validateTransition payload prior.payload

/-! ## Reading the directory -/

/-- `current_receipt`. -/
def currentReceipt (d : DeploymentDirectory Digest) : Except Raised (Option (Receipt Digest)) :=
  match d.receipt with
  | none => .ok none
  | some r => some <$> validateReceipt lib r

/-- `current_attempt`. -/
def currentAttempt (d : DeploymentDirectory Digest) : Except Raised (Option Attempt) :=
  match d.attempt with
  | none => .ok none
  | some a => some <$> validateAttempt lib a

/-- One file of the ledger. -/
def readEntry (snapshot : LedgerSnapshot Digest) (file : LedgerFile Digest) :
    Except Raised (LedgerSnapshot Digest) := do
  check (file.sequence = snapshot.eventCount + 1)
    (.deploymentState "deployment ledger sequence is invalid")
  check (lib.sha256 file.event = file.digest)
    (.deploymentState "deployment ledger event digest is invalid")
  validateEvent lib file.event
  check (file.event.sequence = snapshot.eventCount + 1)
    (.deploymentState "deployment ledger sequence is invalid")
  validateEventChain file.event snapshot.head
  return ⟨snapshot.eventCount + 1, snapshot.head, some ⟨file.event, file.digest⟩⟩

/-- `_read_ledger`. -/
def readLedger (d : DeploymentDirectory Digest) : Except Raised (LedgerSnapshot Digest) :=
  match d.ledger with
  | none => .ok ⟨0, none, none⟩
  | some entries => do
      check (entries.length ≤ maxLedgerEvents)
        (.deploymentState "deployment ledger exceeds the event limit")
      entries.foldlM (readEntry lib) ⟨0, none, none⟩

/-- The receipt of an event. -/
def receiptOf (event : LedgerEvent Digest) : Receipt Digest where
  schema := .v4
  operation := some event.payload.operation
  attemptId := some event.payload.attemptId
  completedAt := event.payload.completedAt
  release := event.payload.release
  previousRelease := event.payload.previousRelease
  ledgerSequence := some event.payload.sequence
  ledgerEventSha256 := some event.sha256

/-- `_receipt_from_event`. -/
def receiptFromEvent (event : LedgerEvent Digest) : Except Raised (Receipt Digest) :=
  validateReceipt lib (receiptOf event)

/-- `_receipt_matches_event`. -/
def receiptMatchesEvent (receipt : Option (Receipt Digest)) (event : LedgerEvent Digest) :
    Except Raised Bool := do
  let r ← receiptFromEvent lib event
  return decide (receipt = some r)

/-- `_pending_matches_event`. -/
def pendingMatchesEvent (pending : Attempt) (event : LedgerEvent Digest) : Prop :=
  pending.attemptId = event.payload.attemptId ∧ pending.operation = event.payload.operation ∧
    pending.baseRelease = event.payload.baseRelease ∧ pending.targetRelease = event.payload.release

instance (pending : Attempt) (event : LedgerEvent Digest) :
    Decidable (pendingMatchesEvent pending event) := inferInstanceAs (Decidable (_ ∧ _))

/-- A receipt from before the ledger that has an attempt's release. -/
def legacyReceiptCommitted (receipt : Option (Receipt Digest)) (pending : Attempt) : Bool :=
  receipt.any fun r => decide (r.schema = .v3 ∧ r.attemptId = some pending.attemptId ∧
    r.operation = some pending.operation ∧ r.release = pending.targetRelease ∧
      (pending.baseRelease = some r.release ∨ pending.baseRelease = r.previousRelease))

/-- Whether a receipt is bound to a ledger. -/
def isBound (receipt : Option (Receipt Digest)) : Bool :=
  receipt.any fun r => decide (r.schema = .v4)

/-- The journal over an empty ledger. -/
def validateBase (receipt : Option (Receipt Digest)) : Option Attempt → Except Raised Unit
  | none => .ok ()
  | some a =>
      check (a.baseRelease = receipt.map Receipt.release ∨ legacyReceiptCommitted receipt a = true)
        (.deploymentState "deployment journal base is inconsistent")

/-- `_validate_state_consistency` on an empty ledger. -/
def validateWithoutHead (receipt : Option (Receipt Digest)) (pending : Option Attempt) :
    Except Raised Unit := do
  check (isBound receipt = false) (.deploymentState "deployment receipt ledger head is unavailable")
  validateBase receipt pending

/-- The same where the receipt is that of the head. -/
def validateBound (head : LedgerEvent Digest) : Option Attempt → Except Raised Unit
  | none => .ok ()
  | some a =>
      if a.attemptId = head.payload.attemptId then
        check (pendingMatchesEvent a head)
          (.deploymentState "deployment journal and ledger disagree")
      else check (a.baseRelease = some head.payload.release)
        (.deploymentState "deployment journal base is inconsistent")

/-- The receipt before an event that has none yet. -/
def validatePrior (receipt : Option (Receipt Digest)) :
    Option (LedgerEvent Digest) → Except Raised Unit
  | none => check (isBound receipt = false)
      (.deploymentState "deployment receipt ledger sequence is invalid")
  | some previous => do
      let bound ← receiptMatchesEvent lib receipt previous
      check (bound = true)
        (.deploymentState "deployment receipt is not bound to the prior ledger event")

/-- The same where the head has no receipt yet. -/
def validateUncommitted (receipt : Option (Receipt Digest)) (pending : Option Attempt)
    (previous : Option (LedgerEvent Digest)) (head : LedgerEvent Digest) : Except Raised Unit := do
  check (pending.any (fun a => decide (pendingMatchesEvent a head)) = true)
    (.deploymentState "deployment receipt is not bound to the ledger head")
  validatePrior lib receipt previous
  check (receipt.map Receipt.release = head.payload.baseRelease)
    (.deploymentState "deployment ledger base is inconsistent")

/-- `_validate_state_consistency`. -/
def validateStateConsistency (receipt : Option (Receipt Digest)) (pending : Option Attempt)
    (ledger : LedgerSnapshot Digest) : Except Raised Unit :=
  match ledger.head with
  | none => validateWithoutHead receipt pending
  | some head => do
      let bound ← receiptMatchesEvent lib receipt head
      if bound then validateBound head pending
      else validateUncommitted lib receipt pending ledger.previous head

/-- `validate_consistency`. -/
def validateConsistency (d : DeploymentDirectory Digest) : Except Raised Unit := do
  let receipt ← currentReceipt lib d
  let pending ← currentAttempt lib d
  let ledger ← readLedger lib d
  validateStateConsistency lib receipt pending ledger

/-- `_require_committed_ledger_head`. -/
def requireCommittedLedgerHead (receipt : Option (Receipt Digest))
    (ledger : LedgerSnapshot Digest) : Except Raised Unit :=
  match ledger.head with
  | none => check (isBound receipt = false)
      (.deploymentState "deployment receipt ledger head is unavailable")
  | some head => do
      let bound ← receiptMatchesEvent lib receipt head
      check (bound = true) (.deploymentState "deployment ledger contains an uncommitted event")

/-- `authorize`, without a receipt and with one. -/
def authorize (identity : DeploymentIdentity) (rollback : Bool) (current : Option (Receipt Digest)) :
    Except Raised Unit := do
  validateIdentity lib identity
  match current, rollback with
  | none, true => .error (.deploymentState "rollback requires an existing deployment receipt")
  | none, false => .ok ()
  | some r, true => do
      let previous ← present r.previousRelease
        (.deploymentState "rollback requires an immediately previous release")
      check (identity = previous)
        (.deploymentState "rollback bundle does not match the immediately previous release")
  | some r, false =>
      if identity = r.release then .ok ()
      else do
        let target ← releaseVersion identity
        let active ← releaseVersion r.release
        check (active.lt target)
          (.deploymentState "deployment target must be newer than the current release")

end Validation

/-! ## Durable steps -/

/-- A step that changes what the next process reads. -/
inductive DurableStep (Digest : Type) where
  | replaceReceipt (receipt : Receipt Digest)
  | replaceAttempt (attempt : Attempt)
  | unlinkAttempt
  | mkdirLedger
  | replaceEvent (file : LedgerFile Digest)

/-- A file in its place among the names. -/
def insertByName {Digest : Type} (file : LedgerFile Digest) :
    List (LedgerFile Digest) → List (LedgerFile Digest) :=
  List.orderedInsert (fun a b => a.sequence ≤ b.sequence) file

def DurableStep.commit {Digest : Type} (d : DeploymentDirectory Digest) :
    DurableStep Digest → DeploymentDirectory Digest
  | replaceReceipt receipt => { d with receipt := some receipt }
  | replaceAttempt attempt => { d with attempt := some attempt }
  | unlinkAttempt => { d with attempt := none }
  | mkdirLedger => { d with ledger := some (d.ledger.getD []) }
  | replaceEvent file => { d with ledger := some (insertByName file (d.ledger.getD [])) }

inductive DeploymentQuery where
  /-- `secrets.token_hex(16)`. -/
  | attemptId
  | utcnow

def DeploymentQuery.Answer : DeploymentQuery → Type
  | attemptId => AttemptId
  | utcnow => Int

def machine (Digest : Type) : Machine where
  State := DeploymentDirectory Digest
  Query := DeploymentQuery
  Answer := DeploymentQuery.Answer
  Write := DurableStep Digest
  Result := fun _ => Unit
  commit := fun step d => ((), step.commit d)

abbrev Job (Digest : Type) : Type → Type := ExceptT Raised (Prog (machine Digest))

/-- A `datetime`, and whether it has a time zone. -/
structure Moment where
  instant : Int
  aware : Bool

/-- `DeploymentAttempt`. -/
structure DeploymentAttempt where
  attemptId : AttemptId
  operation : Operation
  initialDeployment : Bool
  rolloutPhase : RolloutPhase
  alreadyCompleted : Bool

section Methods

variable {Digest : Type}

def ask (q : DeploymentQuery) : Job Digest q.Answer :=
  ExceptT.lift (.ask (M := machine Digest) q .done)

def liftChecked {α : Type} (checked : Except Raised α) : Job Digest α := ExceptT.mk (.done checked)

/-- Reading the directory, which no other process changes. -/
def look {α : Type} (checked : DeploymentDirectory Digest → Except Raised α) : Job Digest α := do
  let d ← ExceptT.lift (.read (M := machine Digest) .done)
  liftChecked (checked d)

def durable (step : DurableStep Digest) : Job Digest Unit :=
  ExceptT.lift (.write (M := machine Digest) step .done)

/-- A time that is given, or that of the clock. -/
def momentOr (given : Option Moment) (text : String) : Job Digest Int := do
  match given with
  | some moment =>
      liftChecked (check (moment.aware = true) (.deploymentState text))
      return moment.instant
  | none => ask .utcnow

/-- The receipt, the journal and the ledger, consistent with each other. -/
structure View (Digest : Type) where
  current : Option (Receipt Digest)
  pending : Option Attempt
  ledger : LedgerSnapshot Digest

/-- `_clear_attempt`. -/
def clearAttempt : Job Digest Unit := durable .unlinkAttempt

variable [DecidableEq Digest] (lib : DeploymentLibrary Digest)

/-- What each method reads first. -/
def consistentView (d : DeploymentDirectory Digest) : Except Raised (View Digest) := do
  let current ← currentReceipt lib d
  let pending ← currentAttempt lib d
  let ledger ← readLedger lib d
  validateStateConsistency lib current pending ledger
  return ⟨current, pending, ledger⟩

/-- `_write_ledger_event`. -/
def writeLedgerEvent (payload : Event Digest) : Job Digest (LedgerEvent Digest) := do
  durable .mkdirLedger
  let file : LedgerFile Digest := ⟨payload.sequence, lib.sha256 payload, payload⟩
  look fun d => check ((d.ledger.getD []).all (fun other =>
      decide (other.sequence ≠ file.sequence ∨ other.digest ≠ file.digest)) = true)
    (.deploymentState "deployment ledger event already exists")
  durable (.replaceEvent file)
  return ⟨payload, lib.sha256 payload⟩

/-- The event of a success. -/
def successEvent (view : View Digest) (identity : DeploymentIdentity) (operation : Operation)
    (attemptId : AttemptId) (completed : Int) : Event Digest where
  sequence := (view.ledger.head.map fun head => head.payload.sequence).getD 0 + 1
  operation := operation
  attemptId := attemptId
  completedAt := completed
  baseRelease := view.current.map Receipt.release
  release := identity
  previousRelease := view.current.bind fun r =>
    if r.release = identity then r.previousRelease else some r.release
  previousEventSha256 := view.ledger.head.map LedgerEvent.sha256

/-- What a success requires of the pending attempt. -/
def pendingAllows (view : View Digest) (identity : DeploymentIdentity) (operation : Operation)
    (attemptId : AttemptId) : Prop :=
  ∀ a, view.pending = some a → a.attemptId = attemptId ∧ a.operation = operation ∧
    a.baseRelease = view.current.map Receipt.release ∧ a.targetRelease = identity

instance (view : View Digest) (identity : DeploymentIdentity) (operation : Operation)
    (attemptId : AttemptId) : Decidable (pendingAllows view identity operation attemptId) :=
  match h : view.pending with
  | none => isTrue fun a ha => by rw [h] at ha; cases ha
  | some a => decidable_of_iff (a.attemptId = attemptId ∧ a.operation = operation ∧
      a.baseRelease = view.current.map Receipt.release ∧ a.targetRelease = identity)
      ⟨fun hold b hb => by rw [h] at hb; cases hb; exact hold, fun hold => hold a h⟩

/-- `record_success` of an attempt. -/
def recordSuccess (identity : DeploymentIdentity) (operation : Operation)
    (completedAt : Option Moment) (attemptId : AttemptId) : Job Digest Unit := do
  liftChecked (validateIdentity lib identity)
  let view ← look (consistentView lib)
  liftChecked (requireCommittedLedgerHead lib view.current view.ledger)
  liftChecked (authorize lib identity (operation = .rollback) view.current)
  liftChecked (check (pendingAllows view identity operation attemptId)
    (.deploymentState "pending deployment attempt changed"))
  let completed ← momentOr completedAt "deployment completion time must be timezone-aware"
  let payload := successEvent view identity operation attemptId completed
  liftChecked (validateEvent lib payload)
  liftChecked (validateEventChain payload view.ledger.head)
  let event ← writeLedgerEvent lib payload
  let receipt ← liftChecked (validateReceipt lib (receiptOf event))
  durable (.replaceReceipt receipt)

/-- The attempt that is handed out. -/
def handedOut (pending : Attempt) (alreadyCompleted : Bool) : DeploymentAttempt where
  attemptId := pending.attemptId
  operation := pending.operation
  initialDeployment := pending.baseRelease.isNone
  rolloutPhase := attemptRolloutPhase pending
  alreadyCompleted := alreadyCompleted

/-- An attempt whose event is the head of the ledger. -/
def finishRecorded (view : View Digest) (pending : Attempt) (head : LedgerEvent Digest) :
    Job Digest DeploymentAttempt := do
  let bound ← liftChecked (receiptMatchesEvent lib view.current head)
  if bound then
    clearAttempt
    return handedOut pending true
  else
    let receipt ← liftChecked (receiptFromEvent lib head)
    durable (.replaceReceipt receipt)
    clearAttempt
    return handedOut pending true

/-- A receipt from before the ledger. -/
def legacyRecorded (view : View Digest) (pending : Attempt) : Bool :=
  view.current.any fun r => decide (r.attemptId = some pending.attemptId ∧
    r.release = pending.targetRelease ∧ r.operation = some pending.operation)

/-- `prepare_attempt` where an attempt is pending. -/
def resumeAttempt (view : View Digest) (pending : Attempt) (identity : DeploymentIdentity)
    (operation : Operation) (resume : Bool) : Job Digest DeploymentAttempt := do
  liftChecked (check (resume = true) (.deploymentState
    "an interrupted deployment attempt exists; rerun its exact signed release with the matching operation and --resume"))
  liftChecked (check (pending.targetRelease = identity ∧ pending.operation = operation)
    (.deploymentState "resume bundle or operation does not match the pending attempt"))
  match view.ledger.head.filter (fun head => decide (head.payload.attemptId = pending.attemptId)) with
  | some head => finishRecorded lib view pending head
  | none =>
      if legacyRecorded view pending then
        clearAttempt
        return handedOut pending true
      else
        liftChecked (check (pending.baseRelease = view.current.map Receipt.release)
          (.deploymentState "deployment receipt changed after the pending attempt started"))
        liftChecked (authorize lib identity (operation = .rollback) view.current)
        return handedOut pending false

/-- The journal entry of a new attempt. -/
def newAttempt (view : View Digest) (identity : DeploymentIdentity) (operation : Operation)
    (started : Int) (attemptId : AttemptId) : Attempt where
  schema := .v2
  operation := operation
  attemptId := attemptId
  startedAt := started
  baseRelease := view.current.map Receipt.release
  targetRelease := identity
  rolloutPhase := some .prepared

/-- `prepare_attempt` where none is. -/
def freshAttempt (view : View Digest) (identity : DeploymentIdentity) (operation : Operation)
    (resume : Bool) (startedAt : Option Moment) : Job Digest DeploymentAttempt := do
  liftChecked (check (resume = false)
    (.deploymentState "no interrupted deployment attempt exists"))
  liftChecked (authorize lib identity (operation = .rollback) view.current)
  let started ← momentOr startedAt "deployment start time must be timezone-aware"
  let attemptId ← ask .attemptId
  let payload ← liftChecked
    (validateAttempt lib (newAttempt view identity operation started attemptId))
  durable (.replaceAttempt payload)
  return handedOut payload false

/-- `prepare_attempt`. -/
def prepareAttempt (identity : DeploymentIdentity) (operation : Operation) (resume : Bool)
    (startedAt : Option Moment) : Job Digest DeploymentAttempt := do
  liftChecked (validateIdentity lib identity)
  let view ← look (consistentView lib)
  match view.pending with
  | some pending => resumeAttempt lib view pending identity operation resume
  | none => freshAttempt lib view identity operation resume startedAt

/-- `mark_initial_bootstrap_verified`. -/
def markInitialBootstrapVerified (identity : DeploymentIdentity) (attempt : DeploymentAttempt) :
    Job Digest Unit := do
  liftChecked (validateIdentity lib identity)
  let pending ← look (currentAttempt lib)
  let pending ← liftChecked (present pending
    (.deploymentState "pending deployment attempt is unavailable"))
  liftChecked (check (pending.attemptId = attempt.attemptId ∧ pending.operation = .deployment ∧
      pending.targetRelease = identity ∧ pending.baseRelease = none)
    (.deploymentState "initial deployment attempt changed"))
  let view ← look (consistentView lib)
  liftChecked (check (view.current = none)
    (.deploymentState "initial deployment receipt changed"))
  if attemptRolloutPhase pending = .initialBootstrapVerified then
    return ()
  else
    let checkpoint ← liftChecked (validateAttempt lib
      { pending with schema := .v2, rolloutPhase := some .initialBootstrapVerified })
    durable (.replaceAttempt checkpoint)

/-- `complete_attempt`. -/
def completeAttempt (identity : DeploymentIdentity) (attempt : DeploymentAttempt)
    (completedAt : Option Moment) : Job Digest Unit := do
  liftChecked (validateIdentity lib identity)
  let pending ← look (currentAttempt lib)
  let pending ← liftChecked (present pending
    (.deploymentState "pending deployment attempt is unavailable"))
  liftChecked (check (pending.attemptId = attempt.attemptId ∧
      pending.operation = attempt.operation ∧ pending.targetRelease = identity)
    (.deploymentState "pending deployment attempt changed"))
  let view ← look (consistentView lib)
  liftChecked (check (pending.baseRelease = view.current.map Receipt.release)
    (.deploymentState "deployment receipt changed after the pending attempt started"))
  recordSuccess lib identity attempt.operation completedAt attempt.attemptId
  clearAttempt

end Methods

end TonTracker.Deployment
