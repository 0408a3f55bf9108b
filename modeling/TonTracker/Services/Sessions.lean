/-
# `Services.Sessions` — what the services run on

The store as a machine of `Lib.Session`: a session asks its environment
for the time, for fresh ids, for the runtime settings, for what the
provider and the proof services return, and whether a statement fails for
reasons of the database; it reads the store, and it commits the
transactions of `Services.CaseTransactions`.
-/
import TonTracker.Lib.Session
import TonTracker.Services.CaseTransactions
import TonTracker.Services.IngestionRun

namespace TonTracker

open Session (Machine Prog)

/-- The clock, with the ends a lease and a retry delay taken then have. -/
structure Tick where
  now : Instant
  leaseUntil : Instant
  retryAt : Instant
deriving DecidableEq

/-- `_settings_for_case`: what a session uses of the runtime's settings. -/
structure RuntimeSettings where
  maxAttempts : Nat
  queuedProvider : Text
  activity : ActivitySettings

/-- The activity transaction a verification is about. -/
structure ResolvedActivity where
  snapshotSyncId : Nat
  sourceSyncId : Nat
  sourceTransactionId : Nat
  semanticFingerprint : HexDigest
deriving DecidableEq

/-- `_revalidate_selection`. -/
inductive SelectionCheck where
  | valid
  | runtimeUnavailable (message : Text)
  | invalid
deriving DecidableEq

/-- What a proof operation returned, or what it raised as `_is_retryable`,
`_error_code` and `_safe_error` see it. -/
inductive OperationOutcome where
  | returned (id : Nat) (digest : HexDigest) (trusted : Bool)
  | raised (retryable : Bool) (code message : Text)
deriving DecidableEq

/-- The questions that are answered with yes or no: whether the worker was
asked to stop, whether a statement fails, whether the stored artifacts of
a verification revalidate. -/
inductive Flag where
  | stopRequested
  | storageFails
  | artifactsValid
deriving DecidableEq

inductive Query where
  | clock
  | publicId
  | settings
  | canonicalWallet
  | providerAnswers
  | flag (f : Flag)
  | heartbeats
  | resultDigest
  | selection
  | resolvedActivity
  | proofOperation (stage : EvidenceStage)
deriving DecidableEq

/-- What a question is answered with. -/
def Query.Answer : Query → Type
  | clock => Tick
  | publicId => Uuid
  | settings => Except Text RuntimeSettings
  | canonicalWallet => Except Text Text
  | providerAnswers => ProviderAnswers
  | flag _ => Bool
  | heartbeats => Nat
  | resultDigest => HexDigest
  | selection => SelectionCheck
  | resolvedActivity => Except Text ResolvedActivity
  | proofOperation _ => OperationOutcome

/-- The store as a machine. -/
def caseMachine : Machine where
  State := Store
  Query := Query
  Answer := Query.Answer
  Write := Write
  Result := fun _ => WriteResult
  commit := Write.commit

/-- A session of the services. -/
abbrev Job : Type → Type := Prog caseMachine

/-- A session that may raise. -/
abbrev Raising (ε : Type) : Type → Type := ExceptT ε Job

variable {ε : Type}

def ask (q : Query) : Job q.Answer := .ask q .done

def readStore : Job Store := .read .done

def commitWrite (w : Write) : Job WriteResult := .write w .done

/-- A question in a session that may raise. -/
def askR (q : Query) : Raising ε q.Answer := ExceptT.lift (ask q)

/-- A question answered with yes or no. -/
def askFlag (f : Flag) : Raising ε Bool := ExceptT.lift (ask (.flag f))

/-- A `SELECT` in a session that may raise. -/
def readR : Raising ε Store := ExceptT.lift readStore

/-- A transaction in a session that may raise. -/
def commitR (w : Write) : Raising ε WriteResult := ExceptT.lift (commitWrite w)

/-! ## Which writes a session makes -/

section All

variable {inv : Store → Prop} {P : Write → Prop}

theorem all_askR (q : Query) : (askR (ε := ε) q).run.All inv P := fun _ => trivial

theorem all_askFlag (f : Flag) : (askFlag (ε := ε) f).run.All inv P := fun _ => trivial

theorem all_readR : (readR (ε := ε)).run.All inv P := fun _ _ => trivial

theorem all_commitR {w : Write} (h : P w) : (commitR (ε := ε) w).run.All inv P :=
  ⟨h, fun _ => trivial⟩

end All

end TonTracker
