/-
# `Deployment.Journal` — the shapes a crash may leave

Between two durable steps the receipt, the journal and the ledger are in one
of four shapes (`Agree`): nothing pending; an attempt that has no event yet;
its event without a receipt; its event with one.  Each of them passes the
consistency check (`consistent_of_sound`).
-/
import Mathlib.Data.List.Chain
import TonTracker.Ops.DeploymentState

namespace TonTracker.Deployment

open ExceptFold (check present check_eq_ok present_eq_ok bind_eq_ok foldlM_inv)

variable {Digest : Type} [DecidableEq Digest] (lib : DeploymentLibrary Digest)

/-! ## The ledger -/

/-- The files of the ledger, none where it has not been made. -/
def DeploymentDirectory.files (d : DeploymentDirectory Digest) : List (LedgerFile Digest) :=
  d.ledger.getD []

/-- The attempts that have events. -/
def DeploymentDirectory.recorded (d : DeploymentDirectory Digest) : List AttemptId :=
  d.files.map fun file => file.event.attemptId

/-- Redeploying the active release, moving to a strictly newer one, or
rolling back to exactly the previous one. -/
def Follows (prior next : Event Digest) : Prop :=
  (next.operation = .deployment ∧ next.release = prior.release) ∨
    (next.operation = .deployment ∧ prior.release.tag.lt next.release.tag) ∨
      (next.operation = .rollback ∧ some next.release = prior.previousRelease)

/-- What a snapshot that was read says of its last two events. -/
structure Read (snapshot : LedgerSnapshot Digest) : Prop where
  fresh : snapshot.head = none → snapshot.eventCount = 0 ∧ snapshot.previous = none
  head : ∀ head, snapshot.head = some head → validateEvent lib head.payload = .ok () ∧
    head.payload.sequence = snapshot.eventCount ∧
      validateEventChain head.payload snapshot.previous = .ok ()
  previous : ∀ previous, snapshot.previous = some previous →
    validateEvent lib previous.payload = .ok () ∧
      previous.payload.sequence + 1 = snapshot.eventCount

/-- A file as the ledger is read. -/
def LedgerFile.entry (file : LedgerFile Digest) : LedgerEvent Digest := ⟨file.event, file.digest⟩

/-- What the files of a ledger that was read are. -/
structure ReadUpTo (files : List (LedgerFile Digest)) (snapshot : LedgerSnapshot Digest) :
    Prop where
  count : snapshot.eventCount = files.length
  read : Read lib snapshot
  bound : ∀ file ∈ files, file.sequence ≤ files.length
  follows : (files.map LedgerFile.event).IsChain Follows
  last : snapshot.head = files.getLast?.map LedgerFile.entry

section Ledger

variable {lib} {d d' : DeploymentDirectory Digest} {snapshot : LedgerSnapshot Digest}

/-- A ledger that was not made is read as an empty one. -/
theorem readLedger_eq (d : DeploymentDirectory Digest) : readLedger lib d = (do
    check (d.files.length ≤ maxLedgerEvents)
      (.deploymentState "deployment ledger exceeds the event limit")
    d.files.foldlM (readEntry lib) ⟨0, none, none⟩) := by
  unfold readLedger DeploymentDirectory.files
  cases d.ledger with
  | none => rfl
  | some files => rfl

theorem readLedger_congr (h : d'.files = d.files) : readLedger lib d' = readLedger lib d := by
  rw [readLedger_eq, readLedger_eq, h]

theorem readEntry_eq_ok {file : LedgerFile Digest} {next : LedgerSnapshot Digest} :
    readEntry lib snapshot file = .ok next ↔
      file.sequence = snapshot.eventCount + 1 ∧ lib.sha256 file.event = file.digest ∧
        validateEvent lib file.event = .ok () ∧ file.event.sequence = snapshot.eventCount + 1 ∧
          validateEventChain file.event snapshot.head = .ok () ∧
            next = ⟨snapshot.eventCount + 1, snapshot.head, some ⟨file.event, file.digest⟩⟩ := by
  unfold readEntry
  constructor
  · intro h
    obtain ⟨_, hsequence, h⟩ := bind_eq_ok.mp h
    obtain ⟨_, hdigest, h⟩ := bind_eq_ok.mp h
    obtain ⟨_, hevent, h⟩ := bind_eq_ok.mp h
    obtain ⟨_, hpayload, h⟩ := bind_eq_ok.mp h
    obtain ⟨_, hchain, h⟩ := bind_eq_ok.mp h
    cases h
    exact ⟨check_eq_ok.mp hsequence, check_eq_ok.mp hdigest, hevent, check_eq_ok.mp hpayload,
      hchain, rfl⟩
  · rintro ⟨hsequence, hdigest, hevent, hpayload, hchain, rfl⟩
    refine bind_eq_ok.mpr ⟨(), check_eq_ok.mpr hsequence, ?_⟩
    refine bind_eq_ok.mpr ⟨(), check_eq_ok.mpr hdigest, ?_⟩
    refine bind_eq_ok.mpr ⟨(), hevent, ?_⟩
    refine bind_eq_ok.mpr ⟨(), check_eq_ok.mpr hpayload, ?_⟩
    exact bind_eq_ok.mpr ⟨(), hchain, rfl⟩

/-- What the chain allows. -/
theorem follows_of_chain {payload : Event Digest} {prior : LedgerEvent Digest}
    (h : validateEventChain payload (some prior) = .ok ()) : Follows prior.payload payload := by
  obtain ⟨_, -, h⟩ := bind_eq_ok.mp h
  obtain ⟨_, -, h⟩ := bind_eq_ok.mp h
  unfold validateTransition at h
  cases hoperation : payload.operation with
  | rollback =>
      rw [hoperation] at h
      exact .inr (.inr ⟨hoperation, check_eq_ok.mp h⟩)
  | deployment =>
      rw [hoperation] at h
      by_cases hsame : payload.release = prior.payload.release
      · exact .inl ⟨hoperation, hsame⟩
      · change (if payload.release = prior.payload.release then _ else _) = _ at h
        rw [if_neg hsame] at h
        obtain ⟨target, htarget, h⟩ := bind_eq_ok.mp h
        obtain ⟨active, hactive, h⟩ := bind_eq_ok.mp h
        obtain ⟨_, -, htarget⟩ := bind_eq_ok.mp htarget
        obtain ⟨_, -, hactive⟩ := bind_eq_ok.mp hactive
        cases htarget
        cases hactive
        exact .inr (.inl ⟨hoperation, check_eq_ok.mp h⟩)

/-- What every round of the loop over the files keeps. -/
theorem read_files {files : List (LedgerFile Digest)}
    (h : files.foldlM (readEntry lib) ⟨0, none, none⟩ = .ok snapshot) :
    ReadUpTo lib files snapshot := by
  have start : ReadUpTo lib [] (⟨0, none, none⟩ : LedgerSnapshot Digest) :=
    ⟨rfl, ⟨fun _ => ⟨rfl, rfl⟩, nofun, nofun⟩, nofun, List.IsChain.nil, rfl⟩
  have step : ∀ done file before next, readEntry lib before file = .ok next →
      ReadUpTo lib done before → ReadUpTo lib (done ++ [file]) next := by
    intro done file before next hstep hdone
    obtain ⟨hsequence, -, hevent, hpayload, hchain, rfl⟩ := readEntry_eq_ok.mp hstep
    refine ⟨by simp [hdone.count], ⟨nofun, ?_, ?_⟩, ?_, ?_, ?_⟩
    · intro head hhead
      cases hhead
      exact ⟨hevent, hpayload, hchain⟩
    · intro previous hprevious
      obtain ⟨hvalid, hnumber, -⟩ := hdone.read.head previous hprevious
      exact ⟨hvalid, congrArg (· + 1) hnumber⟩
    · intro other hother
      rw [List.length_append, List.length_singleton]
      rcases List.mem_append.mp hother with hother | hother
      · exact Nat.le_succ_of_le (hdone.bound other hother)
      · cases List.mem_singleton.mp hother
        rw [hsequence, hdone.count]
    · rw [List.map_append, List.isChain_append]
      refine ⟨hdone.follows, List.isChain_singleton _, ?_⟩
      intro prior hprior next hnext
      cases hnext
      have hprior : (done.map LedgerFile.event).getLast? = some prior := hprior
      rw [List.getLast?_map] at hprior
      obtain ⟨last, hlast, rfl⟩ := Option.map_eq_some_iff.mp hprior
      rw [hdone.last, hlast] at hchain
      exact follows_of_chain hchain
    · rw [List.getLast?_append]
      rfl
  exact foldlM_inv (ReadUpTo lib) step h start

theorem readLedger_eq_ok (h : readLedger lib d = .ok snapshot) :
    d.files.length ≤ maxLedgerEvents ∧
      d.files.foldlM (readEntry lib) ⟨0, none, none⟩ = .ok snapshot := by
  rw [readLedger_eq] at h
  obtain ⟨_, hlength, h⟩ := bind_eq_ok.mp h
  exact ⟨check_eq_ok.mp hlength, h⟩

/-- A file that comes after all others. -/
theorem insertByName_eq_append {file : LedgerFile Digest} {files : List (LedgerFile Digest)}
    (h : ∀ other ∈ files, other.sequence < file.sequence) :
    insertByName file files = files ++ [file] := by
  unfold insertByName
  induction files with
  | nil => rfl
  | cons other rest ih =>
      have hother := h other List.mem_cons_self
      rw [List.orderedInsert_cons, if_neg (Nat.not_le.mpr hother),
        ih fun f hf => h f (List.mem_cons_of_mem _ hf)]
      rfl

/-- The receipt of an event that was read is valid. -/
theorem receiptFromEvent_ok {event : LedgerEvent Digest}
    (h : validateEvent lib event.payload = .ok ()) :
    receiptFromEvent lib event = .ok (receiptOf event) := by
  obtain ⟨hpositive, hlimit, hrelease, -, hprevious, hne⟩ := check_eq_ok.mp h
  unfold receiptFromEvent validateReceipt
  refine bind_eq_ok.mpr ⟨(), check_eq_ok.mpr ?_, ?_⟩
  · simp [Receipt.contract, receiptOf, hpositive, hlimit]
  · exact bind_eq_ok.mpr ⟨(), check_eq_ok.mpr ⟨hrelease, hprevious, hne⟩, rfl⟩

theorem receiptMatchesEvent_ok {event : LedgerEvent Digest} {receipt : Option (Receipt Digest)}
    (h : validateEvent lib event.payload = .ok ()) :
    receiptMatchesEvent lib receipt event = .ok (decide (receipt = some (receiptOf event))) :=
  bind_eq_ok.mpr ⟨_, receiptFromEvent_ok h, rfl⟩

end Ledger

/-! ## The shapes -/

/-- The release the receipt of a head carries. -/
def headRelease (head : Option (LedgerEvent Digest)) : Option DeploymentIdentity :=
  head.map fun event => event.payload.release

/-- An attempt that has no event yet, and may have one. -/
structure Prepared (d : DeploymentDirectory Digest) (head : Option (LedgerEvent Digest))
    (a : Attempt) : Prop where
  base : a.baseRelease = headRelease head
  allowed : authorize lib a.targetRelease (a.operation = .rollback) (head.map receiptOf) = .ok ()
  new : a.attemptId ∉ d.recorded

/-- How the receipt, the journal and the ledger stand to each other. -/
inductive Agree (d : DeploymentDirectory Digest) (snapshot : LedgerSnapshot Digest) : Prop where
  | idle (receipt : d.receipt = snapshot.head.map receiptOf) (attempt : d.attempt = none)
  | prepared (a : Attempt) (receipt : d.receipt = snapshot.head.map receiptOf)
      (attempt : d.attempt = some a) (ready : Prepared lib d snapshot.head a)
  | written (a : Attempt) (head : LedgerEvent Digest) (there : snapshot.head = some head)
      (receipt : d.receipt = snapshot.previous.map receiptOf) (attempt : d.attempt = some a)
      (hmatches : pendingMatchesEvent a head) (base : a.baseRelease = headRelease snapshot.previous)
  | bound (a : Attempt) (head : LedgerEvent Digest) (there : snapshot.head = some head)
      (receipt : d.receipt = some (receiptOf head)) (attempt : d.attempt = some a)
      (hmatches : pendingMatchesEvent a head)

/-- The directory holds what a rollout may have left. -/
structure Holds (d : DeploymentDirectory Digest) (snapshot : LedgerSnapshot Digest) : Prop where
  ledger : readLedger lib d = .ok snapshot
  once : d.recorded.Nodup
  journal : ∀ a, d.attempt = some a → validateAttempt lib a = .ok a
  agree : Agree lib d snapshot

def Sound (d : DeploymentDirectory Digest) : Prop := ∃ snapshot, Holds lib d snapshot

section Shapes

variable {lib} {d : DeploymentDirectory Digest} {snapshot : LedgerSnapshot Digest}

theorem Holds.read (h : Holds lib d snapshot) : Read lib snapshot :=
  (read_files (readLedger_eq_ok h.ledger).2).read

theorem Holds.count (h : Holds lib d snapshot) : snapshot.eventCount = d.files.length :=
  (read_files (readLedger_eq_ok h.ledger).2).count

theorem head_recorded (h : Holds lib d snapshot) {head : LedgerEvent Digest}
    (hhead : snapshot.head = some head) : head.payload.attemptId ∈ d.recorded := by
  have hlast := (read_files (readLedger_eq_ok h.ledger).2).last
  rw [hhead] at hlast
  obtain ⟨file, hfile, rfl⟩ := Option.map_eq_some_iff.mp hlast.symm
  exact List.mem_map.mpr ⟨file, List.mem_of_getLast? hfile, rfl⟩

/-- Where nothing is pending the receipt is that of the head. -/
theorem Holds.settled (h : Holds lib d snapshot) (hattempt : d.attempt = none) :
    d.receipt = snapshot.head.map receiptOf := by
  cases h.agree with
  | idle receipt => exact receipt
  | prepared _ receipt => exact receipt
  | written a _ _ _ attempt => cases attempt.symm.trans hattempt
  | bound a _ _ _ attempt => cases attempt.symm.trans hattempt

/-- A pending attempt that has no event may have one. -/
theorem Holds.ready (h : Holds lib d snapshot) {a : Attempt} (hattempt : d.attempt = some a)
    (hnew : a.attemptId ∉ d.recorded) :
    d.receipt = snapshot.head.map receiptOf ∧ Prepared lib d snapshot.head a := by
  cases h.agree with
  | idle _ attempt => cases attempt.symm.trans hattempt
  | prepared b receipt attempt ready =>
      cases attempt.symm.trans hattempt
      exact ⟨receipt, ready⟩
  | written b head there _ attempt hmatches =>
      cases attempt.symm.trans hattempt
      exact absurd (hmatches.1 ▸ head_recorded h there) hnew
  | bound b head there _ attempt hmatches =>
      cases attempt.symm.trans hattempt
      exact absurd (hmatches.1 ▸ head_recorded h there) hnew

/-- The receipt of a sound directory is that of one of the last two
events. -/
theorem Holds.receipt (h : Holds lib d snapshot) :
    d.receipt = snapshot.head.map receiptOf ∨
      d.receipt = snapshot.previous.map receiptOf := by
  cases h.agree with
  | idle receipt => exact .inl receipt
  | prepared _ receipt => exact .inl receipt
  | written _ _ _ receipt => exact .inr receipt
  | bound _ head there receipt =>
      refine .inl ?_
      rw [there]
      exact receipt

theorem currentReceipt_ok (h : Holds lib d snapshot) : currentReceipt lib d = .ok d.receipt := by
  have valid : ∀ event : LedgerEvent Digest, validateEvent lib event.payload = .ok () →
      d.receipt = some (receiptOf event) → currentReceipt lib d = .ok d.receipt := by
    intro event hevent hreceipt
    unfold currentReceipt
    rw [hreceipt]
    show some <$> receiptFromEvent lib event = _
    rw [receiptFromEvent_ok hevent]
    rfl
  have absent : d.receipt = none → currentReceipt lib d = .ok d.receipt := by
    intro hreceipt
    unfold currentReceipt
    rw [hreceipt]
  rcases h.receipt with hreceipt | hreceipt
  · cases hhead : snapshot.head with
    | none => exact absent (by rw [hreceipt, hhead]; rfl)
    | some head =>
        exact valid head (h.read.head head hhead).1 (by rw [hreceipt, hhead]; rfl)
  · cases hprevious : snapshot.previous with
    | none => exact absent (by rw [hreceipt, hprevious]; rfl)
    | some previous =>
        exact valid previous (h.read.previous previous hprevious).1
          (by rw [hreceipt, hprevious]; rfl)

theorem currentAttempt_ok (h : Holds lib d snapshot) : currentAttempt lib d = .ok d.attempt := by
  unfold currentAttempt
  cases hattempt : d.attempt with
  | none => rfl
  | some a =>
      show some <$> validateAttempt lib a = _
      rw [h.journal a hattempt]
      rfl

/-- An event and the one before it have different receipts. -/
theorem receipt_ne_head (hread : Read lib snapshot) {head : LedgerEvent Digest}
    (hhead : snapshot.head = some head) :
    snapshot.previous.map receiptOf ≠ some (receiptOf head) := by
  intro heq
  obtain ⟨previous, hprevious, heq⟩ := Option.map_eq_some_iff.mp heq
  have hsequence : previous.payload.sequence = head.payload.sequence :=
    Option.some.inj (congrArg Receipt.ledgerSequence heq)
  have hprior := (hread.previous previous hprevious).2
  have hlast := (hread.head head hhead).2.1
  omega

/-- Each shape passes the check. -/
theorem validate_ok (h : Holds lib d snapshot) :
    validateStateConsistency lib d.receipt d.attempt snapshot = .ok () := by
  have hread := h.read
  unfold validateStateConsistency
  cases h.agree with
  | idle receipt attempt =>
      rw [receipt, attempt]
      cases hhead : snapshot.head with
      | none => rfl
      | some head =>
          refine bind_eq_ok.mpr ⟨true, ?_, rfl⟩
          rw [receiptMatchesEvent_ok (hread.head head hhead).1]
          simp
  | prepared a receipt attempt ready =>
      rw [receipt, attempt]
      cases hhead : snapshot.head with
      | none =>
          refine bind_eq_ok.mpr ⟨(), rfl, check_eq_ok.mpr (.inl ?_)⟩
          rw [ready.base, hhead]
          rfl
      | some head =>
          refine bind_eq_ok.mpr ⟨true, ?_, ?_⟩
          · rw [receiptMatchesEvent_ok (hread.head head hhead).1]
            simp
          · have hne : a.attemptId ≠ head.payload.attemptId := fun heq =>
              ready.new (heq ▸ head_recorded h hhead)
            show (if a.attemptId = head.payload.attemptId then _ else _) = _
            rw [if_neg hne]
            refine check_eq_ok.mpr ?_
            rw [ready.base, hhead]
            rfl
  | written a head there receipt attempt hmatches base =>
      rw [receipt, attempt, there]
      refine bind_eq_ok.mpr ⟨false, ?_, ?_⟩
      · rw [receiptMatchesEvent_ok (hread.head head there).1]
        exact congrArg Except.ok (decide_eq_false (receipt_ne_head hread there))
      · refine bind_eq_ok.mpr ⟨(), check_eq_ok.mpr (by simpa using hmatches), ?_⟩
        refine bind_eq_ok.mpr ⟨(), ?_, check_eq_ok.mpr ?_⟩
        · cases hprevious : snapshot.previous with
          | none => rfl
          | some previous =>
              refine bind_eq_ok.mpr ⟨true, ?_, rfl⟩
              rw [receiptMatchesEvent_ok (hread.previous previous hprevious).1]
              simp
        · rw [← hmatches.2.2.1, base]
          cases snapshot.previous <;> rfl
  | bound a head there receipt attempt hmatches =>
      rw [receipt, attempt, there]
      refine bind_eq_ok.mpr ⟨true, ?_, ?_⟩
      · rw [receiptMatchesEvent_ok (hread.head head there).1]
        simp
      · show (if a.attemptId = head.payload.attemptId then _ else _) = _
        rw [if_pos hmatches.1]
        exact check_eq_ok.mpr hmatches

/-- Every sound directory passes `validate_consistency`, and is what each
method then works from. -/
theorem consistentView_ok (h : Holds lib d snapshot) :
    consistentView lib d = .ok ⟨d.receipt, d.attempt, snapshot⟩ := by
  unfold consistentView
  refine bind_eq_ok.mpr ⟨_, currentReceipt_ok h, ?_⟩
  refine bind_eq_ok.mpr ⟨_, currentAttempt_ok h, ?_⟩
  refine bind_eq_ok.mpr ⟨_, h.ledger, ?_⟩
  exact bind_eq_ok.mpr ⟨(), validate_ok h, rfl⟩

theorem consistent_of_sound (h : Sound lib d) : validateConsistency lib d = .ok () := by
  obtain ⟨snapshot, h⟩ := h
  unfold validateConsistency
  refine bind_eq_ok.mpr ⟨_, currentReceipt_ok h, ?_⟩
  refine bind_eq_ok.mpr ⟨_, currentAttempt_ok h, ?_⟩
  exact bind_eq_ok.mpr ⟨_, h.ledger, validate_ok h⟩

theorem sound_empty : Sound lib (DeploymentDirectory.empty : DeploymentDirectory Digest) :=
  ⟨⟨0, none, none⟩, rfl, List.nodup_nil, nofun, .idle rfl rfl⟩

end Shapes

end TonTracker.Deployment
