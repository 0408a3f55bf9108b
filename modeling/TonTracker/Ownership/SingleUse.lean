/-
# `Ownership.SingleUse` — a challenge is used once, by the proof it binds

Any number of sessions create challenges and verify proofs; a
verification pauses wherever it reads, asks or commits.  Each is a program
that commits last (`verify_commitsLast`): what it would consume the row
with is authorised by the checks it has made, and the row is the one it
checked, since the update names every field.  `Honest` carries that to
every world that is reached.
-/
import TonTracker.Services.WalletOwnershipProof

namespace TonTracker

open Session (System World Move Prog)
open Relational (Table)
open ByteMessages (Bytes encode toLittle toBigSigned)
open ExceptFold (check_eq_ok present_eq_ok)

/-! ## The message of a proof -/

/-- The bytes that are signed determine what they are about. -/
theorem tonProofMessage_inj {a b : TonAddress} {p q : TonProofRecord} {message : Bytes}
    (hlen : a.hashPart.length = 32) (hlen' : b.hashPart.length = 32)
    (hp : tonProofMessage a p = some message) (hq : tonProofMessage b q = some message) :
    a = b ∧ p.domain.value = q.domain.value ∧ p.timestamp = q.timestamp ∧
      p.payload = q.payload := by
  unfold tonProofMessage at hp hq
  simp only [Option.bind_eq_bind, Option.bind_eq_some_iff, Option.pure_def] at hp hq
  obtain ⟨wc, hwc, size, hsize, timestamp, htimestamp, hp⟩ := hp
  obtain ⟨wc', hwc', size', hsize', timestamp', htimestamp', hq⟩ := hq
  have h := Option.some.inj (hp.trans hq.symm)
  obtain ⟨-, h⟩ := List.append_inj h rfl
  obtain ⟨hwcs, h⟩ := List.append_inj h
    ((ByteMessages.length_toBigSigned hwc).trans (ByteMessages.length_toBigSigned hwc').symm)
  obtain ⟨hhash, h⟩ := List.append_inj h (hlen.trans hlen'.symm)
  obtain ⟨hdomain, h⟩ := ByteMessages.sized_inj hsize hsize' h
  obtain ⟨htimes, hpayload⟩ := List.append_inj h
    ((ByteMessages.length_toLittle htimestamp).trans
      (ByteMessages.length_toLittle htimestamp').symm)
  rw [← hwcs] at hwc'
  rw [← htimes] at htimestamp'
  have haddress : a = b := by
    cases a
    cases b
    exact congrArg₂ TonAddress.mk (ByteMessages.toBigSigned_inj hwc hwc') hhash
  exact ⟨haddress, ByteMessages.encode_inj hdomain,
    ByteMessages.toLittle_inj htimestamp htimestamp', ByteMessages.encode_inj hpayload⟩

/-! ## Calls -/

inductive OwnershipEntry where
  | create (expectedWallet : Option String)
  | verify (challengeId : String) (value : ProofRequest)

/-- What a call returns or raises, with the call it answers. -/
inductive OwnershipReply where
  | created (result : Except OwnershipRaised ChallengeResponse)
  | verified (challengeId : String) (value : ProofRequest)
      (result : Except OwnershipRaised VerifiedOwnership)

def ownershipSystem (lib : OwnershipLibrary) : System (ownershipMachine lib) where
  Entry := OwnershipEntry
  Reply := OwnershipReply
  program := fun _ entry =>
    match entry with
    | .create expectedWallet => .created <$> (createOwnershipChallenge lib expectedWallet).run
    | .verify challengeId value =>
        .verified challengeId value <$> (verifyOwnershipProof lib challengeId value).run

/-- No call has started, and no challenge is stored. -/
def ownershipStart (lib : OwnershipLibrary) : World (ownershipSystem lib) := ⟨Table.empty, []⟩

variable {lib : OwnershipLibrary}

/-! ## What a verification has checked -/

/-- The proof is one for the challenge, in time, signed by a key of its
wallet. -/
structure Authorised (lib : OwnershipLibrary) (value : ProofRequest)
    (challenge : ChallengeSnapshot) (wallet : String) (verifiedAt : Instant) : Prop where
  inTime : verifiedAt ≤ challenge.expiresAt
  network : value.network = challenge.expectedNetwork
  domain : value.proof.domain.value = challenge.expectedDomain
  payload : value.proof.payload = challenge.payload
  expected : challenge.expectedWallet = none ∨ challenge.expectedWallet = some wallet
  signed : ∃ address root signature key message,
    lib.address value.address = some address ∧ lib.rawText address = wallet ∧
      oneBocBase64 lib value.walletStateInit = .ok root ∧ lib.stateInit root = some true ∧
      (lib.cellHash root).1 = address.hashPart ∧
      canonicalBase64 lib value.proof.signature (some 64) = .ok signature ∧
      lib.keyOf challenge.expectedNetwork wallet key ∧
      tonProofMessage address value.proof = some message ∧
      lib.verifies key (lib.digest (tonConnectTag ++ lib.digest message)) signature = true

/-- What the checks before the key is resolved have established. -/
theorem acceptProof_ok {now : Instant} {found : Option (Nat × ChallengeRow)}
    {value : ProofRequest} {accepted : AcceptedProof}
    (h : acceptProof lib now found value = .ok accepted) :
    ∃ id row root, found = some (id, row) ∧ accepted.snapshot = challengeSnapshot id row ∧
      value.network = row.expectedNetwork ∧ lib.address value.address = some accepted.address ∧
      accepted.canonical = lib.rawText accepted.address ∧
      (row.expectedWallet = none ∨ row.expectedWallet = some accepted.canonical) ∧
      value.proof.payload = row.payload ∧ value.proof.domain.value = row.expectedDomain ∧
      oneBocBase64 lib value.walletStateInit = .ok root ∧ lib.stateInit root = some true ∧
      (lib.cellHash root).1 = accepted.address.hashPart ∧
      canonicalBase64 lib value.proof.signature (some 64) = .ok accepted.signature := by
  unfold acceptProof at h
  obtain ⟨⟨id, row⟩, hfound, h⟩ := ExceptFold.bind_eq_ok.mp h
  obtain ⟨-, -, h⟩ := ExceptFold.bind_eq_ok.mp h
  obtain ⟨-, -, h⟩ := ExceptFold.bind_eq_ok.mp h
  obtain ⟨-, -, h⟩ := ExceptFold.bind_eq_ok.mp h
  obtain ⟨_, hnetwork, h⟩ := ExceptFold.bind_eq_ok.mp h
  obtain ⟨address, haddress, h⟩ := ExceptFold.bind_eq_ok.mp h
  obtain ⟨_, hexpected, h⟩ := ExceptFold.bind_eq_ok.mp h
  obtain ⟨_, hscope, h⟩ := ExceptFold.bind_eq_ok.mp h
  obtain ⟨root, hroot, h⟩ := ExceptFold.bind_eq_ok.mp h
  obtain ⟨left, hleft, h⟩ := ExceptFold.bind_eq_ok.mp h
  obtain ⟨_, hbinding, h⟩ := ExceptFold.bind_eq_ok.mp h
  obtain ⟨signature, hsignature, h⟩ := ExceptFold.bind_eq_ok.mp h
  obtain ⟨-, -, h⟩ := ExceptFold.bind_eq_ok.mp h
  cases h
  obtain ⟨rfl, hhash⟩ := check_eq_ok.mp hbinding
  have hscope := check_eq_ok.mp hscope
  simp only [proofScopeValid, Bool.and_eq_true, decide_eq_true_iff] at hscope
  obtain ⟨⟨⟨⟨hpayload, hdomain⟩, -⟩, -⟩, -⟩ := hscope
  exact ⟨id, row, root, present_eq_ok.mp hfound, rfl, check_eq_ok.mp hnetwork,
    present_eq_ok.mp haddress, rfl, check_eq_ok.mp hexpected, hpayload, hdomain, hroot,
    present_eq_ok.mp hleft, hhash, hsignature⟩

/-- A verification returned. -/
def OwnershipReply.proved : OwnershipReply → Option (String × ProofRequest × VerifiedOwnership)
  | verified challengeId value (.ok result) => some (challengeId, value, result)
  | _ => none

/-- The call returned. -/
def OwnershipReply.succeeded : OwnershipReply → Bool
  | created result => result.isOk
  | verified _ _ result => result.isOk

/-- What a call may commit, and what it replies to the number of rows. -/
def Attempt (lib : OwnershipLibrary) : OwnershipWrite → (Nat → OwnershipReply) → Prop
  | .insertChallenge row, reply =>
      row.consumedAt = none ∧ (∀ count, (reply count).proved = none) ∧
        (reply 1).succeeded = true
  | .consume snapshot verifiedAt canonical _, reply =>
      ∃ value, Authorised lib value snapshot canonical verifiedAt ∧
        reply 1 = .verified snapshot.challengeId value (.ok ⟨snapshot.challengeId, canonical,
          snapshot.expectedNetwork, snapshot.expectedDomain, verifiedAt⟩) ∧
        ∀ count, count ≠ 1 → (reply count).proved = none

/-- A call under way, or one that failed. -/
def Pending (lib : OwnershipLibrary) (p : Prog (ownershipMachine lib) OwnershipReply) : Prop :=
  p.CommitsLast (fun reply => reply.proved = none) (Attempt lib)

/-- The same of a call, before its result is wrapped up. -/
def Commits (lib : OwnershipLibrary) {α : Type} (wrap : Except OwnershipRaised α → OwnershipReply)
    (p : OwnershipJob lib α) : Prop :=
  p.run.CommitsLast (fun result => (wrap result).proved = none) fun w reply =>
    Attempt lib w fun count => wrap (reply count)

section Commits

variable {α β : Type} {wrap : Except OwnershipRaised α → OwnershipReply}
  (hwrap : ∀ raised, (wrap (.error raised)).proved = none)

include hwrap

theorem commits_bind {p : OwnershipJob lib β} {f : β → OwnershipJob lib α}
    (hp : p.run.All (fun _ => True) fun _ => False) (hf : ∀ value, Commits lib wrap (f value)) :
    Commits lib wrap (p >>= f) :=
  Prog.commitsLast_bindExcept hp hwrap hf

/-- Checks go on with what they establish. -/
theorem commits_checks {checked : Except OwnershipRaised β} {f : β → OwnershipJob lib α}
    (hf : ∀ value, checked = .ok value → Commits lib wrap (f value)) :
    Commits lib wrap (liftChecks lib checked >>= f) := by
  cases checked with
  | error raised => exact hwrap raised
  | ok value => exact hf value rfl

/-- The transaction at the end. -/
theorem commits_commit {w : OwnershipWrite} {f : Nat → OwnershipJob lib α}
    {reply : Nat → Except OwnershipRaised α} (hf : ∀ count, (f count).run = .done (reply count))
    (hw : Attempt lib w fun count => wrap (reply count)) :
    Commits lib wrap (commitOwnership lib w >>= f) := by
  intro fails
  cases fails with
  | true => exact hwrap .other
  | false => exact ⟨reply, hw, hf⟩

/-- The end of both programs. -/
theorem commits_checked {w : OwnershipWrite} {value : α} {raised : OwnershipRaised}
    (hw : Attempt lib w fun count => wrap (if count = 1 then .ok value else .error raised)) :
    Commits lib wrap (do
      let count ← commitOwnership lib w
      liftChecks lib (ExceptFold.check (count = 1) raised)
      return value) := by
  refine commits_commit hwrap (fun count => ?_) hw
  unfold ExceptFold.check
  split <;> rfl

end Commits

theorem create_pending (expectedWallet : Option String) :
    Pending lib (.created <$> (createOwnershipChallenge lib expectedWallet).run) := by
  refine Prog.commitsLast_map ?_
  show Commits lib .created _
  have hwrap : ∀ raised, (OwnershipReply.created (.error raised)).proved = none := fun _ => rfl
  refine commits_bind hwrap (fun _ => trivial) fun settings => ?_
  refine commits_checks hwrap fun canonical _ => ?_
  refine commits_bind hwrap (fun _ => trivial) fun now => ?_
  refine commits_bind hwrap (fun _ => trivial) fun payload => ?_
  refine commits_bind hwrap (fun _ => trivial) fun challengeId => ?_
  refine commits_checks hwrap fun expiresAt _ => ?_
  exact commits_checked hwrap ⟨rfl, fun count => rfl, rfl⟩

theorem verify_pending (challengeId : String) (value : ProofRequest) :
    Pending lib (.verified challengeId value <$> (verifyOwnershipProof lib challengeId value).run) := by
  refine Prog.commitsLast_map ?_
  show Commits lib (.verified challengeId value) _
  have hwrap : ∀ raised, (OwnershipReply.verified challengeId value (.error raised)).proved = none :=
    fun _ => rfl
  refine commits_bind hwrap (fun _ _ => trivial) fun t => ?_
  refine commits_bind hwrap (fun _ => trivial) fun now => ?_
  refine commits_checks hwrap fun accepted haccepted => ?_
  refine commits_bind hwrap (fun _ => trivial) fun key => ?_
  refine commits_checks hwrap fun key hkey => ?_
  refine commits_checks hwrap fun _ hsigned => ?_
  refine commits_bind hwrap (fun _ => trivial) fun verifiedAt => ?_
  refine commits_bind hwrap (fun _ _ => trivial) fun current => ?_
  refine commits_checks hwrap fun _ hopen => ?_
  obtain ⟨id, row, root, hfound, hsnapshot, hnetwork, haddress, hcanonical, hexpected, hpayload,
    hdomain, hroot, hinit, hhash, hsignature⟩ := acceptProof_ok haccepted
  have hid : challengeId = accepted.snapshot.challengeId := by
    obtain ⟨-, hfind⟩ := t.find?_eq_some hfound
    rw [hsnapshot]
    exact (of_decide_eq_true hfind).symm
  have hauthorised : Authorised lib value accepted.snapshot accepted.canonical verifiedAt := by
    obtain ⟨row', -, hopen⟩ := (Option.any_eq_true _ _).mp (check_eq_ok.mp hopen)
    simp only [Bool.and_eq_true, decide_eq_true_iff] at hopen
    obtain ⟨⟨-, hsame⟩, htime⟩ := hopen
    obtain ⟨digest, hdigest, hverifies⟩ := (Option.any_eq_true _ _).mp (check_eq_ok.mp hsigned)
    obtain ⟨message, hmessage, hdigest⟩ := Option.bind_eq_some_iff.mp hdigest
    refine ⟨hsame ▸ htime, hsnapshot ▸ hnetwork, hsnapshot ▸ hdomain, hsnapshot ▸ hpayload,
      hsnapshot ▸ hexpected, accepted.address, root, accepted.signature, key.1, message, haddress,
      hcanonical.symm, hroot, hinit, hhash, hsignature, key.2, hmessage, ?_⟩
    rw [Option.some.inj hdigest]
    exact hverifies
  refine commits_checked hwrap ⟨value, hauthorised, ?_, ?_⟩
  · show OwnershipReply.verified challengeId value (if 1 = 1 then _ else _) = _
    rw [if_pos rfl, hid]
  · intro count hcount
    show (OwnershipReply.verified challengeId value (if count = 1 then _ else _)).proved = none
    rw [if_neg hcount]
    rfl

/-! ## Transactions -/

/-- The row after the update. -/
def ChallengeRow.consumedBy (row : ChallengeRow) (verifiedAt : Instant) (canonical : String)
    (signatureDigest : Bytes) : ChallengeRow :=
  { row with
    consumedAt := some verifiedAt
    verifiedWallet := some canonical
    signatureDigest := some signatureDigest }

/-- An insert adds a challenge of a new id, or does nothing. -/
theorem commit_insertChallenge (t : Table ChallengeRow) (row : ChallengeRow) :
    (OwnershipWrite.insertChallenge row).commit t = (0, t) ∨
      ((OwnershipWrite.insertChallenge row).commit t = (1, t.insert row) ∧
        ∀ id other, t.get? id = some other → other.challengeId ≠ row.challengeId) := by
  unfold OwnershipWrite.commit
  dsimp only
  split
  · exact .inl rfl
  · next hfind =>
      refine .inr ⟨rfl, fun id other hother heq => ?_⟩
      have hnone := (t.find?_eq_none).mp (Option.not_isSome_iff_eq_none.mp hfind) id other hother
      simp [collides, heq] at hnone

/-- The update consumes the row that was checked, or does nothing. -/
theorem commit_consume (t : Table ChallengeRow) (snapshot : ChallengeSnapshot)
    (verifiedAt : Instant) (canonical : String) (digest : Bytes) :
    (∃ count, count ≠ 1 ∧
        (OwnershipWrite.consume snapshot verifiedAt canonical digest).commit t = (count, t)) ∨
      ∃ row t', (OwnershipWrite.consume snapshot verifiedAt canonical digest).commit t = (1, t') ∧
        t.get? snapshot.id = some row ∧ row.consumedAt = none ∧
        challengeSnapshot snapshot.id row = snapshot ∧
        ∀ id, t'.get? id =
          if id = snapshot.id then some (row.consumedBy verifiedAt canonical digest)
          else t.get? id := by
  unfold OwnershipWrite.commit
  dsimp only
  split
  · next hcount => exact .inl ⟨_, hcount, rfl⟩
  · next hcount =>
      have hcount := not_not.mp hcount
      have hcount' := hcount
      rw [t.rowcount_pinned] at hcount
      split at hcount
      case isFalse => cases hcount
      case isTrue hany =>
        obtain ⟨row, hrow, hsame⟩ := (Option.any_eq_true _ _).mp hany
        have hsnapshot : challengeSnapshot snapshot.id row = snapshot := by
          simp only [ChallengeSnapshot.unchanged, Bool.and_eq_true, decide_eq_true_iff] at hsame
          obtain ⟨⟨⟨⟨⟨⟨⟨⟨-, h₁⟩, h₂⟩, h₃⟩, h₄⟩, h₅⟩, h₆⟩, h₇⟩, h₈⟩ := hsame
          unfold challengeSnapshot
          rw [h₁, h₂, h₃, h₄, h₅, h₆, h₇, h₈]
        have hopen : row.consumedAt = none := by
          simp only [ChallengeSnapshot.unchanged, Bool.and_eq_true] at hsame
          exact Option.isNone_iff_eq_none.mp hsame.1.1.1.1.1.1.1.1
        refine .inr ⟨row, _, by rw [hcount'], hrow, hopen, hsnapshot, fun id => ?_⟩
        rw [t.get?_update]
        split
        · next hid =>
            subst hid
            rw [hrow, Option.map_some, hsame, beq_self_eq_true]
            rfl
        · next hid =>
            cases hother : t.get? id with
            | none => rfl
            | some other =>
                rw [Option.map_some, beq_false_of_ne hid]
                rfl

/-- Consumed rows are there, as they were. -/
def ConsumedKept (t t' : Table ChallengeRow) : Prop :=
  ∀ id row, t.get? id = some row → row.consumedAt.isSome = true → t'.get? id = some row

theorem consumedKept_commit (w : OwnershipWrite) (t : Table ChallengeRow) :
    ConsumedKept t (w.commit t).2 := by
  intro id row hrow hconsumed
  cases w with
  | insertChallenge new =>
      obtain h | ⟨h, -⟩ := commit_insertChallenge t new
      · rw [h]
        exact hrow
      · rw [h, t.get?_insert, if_neg (t.lt_nextId hrow).ne]
        exact hrow
  | consume snapshot verifiedAt canonical digest =>
      obtain ⟨count, -, h⟩ | ⟨open', t', h, hopen, hnone, -, hget⟩ :=
        commit_consume t snapshot verifiedAt canonical digest
      · rw [h]
        exact hrow
      · rw [h, hget]
        split
        · next hid =>
            rw [hid] at hrow
            rw [Option.some.inj (hrow.symm.trans hopen), hnone] at hconsumed
            cases hconsumed
        · exact hrow

/-! ## Worlds -/

/-- A challenge id has one row. -/
def UniqueIds (t : Table ChallengeRow) : Prop :=
  ∀ id row id' row', t.get? id = some row → t.get? id' = some row' →
    row.challengeId = row'.challengeId → id = id'

theorem uniqueIds_commit (w : OwnershipWrite) {t : Table ChallengeRow} (h : UniqueIds t) :
    UniqueIds (w.commit t).2 := by
  cases w with
  | insertChallenge new =>
      obtain heq | ⟨heq, hnew⟩ := commit_insertChallenge t new
      · rw [heq]
        exact h
      · rw [heq]
        intro id row id' row' hrow hrow' hsame
        rw [t.get?_insert] at hrow hrow'
        split at hrow
        · next hid =>
            split at hrow'
            · next hid' => rw [hid, hid']
            · cases hrow
              exact absurd hsame.symm (hnew _ _ hrow')
        · next hid =>
            split at hrow'
            · cases hrow'
              exact absurd hsame (hnew _ _ hrow)
            · exact h _ _ _ _ hrow hrow' hsame
  | consume snapshot verifiedAt canonical digest =>
      obtain ⟨count, -, heq⟩ | ⟨open', t', heq, hopen, -, -, hget⟩ :=
        commit_consume t snapshot verifiedAt canonical digest
      · rw [heq]
        exact h
      · rw [heq]
        -- every row has the challenge id it had
        have before : ∀ id row, t'.get? id = some row →
            ∃ old, t.get? id = some old ∧ old.challengeId = row.challengeId := by
          intro id row hrow
          rw [hget] at hrow
          split at hrow
          · next hid =>
              cases hrow
              exact ⟨open', hid ▸ hopen, rfl⟩
          · exact ⟨row, hrow, rfl⟩
        intro id row id' row' hrow hrow' hsame
        obtain ⟨old, hold, hc⟩ := before id row hrow
        obtain ⟨old', hold', hc'⟩ := before id' row' hrow'
        exact h _ _ _ _ hold hold' (hc.trans (hsame.trans hc'.symm))

/-- What a verification that returned leaves. -/
def Consumed (lib : OwnershipLibrary) (t : Table ChallengeRow) (challengeId : String)
    (value : ProofRequest) (result : VerifiedOwnership) : Prop :=
  ∃ id row, t.get? id = some row ∧ row.challengeId = challengeId ∧
    row.consumedAt = some result.verifiedAt ∧
    row.verifiedWallet = some result.walletAccountCanonical ∧
    Authorised lib value (challengeSnapshot id row) result.walletAccountCanonical
      result.verifiedAt ∧
    result = ⟨challengeId, result.walletAccountCanonical, row.expectedNetwork,
      row.expectedDomain, result.verifiedAt⟩

theorem Consumed.kept {t t' : Table ChallengeRow} {challengeId : String} {value : ProofRequest}
    {result : VerifiedOwnership} (h : Consumed lib t challengeId value result)
    (kept : ConsumedKept t t') : Consumed lib t' challengeId value result := by
  obtain ⟨id, row, hrow, hid, hconsumed, rest⟩ := h
  exact ⟨id, row, kept id row hrow (by rw [hconsumed]; rfl), hid, hconsumed, rest⟩

/-- Session `sid` has returned a verification. -/
def Returned (world : World (ownershipSystem lib)) (sid : Nat) (challengeId : String)
    (value : ProofRequest) (result : VerifiedOwnership) : Prop :=
  world.sessions[sid]? = some (.done (.verified challengeId value (.ok result)))

/-- The sessions are under way or have failed, or have consumed the
challenge, each its own. -/
structure Honest (world : World (ownershipSystem lib)) : Prop where
  unique : UniqueIds world.state
  sessions : ∀ (sid : Nat) (p : Prog (ownershipMachine lib) OwnershipReply),
    world.sessions[sid]? = some p → Pending lib p ∨
    ∃ challengeId value result, p = .done (.verified challengeId value (.ok result)) ∧
      Consumed lib world.state challengeId value result
  once : ∀ sid sid' challengeId value value' result result',
    Returned world sid challengeId value result →
      Returned world sid' challengeId value' result' → sid = sid'

theorem honest_start (lib : OwnershipLibrary) : Honest (ownershipStart lib) := by
  refine ⟨fun id row _ _ hrow => (nomatch hrow), fun sid p hp => (nomatch hp), ?_⟩
  intro sid _ _ _ _ _ _ h
  cases h

/-- A pending program that has returned has failed. -/
theorem not_pending_returned {challengeId : String} {value : ProofRequest}
    {result : VerifiedOwnership}
    (h : Pending lib (.done (.verified challengeId value (.ok result)))) : False := nomatch h

theorem program_pending (sid : Nat) (entry : OwnershipEntry) :
    Pending lib ((ownershipSystem lib).program sid entry) := by
  cases entry with
  | create expectedWallet => exact create_pending expectedWallet
  | verify challengeId value => exact verify_pending challengeId value

/-- What one step of a pending call does. -/
theorem pending_advance {p : Prog (ownershipMachine lib) OwnershipReply} (hp : Pending lib p)
    (answers : (q : OwnershipQuery) → q.Answer lib) {t : Table ChallengeRow} (hunique : UniqueIds t) :
    ((p.advance answers t).2 = t ∧ Pending lib (p.advance answers t).1) ∨
      (∃ reply, (p.advance answers t).1 = .done reply ∧ reply.proved = none ∧
        reply.succeeded = true) ∨
      ∃ challengeId value result,
        (p.advance answers t).1 = .done (.verified challengeId value (.ok result)) ∧
          Consumed lib (p.advance answers t).2 challengeId value result ∧
          ∀ value' result', ¬ Consumed lib t challengeId value' result' := by
  obtain h | ⟨w, reply, hw, h⟩ := Prog.commitsLast_advance hp answers t
  · exact .inl h
  have h₁ : (p.advance answers t).1 = .done (reply (w.commit t).1) := congrArg Prod.fst h
  have h₂ : (p.advance answers t).2 = (w.commit t).2 := congrArg Prod.snd h
  rw [h₁, h₂]
  cases w with
  | insertChallenge row =>
      obtain ⟨-, hproved, hsucceeded⟩ := hw
      obtain heq | ⟨heq, -⟩ := commit_insertChallenge t row
      · rw [heq]
        exact .inl ⟨rfl, hproved 0⟩
      · rw [heq]
        exact .inr (.inl ⟨_, rfl, hproved 1, hsucceeded⟩)
  | consume snapshot verifiedAt canonical digest =>
      obtain ⟨value, authorised, hone, hfail⟩ := hw
      obtain ⟨count, hcount, heq⟩ | ⟨row, t', heq, hrow, hopen, hsnapshot, hget⟩ :=
        commit_consume t snapshot verifiedAt canonical digest
      · rw [heq]
        exact .inl ⟨rfl, hfail count hcount⟩
      · rw [heq]
        have hid : row.challengeId = snapshot.challengeId :=
          congrArg ChallengeSnapshot.challengeId hsnapshot
        have hsame : challengeSnapshot snapshot.id (row.consumedBy verifiedAt canonical digest) =
            snapshot := hsnapshot
        refine .inr (.inr ⟨snapshot.challengeId, value, _, congrArg _ hone, ?_, ?_⟩)
        · refine ⟨snapshot.id, row.consumedBy verifiedAt canonical digest, ?_, hid, rfl, rfl, ?_, ?_⟩
          · rw [hget, if_pos rfl]
          · rw [hsame]
            exact authorised
          · rw [← congrArg ChallengeSnapshot.expectedNetwork hsnapshot,
              ← congrArg ChallengeSnapshot.expectedDomain hsnapshot]
            rfl
        · rintro value' result' ⟨id, other, hother, hother', hconsumed, -⟩
          have hkey := hunique _ _ _ _ hother hrow (hother'.trans hid.symm)
          rw [hkey] at hother
          rw [Option.some.inj (hother.symm.trans hrow), hopen] at hconsumed
          cases hconsumed

/-- A move keeps the rows that are consumed, and the ids apart. -/
theorem state_kept (world : World (ownershipSystem lib)) (move : Move (ownershipSystem lib)) :
    ConsumedKept world.state (world.step move).state ∧
      (UniqueIds world.state → UniqueIds (world.step move).state) := by
  rw [World.state_step]
  split
  · next sid w hcommit => exact ⟨consumedKept_commit w _, uniqueIds_commit w⟩
  · exact ⟨fun _ _ h _ => h, id⟩

/-- The session that moves, after its move. -/
theorem Honest.advance {world : World (ownershipSystem lib)} (h : Honest world) {sid : Nat}
    {q : Prog (ownershipMachine lib) OwnershipReply} (hq : world.sessions[sid]? = some q)
    (answers : (q : OwnershipQuery) → q.Answer lib) :
    ((q.advance answers world.state).2 = world.state ∧
        Pending lib (q.advance answers world.state).1) ∨
      (∃ reply, (q.advance answers world.state).1 = .done reply ∧ reply.proved = none ∧
        reply.succeeded = true) ∨
      (∃ challengeId value result,
        (q.advance answers world.state).1 = .done (.verified challengeId value (.ok result)) ∧
          Consumed lib (q.advance answers world.state).2 challengeId value result ∧
          ∀ value' result', ¬ Consumed lib world.state challengeId value' result') ∨
      (q.advance answers world.state).1 = q ∧ (q.advance answers world.state).2 = world.state := by
  obtain hpending | ⟨challengeId, value, result, rfl, -⟩ := h.sessions sid q hq
  · obtain hstay | hcreated | hproved := pending_advance hpending answers h.unique
    · exact .inl hstay
    · exact .inr (.inl hcreated)
    · exact .inr (.inr (.inl hproved))
  · exact .inr (.inr (.inr ⟨rfl, rfl⟩))

theorem Honest.advanced {world : World (ownershipSystem lib)} (h : Honest world) {sid : Nat}
    {q : Prog (ownershipMachine lib) OwnershipReply} (hq : world.sessions[sid]? = some q)
    (answers : (q : OwnershipQuery) → q.Answer lib) :
    Pending lib (q.advance answers world.state).1 ∨
      ∃ challengeId value result,
        (q.advance answers world.state).1 = .done (.verified challengeId value (.ok result)) ∧
          Consumed lib (q.advance answers world.state).2 challengeId value result := by
  obtain ⟨-, hpending⟩ | ⟨reply, hdone, hproved, -⟩ | ⟨c, v, r, hdone, hconsumed, -⟩ | ⟨h₁, h₂⟩ :=
    h.advance hq answers
  · exact .inl hpending
  · rw [hdone]
    exact .inl hproved
  · exact .inr ⟨c, v, r, hdone, hconsumed⟩
  · rw [h₁, h₂]
    exact h.sessions sid q hq

theorem Honest.step {world : World (ownershipSystem lib)} (h : Honest world)
    (move : Move (ownershipSystem lib)) : Honest (world.step move) := by
  obtain ⟨kept, unique⟩ := state_kept world move
  -- a verification that has returned by now had returned, or is returning
  have returned : ∀ sid challengeId value result,
      Returned (world.step move) sid challengeId value result →
        Returned world sid challengeId value result ∨
          (∃ answers, move = .run sid answers) ∧
            ∀ value' result', ¬ Consumed lib world.state challengeId value' result' := by
    intro sid challengeId value result hp
    obtain ⟨hold, -⟩ | ⟨entry, rfl, heq⟩ | ⟨answers, q, rfl, hq, heq⟩ := World.sessions_step hp
    · exact .inl hold
    · exact (not_pending_returned (heq ▸ program_pending sid entry)).elim
    · obtain ⟨-, hpending⟩ | ⟨reply, hdone, hproved, -⟩ | ⟨c, v, r, hdone, -, hnew⟩ | ⟨hsame, -⟩ :=
        h.advance hq answers
      · exact (not_pending_returned (heq ▸ hpending)).elim
      · cases heq.trans hdone
        cases hproved
      · cases heq.trans hdone
        exact .inr ⟨⟨answers, rfl⟩, hnew⟩
      · exact .inl (hq.trans (congrArg some (heq.trans hsame).symm))
  refine ⟨unique h.unique, ?_, ?_⟩
  · intro sid p hp
    obtain ⟨hold, -⟩ | ⟨entry, rfl, rfl⟩ | ⟨answers, q, rfl, hq, rfl⟩ := World.sessions_step hp
    · obtain hpending | ⟨challengeId, value, result, rfl, hconsumed⟩ := h.sessions sid p hold
      · exact .inl hpending
      · exact .inr ⟨challengeId, value, result, rfl, hconsumed.kept kept⟩
    · exact .inl (program_pending sid entry)
    · have hstate : (world.step (.run sid answers)).state = (q.advance answers world.state).2 := by
        rw [World.step_run hq]
      rw [hstate]
      exact h.advanced hq answers
  · intro sid sid' challengeId value value' result result' hp hp'
    have consumed : ∀ {sid value result}, Returned world sid challengeId value result →
        Consumed lib world.state challengeId value result := by
      intro sid value result hreturned
      obtain hpending | ⟨c, v, r, heq, hconsumed⟩ := h.sessions sid _ hreturned
      · exact (not_pending_returned hpending).elim
      · cases heq
        exact hconsumed
    obtain hold | ⟨⟨answers, hmove⟩, hnew⟩ := returned _ _ _ _ hp
    · obtain hold' | ⟨-, hnew'⟩ := returned _ _ _ _ hp'
      · exact h.once _ _ _ _ _ _ _ hold hold'
      · exact (hnew' _ _ (consumed hold)).elim
    · obtain hold' | ⟨⟨answers', hmove'⟩, -⟩ := returned _ _ _ _ hp'
      · exact (hnew _ _ (consumed hold')).elim
      · rw [hmove] at hmove'
        cases hmove'
        rfl

/-- The world after a list of moves: calls that start, and steps of calls
with the answers they get. -/
def ownershipWorld (lib : OwnershipLibrary) (moves : List (Move (ownershipSystem lib))) :
    World (ownershipSystem lib) :=
  moves.foldl World.step (ownershipStart lib)

theorem honest_world (moves : List (Move (ownershipSystem lib))) :
    Honest (ownershipWorld lib moves) := by
  suffices h : ∀ world, Honest world → Honest (moves.foldl World.step world) from
    h _ (honest_start lib)
  induction moves with
  | nil => exact fun world h => h
  | cons move moves ih => exact fun world h => ih _ (h.step move)

theorem consumedKept_world (world : World (ownershipSystem lib))
    (moves : List (Move (ownershipSystem lib))) :
    ConsumedKept world.state (moves.foldl World.step world).state := by
  induction moves generalizing world with
  | nil => exact fun _ _ h _ => h
  | cons move moves ih =>
      intro id row hrow hconsumed
      exact ih (world.step move) id row ((state_kept world move).1 id row hrow hconsumed) hconsumed

/-- A call that changes a row has succeeded. -/
theorem Honest.succeeded {world : World (ownershipSystem lib)} (h : Honest world) {sid : Nat}
    {answers : (q : (ownershipMachine lib).Query) → (ownershipMachine lib).Answer q}
    (hchange : (world.step (.run sid answers)).state ≠ world.state) :
    ∃ reply, (world.step (.run sid answers)).sessions[sid]? = some (.done reply) ∧
      OwnershipReply.succeeded reply = true := by
  cases hq : world.sessions[sid]? with
  | none =>
      refine absurd ?_ hchange
      simp only [World.step, hq]
  | some q =>
      rw [World.step_run hq] at hchange ⊢
      have hset : (world.sessions.set sid (q.advance answers world.state).1)[sid]? =
          some (q.advance answers world.state).1 :=
        List.getElem?_set_self (List.getElem?_eq_some_iff.mp hq).1
      obtain ⟨hsame, -⟩ | ⟨reply, hdone, -, hok⟩ | ⟨c, v, r, hdone, -, -⟩ | ⟨-, hsame⟩ :=
        h.advance hq answers
      · exact absurd hsame hchange
      · exact ⟨reply, hset.trans (congrArg some hdone), hok⟩
      · exact ⟨_, hset.trans (congrArg some hdone), rfl⟩
      · exact absurd hsame hchange

/-- Whatever calls run, in whatever order their steps are taken: at most one
verification of a challenge returns; one that returns was in time, for the
network, domain, payload and wallet of the challenge, with a state init of
its address, and signed by a key of the wallet; the signed bytes determine
the address, domain, timestamp and payload of the proof; a call that changes
a row returns; and a row that is consumed stays as it is. -/
theorem ownership_challenge_single_use (lib : OwnershipLibrary)
    (moves : List (Move (ownershipSystem lib))) :
    (∀ sid sid' challengeId value value' result result',
      Returned (ownershipWorld lib moves) sid challengeId value result →
        Returned (ownershipWorld lib moves) sid' challengeId value' result' → sid = sid') ∧
    (∀ sid challengeId value result,
      Returned (ownershipWorld lib moves) sid challengeId value result →
        Consumed lib (ownershipWorld lib moves).state challengeId value result) ∧
    (∀ (a b : TonAddress) (p q : TonProofRecord) (message : Bytes),
      a.hashPart.length = 32 → b.hashPart.length = 32 → tonProofMessage a p = some message →
        tonProofMessage b q = some message →
          a = b ∧ p.domain.value = q.domain.value ∧ p.timestamp = q.timestamp ∧
            p.payload = q.payload) ∧
    (∀ sid answers,
      ((ownershipWorld lib moves).step (.run sid answers)).state ≠ (ownershipWorld lib moves).state →
        ∃ reply, ((ownershipWorld lib moves).step (.run sid answers)).sessions[sid]? =
            some (.done reply) ∧ OwnershipReply.succeeded reply = true) ∧
    ∀ more, ConsumedKept (ownershipWorld lib moves).state
      (ownershipWorld lib (moves ++ more)).state := by
  have honest : Honest (ownershipWorld lib moves) := honest_world moves
  refine ⟨honest.once, ?_, ?_, ?_, ?_⟩
  · intro sid challengeId value result hreturned
    obtain hpending | ⟨c, v, r, heq, hconsumed⟩ := honest.sessions sid _ hreturned
    · exact (not_pending_returned hpending).elim
    · cases heq
      exact hconsumed
  · intro a b p q message ha hb hp hq
    exact tonProofMessage_inj ha hb hp hq
  · intro sid answers hchange
    exact honest.succeeded hchange
  · intro more
    unfold ownershipWorld
    rw [List.foldl_append]
    exact consumedKept_world _ more

end TonTracker
