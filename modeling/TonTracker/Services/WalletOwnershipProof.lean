/-
# `Services.WalletOwnershipProof` — single-use ownership challenges

The services of `services/wallet_ownership_proof.py` over the table of
challenges.  `create_ownership_challenge` inserts a row;
`verify_ownership_proof` reads it, asks the key resolver with no
transaction open, reads it again and consumes it by one conditional
update.  What the address, cell and signature libraries compute is a
parameter (`OwnershipLibrary`), and the key resolver answers, if it does,
with a key of the wallet it was asked for.
-/
import TonTracker.Lib.Session
import TonTracker.Lib.Relational
import TonTracker.Lib.ByteMessages
import TonTracker.Lib.ExceptFold
import TonTracker.Instant

namespace TonTracker

open Session (Machine Prog)
open Relational (Table)
open ByteMessages (Bytes encode toLittle toBigSigned)
open ExceptFold (check present)

/-! ## Libraries -/

/-- A SHA-256 digest. -/
abbrev Hash256 : Type := { bytes : Bytes // bytes.length = 32 }

/-- `pytoniq_core.Address`. -/
structure TonAddress where
  wc : Int
  hashPart : Bytes
deriving DecidableEq

instance : LawfulBEq (TonAddress × Nat) := inferInstance

/-- What the services use of third-party code: addresses, bags of cells,
hashes and signatures. -/
structure OwnershipLibrary where
  Cell : Type
  /-- `Address(value)`, unless it raises. -/
  address : String → Option TonAddress
  /-- `address.to_str(is_user_friendly=False)`. -/
  rawText : TonAddress → String
  /-- `base64.b64decode(value, validate=True)`, unless it raises. -/
  b64decode : String → Option Bytes
  /-- `Cell.from_boc`, unless it raises. -/
  fromBoc : Bytes → Option (List Cell)
  cellHash : Cell → Hash256
  /-- `StateInit.deserialize` of a cell, unless it raises: whether no bit and
  no reference is left. -/
  stateInit : Cell → Option Bool
  sha256 : Bytes → Hash256
  /-- `VerifyKey(key).verify(message, signature)` returns. -/
  verifies : Bytes → Bytes → Bytes → Bool
  /-- The public keys of a wallet of a network. -/
  keyOf : String → String → Bytes → Prop
  /-- `derive_ton_wallet_identity`: the canonical address, where it has one. -/
  deriveIdentity : String → String → Option String

variable (lib : OwnershipLibrary)

/-! ## Rows -/

/-- `WalletOwnershipChallenge`. -/
structure ChallengeRow where
  challengeId : String
  payload : String
  payloadHash : Bytes
  expectedWallet : Option String
  expectedDomain : String
  expectedNetwork : String
  issuedAt : Instant
  expiresAt : Instant
  consumedAt : Option Instant
  verifiedWallet : Option String
  signatureDigest : Option Bytes
deriving DecidableEq

/-- `_challenge_snapshot`. -/
structure ChallengeSnapshot where
  id : Nat
  challengeId : String
  payload : String
  payloadHash : Bytes
  expectedWallet : Option String
  expectedDomain : String
  expectedNetwork : String
  issuedAt : Instant
  expiresAt : Instant
deriving DecidableEq

def challengeSnapshot (id : Nat) (row : ChallengeRow) : ChallengeSnapshot where
  id := id
  challengeId := row.challengeId
  payload := row.payload
  payloadHash := row.payloadHash
  expectedWallet := row.expectedWallet
  expectedDomain := row.expectedDomain
  expectedNetwork := row.expectedNetwork
  issuedAt := row.issuedAt
  expiresAt := row.expiresAt

/-! ## Transactions -/

inductive OwnershipWrite where
  | insertChallenge (row : ChallengeRow)
  | consume (snapshot : ChallengeSnapshot) (verifiedAt : Instant) (canonical : String)
      (signatureDigest : Bytes)
deriving DecidableEq

/-- The conditions of the update, without the one on the key. -/
def ChallengeSnapshot.unchanged (snapshot : ChallengeSnapshot) (row : ChallengeRow) : Bool :=
  row.consumedAt.isNone && row.challengeId = snapshot.challengeId &&
    row.payload = snapshot.payload && row.payloadHash = snapshot.payloadHash &&
    row.expectedDomain = snapshot.expectedDomain &&
    row.expectedNetwork = snapshot.expectedNetwork && row.issuedAt = snapshot.issuedAt &&
    row.expiresAt = snapshot.expiresAt && row.expectedWallet = snapshot.expectedWallet

/-- The two unique indexes. -/
def collides (row other : ChallengeRow) : Bool :=
  other.challengeId = row.challengeId || other.payloadHash = row.payloadHash

/-- A transaction: the rows it wrote, and the table it leaves.  It is rolled
back where an index refuses the row, and where the update does not match one
row. -/
def OwnershipWrite.commit : OwnershipWrite → Table ChallengeRow → Nat × Table ChallengeRow
  | insertChallenge row, t =>
      if (t.find? fun _ other => collides row other).isSome then (0, t) else (1, t.insert row)
  | consume snapshot verifiedAt canonical signatureDigest, t =>
      let count := t.rowcount fun id row => id == snapshot.id && snapshot.unchanged row
      if count ≠ 1 then (count, t)
      else (count, t.update fun id row =>
        if id == snapshot.id && snapshot.unchanged row then
          some { row with
            consumedAt := some verifiedAt
            verifiedWallet := some canonical
            signatureDigest := some signatureDigest }
        else none)

/-! ## The environment -/

/-- `settings.ton_network`, `settings.tonconnect_expected_domain`, and the
seconds of `settings.tonconnect_proof_ttl_seconds` as microseconds. -/
structure OwnershipSettings where
  network : String
  domain : String
  ttl : Nat

inductive OwnershipQuery where
  | now
  | settings
  | challengeId
  | payload
  | publicKey (network address : String)
  | storageFails

/-- What a question is answered with; a resolver that fails has no key. -/
def OwnershipQuery.Answer : OwnershipQuery → Type
  | now => Instant
  | settings => OwnershipSettings
  | challengeId => String
  | payload => String
  | publicKey network address => Option { key : Bytes // lib.keyOf network address key }
  | storageFails => Bool

def ownershipMachine : Machine where
  State := Table ChallengeRow
  Query := OwnershipQuery
  Answer := OwnershipQuery.Answer lib
  Write := OwnershipWrite
  Result := fun _ => Nat
  commit := OwnershipWrite.commit

inductive OwnershipRaised where
  | conflict (message : String)
  | failure (message : String)
  | other
deriving DecidableEq

abbrev OwnershipJob : Type → Type := ExceptT OwnershipRaised (Prog (ownershipMachine lib))

def askOwnership (q : OwnershipQuery) : OwnershipJob lib (q.Answer lib) :=
  ExceptT.lift (.ask (M := ownershipMachine lib) q .done)

/-- Checks that read nothing. -/
def liftChecks {α : Type} (checked : Except OwnershipRaised α) : OwnershipJob lib α :=
  ExceptT.mk (.done checked)

def readChallenges : OwnershipJob lib (Table ChallengeRow) :=
  ExceptT.lift (.read (M := ownershipMachine lib) .done)

/-- A transaction; the database may fail before it is committed. -/
def commitOwnership (w : OwnershipWrite) : OwnershipJob lib Nat := do
  let fails : Bool ← askOwnership lib .storageFails
  if fails then throw .other
  else ExceptT.lift (.write (M := ownershipMachine lib) w .done)

/-! ## Creating a challenge -/

structure ChallengeResponse where
  challengeId : String
  payload : String
  expectedDomain : String
  expectedNetwork : String
  expectedWallet : Option String
  issuedAt : Instant
  expiresAt : Instant
deriving DecidableEq

/-- `hashlib.sha256(value).digest()`; the columns keep its hexadecimal text. -/
def OwnershipLibrary.digest (value : Bytes) : Bytes := (lib.sha256 value).1

/-- The canonical address of the expected wallet, if there is one. -/
def canonicalExpected (network : String) :
    Option String → Except OwnershipRaised (Option String)
  | none => .ok none
  | some wallet => do
      let canonical ← present (lib.deriveIdentity wallet network)
        (.conflict "Expected wallet address is invalid.")
      return some canonical

/-- `create_ownership_challenge`. -/
def createOwnershipChallenge (expectedWallet : Option String) :
    OwnershipJob lib ChallengeResponse := do
  let settings : OwnershipSettings ← askOwnership lib .settings
  let canonical ← liftChecks lib (canonicalExpected lib ("ton-" ++ settings.network) expectedWallet)
  let now : Instant ← askOwnership lib .now
  let payload : String ← askOwnership lib .payload
  let challengeId : String ← askOwnership lib .challengeId
  let expiresAt ← liftChecks lib (present (now.plus settings.ttl) .other)
  let row : ChallengeRow := {
    challengeId := challengeId
    payload := payload
    payloadHash := lib.digest (encode payload)
    expectedWallet := canonical
    expectedDomain := settings.domain
    expectedNetwork := "ton-" ++ settings.network
    issuedAt := now
    expiresAt := expiresAt
    consumedAt := none
    verifiedWallet := none
    signatureDigest := none }
  let count ← commitOwnership lib (.insertChallenge row)
  liftChecks lib (check (count = 1) .other)
  return ⟨challengeId, payload, row.expectedDomain, row.expectedNetwork, canonical, now, expiresAt⟩

/-! ## Proofs -/

structure TonProofDomain where
  lengthBytes : Nat
  value : String
deriving DecidableEq

/-- `WalletTonProofRecord`. -/
structure TonProofRecord where
  timestamp : Nat
  domain : TonProofDomain
  payload : String
  signature : String
deriving DecidableEq

/-- `WalletOwnershipProofRequest`. -/
structure ProofRequest where
  address : String
  network : String
  walletStateInit : String
  proof : TonProofRecord
deriving DecidableEq

/-- `message` of `_ton_proof_digest`, unless a conversion raises. -/
def tonProofMessage (address : TonAddress) (proof : TonProofRecord) : Option Bytes := do
  let domain := encode proof.domain.value
  let wc ← toBigSigned 4 address.wc
  let size ← toLittle 4 domain.length
  let timestamp ← toLittle 8 proof.timestamp
  return encode "ton-proof-item-v2/" ++ (wc ++ (address.hashPart ++ (size ++ (domain ++
    (timestamp ++ encode proof.payload)))))

/-- The bytes of `\xff\xffton-connect`. -/
def tonConnectTag : Bytes := 255 :: 255 :: encode "ton-connect"

/-- `_ton_proof_digest`. -/
def tonProofDigest (address : TonAddress) (proof : TonProofRecord) : Option Bytes := do
  let message ← tonProofMessage address proof
  return lib.digest (tonConnectTag ++ lib.digest message)

/-- `_canonical_base64`. -/
def canonicalBase64 (value : String) (length : Option Nat) : Except OwnershipRaised Bytes :=
  match lib.b64decode value with
  | none => .error (.conflict "Proof base64 is invalid.")
  | some raw =>
      if length.any (fun n => raw.length ≠ n) ∨ 262144 < raw.length then
        .error (.conflict "Proof binary length is invalid.")
      else .ok raw

/-- `_one_boc_base64`. -/
def oneBocBase64 (value : String) : Except OwnershipRaised lib.Cell := do
  match lib.fromBoc (← canonicalBase64 lib value none) with
  | some [root] => return root
  | some _ => throw (.conflict "Wallet state init BOC is invalid.")
  | none => throw .other

/-- What is left of a request after its checks. -/
structure AcceptedProof where
  snapshot : ChallengeSnapshot
  address : TonAddress
  canonical : String
  signature : Bytes

/-- The checks of the scope and of the timestamp. -/
def proofScopeValid (now : Instant) (row : ChallengeRow) (proof : TonProofRecord) : Bool :=
  proof.payload = row.payload && proof.domain.value = row.expectedDomain &&
    proof.domain.lengthBytes = (encode proof.domain.value).length &&
    row.issuedAt.floorTimestamp - 30 ≤ proof.timestamp &&
    proof.timestamp ≤ now.floorTimestamp + 30

/-- `verify_ownership_proof`, up to its `rollback`. -/
def acceptProof (now : Instant) (found : Option (Nat × ChallengeRow)) (value : ProofRequest) :
    Except OwnershipRaised AcceptedProof := do
  let (id, row) ← present found (.conflict "Ownership challenge is absent or consumed.")
  check (row.consumedAt = none) (.conflict "Ownership challenge is absent or consumed.")
  check (now ≤ row.expiresAt) (.conflict "Ownership challenge expired.")
  check (row.expectedNetwork = "ton-mainnet" ∨ row.expectedNetwork = "ton-testnet")
    (.conflict "Ownership challenge predates strict network scoping.")
  check (value.network = row.expectedNetwork)
    (.conflict "Proof network does not match challenge scope.")
  let address ← present (lib.address value.address) .other
  let canonical := lib.rawText address
  check (row.expectedWallet = none ∨ row.expectedWallet = some canonical)
    (.conflict "Proof wallet does not match challenge scope.")
  check (proofScopeValid now row value.proof) (.conflict "Proof scope or timestamp is invalid.")
  let stateRoot ← oneBocBase64 lib value.walletStateInit
  let exact ← present (lib.stateInit stateRoot) .other
  check (exact = true ∧ (lib.cellHash stateRoot).1 = address.hashPart)
    (.conflict "Wallet state init does not derive the proof address.")
  let signature ← canonicalBase64 lib value.proof.signature (some 64)
  let snapshot := challengeSnapshot id row
  check (snapshot.payloadHash = lib.digest (encode snapshot.payload))
    (.conflict "Ownership challenge integrity changed.")
  return ⟨snapshot, address, canonical, signature⟩

/-- `VerifyKey(public_key).verify(_ton_proof_digest(address, proof), signature)`. -/
def signatureValid (key : Bytes) (accepted : AcceptedProof) (proof : TonProofRecord) : Bool :=
  (tonProofDigest lib accepted.address proof).any fun digest =>
    lib.verifies key digest accepted.signature

/-- The response; its other fields are constants. -/
structure VerifiedOwnership where
  challengeId : String
  walletAccountCanonical : String
  network : String
  domain : String
  verifiedAt : Instant
deriving DecidableEq

/-- The row of the snapshot is as it was, and open. -/
def stillOpen (accepted : AcceptedProof) (verifiedAt : Instant) (t : Table ChallengeRow) : Bool :=
  (t.get? accepted.snapshot.id).any fun current =>
    current.consumedAt.isNone &&
      challengeSnapshot accepted.snapshot.id current = accepted.snapshot &&
      verifiedAt ≤ current.expiresAt

/-- `verify_ownership_proof`. -/
def verifyOwnershipProof (challengeId : String) (value : ProofRequest) :
    OwnershipJob lib VerifiedOwnership := do
  let t : Table ChallengeRow ← readChallenges lib
  let now : Instant ← askOwnership lib .now
  let accepted ← liftChecks lib
    (acceptProof lib now (t.find? fun _ row => row.challengeId = challengeId) value)
  let key : Option { key : Bytes // lib.keyOf accepted.snapshot.expectedNetwork accepted.canonical
      key } ← askOwnership lib (.publicKey accepted.snapshot.expectedNetwork accepted.canonical)
  let key ← liftChecks lib
    (present key (.failure "Proof-checked wallet public key is temporarily unavailable."))
  liftChecks lib (check (signatureValid lib key.1 accepted value.proof)
    (.conflict "Wallet ownership signature is invalid."))
  let verifiedAt : Instant ← askOwnership lib .now
  let current : Table ChallengeRow ← readChallenges lib
  liftChecks lib (check (stillOpen accepted verifiedAt current)
    (.conflict "Ownership challenge changed, expired, or was consumed."))
  let count ← commitOwnership lib (.consume accepted.snapshot verifiedAt accepted.canonical
    (lib.digest accepted.signature))
  liftChecks lib (check (count = 1) (.conflict "Ownership challenge replay was rejected."))
  return ⟨challengeId, accepted.canonical, accepted.snapshot.expectedNetwork,
    accepted.snapshot.expectedDomain, verifiedAt⟩

end TonTracker
