/-
# `Services.TransactionInclusionProof` — a transaction in a block, from stored bytes

`verify_transaction_inclusion_proof`
(`services/ton_transaction_inclusion_proof.py`) and `_proof_values`
(`services/wallet_transaction_inclusion_proof.py`): what an evidence
document is checked for before it is stored and each time it is read.
Cells, proofs and block schemas are third-party code
(`InclusionLibrary`), and so are the trust roots of the configuration.
-/
import TonTracker.Services.WalletOwnershipProof
import TonTracker.Services.LiteclientStrictProof

namespace TonTracker

open ByteMessages (Bytes)
open ExceptFold (check present)

/-! ## Documents -/

/-- The block id of a document; its hashes are hexadecimal texts. -/
structure BlockDocument where
  workchain : Int
  shard : Int
  seqno : Int
  rootHash : String
  fileHash : String
deriving DecidableEq

/-- What the caller asked for. -/
structure InclusionRequest where
  accountAddress : String
  logicalTime : String
  transactionHash : String
deriving DecidableEq

/-- An evidence document; a block that has other keys is none. -/
structure InclusionEvidence where
  request : InclusionRequest
  block : Option BlockDocument
  masterchainAnchor : Option BlockDocument
  trustedCheckpoint : Option BlockDocument
  verifierPolicyId : String
  transactionBocHex : String
  blockProofBocHex : String
  trustLevel : Int
deriving DecidableEq

/-- What the services use of third-party code; `none` is an exception. -/
structure InclusionLibrary where
  Cell : Type
  Block : Type
  /-- `Address(value)`. -/
  address : String → Option TonAddress
  /-- `int(value)`. -/
  parseInt : String → Option Int
  /-- `bytes.fromhex`. -/
  fromHex : String → Option Bytes
  /-- `bytes.hex`. -/
  hex : Bytes → String
  /-- `Cell.one_from_boc`. -/
  oneFromBoc : Bytes → Option Cell
  /-- `cell[0]`. -/
  firstRef : Cell → Option Cell
  /-- `cell.hash`. -/
  cellHash : Cell → Bytes
  /-- `cell.get_hash(0)`. -/
  levelHash : Cell → Bytes
  /-- `check_block_header_proof` returns. -/
  checkBlockHeaderProof : Cell → Bytes → Bool
  /-- `Block.deserialize(header.begin_parse())`. -/
  deserializeBlock : Cell → Option Block
  /-- `block.info`. -/
  blockInfo : Block → Option BlockInfo
  /-- The transactions of `block.extra.account_blocks[0].get(account)`, where
  there is such an account. -/
  accountTransactions : Block → Bytes → Option (Int → Option Cell)
  /-- `Transaction.deserialize(root.begin_parse()).lt`. -/
  transactionLt : Cell → Option Int
  /-- `hashlib.sha256(value).hexdigest()`. -/
  sha256Hex : Bytes → String
  /-- `is_current_trusted_checkpoint`. -/
  currentCheckpoint : String → String → BlockDocument → Bool
  /-- `is_recognized_trusted_checkpoint`. -/
  recognizedCheckpoint : String → String → BlockDocument → Bool
  /-- `_digest_json`, of the texts and block ids of a document. -/
  digestJson : List String → List BlockDocument → String

variable (lib : InclusionLibrary)

/-! ## The proof -/

/-- `value != value.lower()` fails: no upper-case letter. -/
def isLowerText (value : String) : Bool := value = value.toLower

/-- `_bounded_boc`. -/
def boundedBoc (value : String) (label : String) : Except String Bytes := do
  check (value ≠ "" ∧ value.length ≤ 8 * 1024 * 1024 ∧ value.length % 2 = 0 ∧
    isLowerText value = true) s!"Stored {label} BOC is not a bounded canonical hex value."
  present (lib.fromHex value) "Stored transaction inclusion proof is invalid."

/-- The message of the failures that wrap an exception. -/
def inclusionInvalid : String := "Stored transaction inclusion proof is invalid."

/-- The block whose header the stored proof opens to. -/
def provedBlock (evidence : InclusionEvidence) : Except String (lib.Cell × lib.Block) := do
  let boc ← boundedBoc lib evidence.blockProofBocHex "block proof"
  let root ← present (lib.oneFromBoc boc) inclusionInvalid
  let header ← present (lib.firstRef root) inclusionInvalid
  let block ← present (lib.deserializeBlock header) inclusionInvalid
  return (header, block)

/-- `verify_transaction_inclusion_proof`. -/
def verifyTransactionInclusionProof (evidence : InclusionEvidence) : Except String Unit := do
  let address ← present (lib.address evidence.request.accountAddress) inclusionInvalid
  let logicalTime ← present (lib.parseInt evidence.request.logicalTime) inclusionInvalid
  let id ← present evidence.block inclusionInvalid
  let rootHash ← present (lib.fromHex id.rootHash) inclusionInvalid
  let boc ← boundedBoc lib evidence.transactionBocHex "transaction"
  let transactionRoot ← present (lib.oneFromBoc boc) inclusionInvalid
  let (header, block) ← provedBlock lib evidence
  check (lib.checkBlockHeaderProof header rootHash) inclusionInvalid
  let transactions ← present (lib.accountTransactions block address.hashPart)
    "Block proof does not contain the requested account."
  let proved ← present (transactions logicalTime)
    "Block proof does not commit to the requested transaction BOC."
  check (lib.levelHash proved = lib.levelHash transactionRoot)
    "Block proof does not commit to the requested transaction BOC."
  check (lib.hex (lib.cellHash transactionRoot) = evidence.request.transactionHash)
    "Transaction BOC hash differs from the requested identity."
  let lt ← present (lib.transactionLt transactionRoot) inclusionInvalid
  check (lt = logicalTime) "Transaction logical time differs from the proof coordinate."

/-! ## Values -/

/-- `_hash`. -/
def isHexHash (value : String) : Bool :=
  value.length = 64 && value.toList.all fun c => c.isDigit || ('a' ≤ c && c ≤ 'f')

/-- `_valid_block`. -/
def validBlock (value : Option BlockDocument) (label : String) : Except String BlockDocument := do
  let block ← present value s!"Malformed {label}."
  check ((block.workchain = -1 ∨ block.workchain = 0) ∧ 0 < block.seqno ∧
    isHexHash block.rootHash ∧ isHexHash block.fileHash) s!"Malformed {label}."
  return block

/-- `_bounded_hex`. -/
def boundedHex (value : String) : Bool :=
  value ≠ "" && value.length ≤ 8 * 1024 * 1024 && value.length % 2 = 0 && isLowerText value &&
    (lib.fromHex value).isSome

def legacyCheckpointPolicyId : String := "ton_liteserver_checkpoint_2026_08_v1"

/-- `proof_boc_sha256`. -/
def proofBocSha256 (value : String) : Except String String := do
  return lib.sha256Hex (← present (lib.fromHex value) inclusionInvalid)

/-- The columns of a stored proof. -/
structure ProofValues where
  network : String
  trustLevel : Int
  verifierPolicyId : String
  trustedCheckpoint : BlockDocument
  request : InclusionRequest
  block : BlockDocument
  anchor : BlockDocument
  blockProofBocHex : String
  transactionBocSha256 : String
  blockProofBocSha256 : String
  evidenceDigest : String
deriving DecidableEq

/-- `_proof_values`; `transactionBocHex` is the BOC of the persisted
transaction, and `verifiedAt` is as it is printed. -/
def proofValues (network : String) (trustLevel : Int) (policyId : String)
    (request : InclusionRequest) (transactionBocHex : String) (evidence : InclusionEvidence)
    (verifiedAt : String) (allowRecognizedLegacyPolicy : Bool) : Except String ProofValues := do
  check (evidence.request = request) "Transaction inclusion proof coordinate changed."
  check (evidence.trustLevel = trustLevel) "Transaction inclusion proof trust level changed."
  check (evidence.verifierPolicyId = policyId)
    "Transaction inclusion proof verifier policy changed."
  check (evidence.transactionBocHex = transactionBocHex)
    "Proved transaction BOC differs from persisted trace evidence."
  verifyTransactionInclusionProof lib evidence
  let block ← validBlock evidence.block "transaction block"
  let anchor ← validBlock evidence.masterchainAnchor "masterchain anchor"
  let checkpoint ← validBlock evidence.trustedCheckpoint "trusted checkpoint"
  check (lib.currentCheckpoint network policyId checkpoint ∨
    (allowRecognizedLegacyPolicy ∧ policyId = legacyCheckpointPolicyId ∧
      lib.recognizedCheckpoint network policyId checkpoint))
    "Transaction inclusion proof trust root is not application-owned."
  check (boundedHex lib evidence.blockProofBocHex) "Transaction block proof BOC is malformed."
  let transactionSha ← proofBocSha256 lib transactionBocHex
  let proofSha ← proofBocSha256 lib evidence.blockProofBocHex
  return {
    network := network
    trustLevel := trustLevel
    verifierPolicyId := policyId
    trustedCheckpoint := checkpoint
    request := request
    block := block
    anchor := anchor
    blockProofBocHex := evidence.blockProofBocHex
    transactionBocSha256 := transactionSha
    blockProofBocSha256 := proofSha
    evidenceDigest := lib.digestJson
      ["ton_transaction_inclusion_v2", network, toString trustLevel, policyId,
        request.accountAddress, request.logicalTime, request.transactionHash, transactionSha,
        proofSha, verifiedAt] [checkpoint, block, anchor] }

end TonTracker
