/-
# `Services.LiteclientStrictProof` — masterchain proof links, verified strictly

`verify_masterchain_proof_response` (`services/ton_liteclient_strict_proof.py`)
on a response of which a liteserver chooses every value (`TlValue`).  Cells,
their Merkle proofs, the block and configuration schemas, and signatures
are third-party code (`ProofLibrary`).  The client keeps the last key block
it has seen, also where a later link of the same response fails.
-/
import Mathlib
import TonTracker.Lib.ExceptFold
import TonTracker.Lib.ByteMessages

namespace TonTracker

open ByteMessages (Bytes littleBytes)
open ExceptFold (check present)

/-! ## Values -/

/-- A value of a liteserver response. -/
inductive TlValue where
  | null
  | bool (value : Bool)
  | int (value : Int)
  | bytes (value : Bytes)
  | text (value : String)
  | list (values : List TlValue)
  | dict (entries : List (String × TlValue))

namespace TlValue

/-- `value.get(key)`, where a missing key is `None`. -/
def get (entries : List (String × TlValue)) (key : String) : TlValue :=
  (entries.lookup key).getD .null

def hasKey (entries : List (String × TlValue)) (key : String) : Bool :=
  (entries.lookup key).isSome

def asDict : TlValue → Option (List (String × TlValue))
  | dict entries => some entries
  | _ => none

def asList : TlValue → Option (List TlValue)
  | list values => some values
  | _ => none

def asBool : TlValue → Option Bool
  | bool value => some value
  | _ => none

def asInt : TlValue → Option Int
  | int value => some value
  | _ => none

def asBytes : TlValue → Option Bytes
  | bytes value => some value
  | _ => none

def asText : TlValue → Option String
  | text value => some value
  | _ => none

end TlValue

/-- `BlockIdExt`. -/
structure BlockIdExt where
  workchain : Int
  shard : Int
  seqno : Int
  rootHash : Bytes
  fileHash : Bytes
deriving DecidableEq

/-! ## Schemas -/

/-- `ShardIdent`, with `calculate_shard_signed()`. -/
structure ShardIdent where
  workchainId : Int
  shardSigned : Int

/-- `BlockInfo`. -/
structure BlockInfo where
  version : Int
  seqno : Int
  shard : Option ShardIdent
  notMaster : Bool
  keyBlock : Bool
  genCatchainSeqno : Int
  genValidatorListHashShort : Int
  genUtime : Int

/-- A validator descriptor; a key that is not a string of bytes is none. -/
structure ValidatorRow where
  publicKey : Option Bytes
  weight : Int
  adnlAddr : Option Bytes
deriving DecidableEq

/-- `ValidatorSet`. -/
structure ValidatorSet where
  total : Int
  main : Int
  list : List (Int × ValidatorRow)
  totalWeight : Option Int

/-- `ExtBlkRef`. -/
structure BlockReference where
  seqno : Int
  rootHash : Bytes
  fileHash : Bytes
deriving DecidableEq

/-- What the verification uses of the third-party libraries; `none` is an
exception. -/
structure ProofLibrary where
  Cell : Type
  Slice : Type
  /-- `BlockIdExt.from_dict`. -/
  blockFromDict : List (String × TlValue) → Option BlockIdExt
  /-- `Cell.one_from_boc`. -/
  oneFromBoc : Bytes → Option Cell
  /-- `cell.refs`. -/
  refs : Cell → List Cell
  /-- `check_proof` returns. -/
  checkProof : Cell → Bytes → Bool
  /-- `check_block_header_proof` returns. -/
  checkBlockHeaderProof : Cell → Bytes → Bool
  /-- The state hash it returns when it is asked for. -/
  storedStateHash : Cell → Bytes → Option Bytes
  Block : Type
  /-- `Block.deserialize`. -/
  deserializeBlock : Cell → Option Block
  /-- `block.info`. -/
  blockInfo : Block → Option BlockInfo
  /-- `block.extra.custom.key_block`, where there is such an extra. -/
  extraKeyBlock : Block → Option Bool
  /-- `block.extra.custom.config.config`. -/
  extraConfig : Block → Option (List (Int × Slice))
  /-- `ConfigParam28.deserialize(…).shuffle_mc_validators`; the inner `none`
  is a value that is no flag. -/
  shuffleMcValidators : Slice → Option (Option (Option Bool))
  /-- `ConfigParam34.deserialize(…).cur_validators`. -/
  curValidators : Slice → Option ValidatorSet
  /-- `ConfigParam35.deserialize(…).cur_temp_validators`. -/
  curTempValidators : Slice → Option ValidatorSet
  State : Type
  /-- `ShardStateUnsplit.deserialize`. -/
  deserializeState : Cell → Option State
  stateShard : State → Option ShardIdent
  stateSeqno : State → Int
  /-- `state.custom.prev_blocks[0].get(seqno).blk_ref`, where there is a
  `state.custom`. -/
  previousBlock : State → Option (Int → Option BlockReference)
  /-- `calculate_node_id_short`. -/
  nodeIdShort : Bytes → Bytes
  /-- `bytes.fromhex`. -/
  fromHex : String → Option Bytes
  /-- `verify_sign`: key, message, signature. -/
  verifySign : Bytes → Bytes → Bytes → Bool
  /-- `hashlib.sha512`. -/
  sha512 : Bytes → Bytes
  /-- `choose_key_block`. -/
  chooseKeyBlock : Option BlockIdExt → Int → BlockIdExt → Int → Option BlockIdExt × Int

variable (lib : ProofLibrary)

/-- The message of the failures that wrap an exception. -/
def failedClosed : String := "TON masterchain proof verification failed closed."

/-- `_uint32`. -/
def uint32 (value : Int) (label : String) : Except String Int := do
  check (-2 ^ 31 ≤ value ∧ value < 2 ^ 32) s!"Masterchain proof {label} is invalid."
  return value % 2 ^ 32

/-- `_masterchain_block`. -/
def masterchainBlock (value : BlockIdExt) (label : String) : Except String BlockIdExt := do
  check (value.workchain = -1 ∧ value.shard = -2 ^ 63 ∧ 0 ≤ value.seqno ∧ value.seqno < 2 ^ 32 ∧
    value.rootHash.length = 32 ∧ value.fileHash.length = 32)
    s!"Masterchain proof {label} is invalid."
  return value

/-- `_block_from_value`. -/
def blockFromValue (value : TlValue) (label : String) : Except String BlockIdExt := do
  let entries ← present value.asDict s!"Masterchain proof {label} is invalid."
  let block ← present (lib.blockFromDict entries) s!"Masterchain proof {label} is invalid."
  masterchainBlock block label

/-! ## Proofs -/

/-- `_proof_root`. -/
def proofRoot (value : TlValue) (label : String) (expectedHash : Bytes) :
    Except String lib.Cell := do
  let boc ← present value.asBytes s!"{label.capitalize} proof is missing."
  check (boc ≠ []) s!"{label.capitalize} proof is missing."
  let root ← present (lib.oneFromBoc boc) s!"{label.capitalize} proof cannot be decoded."
  match lib.refs root with
  | [child] => do
      check (lib.checkProof root expectedHash) s!"{label.capitalize} proof cannot be decoded."
      return child
  | _ => throw s!"{label.capitalize} proof is not a single Merkle proof."

/-- `_require_block_identity`, which leaves the block's header. -/
def requireBlockIdentity (block : lib.Block) (expected : BlockIdExt) (label : String) :
    Except String BlockInfo := do
  let message := s!"Masterchain proof {label} header identifies another block."
  let info ← present (lib.blockInfo block) message
  let shard ← present info.shard message
  check (info.version = 0 ∧ info.seqno = expected.seqno ∧
    shard.workchainId = expected.workchain ∧ shard.shardSigned = expected.shard ∧
    info.notMaster = false) message
  return info

/-- `_require_state_identity`. -/
def requireStateIdentity (state : lib.State) (expected : BlockIdExt) : Except String Unit := do
  let message := "Backward proof state identifies another block."
  let shard ← present (lib.stateShard state) message
  check (lib.stateSeqno state = expected.seqno ∧ shard.workchainId = expected.workchain ∧
    shard.shardSigned = expected.shard) message

/-- `_reference_matches`. -/
def referenceMatches (reference : Option BlockReference) (block : BlockIdExt) : Bool :=
  reference = some ⟨block.seqno, block.rootHash, block.fileHash⟩

/-! ## Validator sets -/

/-- The checks of one validator entry. -/
def validatorEntryValid (row : ValidatorRow) : Bool :=
  row.publicKey.any (fun key => key.length = 32) && 0 < row.weight && row.weight < 2 ^ 64 &&
    row.adnlAddr.all fun address => address.length = 32

/-- `_ValidatorSetPrng`. -/
structure ValidatorSetPrng where
  seed : Nat
  catchainSeqno : Nat
  values : List Nat

/-- `int.from_bytes(value, "big")`. -/
def bigValue (value : Bytes) : Nat := value.foldl (fun n byte => n * 256 + byte.toNat) 0

/-- `_refill`. -/
def ValidatorSetPrng.refill (g : ValidatorSetPrng) : ValidatorSetPrng :=
  let document := (littleBytes 32 g.seed).reverse ++ (littleBytes 8 (2 ^ 63)).reverse ++
    (littleBytes 4 (2 ^ 32 - 1)).reverse ++ (littleBytes 4 g.catchainSeqno).reverse
  let digest := lib.sha512 document
  { g with
    seed := (g.seed + 1) % 2 ^ 256
    values := (List.range 8).map fun i => bigValue ((digest.drop (8 * i)).take 8) }

/-- `next_ulong`. -/
def ValidatorSetPrng.nextUlong (g : ValidatorSetPrng) : Nat × ValidatorSetPrng :=
  let g := if g.values = [] then g.refill lib else g
  (g.values.headD 0, { g with values := g.values.tail })

/-- `next_ranged`. -/
def ValidatorSetPrng.nextRanged (g : ValidatorSetPrng) (range : Nat) : Nat × ValidatorSetPrng :=
  let (value, g) := g.nextUlong lib
  (range * value / 2 ^ 64, g)

/-- The loop that shuffles `main` indices. -/
def shuffledIndices (catchainSeqno : Nat) (main : Nat) : List Nat :=
  ((List.range main).foldl (fun (s : List Nat × ValidatorSetPrng) index =>
    let (swap, g) := s.2.nextRanged lib (index + 1)
    ((s.1.set index (s.1.getD swap 0)).set swap index, g))
    (List.replicate main 0, ⟨0, catchainSeqno, []⟩)).1

/-- The loop over the validator rows. -/
def checkedTotalWeight (rows : List ValidatorRow) : Except String Int :=
  rows.foldlM (fun total row => do
    check (validatorEntryValid row) "Validator configuration contains an invalid entry."
    check (total + row.weight ≤ 2 ^ 61)
      "Validator configuration exceeds TON's total-weight bound."
    return total + row.weight) 0

/-- `compute_masterchain_validator_set`. -/
def computeMasterchainValidatorSet (shuffle : Option (Option Bool)) (validators : ValidatorSet)
    (catchainSeqno : Int) : Except String (List ValidatorRow) := do
  let keys := validators.list.map (·.1)
  check (1 ≤ validators.main ∧ validators.main ≤ validators.total ∧
    validators.total ≤ 2 ^ 16 - 1 ∧
    (∀ index ∈ keys, 0 ≤ index ∧ index < validators.total) ∧
    ∀ index ∈ List.range validators.total.toNat, (index : Int) ∈ keys)
    "Validator configuration is not canonical."
  let rows := (List.range validators.total.toNat).filterMap fun index : Nat =>
    validators.list.lookup (index : Int)
  let totalWeight ← checkedTotalWeight rows
  check (validators.totalWeight.all fun declared => declared = totalWeight)
    "Validator configuration declares an incorrect total weight."
  let nodes := rows.take validators.main.toNat
  match shuffle with
  | some none => throw "Catchain validator-shuffle configuration is invalid."
  | some (some true) => do
      let seqno ← uint32 catchainSeqno "validator shuffle catchain"
      return (shuffledIndices lib seqno.toNat validators.main.toNat).filterMap
        fun index => nodes[index]?
  | _ => return nodes

/-- `crc32c`. -/
def crc32c (value : Bytes) : UInt32 :=
  ~~~value.foldl (fun crc byte =>
    (List.range 8).foldl (fun crc _ =>
      (crc >>> 1) ^^^ (if crc &&& 1 = 1 then 0x82F63B78 else 0)) (crc ^^^ byte.toUInt32))
    0xFFFFFFFF

/-- `compute_validator_set_hash`; the magic number is -1877581587. -/
def computeValidatorSetHash (catchainSeqno : Int) (nodes : List ValidatorRow) :
    Except String Int := do
  check (1 ≤ nodes.length ∧ nodes.length ≤ 2 ^ 16 - 1)
    "Computed validator set is empty or too large."
  let catchain ← uint32 catchainSeqno "validator-set catchain"
  let head := littleBytes 4 (2 ^ 32 - 1877581587) ++ littleBytes 4 catchain.toNat ++
    littleBytes 4 nodes.length
  let rows ← nodes.mapM fun node => do
    check (validatorEntryValid node) "Computed validator entry is invalid."
    return node.publicKey.getD [] ++ littleBytes 8 node.weight.toNat ++
      node.adnlAddr.getD (List.replicate 32 0)
  return (crc32c (head ++ rows.flatten)).toNat

/-! ## Signatures -/

/-- The checks of one node of the set. -/
def nodeEntryValid (row : ValidatorRow) : Bool :=
  row.publicKey.any (fun key => key.length = 32) && 0 < row.weight && row.weight < 2 ^ 64

/-- `node_map`, and the weight of the whole set. -/
structure NodeMap where
  nodes : List (Bytes × ValidatorRow)
  totalWeight : Int

/-- The loop over the nodes. -/
def nodeMap (nodes : List ValidatorRow) : Except String NodeMap :=
  nodes.foldlM (fun s node => do
    check (nodeEntryValid node) "Forward proof validator entry is invalid."
    let id := lib.nodeIdShort (node.publicKey.getD [])
    check (id ∉ s.nodes.map (·.1)) "Forward proof validator set contains duplicate identities."
    check (s.totalWeight + node.weight < 2 ^ 64) "Forward proof validator weight overflows."
    return (⟨s.nodes ++ [(id, node)], s.totalWeight + node.weight⟩ : NodeMap)) ⟨[], 0⟩

/-- The message the validators of a block sign. -/
def signedMessage (block : BlockIdExt) : Bytes :=
  [112, 110, 11, 197] ++ block.rootHash ++ block.fileHash

structure SignatureLoop where
  seen : List Bytes
  signedWeight : Int

/-- The body of the loop over the signatures. -/
def signatureStep (nodes : List (Bytes × ValidatorRow)) (block : BlockIdExt) (s : SignatureLoop)
    (signature : TlValue) : Except String SignatureLoop := do
  let entries ← present signature.asDict "Forward proof signature is invalid."
  let text := if TlValue.hasKey entries "node_id_short" then
    (TlValue.get entries "node_id_short").asText else some ""
  let id ← present (text.bind lib.fromHex) "Forward proof signer identity is invalid."
  let raw ← present (TlValue.get entries "signature").asBytes
    "Forward proof signer set is invalid."
  check (id.length = 32 ∧ id ∉ s.seen ∧ raw.length = 64)
    "Forward proof signer set is invalid."
  let node ← present (nodes.lookup id) "Forward proof signer set is invalid."
  check (lib.verifySign (node.publicKey.getD []) (signedMessage block) raw)
    "Forward proof signature is invalid."
  return ⟨id :: s.seen, s.signedWeight + node.weight⟩

/-- `_verify_unique_weighted_signatures`. -/
def verifyUniqueWeightedSignatures (nodes : List ValidatorRow) (signatures : TlValue)
    (block : BlockIdExt) : Except String Unit := do
  let signatures ← present signatures.asList "Forward proof signature count is invalid."
  check (1 ≤ signatures.length ∧ signatures.length ≤ nodes.length)
    "Forward proof signature count is invalid."
  let map ← nodeMap lib nodes
  let s ← signatures.foldlM (signatureStep lib map.nodes block) ⟨[], 0⟩
  check (map.totalWeight * 2 < s.signedWeight * 3)
    "Forward proof is not signed by more than two thirds of validators."

/-! ## Links -/

/-- The entries a link must have, with the key-block flag among them. -/
def linkComplete (step : List (String × TlValue)) (required : List String) (message : String) :
    Except String Bool := do
  check (required.all (TlValue.hasKey step)) message
  present (TlValue.get step "to_key_block").asBool message

/-- The configuration of a key block, and the set of validators it names. -/
def forwardConfiguration (source : lib.Block) (info : BlockInfo) :
    Except String (Option (Option Bool) × ValidatorSet) := do
  check (info.keyBlock = true ∧ lib.extraKeyBlock source = some true)
    "Forward proof source is not a configuration key block."
  let config ← present (lib.extraConfig source)
    "Forward proof source is not a configuration key block."
  let lacking := "Forward proof source lacks validator configuration."
  let catchain ← present (config.lookup 28) lacking
  check ((config.lookup 34).isSome ∨ (config.lookup 35).isSome) lacking
  let shuffle ← present (lib.shuffleMcValidators catchain) failedClosed
  let validators ← match config.lookup 35 with
    | some slice => present (lib.curTempValidators slice) failedClosed
    | none => present ((config.lookup 34).bind lib.curValidators) failedClosed
  return (shuffle, validators)

/-- `_verify_forward_link`. -/
def verifyForwardLink (source destination : BlockIdExt) (step : List (String × TlValue)) :
    Except String (Int × Int) := do
  let toKeyBlock ← linkComplete step
    ["from", "to", "to_key_block", "dest_proof", "config_proof", "signatures"]
    "Forward masterchain proof link is incomplete."
  let sourceRoot ← proofRoot lib (TlValue.get step "config_proof") "source configuration"
    source.rootHash
  let destinationRoot ← proofRoot lib (TlValue.get step "dest_proof") "destination"
    destination.rootHash
  check (lib.checkBlockHeaderProof sourceRoot source.rootHash) failedClosed
  check (lib.checkBlockHeaderProof destinationRoot destination.rootHash) failedClosed
  let sourceBlock ← present (lib.deserializeBlock sourceRoot) failedClosed
  let destinationBlock ← present (lib.deserializeBlock destinationRoot) failedClosed
  let sourceInfo ← requireBlockIdentity lib sourceBlock source "source"
  let destinationInfo ← requireBlockIdentity lib destinationBlock destination "destination"
  let (shuffle, validators) ← forwardConfiguration lib sourceBlock sourceInfo
  check (destinationInfo.keyBlock = toKeyBlock)
    "Forward proof destination key-block flag changed."
  let headerCc ← uint32 destinationInfo.genCatchainSeqno "header catchain"
  let nodes ← computeMasterchainValidatorSet lib shuffle validators headerCc
  let signatures ← present (TlValue.get step "signatures").asDict
    "Forward proof signature set is missing."
  let signatureCc ← present (TlValue.get signatures "catchain_seqno").asInt
    "Masterchain proof signature catchain is invalid."
  let signatureCc ← uint32 signatureCc "signature catchain"
  let signatureHash ← present (TlValue.get signatures "validator_set_hash").asInt
    "Masterchain proof signature validator-set hash is invalid."
  let signatureHash ← uint32 signatureHash "signature validator-set hash"
  let headerHash ← uint32 destinationInfo.genValidatorListHashShort "header validator-set hash"
  let computedHash ← computeValidatorSetHash headerCc nodes
  check (signatureCc = headerCc ∧ signatureHash = headerHash ∧ computedHash = headerHash)
    "Forward proof validator-set metadata is inconsistent."
  verifyUniqueWeightedSignatures lib nodes (TlValue.get signatures "signatures") destination
  return (← uint32 sourceInfo.genUtime "source generation time",
    ← uint32 destinationInfo.genUtime "destination generation time")

/-- `_verify_backward_link`. -/
def verifyBackwardLink (source destination : BlockIdExt) (step : List (String × TlValue)) :
    Except String (Int × Int) := do
  let toKeyBlock ← linkComplete step
    ["from", "to", "to_key_block", "dest_proof", "proof", "state_proof"]
    "Backward masterchain proof link is incomplete."
  let sourceRoot ← proofRoot lib (TlValue.get step "proof") "source" source.rootHash
  let destinationRoot ← proofRoot lib (TlValue.get step "dest_proof") "destination"
    destination.rootHash
  check (lib.checkBlockHeaderProof sourceRoot source.rootHash) failedClosed
  let stateHash ← present (lib.storedStateHash sourceRoot source.rootHash)
    "Backward proof source-state hash is invalid."
  check (stateHash.length = 32) "Backward proof source-state hash is invalid."
  let stateRoot ← proofRoot lib (TlValue.get step "state_proof") "source state" stateHash
  check (lib.checkBlockHeaderProof destinationRoot destination.rootHash) failedClosed
  let sourceBlock ← present (lib.deserializeBlock sourceRoot) failedClosed
  let destinationBlock ← present (lib.deserializeBlock destinationRoot) failedClosed
  let sourceInfo ← requireBlockIdentity lib sourceBlock source "source"
  let destinationInfo ← requireBlockIdentity lib destinationBlock destination "destination"
  check (destinationInfo.keyBlock = toKeyBlock)
    "Backward proof destination key-block flag changed."
  let state ← present (lib.deserializeState stateRoot) failedClosed
  requireStateIdentity lib state source
  let previous ← present (lib.previousBlock state)
    "Backward proof source state lacks masterchain history."
  check (referenceMatches (previous destination.seqno) destination)
    "Backward proof does not bind the full destination block id."
  return (← uint32 sourceInfo.genUtime "source generation time",
    ← uint32 destinationInfo.genUtime "destination generation time")

/-! ## The chain -/

/-- The variables of the loop over the links, and the client's
`last_key_block`. -/
structure LinkLoop where
  lastTrusted : BlockIdExt
  bestKey : Option BlockIdExt
  bestKeyTs : Int
  lastKeyBlock : Option BlockIdExt

/-- The client after a block that was proved to be a key block. -/
def advanceKeyBlock (lastKeyBlock : Option BlockIdExt) (block : BlockIdExt) :
    Option BlockIdExt :=
  match lastKeyBlock with
  | none => some block
  | some last => if last.seqno < block.seqno then some block else some last

/-- The checks of one link: its ends, its direction and what they prove. -/
def verifyLink (lastTrusted : BlockIdExt) (step : TlValue) (index : Nat) :
    Except String (List (String × TlValue) × BlockIdExt × BlockIdExt × Int × Int) := do
  let entries ← present step.asDict s!"Masterchain proof link {index + 1} is not an object."
  let source ← blockFromValue lib (TlValue.get entries "from") "link source"
  let destination ← blockFromValue lib (TlValue.get entries "to") "link destination"
  check (source = lastTrusted ∧ source.seqno ≠ destination.seqno)
    "Masterchain proof links are not contiguous."
  if TlValue.hasKey entries "config_proof" then do
    check (source.seqno < destination.seqno) "A forward proof link does not move forward."
    let times ← verifyForwardLink lib source destination entries
    return (entries, source, destination, times)
  else do
    check (destination.seqno < source.seqno) "A backward proof link does not move backward."
    let times ← verifyBackwardLink lib source destination entries
    return (entries, source, destination, times)

/-- The changes after a link. -/
def LinkLoop.advance (s : LinkLoop) (returnBestKeyBlock : Bool)
    (link : List (String × TlValue) × BlockIdExt × BlockIdExt × Int × Int) : LinkLoop :=
  let (entries, source, destination, sourceTime, destinationTime) := link
  let forward := TlValue.hasKey entries "config_proof"
  let toKey := (TlValue.get entries "to_key_block").asBool = some true
  let best := if returnBestKeyBlock ∧ forward then
    lib.chooseKeyBlock s.bestKey s.bestKeyTs source sourceTime else (s.bestKey, s.bestKeyTs)
  let best := if returnBestKeyBlock ∧ toKey then
    lib.chooseKeyBlock best.1 best.2 destination destinationTime else best
  let last := if forward then advanceKeyBlock s.lastKeyBlock source else s.lastKeyBlock
  let last := if toKey then advanceKeyBlock last destination else last
  ⟨destination, best.1, best.2, last⟩

/-- The loop over the links: how it ends, and the client's `last_key_block`
there. -/
def verifyLinks (returnBestKeyBlock : Bool) :
    LinkLoop → Nat → List TlValue → Except String LinkLoop × Option BlockIdExt
  | s, _, [] => (.ok s, s.lastKeyBlock)
  | s, index, step :: steps =>
      match verifyLink lib s.lastTrusted step index with
      | .error message => (.error message, s.lastKeyBlock)
      | .ok link => verifyLinks returnBestKeyBlock (s.advance lib returnBestKeyBlock link)
          (index + 1) steps

/-- The header of the response: its claim to be complete, its destination
and its links. -/
def proofHeader (knownBlock : BlockIdExt) (result : TlValue) :
    Except String (Bool × BlockIdExt × BlockIdExt × List TlValue) := do
  let entries ← present result.asDict "Masterchain proof response is not an object."
  let declaredFrom ← blockFromValue lib (TlValue.get entries "from") "declared source"
  let declaredTo ← blockFromValue lib (TlValue.get entries "to") "declared destination"
  let incoherent := "Masterchain proof response header is incoherent."
  let complete ← present (TlValue.get entries "complete").asBool incoherent
  let steps ← present (TlValue.get entries "steps").asList incoherent
  check (steps.length ≤ 256 ∧ declaredFrom = knownBlock) incoherent
  return (complete, declaredFrom, declaredTo, steps)

/-- The checks after the loop, and the completeness they leave. -/
def proofCompleteness (knownBlock : BlockIdExt) (targetBlock : Option BlockIdExt)
    (complete : Bool) (declaredFrom declaredTo : BlockIdExt) (steps : List TlValue)
    (lastTrusted : BlockIdExt) : Except String Bool := do
  check (declaredTo = lastTrusted) "Masterchain proof destination does not match its final link."
  check (steps = [] ∨ lastTrusted ≠ knownBlock) "Masterchain proof made no progress."
  check (steps ≠ [] ∨ declaredFrom = declaredTo) "An empty masterchain proof changes its block."
  match targetBlock with
  | some target => do
      check (target = knownBlock ∨ steps ≠ [])
        "Masterchain proof made no progress toward its target."
      check (complete = decide (lastTrusted = target))
        "Masterchain proof completeness does not match its target."
      return complete
  | none => return complete && !steps.isEmpty

/-- The blocks that are passed in. -/
def masterchainArguments (knownBlock : BlockIdExt) (targetBlock : Option BlockIdExt) :
    Except String Unit := do
  let _ ← masterchainBlock knownBlock "known block"
  match targetBlock with
  | none => return ()
  | some target => do
      let _ ← masterchainBlock target "target block"
      return ()

/-- What is returned. -/
structure MasterchainProof where
  complete : Bool
  block : BlockIdExt
  bestKey : Option BlockIdExt
  bestKeyTs : Int

/-- `verify_masterchain_proof_response`: how it ends, and the client's
`last_key_block` afterwards. -/
def verifyMasterchainProofResponse (lastKeyBlock : Option BlockIdExt) (knownBlock : BlockIdExt)
    (targetBlock : Option BlockIdExt) (result : TlValue) (returnBestKeyBlock : Bool) :
    Except String MasterchainProof × Option BlockIdExt :=
  match masterchainArguments knownBlock targetBlock >>= fun _ => proofHeader lib knownBlock result with
  | .error message => (.error message, lastKeyBlock)
  | .ok (complete, declaredFrom, declaredTo, steps) =>
      match verifyLinks lib returnBestKeyBlock ⟨knownBlock, none, 0, lastKeyBlock⟩ 0 steps with
      | (.error message, last) => (.error message, last)
      | (.ok s, last) =>
          ((proofCompleteness knownBlock targetBlock complete declaredFrom declaredTo steps
            s.lastTrusted).map fun complete => ⟨complete, s.lastTrusted, s.bestKey, s.bestKeyTs⟩,
            last)

end TonTracker
