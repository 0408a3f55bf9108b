/-
# `Inclusion.ExactBlock` — which block an accepted document is about

The checks bind the transaction to the block with the root hash of the
document (`verifyTransactionInclusionProof_ok`), and read none of its other
coordinates: a document stays accepted under any workchain, shard and
sequence number.  So it names the block of its proof exactly where those
are the coordinates of the proved header, and the account lies in it.
-/
import TonTracker.Services.TransactionInclusionProof

namespace TonTracker

open ByteMessages (Bytes)
open ExceptFold (check_eq_ok present_eq_ok bind_eq_ok)

variable {lib : InclusionLibrary}

/-! ## What is bound -/

/-- The transactions of the account, in the proved block, hold at the logical
time the stored BOC with the stated hash. -/
def TransactionBound (lib : InclusionLibrary) (evidence : InclusionEvidence) (block : lib.Block)
    (account : Bytes) : Prop :=
  ∃ logicalTime transactions proved boc root,
    lib.parseInt evidence.request.logicalTime = some logicalTime ∧
      lib.accountTransactions block account = some transactions ∧
      transactions logicalTime = some proved ∧
      lib.fromHex evidence.transactionBocHex = some boc ∧ lib.oneFromBoc boc = some root ∧
      lib.levelHash proved = lib.levelHash root ∧
      lib.hex (lib.cellHash root) = evidence.request.transactionHash ∧
      lib.transactionLt root = some logicalTime

/-- The header of the stored proof has the root hash of the document. -/
def HeaderBound (lib : InclusionLibrary) (evidence : InclusionEvidence) (header : lib.Cell)
    (block : lib.Block) : Prop :=
  provedBlock lib evidence = .ok (header, block) ∧
    ∃ id rootHash, evidence.block = some id ∧ lib.fromHex id.rootHash = some rootHash ∧
      lib.checkBlockHeaderProof header rootHash = true

/-- What an accepted document establishes. -/
theorem verifyTransactionInclusionProof_ok {evidence : InclusionEvidence} {u : Unit}
    (h : verifyTransactionInclusionProof lib evidence = .ok u) :
    ∃ address header block, lib.address evidence.request.accountAddress = some address ∧
      HeaderBound lib evidence header block ∧
      TransactionBound lib evidence block address.hashPart := by
  obtain ⟨address, haddress, h⟩ := bind_eq_ok.mp h
  obtain ⟨logicalTime, htime, h⟩ := bind_eq_ok.mp h
  obtain ⟨id, hid, h⟩ := bind_eq_ok.mp h
  obtain ⟨rootHash, hhash, h⟩ := bind_eq_ok.mp h
  obtain ⟨boc, hboc, h⟩ := bind_eq_ok.mp h
  obtain ⟨root, hroot, h⟩ := bind_eq_ok.mp h
  obtain ⟨⟨header, block⟩, hproved, h⟩ := bind_eq_ok.mp h
  obtain ⟨_, hheader, h⟩ := bind_eq_ok.mp h
  obtain ⟨transactions, htransactions, h⟩ := bind_eq_ok.mp h
  obtain ⟨proved, hcell, h⟩ := bind_eq_ok.mp h
  obtain ⟨_, hlevel, h⟩ := bind_eq_ok.mp h
  obtain ⟨_, hidentity, h⟩ := bind_eq_ok.mp h
  obtain ⟨lt, hlt, h⟩ := bind_eq_ok.mp h
  obtain ⟨_, -, hboc⟩ := bind_eq_ok.mp hboc
  have hlt := present_eq_ok.mp hlt
  rw [check_eq_ok.mp h] at hlt
  exact ⟨address, header, block, present_eq_ok.mp haddress,
    ⟨hproved, id, rootHash, present_eq_ok.mp hid, present_eq_ok.mp hhash, check_eq_ok.mp hheader⟩,
    logicalTime, transactions, proved, boc, root, present_eq_ok.mp htime,
    present_eq_ok.mp htransactions, present_eq_ok.mp hcell, present_eq_ok.mp hboc,
    present_eq_ok.mp hroot, check_eq_ok.mp hlevel, check_eq_ok.mp hidentity, hlt⟩

theorem proofValues_ok {network policyId transactionBocHex verifiedAt : String} {trustLevel : Int}
    {request : InclusionRequest} {evidence : InclusionEvidence} {legacy : Bool}
    {values : ProofValues}
    (h : proofValues lib network trustLevel policyId request transactionBocHex evidence verifiedAt
      legacy = .ok values) :
    (∃ u, verifyTransactionInclusionProof lib evidence = .ok u) ∧
      evidence.block = some values.block ∧ evidence.request = values.request := by
  obtain ⟨_, hrequest, h⟩ := bind_eq_ok.mp h
  obtain ⟨_, -, h⟩ := bind_eq_ok.mp h
  obtain ⟨_, -, h⟩ := bind_eq_ok.mp h
  obtain ⟨_, -, h⟩ := bind_eq_ok.mp h
  obtain ⟨u, hverify, h⟩ := bind_eq_ok.mp h
  obtain ⟨block, hblock, h⟩ := bind_eq_ok.mp h
  obtain ⟨anchor, -, h⟩ := bind_eq_ok.mp h
  obtain ⟨checkpoint, -, h⟩ := bind_eq_ok.mp h
  obtain ⟨_, -, h⟩ := bind_eq_ok.mp h
  obtain ⟨_, -, h⟩ := bind_eq_ok.mp h
  obtain ⟨_, -, h⟩ := bind_eq_ok.mp h
  obtain ⟨_, -, h⟩ := bind_eq_ok.mp h
  cases h
  obtain ⟨found, hfound, hblock⟩ := bind_eq_ok.mp hblock
  obtain ⟨_, -, hblock⟩ := bind_eq_ok.mp hblock
  cases hblock
  exact ⟨⟨u, hverify⟩, present_eq_ok.mp hfound, check_eq_ok.mp hrequest⟩

/-! ## The exact block -/

/-- The lowest bit of a shard, which ends its prefix. -/
def shardTag (shard : Nat) : Nat := shard &&& (2 ^ 64 - shard)

/-- An account lies in a shard: its first bits are the prefix of the shard. -/
def accountInShard (shard : Int) (account : Bytes) : Bool :=
  let bits := (shard % 2 ^ 64).toNat
  let unit := 2 * shardTag bits
  decide (bigValue (account.take 8) / unit = bits / unit)

/-- The document names the block of its proof: its four coordinates are those
of the proved header, the account lies in its workchain and shard, and its
dictionary holds the transaction. -/
def BindsExactBlock (lib : InclusionLibrary) (evidence : InclusionEvidence) : Prop :=
  ∃ id address header block info shard, evidence.block = some id ∧
    lib.address evidence.request.accountAddress = some address ∧
    HeaderBound lib evidence header block ∧ lib.blockInfo block = some info ∧
    info.shard = some shard ∧ id.workchain = shard.workchainId ∧ id.shard = shard.shardSigned ∧
    id.seqno = info.seqno ∧ address.wc = id.workchain ∧
    accountInShard id.shard address.hashPart = true ∧
    TransactionBound lib evidence block address.hashPart

/-- The coordinates of a document as those of the header its proof opens to,
and the account's. -/
def coordinatesMatch (lib : InclusionLibrary) (evidence : InclusionEvidence) : Bool :=
  match evidence.block, lib.address evidence.request.accountAddress, provedBlock lib evidence with
  | some id, some address, .ok (_, block) =>
      (lib.blockInfo block).any fun info => info.shard.any fun shard =>
        id.workchain = shard.workchainId && id.shard = shard.shardSigned &&
          id.seqno = info.seqno && address.wc = id.workchain &&
          accountInShard id.shard address.hashPart
  | _, _, _ => false

/-- An accepted document names the block of its proof where its coordinates
are those of the proved header, and of the account. -/
theorem bindsExactBlock_iff {network policyId transactionBocHex verifiedAt : String}
    {trustLevel : Int} {request : InclusionRequest} {evidence : InclusionEvidence} {legacy : Bool}
    {values : ProofValues}
    (h : proofValues lib network trustLevel policyId request transactionBocHex evidence verifiedAt
      legacy = .ok values) :
    BindsExactBlock lib evidence ↔ coordinatesMatch lib evidence = true := by
  obtain ⟨⟨u, hverify⟩, hid, -⟩ := proofValues_ok h
  obtain ⟨address, header, block, haddress, hheader, hbound⟩ :=
    verifyTransactionInclusionProof_ok hverify
  unfold coordinatesMatch
  rw [hid, haddress, hheader.1]
  simp only [Option.any_eq_true, Bool.and_eq_true, decide_eq_true_iff]
  constructor
  · rintro ⟨id, address', header', block', info, shard, hid', haddress', hheader', hinfo, hshard,
      hworkchain, hshards, hseqno, haccount, hin, -⟩
    cases hid.symm.trans hid'
    cases haddress.symm.trans haddress'
    cases hheader.1.symm.trans hheader'.1
    exact ⟨info, hinfo, shard, hshard, ⟨⟨⟨hworkchain, hshards⟩, hseqno⟩, haccount⟩, hin⟩
  · rintro ⟨info, hinfo, shard, hshard, ⟨⟨⟨hworkchain, hshards⟩, hseqno⟩, haccount⟩, hin⟩
    exact ⟨values.block, address, header, block, info, shard, hid, haddress, hheader, hinfo, hshard,
      hworkchain, hshards, hseqno, haccount, hin, hbound⟩

/-! ## A small library -/

/-- The hash of cell `n`. -/
def numberedHash (n : UInt8) : Bytes := List.replicate 31 0 ++ [n]

/-- The hash of the transaction. -/
def numberedTransaction : String :=
  "0000000000000000000000000000000000000000000000000000000000000001"

/-- Cells as numbers: cell 1 is the transaction, 2 the stored proof, 3 its
header, which the proof opens to. -/
def numberedLibrary : InclusionLibrary where
  Cell := Nat
  Block := Nat
  address _ := some { wc := 0, hashPart := numberedHash 18 }
  parseInt _ := some 40
  fromHex value := if value = "01" then some [1] else if value = "02" then some [2] else
    some (numberedHash 3)
  hex _ := numberedTransaction
  oneFromBoc bytes := bytes.head?.map UInt8.toNat
  firstRef cell := if cell = 2 then some 3 else none
  cellHash cell := numberedHash cell.toUInt8
  levelHash cell := numberedHash cell.toUInt8
  checkBlockHeaderProof header rootHash := header = 3 && rootHash = numberedHash 3
  deserializeBlock cell := some cell
  blockInfo _ := some {
    version := 0
    seqno := 7
    shard := some { workchainId := 0, shardSigned := -2 ^ 63 }
    notMaster := true
    keyBlock := false
    genCatchainSeqno := 0
    genValidatorListHashShort := 0
    genUtime := 0 }
  accountTransactions _ account :=
    if account = numberedHash 18 then some fun lt => if lt = 40 then some 1 else none else none
  transactionLt _ := some 40
  sha256Hex _ := "s"
  currentCheckpoint _ _ _ := true
  recognizedCheckpoint _ _ _ := false
  digestJson _ _ := "d"

/-- A block id with hashes of the right form. -/
def namedBlock (workchain shard seqno : Int) : BlockDocument where
  workchain := workchain
  shard := shard
  seqno := seqno
  rootHash := "0000000000000000000000000000000000000000000000000000000000000003"
  fileHash := "0000000000000000000000000000000000000000000000000000000000000004"

/-- The document of the transaction at 40 in block 7, as `block` names it. -/
def numberedEvidence (block : BlockDocument) : InclusionEvidence where
  request := { accountAddress := "0:12", logicalTime := "40", transactionHash := numberedTransaction }
  block := some block
  masterchainAnchor := some (namedBlock (-1) (-2 ^ 63) 9)
  trustedCheckpoint := some (namedBlock (-1) (-2 ^ 63) 1)
  verifierPolicyId := "p"
  transactionBocHex := "01"
  blockProofBocHex := "02"
  trustLevel := 0

/-- The columns of a document. -/
def numberedValues (block : BlockDocument) : ProofValues where
  network := "ton-mainnet"
  trustLevel := 0
  verifierPolicyId := "p"
  trustedCheckpoint := namedBlock (-1) (-2 ^ 63) 1
  request := { accountAddress := "0:12", logicalTime := "40", transactionHash := numberedTransaction }
  block := block
  anchor := namedBlock (-1) (-2 ^ 63) 9
  blockProofBocHex := "02"
  transactionBocSha256 := "s"
  blockProofBocSha256 := "s"
  evidenceDigest := "d"

/-- The values of the document under the block id `block`. -/
def numberedProof (block : BlockDocument) : Except String ProofValues :=
  proofValues numberedLibrary "ton-mainnet" 0 "p"
    { accountAddress := "0:12", logicalTime := "40", transactionHash := numberedTransaction } "01"
    (numberedEvidence block) "t" false

/-- Named as it is, the block is bound; with another number it is not. -/
theorem bindsExactBlock_numbered :
    BindsExactBlock numberedLibrary (numberedEvidence (namedBlock 0 (-2 ^ 63) 7)) ∧
      ¬ BindsExactBlock numberedLibrary (numberedEvidence (namedBlock 0 (-2 ^ 63) 8)) := by
  have hgood : numberedProof (namedBlock 0 (-2 ^ 63) 7) =
      .ok (numberedValues (namedBlock 0 (-2 ^ 63) 7)) := by decide +kernel
  have hbad : numberedProof (namedBlock 0 (-2 ^ 63) 8) =
      .ok (numberedValues (namedBlock 0 (-2 ^ 63) 8)) := by decide +kernel
  refine ⟨(bindsExactBlock_iff hgood).mpr ?_, fun h => ?_⟩
  · decide +kernel
  · have hmatch := (bindsExactBlock_iff hbad).mp h
    revert hmatch
    decide +kernel

/-- An accepted document whose block id has another sequence number than the
header of its proof, in another shard. -/
theorem other_block_accepted :
    numberedProof (namedBlock (-1) 5 8) = .ok (numberedValues (namedBlock (-1) 5 8)) ∧
      ¬ BindsExactBlock numberedLibrary (numberedEvidence (namedBlock (-1) 5 8)) := by
  refine ⟨by decide +kernel, ?_⟩
  rintro ⟨id, _, header, block, info, shard, hid, -, -, hinfo, -, -, -, hseqno, -⟩
  cases hid
  cases hinfo
  revert hseqno
  decide

end TonTracker
