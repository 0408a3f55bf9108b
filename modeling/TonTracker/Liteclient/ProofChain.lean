/-
# `Liteclient.ProofChain` — what an accepted masterchain proof establishes

A liteserver chooses every value of the response.  `ForwardProved` and
`BackwardProved` are what the checks of one link leave
(`verifyForwardLink_ok`, `verifyBackwardLink_ok`), and the loop keeps that
the last trusted block is reached by such links from the known one.  Two
destinations that one validator set signed share signers of more than a
third of its weight (`SignedBy.inter`).
-/
import TonTracker.Services.LiteclientStrictProof
import TonTracker.Lib.WeightedQuorum

namespace TonTracker

open ByteMessages (Bytes)
open ExceptFold (check present check_eq_ok present_eq_ok bind_eq_ok)

variable {lib : ProofLibrary}

/-! ## Signatures -/

/-- `calculate_node_id_short` of a validator's key. -/
def nodeId (lib : ProofLibrary) (row : ValidatorRow) : Bytes :=
  lib.nodeIdShort (row.publicKey.getD [])

/-- The weight of a list of validators. -/
def totalWeight (rows : List ValidatorRow) : Int := (rows.map (·.weight)).sum

/-- Distinct members of the set signed the block, with more than two thirds
of its weight. -/
structure SignedBy (lib : ProofLibrary) (nodes : List ValidatorRow) (block : BlockIdExt)
    (signers : List ValidatorRow) : Prop where
  identities : (nodes.map (nodeId lib)).Nodup
  positive : ∀ node ∈ nodes, 0 < node.weight
  members : ∀ signer ∈ signers, signer ∈ nodes
  distinct : (signers.map (nodeId lib)).Nodup
  valid : ∀ signer ∈ signers, ∃ key signature, signer.publicKey = some key ∧ key.length = 32 ∧
    signature.length = 64 ∧ lib.verifySign key (signedMessage block) signature = true
  weight : 2 * totalWeight nodes < 3 * totalWeight signers

theorem nodeMap_ok {nodes : List ValidatorRow} {map : NodeMap} (h : nodeMap lib nodes = .ok map) :
    map.nodes = nodes.map (fun node => (nodeId lib node, node)) ∧
      map.totalWeight = totalWeight nodes ∧ (nodes.map (nodeId lib)).Nodup ∧
      ∀ node ∈ nodes, nodeEntryValid node = true := by
  refine @ExceptFold.foldlM_inv _ _ _ _ (fun done (s : NodeMap) =>
    s.nodes = done.map (fun node => (nodeId lib node, node)) ∧ s.totalWeight = totalWeight done ∧
      (done.map (nodeId lib)).Nodup ∧ ∀ node ∈ done, nodeEntryValid node = true)
    ?_ _ [] _ _ h ⟨rfl, rfl, List.nodup_nil, fun _ h => nomatch h⟩
  intro done node s s' hstep hinv
  obtain ⟨hnodes, hweight, hnodup, hvalid⟩ := hinv
  obtain ⟨_, hentry, hstep⟩ := bind_eq_ok.mp hstep
  obtain ⟨_, hnew, hstep⟩ := bind_eq_ok.mp hstep
  obtain ⟨-, -, hstep⟩ := bind_eq_ok.mp hstep
  cases hstep
  have hnew : nodeId lib node ∉ s.nodes.map (·.1) := check_eq_ok.mp hnew
  rw [hnodes, List.map_map] at hnew
  refine ⟨?_, ?_, ?_, ?_⟩
  · rw [List.map_append, hnodes]
    rfl
  · show s.totalWeight + node.weight = totalWeight (done ++ [node])
    rw [hweight, totalWeight, totalWeight, List.map_append, List.sum_append, List.map_singleton,
      List.sum_singleton]
  · rw [List.map_append, List.map_singleton, List.nodup_append]
    refine ⟨hnodup, List.nodup_singleton _, ?_⟩
    intro a ha b hb heq
    rw [List.mem_singleton.mp hb] at heq
    exact hnew (heq ▸ ha)
  · intro other hother
    rcases List.mem_append.mp hother with hother | hother
    · exact hvalid other hother
    · rw [List.mem_singleton.mp hother]
      exact check_eq_ok.mp hentry

theorem mem_of_lookup {α β : Type} [BEq α] [LawfulBEq α] {key : α} {value : β}
    {entries : List (α × β)} (h : entries.lookup key = some value) : (key, value) ∈ entries := by
  induction entries with
  | nil => cases h
  | cons entry entries ih =>
      obtain ⟨other, v⟩ := entry
      rw [List.lookup_cons] at h
      split at h
      · next heq =>
          cases h
          rw [eq_of_beq heq]
          exact List.mem_cons_self
      · exact List.mem_cons_of_mem _ (ih h)

/-- The signatures that have passed are those of distinct members. -/
theorem signatureSteps_ok {nodes : List ValidatorRow} {entries : List (Bytes × ValidatorRow)}
    (hentries : entries = nodes.map fun node => (nodeId lib node, node)) {block : BlockIdExt}
    {values : List TlValue} {s : SignatureLoop}
    (hs : values.foldlM (signatureStep lib entries block) ⟨[], 0⟩ = .ok s) :
    ∃ signers : List ValidatorRow, s.seen = signers.map (nodeId lib) ∧
      s.signedWeight = totalWeight signers ∧ (signers.map (nodeId lib)).Nodup ∧
      ∀ signer ∈ signers, signer ∈ nodes ∧ ∃ signature, signature.length = 64 ∧
        lib.verifySign (signer.publicKey.getD []) (signedMessage block) signature = true := by
  refine @ExceptFold.foldlM_inv _ _ _ _ (fun _ (s : SignatureLoop) =>
    ∃ signers : List ValidatorRow, s.seen = signers.map (nodeId lib) ∧
      s.signedWeight = totalWeight signers ∧ (signers.map (nodeId lib)).Nodup ∧
      ∀ signer ∈ signers, signer ∈ nodes ∧ ∃ signature, signature.length = 64 ∧
        lib.verifySign (signer.publicKey.getD []) (signedMessage block) signature = true)
    ?_ _ [] _ _ hs ⟨[], rfl, rfl, List.nodup_nil, fun _ h => nomatch h⟩
  rintro - value s s' hstep ⟨signers, hseen, hweight, hnodup, hall⟩
  obtain ⟨fields, -, hstep⟩ := bind_eq_ok.mp hstep
  obtain ⟨id, -, hstep⟩ := bind_eq_ok.mp hstep
  obtain ⟨raw, -, hstep⟩ := bind_eq_ok.mp hstep
  obtain ⟨_, hnew, hstep⟩ := bind_eq_ok.mp hstep
  obtain ⟨node, hnode, hstep⟩ := bind_eq_ok.mp hstep
  obtain ⟨_, hverify, hstep⟩ := bind_eq_ok.mp hstep
  cases hstep
  obtain ⟨-, hunseen, hraw⟩ := check_eq_ok.mp hnew
  have hmem := mem_of_lookup (present_eq_ok.mp hnode)
  rw [hentries] at hmem
  obtain ⟨member, hmember, heq⟩ := List.mem_map.mp hmem
  cases heq
  refine ⟨node :: signers, by rw [hseen]; rfl, ?_, ?_, ?_⟩
  · show s.signedWeight + node.weight = _
    rw [hweight, totalWeight, totalWeight, List.map_cons, List.sum_cons, add_comm]
  · rw [List.map_cons, List.nodup_cons, ← hseen]
    exact ⟨hunseen, hseen ▸ hnodup⟩
  · exact List.forall_mem_cons.mpr ⟨⟨hmember, raw, hraw, check_eq_ok.mp hverify⟩, hall⟩

theorem verifyUniqueWeightedSignatures_ok {nodes : List ValidatorRow} {signatures : TlValue}
    {block : BlockIdExt} {u : Unit}
    (h : verifyUniqueWeightedSignatures lib nodes signatures block = .ok u) :
    ∃ signers, SignedBy lib nodes block signers := by
  obtain ⟨values, -, h⟩ := bind_eq_ok.mp h
  obtain ⟨-, -, h⟩ := bind_eq_ok.mp h
  obtain ⟨map, hmap, h⟩ := bind_eq_ok.mp h
  obtain ⟨s, hs, h⟩ := bind_eq_ok.mp h
  obtain ⟨hnodes, htotal, hidentities, hvalid⟩ := nodeMap_ok hmap
  obtain ⟨signers, -, hweight, hnodup, hall⟩ := signatureSteps_ok hnodes hs
  have hentry : ∀ node ∈ nodes, (∃ key, node.publicKey = some key ∧ key.length = 32) ∧
      0 < node.weight := by
    intro node hnode
    have := hvalid node hnode
    simp only [nodeEntryValid, Bool.and_eq_true, decide_eq_true_iff, Option.any_eq_true] at this
    exact ⟨this.1.1, this.1.2⟩
  refine ⟨signers, hidentities, fun node hnode => (hentry node hnode).2,
    fun signer hsigner => (hall signer hsigner).1, hnodup, ?_, ?_⟩
  · intro signer hsigner
    obtain ⟨hmember, signature, hlen, hverify⟩ := hall signer hsigner
    obtain ⟨key, hkey, hkeylen⟩ := (hentry signer hmember).1
    rw [hkey] at hverify
    exact ⟨key, signature, hkey, hkeylen, hlen, hverify⟩
  · have hquorum := check_eq_ok.mp h
    rw [htotal, hweight] at hquorum
    omega

/-- Two destinations that one set signed share signers of more than a third
of its weight. -/
theorem SignedBy.inter {nodes signers signers' : List ValidatorRow} {block block' : BlockIdExt}
    (h : SignedBy lib nodes block signers) (h' : SignedBy lib nodes block' signers') :
    ∃ shared : List ValidatorRow, shared.Nodup ∧
      (∀ signer ∈ shared, signer ∈ signers ∧ signer ∈ signers') ∧
      totalWeight nodes < 3 * totalWeight shared := by
  -- weights are positive, so they are natural numbers
  let w : ValidatorRow → ℕ := fun row => row.weight.toNat
  have hsum : ∀ rows : List ValidatorRow, (∀ row ∈ rows, row ∈ nodes) →
      totalWeight rows = ((rows.map w).sum : ℕ) := by
    intro rows hrows
    induction rows with
    | nil => rfl
    | cons row rows ih =>
        have hpos := h.positive row (hrows row List.mem_cons_self)
        have hrest := ih fun other hother => hrows other (List.mem_cons_of_mem _ hother)
        rw [totalWeight] at hrest
        rw [totalWeight, List.map_cons, List.sum_cons, List.map_cons, List.sum_cons, hrest]
        show row.weight + _ = ((row.weight.toNat + _ : ℕ) : ℤ)
        omega
  have hnodes : nodes.Nodup := List.Nodup.of_map _ h.identities
  have quorum : ∀ {block : BlockIdExt} {rows : List ValidatorRow},
      SignedBy lib nodes block rows →
        WeightedQuorum.IsQuorum w nodes.toFinset rows.toFinset := by
    intro block rows hrows
    refine ⟨fun row hrow => List.mem_toFinset.mpr (hrows.members row (List.mem_toFinset.mp hrow)),
      ?_⟩
    rw [WeightedQuorum.weight_toFinset w hnodes,
      WeightedQuorum.weight_toFinset w (List.Nodup.of_map _ hrows.distinct)]
    have hweight := hrows.weight
    rw [hsum nodes fun _ h => h, hsum rows hrows.members] at hweight
    omega
  have hinter := (quorum h).inter (quorum h')
  have hshared : (signers.toFinset ∩ signers'.toFinset).toList.toFinset =
      signers.toFinset ∩ signers'.toFinset := Finset.toList_toFinset _
  have hnodup := Finset.nodup_toList (signers.toFinset ∩ signers'.toFinset)
  have hmem : ∀ signer ∈ (signers.toFinset ∩ signers'.toFinset).toList,
      signer ∈ signers ∧ signer ∈ signers' := by
    intro signer hsigner
    rw [Finset.mem_toList, Finset.mem_inter, List.mem_toFinset, List.mem_toFinset] at hsigner
    exact hsigner
  refine ⟨_, hnodup, hmem, ?_⟩
  rw [← hshared, WeightedQuorum.weight_toFinset w hnodes,
    WeightedQuorum.weight_toFinset w hnodup] at hinter
  rw [hsum nodes fun _ h => h, hsum _ fun signer hsigner => h.members signer (hmem signer hsigner).1]
  omega

/-! ## Headers -/

/-- A proof that opens to a cell: a bag of one cell whose only reference it
is, with the hash that is expected. -/
def MerkleProved (lib : ProofLibrary) (expectedHash : Bytes) (root : lib.Cell) : Prop :=
  ∃ boc merkle, lib.oneFromBoc boc = some merkle ∧ lib.refs merkle = [root] ∧
    lib.checkProof merkle expectedHash = true

theorem proofRoot_ok {value : TlValue} {label : String} {expectedHash : Bytes} {root : lib.Cell}
    (h : proofRoot lib value label expectedHash = .ok root) :
    MerkleProved lib expectedHash root := by
  obtain ⟨boc, -, h⟩ := bind_eq_ok.mp h
  obtain ⟨-, -, h⟩ := bind_eq_ok.mp h
  obtain ⟨merkle, hmerkle, h⟩ := bind_eq_ok.mp h
  split at h
  · next child hrefs =>
      obtain ⟨_, hproof, h⟩ := bind_eq_ok.mp h
      cases h
      exact ⟨boc, merkle, present_eq_ok.mp hmerkle, hrefs, check_eq_ok.mp hproof⟩
  · cases h

/-- A header proof of a block that has the identity of `id`. -/
structure HeaderProved (lib : ProofLibrary) (id : BlockIdExt) (root : lib.Cell)
    (block : lib.Block) (info : BlockInfo) : Prop where
  merkle : MerkleProved lib id.rootHash root
  header : lib.checkBlockHeaderProof root id.rootHash = true
  decoded : lib.deserializeBlock root = some block
  headed : lib.blockInfo block = some info
  shard : ∃ shard, info.shard = some shard ∧ shard.workchainId = id.workchain ∧
    shard.shardSigned = id.shard
  seqno : info.seqno = id.seqno
  master : info.version = 0 ∧ info.notMaster = false

/-- The block is proved to be a key block. -/
def KeyProved (lib : ProofLibrary) (id : BlockIdExt) : Prop :=
  ∃ root block info, HeaderProved lib id root block info ∧ info.keyBlock = true

theorem requireBlockIdentity_ok {id : BlockIdExt} {root : lib.Cell} {block : lib.Block}
    {info : BlockInfo} {label : String} (hmerkle : MerkleProved lib id.rootHash root)
    (hheader : lib.checkBlockHeaderProof root id.rootHash = true)
    (hblock : lib.deserializeBlock root = some block)
    (h : requireBlockIdentity lib block id label = .ok info) :
    HeaderProved lib id root block info := by
  obtain ⟨info', hinfo, h⟩ := bind_eq_ok.mp h
  obtain ⟨shard, hshard, h⟩ := bind_eq_ok.mp h
  obtain ⟨_, hcheck, h⟩ := bind_eq_ok.mp h
  cases h
  obtain ⟨hversion, hseqno, hworkchain, hsigned, hmaster⟩ := check_eq_ok.mp hcheck
  exact ⟨hmerkle, hheader, hblock, present_eq_ok.mp hinfo,
    ⟨shard, present_eq_ok.mp hshard, hworkchain, hsigned⟩, hseqno, hversion, hmaster⟩

/-! ## Links -/

/-- The source is proved to be a key block with a configuration, and the
validator set computed from it, for the catchain of the destination's header,
signed the destination. -/
def ForwardProved (lib : ProofLibrary) (source destination : BlockIdExt) : Prop :=
  ∃ root block info root' block' info' shuffle validators headerCc nodes signers,
    HeaderProved lib source root block info ∧ HeaderProved lib destination root' block' info' ∧
      uint32 info'.genCatchainSeqno "header catchain" = .ok headerCc ∧ info.keyBlock = true ∧
      lib.extraKeyBlock block = some true ∧
      forwardConfiguration lib block info = .ok (shuffle, validators) ∧
      computeMasterchainValidatorSet lib shuffle validators headerCc = .ok nodes ∧
      SignedBy lib nodes destination signers

/-- The destination's id is an entry of the previous blocks of the proved
state of the source. -/
def BackwardProved (lib : ProofLibrary) (source destination : BlockIdExt) : Prop :=
  ∃ root block info stateHash stateRoot state previous,
    HeaderProved lib source root block info ∧
      lib.storedStateHash root source.rootHash = some stateHash ∧
      MerkleProved lib stateHash stateRoot ∧ lib.deserializeState stateRoot = some state ∧
      requireStateIdentity lib state source = .ok () ∧ lib.previousBlock state = some previous ∧
      previous destination.seqno =
        some ⟨destination.seqno, destination.rootHash, destination.fileHash⟩

/-- The header of the destination, and what its key-block flag says. -/
def DestinationProved (lib : ProofLibrary) (destination : BlockIdExt)
    (step : List (String × TlValue)) : Prop :=
  ∃ root block info, HeaderProved lib destination root block info ∧
    (TlValue.get step "to_key_block").asBool = some info.keyBlock

theorem linkComplete_ok {step : List (String × TlValue)} {required : List String}
    {message : String} {flag : Bool} (h : linkComplete step required message = .ok flag) :
    (TlValue.get step "to_key_block").asBool = some flag := by
  obtain ⟨-, -, h⟩ := bind_eq_ok.mp h
  exact present_eq_ok.mp h

theorem verifyForwardLink_ok {source destination : BlockIdExt} {step : List (String × TlValue)}
    {times : Int × Int} (h : verifyForwardLink lib source destination step = .ok times) :
    ForwardProved lib source destination ∧ DestinationProved lib destination step := by
  obtain ⟨flag, hflag, h⟩ := bind_eq_ok.mp h
  obtain ⟨root, hroot, h⟩ := bind_eq_ok.mp h
  obtain ⟨root', hroot', h⟩ := bind_eq_ok.mp h
  obtain ⟨_, hheader, h⟩ := bind_eq_ok.mp h
  obtain ⟨_, hheader', h⟩ := bind_eq_ok.mp h
  obtain ⟨block, hblock, h⟩ := bind_eq_ok.mp h
  obtain ⟨block', hblock', h⟩ := bind_eq_ok.mp h
  obtain ⟨info, hinfo, h⟩ := bind_eq_ok.mp h
  obtain ⟨info', hinfo', h⟩ := bind_eq_ok.mp h
  obtain ⟨⟨shuffle, validators⟩, hconfig, h⟩ := bind_eq_ok.mp h
  obtain ⟨_, hkey', h⟩ := bind_eq_ok.mp h
  obtain ⟨headerCc, hcatchain, h⟩ := bind_eq_ok.mp h
  obtain ⟨nodes, hnodes, h⟩ := bind_eq_ok.mp h
  obtain ⟨signatures, -, h⟩ := bind_eq_ok.mp h
  obtain ⟨_, -, h⟩ := bind_eq_ok.mp h
  obtain ⟨_, -, h⟩ := bind_eq_ok.mp h
  obtain ⟨_, -, h⟩ := bind_eq_ok.mp h
  obtain ⟨_, -, h⟩ := bind_eq_ok.mp h
  obtain ⟨_, -, h⟩ := bind_eq_ok.mp h
  obtain ⟨_, -, h⟩ := bind_eq_ok.mp h
  obtain ⟨_, -, h⟩ := bind_eq_ok.mp h
  obtain ⟨_, hsigned, -⟩ := bind_eq_ok.mp h
  have hsource := requireBlockIdentity_ok (proofRoot_ok hroot) (check_eq_ok.mp hheader)
    (present_eq_ok.mp hblock) hinfo
  have hdestination := requireBlockIdentity_ok (proofRoot_ok hroot') (check_eq_ok.mp hheader')
    (present_eq_ok.mp hblock') hinfo'
  obtain ⟨_, hkey, -⟩ := bind_eq_ok.mp hconfig
  obtain ⟨hkeyinfo, hkeyextra⟩ := check_eq_ok.mp hkey
  obtain ⟨signers, hsigners⟩ := verifyUniqueWeightedSignatures_ok hsigned
  refine ⟨⟨root, block, info, root', block', info', shuffle, validators, headerCc, nodes, signers,
    hsource, hdestination, hcatchain, hkeyinfo, hkeyextra, hconfig, hnodes, hsigners⟩, root',
    block', info', hdestination, ?_⟩
  rw [check_eq_ok.mp hkey']
  exact linkComplete_ok hflag

theorem verifyBackwardLink_ok {source destination : BlockIdExt} {step : List (String × TlValue)}
    {times : Int × Int} (h : verifyBackwardLink lib source destination step = .ok times) :
    BackwardProved lib source destination ∧ DestinationProved lib destination step := by
  obtain ⟨flag, hflag, h⟩ := bind_eq_ok.mp h
  obtain ⟨root, hroot, h⟩ := bind_eq_ok.mp h
  obtain ⟨root', hroot', h⟩ := bind_eq_ok.mp h
  obtain ⟨_, hheader, h⟩ := bind_eq_ok.mp h
  obtain ⟨stateHash, hstateHash, h⟩ := bind_eq_ok.mp h
  obtain ⟨_, -, h⟩ := bind_eq_ok.mp h
  obtain ⟨stateRoot, hstateRoot, h⟩ := bind_eq_ok.mp h
  obtain ⟨_, hheader', h⟩ := bind_eq_ok.mp h
  obtain ⟨block, hblock, h⟩ := bind_eq_ok.mp h
  obtain ⟨block', hblock', h⟩ := bind_eq_ok.mp h
  obtain ⟨info, hinfo, h⟩ := bind_eq_ok.mp h
  obtain ⟨info', hinfo', h⟩ := bind_eq_ok.mp h
  obtain ⟨_, hkey', h⟩ := bind_eq_ok.mp h
  obtain ⟨state, hstate, h⟩ := bind_eq_ok.mp h
  obtain ⟨_, hidentity, h⟩ := bind_eq_ok.mp h
  obtain ⟨previous, hprevious, h⟩ := bind_eq_ok.mp h
  obtain ⟨_, hreference, -⟩ := bind_eq_ok.mp h
  have hsource := requireBlockIdentity_ok (proofRoot_ok hroot) (check_eq_ok.mp hheader)
    (present_eq_ok.mp hblock) hinfo
  have hdestination := requireBlockIdentity_ok (proofRoot_ok hroot') (check_eq_ok.mp hheader')
    (present_eq_ok.mp hblock') hinfo'
  refine ⟨⟨root, block, info, stateHash, stateRoot, state, previous, hsource,
    present_eq_ok.mp hstateHash, proofRoot_ok hstateRoot, present_eq_ok.mp hstate,
    hidentity, present_eq_ok.mp hprevious,
    of_decide_eq_true (check_eq_ok.mp hreference)⟩, root', block', info', hdestination, ?_⟩
  rw [check_eq_ok.mp hkey']
  exact linkComplete_ok hflag

/-- A proved link, in the direction its sequence numbers have. -/
def Link (lib : ProofLibrary) (source destination : BlockIdExt) : Prop :=
  (source.seqno < destination.seqno ∧ ForwardProved lib source destination) ∨
    (destination.seqno < source.seqno ∧ BackwardProved lib source destination)

theorem verifyLink_ok {lastTrusted source destination : BlockIdExt} {step : TlValue} {index : Nat}
    {entries : List (String × TlValue)} {times : Int × Int}
    (h : verifyLink lib lastTrusted step index = .ok (entries, source, destination, times)) :
    source = lastTrusted ∧ Link lib source destination ∧
      (TlValue.hasKey entries "config_proof" = true → KeyProved lib source) ∧
      ((TlValue.get entries "to_key_block").asBool = some true → KeyProved lib destination) := by
  have keyed : ∀ {destination : BlockIdExt} {entries : List (String × TlValue)},
      DestinationProved lib destination entries →
        (TlValue.get entries "to_key_block").asBool = some true → KeyProved lib destination := by
    rintro destination entries ⟨root, block, info, hproved, hflag⟩ htrue
    exact ⟨root, block, info, hproved, Option.some.inj (hflag.symm.trans htrue)⟩
  obtain ⟨_, -, h⟩ := bind_eq_ok.mp h
  obtain ⟨_, -, h⟩ := bind_eq_ok.mp h
  obtain ⟨_, -, h⟩ := bind_eq_ok.mp h
  obtain ⟨_, hends, h⟩ := bind_eq_ok.mp h
  split at h
  · obtain ⟨_, hdirection, h⟩ := bind_eq_ok.mp h
    obtain ⟨_, hlink, h⟩ := bind_eq_ok.mp h
    cases h
    obtain ⟨hforward, hdestination⟩ := verifyForwardLink_ok hlink
    refine ⟨(check_eq_ok.mp hends).1, .inl ⟨check_eq_ok.mp hdirection, hforward⟩, ?_,
      keyed hdestination⟩
    intro _
    obtain ⟨root, block, info, -, -, -, -, -, -, -, -, hheader, -, -, hkey, -⟩ := hforward
    exact ⟨root, block, info, hheader, hkey⟩
  · next hbackward =>
      obtain ⟨_, hdirection, h⟩ := bind_eq_ok.mp h
      obtain ⟨_, hlink, h⟩ := bind_eq_ok.mp h
      cases h
      obtain ⟨hproved, hdestination⟩ := verifyBackwardLink_ok hlink
      exact ⟨(check_eq_ok.mp hends).1, .inr ⟨check_eq_ok.mp hdirection, hproved⟩,
        fun hforward => absurd hforward hbackward, keyed hdestination⟩

/-! ## The client -/

/-- The block is an end of a proved link, and a key block. -/
def KeyEndpoint (lib : ProofLibrary) (block : BlockIdExt) : Prop :=
  KeyProved lib block ∧ ∃ other, Link lib block other ∨ Link lib other block

/-- The client keeps its last key block, or has a later one that is an end of
a proved link. -/
def KeyStep (lib : ProofLibrary) (before after : Option BlockIdExt) : Prop :=
  after = before ∨ ∃ block, after = some block ∧ KeyEndpoint lib block ∧
    ∀ last, before = some last → last.seqno < block.seqno

theorem KeyStep.trans {a b c : Option BlockIdExt} (h : KeyStep lib a b) (h' : KeyStep lib b c) :
    KeyStep lib a c := by
  obtain rfl | ⟨block', rfl, hend', hlater'⟩ := h'
  · exact h
  · refine .inr ⟨block', rfl, hend', fun last hlast => ?_⟩
    obtain rfl | ⟨block, rfl, -, hlater⟩ := h
    · exact hlater' last hlast
    · exact lt_trans (hlater last hlast) (hlater' block rfl)

theorem keyStep_advance {block : BlockIdExt} (before : Option BlockIdExt)
    (h : KeyEndpoint lib block) : KeyStep lib before (advanceKeyBlock before block) := by
  cases before with
  | none => exact .inr ⟨block, rfl, h, fun _ hlast => nomatch hlast⟩
  | some last =>
      unfold advanceKeyBlock
      dsimp only
      split
      · next hlt =>
          refine .inr ⟨block, rfl, h, fun last' hlast => ?_⟩
          cases hlast
          exact hlt
      · exact .inl rfl

theorem keyStep_if {c : Prop} [Decidable c] {block : BlockIdExt} (before : Option BlockIdExt)
    (h : c → KeyEndpoint lib block) :
    KeyStep lib before (if c then advanceKeyBlock before block else before) := by
  split
  · next hc => exact keyStep_advance before (h hc)
  · exact .inl rfl

theorem keyStep_link {s : LinkLoop} {best : Bool} {source destination : BlockIdExt}
    {entries : List (String × TlValue)} {times : Int × Int} (hlink : Link lib source destination)
    (hsource : TlValue.hasKey entries "config_proof" = true → KeyProved lib source)
    (hdestination : (TlValue.get entries "to_key_block").asBool = some true →
      KeyProved lib destination) :
    KeyStep lib s.lastKeyBlock
      (s.advance lib best (entries, source, destination, times)).lastKeyBlock := by
  have first := keyStep_if (c := TlValue.hasKey entries "config_proof" = true) s.lastKeyBlock
    fun hforward => ⟨hsource hforward, destination, .inl hlink⟩
  exact first.trans (keyStep_if _ fun hkey => ⟨hdestination hkey, source, .inr hlink⟩)

/-! ## The chain -/

/-- The loop keeps to proved links, also where it fails. -/
theorem verifyLinks_sound (best : Bool) (s : LinkLoop) (index : Nat) (steps : List TlValue) :
    KeyStep lib s.lastKeyBlock (verifyLinks lib best s index steps).2 ∧
      ∀ s', (verifyLinks lib best s index steps).1 = .ok s' →
        Relation.ReflTransGen (Link lib) s.lastTrusted s'.lastTrusted := by
  induction steps generalizing s index with
  | nil =>
      refine ⟨.inl rfl, fun s' h => ?_⟩
      cases h
      exact .refl
  | cons step steps ih =>
      rw [verifyLinks]
      split
      · exact ⟨.inl rfl, fun s' h => nomatch h⟩
      · next link hlink =>
          obtain ⟨entries, source, destination, times⟩ := link
          obtain ⟨rfl, hproved, hsource, hdestination⟩ := verifyLink_ok hlink
          obtain ⟨hkey, hchain⟩ := ih (s.advance lib best (entries, s.lastTrusted, destination,
            times)) (index + 1)
          refine ⟨(keyStep_link hproved hsource hdestination).trans hkey, fun s' hs' => ?_⟩
          exact .head hproved (hchain s' hs')

theorem proofCompleteness_target {knownBlock target declaredFrom declaredTo lastTrusted : BlockIdExt}
    {complete complete' : Bool} {steps : List TlValue}
    (h : proofCompleteness knownBlock (some target) complete declaredFrom declaredTo steps
      lastTrusted = .ok complete') : complete' = true ↔ lastTrusted = target := by
  obtain ⟨_, -, h⟩ := bind_eq_ok.mp h
  obtain ⟨_, -, h⟩ := bind_eq_ok.mp h
  obtain ⟨_, -, h⟩ := bind_eq_ok.mp h
  obtain ⟨_, -, h⟩ := bind_eq_ok.mp h
  obtain ⟨_, hcomplete, h⟩ := bind_eq_ok.mp h
  cases h
  rw [check_eq_ok.mp hcomplete, decide_eq_true_iff]

/-- Whatever the liteserver answers: a block that is returned is reached from
the known one by proved links, and is complete exactly if it is the target
that was asked for; the client's last key block only moves forward, to an
end of a proved link that is a key block; and two blocks that one validator
set signed share signers of more than a third of its weight. -/
theorem masterchain_proof_sound (lib : ProofLibrary) (lastKeyBlock : Option BlockIdExt)
    (knownBlock : BlockIdExt) (targetBlock : Option BlockIdExt) (result : TlValue) (best : Bool) :
    (∀ proof, (verifyMasterchainProofResponse lib lastKeyBlock knownBlock targetBlock result
        best).1 = .ok proof →
      Relation.ReflTransGen (Link lib) knownBlock proof.block ∧
        ∀ target, targetBlock = some target → (proof.complete = true ↔ proof.block = target)) ∧
    KeyStep lib lastKeyBlock (verifyMasterchainProofResponse lib lastKeyBlock knownBlock
      targetBlock result best).2 ∧
    ∀ nodes a b signers signers', SignedBy lib nodes a signers → SignedBy lib nodes b signers' →
      ∃ shared : List ValidatorRow, shared.Nodup ∧
        (∀ signer ∈ shared, signer ∈ signers ∧ signer ∈ signers') ∧
        totalWeight nodes < 3 * totalWeight shared := by
  unfold verifyMasterchainProofResponse
  refine ⟨?_, ?_, fun nodes a b signers signers' h h' => h.inter h'⟩
  · intro proof h
    split at h
    · cases h
    · next complete declaredFrom declaredTo steps _ =>
        obtain ⟨-, hchain⟩ := @verifyLinks_sound lib best
          ⟨knownBlock, none, 0, lastKeyBlock⟩ 0 steps
        split at h
        · cases h
        · next s last hlinks =>
            rw [hlinks] at hchain
            cases hdone : proofCompleteness knownBlock targetBlock complete declaredFrom declaredTo
                steps s.lastTrusted with
            | error message =>
                rw [hdone] at h
                cases h
            | ok complete' =>
                rw [hdone] at h
                cases h
                refine ⟨hchain s rfl, ?_⟩
                rintro target rfl
                exact proofCompleteness_target hdone
  · split
    · exact .inl rfl
    · next complete declaredFrom declaredTo steps _ =>
        obtain ⟨hkey, -⟩ := @verifyLinks_sound lib best
          ⟨knownBlock, none, 0, lastKeyBlock⟩ 0 steps
        split
        · next message last hlinks => rwa [hlinks] at hkey
        · next s last hlinks => rwa [hlinks] at hkey

end TonTracker
