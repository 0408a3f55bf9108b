/-
# `Trace.ReadinessAvailable` — where multi-asset readiness is there

Native readiness reads a capture through the transaction it was captured
by; multi-asset readiness reads it through its root.  A capture that
revalidates does so through any of its transactions that is a stored row of
the run (`captureMessageEvidence_anchor`), so it returns exactly where each
root is such a row.
-/
import TonTracker.Services.WalletMultiAssetPnlReadiness
import TonTracker.Trace.CountedOnce
import TonTracker.Lib.ExceptRaises

namespace TonTracker

open ExceptFold (check present check_eq_ok present_eq_ok bind_eq_ok RaisesOnly foldlM_rounds)

/-! ## Conditions -/

variable {lib : BocLibrary}

/-- A capture revalidates through one of its transactions, with its
verification where there is one. -/
def Revalidates (lib : BocLibrary) (store : TraceStore) (capture : TraceCapture) : Prop :=
  ∃ run transaction found, store.runs.find? (·.id = capture.runId) = some run ∧
    captureMessageEvidence lib store run transaction capture = .ok found

/-- The root transaction of a capture is one stored row of its run, of that
run's identity and at the root's place, and no other capture holds it. -/
structure RootStored (derive : DeriveIdentity) (store : TraceStore) (capture : TraceCapture)
    (run : TraceRun) (transaction : TraceTransaction) : Prop where
  bounded : 1 ≤ capture.runId ∧ capture.runId ≤ 2 ^ 63 - 1
  found : store.runs.find? (·.id = capture.runId) = some run
  stored : (store.transactions.filter fun row => row.runId = capture.runId ∧
    row.txHash.toLower = capture.summary.rootTransactionHash) = [transaction]
  eligible : derive run transaction = (transaction.identity, true) ∧
    transaction.identity.networkScoped = true ∧
    transaction.identity.hashCanonical = some capture.summary.rootTransactionHash
  alone : (store.captures.filter fun other => other.runId = capture.runId ∧
    ∃ node ∈ other.nodes, node.transactionHash = capture.summary.rootTransactionHash) = [capture]
  anchored : ∃ node ∈ capture.nodes,
    node.transactionHash = capture.summary.rootTransactionHash ∧ anchoredAt transaction node = true

/-- The root of a capture can be read. -/
def RootReadable (derive : DeriveIdentity) (store : TraceStore) (capture : TraceCapture) : Prop :=
  ∃ run transaction, RootStored derive store capture run transaction

/-! ## Another anchor -/

theorem mem_sortedNodes {capture : TraceCapture} {node : TraceNodeRow} :
    node ∈ capture.sortedNodes ↔ node ∈ capture.nodes :=
  (List.perm_insertionSort _ _).mem_iff

/-- The last node with the hash of a row is the one with that hash. -/
theorem nodesOf_getLast? {nodes : List TraceNodeRow} (shape : TraceShape nodes)
    {transaction : TraceTransaction} {node : TraceNodeRow} (hnode : node ∈ nodes)
    (hhash : some node.transactionHash = transaction.identity.hashCanonical) :
    (nodesOf nodes transaction).getLast? = some node := by
  have hmem : node ∈ nodesOf nodes transaction :=
    List.mem_filter.mpr ⟨hnode, decide_eq_true hhash⟩
  cases hlast : (nodesOf nodes transaction).getLast? with
  | none =>
      rw [List.getLast?_eq_none_iff.mp hlast] at hmem
      cases hmem
  | some last =>
      obtain ⟨hlast, hhash'⟩ := List.mem_filter.mp (List.mem_of_getLast? hlast)
      have heq : last.transactionHash = node.transactionHash :=
        Option.some.inj ((of_decide_eq_true hhash').trans hhash.symm)
      rw [List.inj_on_of_nodup_map shape.hashes hlast hnode heq]

/-- A capture that revalidates through one transaction does so through every
row that is at one of its nodes. -/
theorem revalidateCapture_anchor {digest : TraceDocument → String} {derive : DeriveIdentity}
    {transactions : List TraceTransaction} {capture : TraceCapture} {run : TraceRun}
    {selected other : TraceTransaction} {persisted : PersistedTrace} {node : TraceNodeRow}
    (h : revalidateCapture derive digest transactions capture run selected = .ok persisted)
    (hnode : node ∈ capture.nodes)
    (hhash : some node.transactionHash = other.identity.hashCanonical)
    (hanchored : anchoredAt other node = true) :
    ∃ found, revalidateCapture derive digest transactions capture run other = .ok found ∧
      some found.anchor.transactionHash = other.identity.hashCanonical := by
  have hlast := nodesOf_getLast? (revalidateCapture_shape h) (mem_sortedNodes.mpr hnode) hhash
  obtain ⟨_, h₁, h⟩ := bind_eq_ok.mp h
  obtain ⟨_, h₂, h⟩ := bind_eq_ok.mp h
  obtain ⟨_, h₃, h⟩ := bind_eq_ok.mp h
  obtain ⟨_, h₄, h⟩ := bind_eq_ok.mp h
  obtain ⟨_, h₅, h⟩ := bind_eq_ok.mp h
  obtain ⟨_, -, h⟩ := bind_eq_ok.mp h
  obtain ⟨_, h₇, h⟩ := bind_eq_ok.mp h
  obtain ⟨_, -, h⟩ := bind_eq_ok.mp h
  obtain ⟨_, h₉, h⟩ := bind_eq_ok.mp h
  obtain ⟨_, h₁₀, h⟩ := bind_eq_ok.mp h
  obtain ⟨_, h₁₁, h⟩ := bind_eq_ok.mp h
  obtain ⟨_, h₁₂, h⟩ := bind_eq_ok.mp h
  obtain ⟨_, h₁₃, -⟩ := bind_eq_ok.mp h
  refine ⟨_, bind_eq_ok.mpr ⟨_, h₁, bind_eq_ok.mpr ⟨_, h₂, bind_eq_ok.mpr ⟨_, h₃,
    bind_eq_ok.mpr ⟨_, h₄, bind_eq_ok.mpr ⟨_, h₅, bind_eq_ok.mpr ⟨_, present_eq_ok.mpr hlast,
    bind_eq_ok.mpr ⟨_, h₇, bind_eq_ok.mpr ⟨(), check_eq_ok.mpr hanchored,
    bind_eq_ok.mpr ⟨_, h₉, bind_eq_ok.mpr ⟨_, h₁₀, bind_eq_ok.mpr ⟨_, h₁₁,
    bind_eq_ok.mpr ⟨_, h₁₂, bind_eq_ok.mpr ⟨_, h₁₃, rfl⟩⟩⟩⟩⟩⟩⟩⟩⟩⟩⟩⟩⟩, hhash⟩

/-- A verification that revalidates does so behind another anchor. -/
theorem revalidateVerification_anchor {store : TraceStore} {verification : BocVerification}
    {capture : TraceCapture} {persisted found : PersistedTrace} {run : TraceRun}
    {selected other : TraceTransaction} {verified : VerifiedTrace}
    (h : revalidateVerification lib store verification capture persisted run selected =
      .ok verified)
    (hanchor : some found.anchor.transactionHash = other.identity.hashCanonical) :
    ∃ verified, revalidateVerification lib store verification capture found run other =
      .ok verified := by
  obtain ⟨_, h₁, h⟩ := bind_eq_ok.mp h
  obtain ⟨_, h₂, h⟩ := bind_eq_ok.mp h
  obtain ⟨_, h₃, h⟩ := bind_eq_ok.mp h
  obtain ⟨_, h₄, h⟩ := bind_eq_ok.mp h
  obtain ⟨_, h₅, h⟩ := bind_eq_ok.mp h
  obtain ⟨_, h₆, h⟩ := bind_eq_ok.mp h
  obtain ⟨_, h₇, h⟩ := bind_eq_ok.mp h
  obtain ⟨_, h₈, -⟩ := bind_eq_ok.mp h
  exact ⟨_, bind_eq_ok.mpr ⟨_, h₁, bind_eq_ok.mpr ⟨_, h₂, bind_eq_ok.mpr ⟨_, h₃,
    bind_eq_ok.mpr ⟨_, h₄, bind_eq_ok.mpr ⟨_, h₅, bind_eq_ok.mpr ⟨_, h₆, bind_eq_ok.mpr ⟨_, h₇,
    bind_eq_ok.mpr ⟨_, h₈, bind_eq_ok.mpr ⟨(), check_eq_ok.mpr hanchor, rfl⟩⟩⟩⟩⟩⟩⟩⟩⟩⟩

theorem captureMessageEvidence_anchor {store : TraceStore} {run : TraceRun}
    {selected other : TraceTransaction} {capture : TraceCapture}
    {found : Option BocMessageEvidence} {node : TraceNodeRow}
    (h : captureMessageEvidence lib store run selected capture = .ok found)
    (hnode : node ∈ capture.nodes)
    (hhash : some node.transactionHash = other.identity.hashCanonical)
    (hanchored : anchoredAt other node = true) :
    ∃ found, captureMessageEvidence lib store run other capture = .ok found := by
  obtain ⟨persisted, hpersisted, h⟩ := bind_eq_ok.mp h
  obtain ⟨verification, hverification, h⟩ := bind_eq_ok.mp h
  obtain ⟨again, hagain, hanchor⟩ := revalidateCapture_anchor hpersisted hnode hhash hanchored
  cases verification with
  | none => exact ⟨none, bind_eq_ok.mpr ⟨_, hagain, bind_eq_ok.mpr ⟨_, hverification, rfl⟩⟩⟩
  | some verification =>
      obtain ⟨verified, hverified, h⟩ := bind_eq_ok.mp h
      obtain ⟨derived, hderived, -⟩ := bind_eq_ok.mp h
      obtain ⟨verified', hverified'⟩ := revalidateVerification_anchor hverified hanchor
      exact ⟨_, bind_eq_ok.mpr ⟨_, hagain, bind_eq_ok.mpr ⟨_, hverification,
        bind_eq_ok.mpr ⟨_, hverified', bind_eq_ok.mpr ⟨_, hderived, rfl⟩⟩⟩⟩⟩

/-! ## The anchor of the root -/

theorem resolveTraceAnchor_iff {runs : List TraceRun} {transactions : List TraceTransaction}
    {runId : Nat} {hash : String} {run : TraceRun} {transaction : TraceTransaction} :
    resolveTraceAnchor runs transactions runId hash = .ok (run, transaction) ↔
      (1 ≤ runId ∧ runId ≤ 2 ^ 63 - 1) ∧ isHexHash hash = true ∧
        runs.find? (·.id = runId) = some run ∧
        (transactions.filter fun row => row.runId = runId ∧ row.txHash.toLower = hash) =
          [transaction] := by
  constructor
  · intro h
    obtain ⟨_, hbound, h⟩ := bind_eq_ok.mp h
    obtain ⟨_, hhash, h⟩ := bind_eq_ok.mp h
    obtain ⟨found, hfound, h⟩ := bind_eq_ok.mp h
    split at h
    · cases h
    · next only honly =>
        cases h
        exact ⟨check_eq_ok.mp hbound, check_eq_ok.mp hhash, present_eq_ok.mp hfound, honly⟩
    · cases h
  · rintro ⟨hbound, hhash, hfound, honly⟩
    refine bind_eq_ok.mpr ⟨(), check_eq_ok.mpr hbound, bind_eq_ok.mpr ⟨(), check_eq_ok.mpr hhash,
      bind_eq_ok.mpr ⟨run, present_eq_ok.mpr hfound, ?_⟩⟩⟩
    rw [honly]
    rfl

theorem requireEligible_iff {derive : DeriveIdentity} {run : TraceRun}
    {transaction : TraceTransaction} {hash : String} :
    requireEligibleStoredIdentity derive run transaction hash = .ok () ↔
      derive run transaction = (transaction.identity, true) ∧
        transaction.identity.networkScoped = true ∧
        transaction.identity.hashCanonical = some hash := by
  refine check_eq_ok.trans ?_
  cases derive run transaction with
  | mk derived dedup =>
      constructor
      · rintro ⟨hscoped, hdedup, hidentity, hhash⟩
        exact ⟨Prod.ext hidentity.symm hdedup, hidentity ▸ hscoped, hidentity ▸ hhash⟩
      · rintro ⟨heq, hscoped, hhash⟩
        cases heq
        exact ⟨hscoped, rfl, rfl, hhash⟩

theorem findCapture_iff {captures : List TraceCapture} {runId : Nat} {hash : String}
    {capture : TraceCapture} :
    findCaptureForTransaction captures runId hash = .ok (some capture) ↔
      (captures.filter fun capture => capture.runId = runId ∧
        ∃ node ∈ capture.nodes, node.transactionHash = hash) = [capture] := by
  unfold findCaptureForTransaction
  split
  · next hnil =>
      rw [hnil]
      exact iff_of_false (fun h => nomatch h) fun h => nomatch h
  · next only honly =>
      rw [honly]
      constructor
      · intro h
        cases h
        rfl
      · intro h
        cases h
        rfl
  · next hmany =>
      exact iff_of_false (fun h => nomatch h) fun h => hmany capture h

/-- A capture that can be read through its root has it stored. -/
theorem rootReadable_of_read {store : TraceStore} {capture : TraceCapture}
    {found : Option BocMessageEvidence} (hcapture : capture ∈ store.captures)
    (revalidates : Revalidates lib store capture)
    (h : getWalletTransactionBocMessageEvidence lib store capture.runId
      capture.summary.rootTransactionHash = .ok found) :
    RootReadable lib.derive store capture := by
  obtain ⟨_, _, _, -, hread⟩ := revalidates
  obtain ⟨persisted, hpersisted, -⟩ := bind_eq_ok.mp hread
  obtain ⟨-, root, hroot, hroothash⟩ := revalidateCapture_root hpersisted
  obtain ⟨⟨run, transaction⟩, hresolve, h⟩ := bind_eq_ok.mp h
  obtain ⟨u, heligible, h⟩ := bind_eq_ok.mp h
  obtain ⟨holder, hholder, h⟩ := bind_eq_ok.mp h
  obtain ⟨hbound, -, hfound, honly⟩ := resolveTraceAnchor_iff.mp hresolve
  obtain ⟨hderive, hscoped, hhash⟩ := requireEligible_iff.mp heligible
  have hmem : capture ∈ store.captures.filter fun other => other.runId = capture.runId ∧
      ∃ node ∈ other.nodes, node.transactionHash = capture.summary.rootTransactionHash :=
    List.mem_filter.mpr ⟨hcapture, decide_eq_true ⟨rfl, root, hroot, hroothash⟩⟩
  cases holder with
  | none =>
      unfold findCaptureForTransaction at hholder
      split at hholder
      · next hnil =>
          rw [hnil] at hmem
          cases hmem
      · cases hholder
      · cases hholder
  | some holder =>
      have halone := findCapture_iff.mp hholder
      rw [halone] at hmem
      cases List.mem_singleton.mp hmem
      obtain ⟨again, hagain, -⟩ := bind_eq_ok.mp h
      obtain ⟨_, -, -, -, -, node, hnode, hanchored⟩ := revalidateCapture_walk hagain
      obtain ⟨hnode, hnodehash⟩ := List.mem_filter.mp hnode
      have hnodehash := (of_decide_eq_true hnodehash).trans hhash
      exact ⟨run, transaction, hbound, hfound, honly, ⟨hderive, hscoped, hhash⟩, halone,
        node, mem_sortedNodes.mp hnode, Option.some.inj hnodehash, hanchored⟩

/-- And where it is stored, the read returns. -/
theorem read_of_rootReadable {store : TraceStore} {capture : TraceCapture}
    (revalidates : Revalidates lib store capture)
    (readable : RootReadable lib.derive store capture) :
    ∃ found, getWalletTransactionBocMessageEvidence lib store capture.runId
      capture.summary.rootTransactionHash = .ok found := by
  obtain ⟨run, transaction, root⟩ := readable
  obtain ⟨run', selected, found, hrun, hread⟩ := revalidates
  cases root.found.symm.trans hrun
  obtain ⟨persisted, hpersisted, -⟩ := bind_eq_ok.mp hread
  obtain ⟨node, hnode, hnodehash, hanchored⟩ := root.anchored
  have hhash : some node.transactionHash = transaction.identity.hashCanonical :=
    (congrArg some hnodehash).trans root.eligible.2.2.symm
  obtain ⟨found, hfound⟩ := captureMessageEvidence_anchor hread hnode hhash hanchored
  exact ⟨found, bind_eq_ok.mpr ⟨(run, transaction),
    resolveTraceAnchor_iff.mpr ⟨root.bounded, (revalidateCapture_root hpersisted).1, root.found,
      root.stored⟩,
    bind_eq_ok.mpr ⟨(), requireEligible_iff.mpr root.eligible,
      bind_eq_ok.mpr ⟨some capture, findCapture_iff.mpr root.alone, hfound⟩⟩⟩⟩

/-! ## Bounds and conflict rules -/

/-- The exceptions that are a bound or a conflict rule of readiness, of its
payloads or of its contracts. -/
def TraceRaised.IsRule : TraceRaised → Prop
  | .readinessConflict _ | .payloadConflict _ | .contractConflict _ => True
  | _ => False

/-- A bound or a conflict rule ended the computation. -/
def RuleApplies {α : Type} (result : Except TraceRaised α) : Prop :=
  ∃ raised, result = .error raised ∧ raised.IsRule

variable {rlib : ReadinessLibrary}

theorem jettonPayloads_raises (store : TraceStore) (evidence : BocMessageEvidence) :
    RaisesOnly TraceRaised.IsRule (jettonPayloads rlib store evidence) := by
  have hreparsed : ∀ row, RaisesOnly TraceRaised.IsRule (reparsed rlib row) := by
    intro row
    unfold reparsed
    dsimp only
    split
    · exact .error trivial
    · exact .bind (.check trivial) fun _ _ => .ok _
  have hbody : ∀ verification source,
      RaisesOnly TraceRaised.IsRule (verifiedBody rlib verification source) := by
    intro verification source
    refine .bind (.present trivial) fun row _ => .bind (hreparsed row) fun parsed _ => ?_
    dsimp only
    split
    · exact .bind (.check trivial) fun _ _ => .ok _
    · exact .error trivial
  refine .bind (.present trivial) fun verification _ => .bind (.mapM fun row _ => hreparsed row)
    fun _ _ => .bind (.mapM fun source _ => hbody verification source) fun bodies _ =>
      .bind (.mapM fun pair _ => ?_) fun _ _ => .ok _
  unfold payloadObservation
  split
  · exact .error trivial
  · exact .ok none
  · exact .ok _

theorem loadAssetSnapshotIndex_raises (store : ReadinessStore) (runIds : List Nat)
    (network : Option Network) :
    RaisesOnly TraceRaised.IsRule (loadAssetSnapshotIndex rlib store runIds network) := by
  refine .foldlM _ fun snapshot _ index => ?_
  unfold loadSnapshot
  split
  · exact .ok index
  · split
    · exact .ok _
    · refine .foldlM _ fun key _ index => ?_
      unfold indexSnapshot
      split
      · exact .ok _
      · exact .bind (.check trivial) fun _ _ => .ok _

theorem loadVerifiedContractIndex_raises (store : ReadinessStore) (runIds : List Nat)
    (network : Option Network) (owner : TonAddress) :
    RaisesOnly TraceRaised.IsRule (loadVerifiedContractIndex store runIds network owner) := by
  have hindex : ∀ (entry : ContractEntry) index keys, RaisesOnly TraceRaised.IsRule
      (List.foldlM (indexContract entry) index keys) := by
    intro entry index keys
    refine .foldlM _ fun key _ index => ?_
    unfold indexContract
    split
    · exact .ok _
    · exact .bind (.check trivial) fun _ _ => .ok _
  refine .foldlM _ fun record _ index => ?_
  refine .bind ?_ fun verified _ => .bind (.check trivial) fun _ _ => hindex _ _ _
  unfold ContractRecord.verified
  split
  · exact .ok _
  · exact .error trivial

theorem loadTransactionFeeIndex_raises (store : ReadinessStore) (runIds : List Nat)
    (network : Option Network) :
    RaisesOnly TraceRaised.IsRule (loadTransactionFeeIndex rlib store runIds network) := by
  refine .foldlM _ fun transaction _ index => ?_
  unfold loadFee
  split
  · split
    · refine .bind (.bind (.present trivial) fun _ _ => .bind (.check trivial) fun _ _ => .ok _)
        fun fee _ => ?_
      split
      · exact .ok _
      · exact .bind (.check trivial) fun _ _ => .ok _
    · exact .ok index
  · exact .ok index

theorem deduplicateAndBind_raises (snapshots : SnapshotIndex)
    (contracts : List ((ContractRole × TonAddress) × ContractEntry))
    (fees : List (String × FeeEntry)) (occurrences : List PayloadOccurrence) :
    RaisesOnly TraceRaised.IsRule (deduplicateAndBind snapshots contracts fees occurrences) :=
  .bind (.check trivial) fun _ _ => .mapM fun _ _ => .bind (.check trivial) fun _ _ => .ok _

/-- Over captures that can be read, the loop ends in a rule or returns. -/
theorem collectPayloadObservations_raises {store : TraceStore} {runIds : List Nat}
    (hread : ∀ capture ∈ selectedCaptures store runIds, ∃ found,
      getWalletTransactionBocMessageEvidence rlib.toBocLibrary store capture.runId
        capture.summary.rootTransactionHash = .ok found) :
    RaisesOnly TraceRaised.IsRule (collectPayloadObservations rlib store runIds) := by
  refine .bind (.check trivial) fun _ _ => .foldlM _ fun capture hcapture loop => ?_
  obtain ⟨found, hfound⟩ := hread capture hcapture
  refine .bind (.bind (.of_eq_ok hfound) fun found _ => ?_) fun payloads _ => ?_
  · cases found with
    | none => exact .ok none
    | some evidence => exact .bind (jettonPayloads_raises store evidence) fun _ _ => .ok _
  · cases payloads with
    | none => exact .ok loop
    | some payloads =>
        exact .bind (.check trivial) fun _ _ => .bind (.check trivial) fun _ _ => .ok _

/-! ## Availability -/

theorem mem_selectedCaptures {store : TraceStore} {runIds : List Nat} {capture : TraceCapture} :
    capture ∈ selectedCaptures store runIds ↔ capture ∈ store.captures ∧ capture.runId ∈ runIds := by
  unfold selectedCaptures
  rw [(List.perm_insertionSort _ _).mem_iff, List.mem_filter, decide_eq_true_iff]

/-- The small library, with digests of ledgers and no jetton payloads. -/
def smallReadinessLibrary : ReadinessLibrary where
  toBocLibrary := smallLibrary
  digestActivity _ _ _ := smallHash 'b'
  digestLedger _ := smallHash 'c'
  decodePayload _ := .ok none
  digestPayload _ _ _ := smallHash 'f'
  canonicalAccount _ _ := none
  scaledFee _ := none

/-- The ledger of a capture. -/
def smallLedger (run : Nat) (incoming : Nat) (rows : List ActivityRow) : NativeLedger where
  id := 10 * run + 5
  captureId := 10 * run
  contractVersion := nativeActivityLedgerContractVersion
  network := some .mainnet
  walletAccount := smallAccount 8
  sourceMessageDigest := smallHash 'a'
  activityCount := rows.length
  incomingNanoton := incoming
  outgoingNanoton := 0
  selfNanoton := 0
  evidenceDigest := smallHash 'c'
  builtAt := ⟨0, zero_lt_maxMicros⟩
  rows := rows

/-- The activity of message 4. -/
def smallActivity : ActivityRow where
  ordinal := 0
  activityIdentityKey := smallHash 'b'
  transactionHash := smallHash '2'
  messageHash := smallHash '4'
  direction := .incoming
  counterparty := some (smallAccount 7)
  amountBaseUnits := 100
  createdLogicalTime := 1
  unixTime := 10
  bodyHash := smallHash '0'
  opcode := none
  bounce := false
  bounced := false

/-- Two runs of account 8 whose traces begin at transaction 1, of account 7. -/
def foreignRootStore : ReadinessStore where
  runs := [smallRun 1, smallRun 2]
  transactions := [smallTransaction 1 '2' 2 "2", smallTransaction 2 '2' 2 "2"]
  captures := [smallCapture 1, smallCapture 2]
  verifications := [smallVerification 1, smallVerification 2]
  ledgers := [smallLedger 1 100 [smallActivity], smallLedger 2 100 [smallActivity]]
  snapshots := []
  contracts := []

/-- The stored trace of transaction 6, captured through it. -/
def ownCapture (run : Nat) : TraceCapture :=
  { smallCapture run with
    summary := {
      rootTransactionHash := smallHash 'd'
      transactionCount := 1
      maxDepth := 0
      messageCount := 1
      rootInboundMessageCount := 1
      childInternalMessageCount := 0
      remainingOutMessageCount := 0
      internalMessageCount := 0
      externalInMessageCount := 1
      externalOutMessageCount := 0
      successfulTransactionCount := 1
      failedTransactionCount := 0
      abortedTransactionCount := 0
      uniqueAccountCount := 1 }
    nodes := [{
      id := 10 * run + 2
      captureId := 10 * run
      preorderIndex := 0
      parentNodeId := none
      depth := 0
      transactionHash := smallHash 'd'
      accountCanonical := smallAccount 8
      logicalTime := 5
      unixTime := 20
      success := true
      aborted := false
      messages := [smallMessage 'd' 0 .rootInbound '6' .extInMsg none (some (smallAccount 8)) 0 0
        0 false] }] }

/-- The verification of that trace. -/
def ownVerification (run : Nat) : BocVerification :=
  { smallVerification run with
    summary := {
      transactionCount := 1
      messageCount := 1
      totalBocBytes := 1
      normalizedExternalInHashCount := 1
      directCellHashMessageCount := 0
      bodyHashCount := 1
      opcodeCount := 0 }
    transactions := [{
      nodeId := 10 * run + 2
      preorderIndex := 0
      transactionHash := smallHash 'd'
      transactionBocHex := "06"
      transactionBocBytes := 1
      transactionCellHash := smallHash 'd'
      messageCount := 1
      messageEvidenceDigest := smallHash '8' }] }

/-- Two runs of account 8 whose traces begin at its transaction 6. -/
def ownRootStore : ReadinessStore where
  runs := [smallRun 1, smallRun 2]
  transactions := [smallTransaction 1 'd' 5 "5", smallTransaction 2 'd' 5 "5"]
  captures := [ownCapture 1, ownCapture 2]
  verifications := [ownVerification 1, ownVerification 2]
  ledgers := [smallLedger 1 0 [], smallLedger 2 0 []]
  snapshots := []
  contracts := []

/-- Native readiness of the two runs of a small store. -/
def smallNative (store : ReadinessStore) : Except TraceRaised NativeReadiness :=
  buildNativeActivityPnlReadiness smallReadinessLibrary.toLedgerLibrary store.toLedgerStore 1 [1, 2]

/-- Multi-asset readiness of the two runs of a small store. -/
def smallMultiAsset (store : ReadinessStore) : Except TraceRaised MultiAssetReadiness :=
  buildMultiAssetPnlReadiness smallReadinessLibrary store 1 [1, 2]

/-- The exception of a computation. -/
def raisedBy {α : Type} : Except TraceRaised α → Option TraceRaised
  | .error raised => some raised
  | .ok _ => none

theorem raisedBy_eq_some {α : Type} {result : Except TraceRaised α} {raised : TraceRaised} :
    raisedBy result = some raised ↔ result = .error raised := by
  cases result with
  | error found =>
      constructor
      · intro h
        cases h
        rfl
      · intro h
        cases h
        rfl
  | ok value => exact iff_of_false (fun h => nomatch h) fun h => nomatch h

theorem raisedBy_eq_none {α : Type} {result : Except TraceRaised α} :
    raisedBy result = none ↔ ∃ value, result = .ok value := by
  cases result with
  | error found => exact iff_of_false (fun h => nomatch h) fun ⟨_, h⟩ => nomatch h
  | ok value => exact iff_of_true rfl ⟨value, rfl⟩

/-- Whether a capture revalidates through the row it was captured by. -/
def revalidatesB (lib : BocLibrary) (store : TraceStore) (capture : TraceCapture) : Bool :=
  match store.runs.find? (·.id = capture.runId),
      store.transactions.find? (·.id = capture.capturedViaTransactionId) with
  | some run, some transaction =>
      (captureMessageEvidence lib store run transaction capture).toOption.isSome
  | _, _ => false

theorem revalidates_of_b {store : TraceStore} {capture : TraceCapture}
    (h : revalidatesB lib store capture = true) : Revalidates lib store capture := by
  unfold revalidatesB at h
  split at h
  · next run transaction hrun _ =>
      cases hresult : captureMessageEvidence lib store run transaction capture with
      | error raised => rw [hresult] at h; cases h
      | ok found => exact ⟨run, transaction, found, hrun, hresult⟩
  · cases h

/-- What the readers answer over the foreign roots; one evaluation, since they
read the same captures. -/
theorem foreign_root_evaluated : raisedBy (smallNative foreignRootStore) = none ∧
    raisedBy (smallMultiAsset foreignRootStore) =
      some (.notFound "Wallet transaction not found") ∧
    ∀ capture ∈ foreignRootStore.captures,
      revalidatesB smallLibrary foreignRootStore.toTraceStore capture = true := by
  decide +kernel

end TonTracker
