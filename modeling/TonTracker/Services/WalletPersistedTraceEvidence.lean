/-
# `Services.WalletPersistedTraceEvidence` — a stored trace, read back

A capture is a graph of rows: nodes in preorder, each with its messages.
`_revalidate_capture` (`services/wallet_persisted_trace_evidence.py`) walks
the rows, derives the summary and the document of the trace from them, and
compares the digest of the document with the stored one.
-/
import TonTracker.Services.WalletTraceEvidence
import Mathlib.Data.List.Sort

namespace TonTracker

open ExceptFold (check present)

/-! ## Rows -/

/-- `_MESSAGE_ROLES`. -/
inductive TraceRole where
  | rootInbound
  | childInbound
  | remainingOutbound
deriving DecidableEq

/-- `_MESSAGE_TYPES`. -/
inductive TraceMessageType where
  | intMsg
  | extInMsg
  | extOutMsg
deriving DecidableEq

/-- The parts of an observation identity, which joins them with bars. -/
structure ObservationIdentity where
  version : String
  network : Option Network
  rootHash : String
  preorderIndex : Nat
  role : TraceRole
  ordinal : Int
  messageHash : String
deriving DecidableEq

/-- A message, as a document holds it. -/
structure TraceMessage where
  role : TraceRole
  ordinal : Int
  messageHash : String
  messageType : TraceMessageType
  sourceAccount : Option TonAddress
  destinationAccount : Option TonAddress
  createdLogicalTime : Nat
  unixTime : Int
  valueNanoton : Nat
  forwardFeeNanoton : Nat
  ihrFeeNanoton : Nat
  importFeeNanoton : Nat
  ihrDisabled : Bool
  bounce : Bool
  bounced : Bool
  observationIdentityKey : ObservationIdentity
deriving DecidableEq

/-- `WalletTraceEvidenceMessage`: a message under an id. -/
structure TraceMessageRow extends TraceMessage where
  id : Nat
deriving DecidableEq

/-- `WalletTraceEvidenceNode`, with its messages. -/
structure TraceNodeRow where
  id : Nat
  captureId : Nat
  preorderIndex : Int
  parentNodeId : Option Nat
  depth : Int
  transactionHash : String
  accountCanonical : TonAddress
  logicalTime : Nat
  unixTime : Int
  success : Bool
  aborted : Bool
  messages : List TraceMessageRow
deriving DecidableEq

/-- The summary columns. -/
structure TraceSummary where
  rootTransactionHash : String
  transactionCount : Nat
  maxDepth : Int
  messageCount : Nat
  rootInboundMessageCount : Nat
  childInternalMessageCount : Nat
  remainingOutMessageCount : Nat
  internalMessageCount : Nat
  externalInMessageCount : Nat
  externalOutMessageCount : Nat
  successfulTransactionCount : Nat
  failedTransactionCount : Nat
  abortedTransactionCount : Nat
  uniqueAccountCount : Nat
deriving DecidableEq

/-- `WalletTraceEvidenceCapture`, with its nodes. -/
structure TraceCapture where
  id : Nat
  runId : Nat
  capturedViaTransactionId : Nat
  captureSlot : Int
  provider : String
  contractVersion : String
  network : Option Network
  finalized : Bool
  summary : TraceSummary
  evidenceDigest : String
  capturedAt : Instant
  nodes : List TraceNodeRow

/-! ## Documents -/

/-- A node of a document. -/
structure TraceNode where
  preorderIndex : Nat
  parentPreorderIndex : Option Nat
  depth : Int
  transactionHash : String
  accountCanonical : TonAddress
  logicalTime : Nat
  unixTime : Int
  success : Bool
  aborted : Bool
  inMessage : Option TraceMessage
  outMessages : List TraceMessage
deriving DecidableEq

structure TraceAnchor where
  transactionHash : String
  logicalTime : Nat
  accountCanonical : TonAddress
deriving DecidableEq

/-- The document under the digest; constant entries are left out. -/
structure TraceDocument where
  network : Option Network
  runId : Nat
  captureSlot : Int
  capturedViaTransactionId : Nat
  capturedAt : Instant
  capturedViaHash : Option String
  capturedViaLogicalTime : Option Nat
  capturedViaAccount : Option TonAddress
  summary : TraceSummary
  nodes : List TraceNode

/-- What `_revalidate_capture` returns. -/
structure PersistedTrace where
  captureId : Nat
  runId : Nat
  network : Option Network
  capturedAt : Instant
  anchor : TraceAnchor
  summary : TraceSummary
  evidenceDigest : String

def persistedTraceContractVersion : String := "tonapi_low_level_trace_evidence_v1"

def traceMessageObservationVersion : String := "tonapi_trace_message_obs_v1"

def maxPersistedTracesPerRun : Int := 16

/-! ## Fields -/

/-- `_is_account`. -/
def isAccount (value : TonAddress) : Bool :=
  value.hashPart.length = 32 && -2 ^ 31 ≤ value.wc && value.wc ≤ 2 ^ 31 - 1

/-- `_is_positive_uint64`. -/
def isPositiveUint64 (value : Nat) : Bool := 0 < value && value ≤ 2 ^ 64 - 1

/-- `_is_nonnegative_uint64`. -/
def isNonnegativeUint64 (value : Nat) : Bool := value ≤ 2 ^ 64 - 1

/-- `0 <= value <= 2**63 - 1`. -/
def isUnixTime (value : Int) : Bool := 0 ≤ value && value ≤ 2 ^ 63 - 1

/-- `_role_sort_key`. -/
def TraceRole.sortKey : TraceRole → Nat
  | .rootInbound | .childInbound => 0
  | .remainingOutbound => 1

/-- `_message_observation_identity`. -/
def messageObservationIdentity (network : Option Network) (rootHash : String) (preorderIndex : Nat)
    (role : TraceRole) (ordinal : Int) (messageHash : String) : ObservationIdentity where
  version := traceMessageObservationVersion
  network := network
  rootHash := rootHash
  preorderIndex := preorderIndex
  role := role
  ordinal := ordinal
  messageHash := messageHash

/-- `_revalidate_message`. -/
def revalidateMessage (capture : TraceCapture) (preorderIndex : Nat) (message : TraceMessage) :
    Except TraceRaised TraceMessage := do
  check (0 ≤ message.ordinal ∧ isHexHash message.messageHash ∧
      message.sourceAccount.all isAccount ∧ message.destinationAccount.all isAccount ∧
      isNonnegativeUint64 message.createdLogicalTime ∧ isUnixTime message.unixTime ∧
      isNonnegativeUint64 message.valueNanoton ∧ isNonnegativeUint64 message.forwardFeeNanoton ∧
      isNonnegativeUint64 message.ihrFeeNanoton ∧ isNonnegativeUint64 message.importFeeNanoton)
    (.evidenceConflict "Stored trace message fields are incoherent.")
  check (message.messageType = .intMsg →
      message.sourceAccount ≠ none ∧ message.destinationAccount ≠ none)
    (.evidenceConflict "Stored internal trace message is missing an account endpoint.")
  check (message.messageType = .extInMsg →
      message.sourceAccount = none ∧ message.destinationAccount ≠ none)
    (.evidenceConflict "Stored external inbound trace message endpoints are incoherent.")
  check (message.messageType = .extOutMsg →
      message.sourceAccount ≠ none ∧ message.destinationAccount = none)
    (.evidenceConflict "Stored external outbound trace message endpoints are incoherent.")
  check (message.observationIdentityKey = messageObservationIdentity capture.network
      capture.summary.rootTransactionHash preorderIndex message.role message.ordinal
      message.messageHash)
    (.evidenceConflict "Stored trace message observation identity changed.")
  return message

/-! ## The walk -/

/-- `sorted(capture.nodes, key=preorder_index)`. -/
def TraceCapture.sortedNodes (capture : TraceCapture) : List TraceNodeRow :=
  capture.nodes.insertionSort fun a b => a.preorderIndex ≤ b.preorderIndex

/-- The order of `(_role_sort_key(role), ordinal, id)`. -/
def TraceMessageRow.le (a b : TraceMessageRow) : Bool :=
  if a.role.sortKey ≠ b.role.sortKey then a.role.sortKey < b.role.sortKey
  else if a.ordinal ≠ b.ordinal then a.ordinal < b.ordinal
  else a.id ≤ b.id

/-- The messages of a node, in order. -/
def TraceNodeRow.sortedMessages (node : TraceNodeRow) : List TraceMessageRow :=
  node.messages.insertionSort fun a b => a.le b = true

/-- The messages of a node so far. -/
structure NodeMessages where
  inbound : Option TraceMessage
  outMessages : List TraceMessage

/-- One round of the loop over the messages of the node at `index`, below
`parent`. -/
def revalidateNodeMessage (capture : TraceCapture) (index : Nat) (node : TraceNodeRow)
    (parent : Option TraceNodeRow) (found : NodeMessages) (row : TraceMessageRow) :
    Except TraceRaised NodeMessages := do
  let message ← revalidateMessage capture index row.toTraceMessage
  match row.role with
  | .rootInbound =>
      check (index = 0 ∧ found.inbound = none ∧
          (row.messageType = .intMsg ∨ row.messageType = .extInMsg))
        (.evidenceConflict "Stored trace root inbound role is incoherent.")
      return { found with inbound := some message }
  | .childInbound =>
      check (index ≠ 0 ∧ found.inbound = none)
        (.evidenceConflict "Stored trace child inbound role is incoherent.")
      check (row.messageType = .intMsg ∧
          row.sourceAccount = parent.map (·.accountCanonical) ∧
          row.destinationAccount = some node.accountCanonical)
        (.evidenceConflict "Stored trace child inbound linkage is incoherent.")
      return { found with inbound := some message }
  | .remainingOutbound =>
      check (row.messageType = .intMsg ∨ row.messageType = .extOutMsg)
        (.evidenceConflict "Stored trace remaining outgoing role is incoherent.")
      return { found with outMessages := found.outMessages ++ [message] }

/-- `role_ordinals[role]`. -/
def roleOrdinals (node : TraceNodeRow) (role : TraceRole) : List Int :=
  (node.sortedMessages.filter (·.role = role)).map (·.ordinal)

/-- The loop over the messages of a node, and the checks behind it. -/
def revalidateNodeMessages (capture : TraceCapture) (index : Nat) (node : TraceNodeRow)
    (parent : Option TraceNodeRow) : Except TraceRaised NodeMessages := do
  let found ← node.sortedMessages.foldlM (revalidateNodeMessage capture index node parent)
    { inbound := none, outMessages := [] }
  check (0 < index → found.inbound ≠ none)
    (.evidenceConflict "Stored trace child is missing its internal inbound message.")
  let expected := if index = 0 then TraceRole.rootInbound else .childInbound
  let other := if index = 0 then TraceRole.childInbound else .rootInbound
  check (roleOrdinals node expected = [] ∨ roleOrdinals node expected = [0])
    (.evidenceConflict "Stored trace inbound message ordinal is incoherent.")
  check (roleOrdinals node other = [])
    (.evidenceConflict "Stored trace inbound message role is incoherent.")
  check (roleOrdinals node .remainingOutbound =
      (List.range found.outMessages.length).map Int.ofNat)
    (.evidenceConflict "Stored trace outgoing message ordinals are incoherent.")
  return found

/-- The nodes walked and the open path; ids, hashes, coordinates and accounts
are read off the nodes. -/
structure TraceWalk where
  seen : List TraceNodeRow
  openPath : List TraceNodeRow
  nodes : List TraceNode

/-- The fields of a node, on their own. -/
def nodeFields (node : TraceNodeRow) : Bool :=
  isHexHash node.transactionHash && isAccount node.accountCanonical &&
    isPositiveUint64 node.logicalTime && isUnixTime node.unixTime

/-- `id_to_preorder.get(parent_node_id)`. -/
def parentIndex (walk : TraceWalk) (node : TraceNodeRow) : Option Nat :=
  match node.parentNodeId with
  | some id => walk.seen.findIdx? (·.id = id)
  | none => none

/-- The checks that link a node to the ones before it: its place below the
root, or at the end of the open path. -/
def linkNode (walk : TraceWalk) (node : TraceNodeRow) :
    Except TraceRaised (Option Nat × List TraceNodeRow) :=
  if walk.seen = [] then do
    check (node.parentNodeId = none ∧ node.depth = 0)
      (.evidenceConflict "Stored trace root linkage is incoherent.")
    return (none, [node])
  else do
    let index ← present (parentIndex walk node)
      (.evidenceConflict "Stored trace parent linkage is incoherent.")
    check ((walk.seen[index]?).any fun parent => node.depth = parent.depth + 1)
      (.evidenceConflict "Stored trace depth is incoherent.")
    check (1 ≤ node.depth ∧ node.depth ≤ walk.openPath.length ∧
        (walk.openPath[(node.depth - 1).toNat]?).map (·.id) = node.parentNodeId)
      (.evidenceConflict "Stored trace preorder traversal is incoherent.")
    return (some index, walk.openPath.take node.depth.toNat ++ [node])

/-- One round of the loop over the nodes. -/
def revalidateNode (capture : TraceCapture) (walk : TraceWalk) (node : TraceNodeRow) :
    Except TraceRaised TraceWalk := do
  let index := walk.seen.length
  check (node.preorderIndex = index ∧ node.id ∉ walk.seen.map (·.id))
    (.evidenceConflict "Stored trace evidence preorder is incoherent.")
  check (nodeFields node) (.evidenceConflict "Stored trace transaction fields are incoherent.")
  check (node.transactionHash ∉ walk.seen.map (·.transactionHash))
    (.evidenceConflict "Stored trace evidence reuses a transaction hash.")
  check ((node.accountCanonical, node.logicalTime) ∉
      walk.seen.map fun node => (node.accountCanonical, node.logicalTime))
    (.evidenceConflict "Stored trace evidence reuses a transaction coordinate.")
  check (0 ≤ node.depth ∧ node.depth ≤ 32)
    (.evidenceConflict "Stored trace depth exceeds its contract.")
  let (parent, openPath) ← linkNode walk node
  let found ← revalidateNodeMessages capture index node
    (parent.bind fun index => walk.seen[index]?)
  return {
    seen := walk.seen ++ [node]
    openPath := openPath
    nodes := walk.nodes ++ [{
      preorderIndex := index
      parentPreorderIndex := parent
      depth := node.depth
      transactionHash := node.transactionHash
      accountCanonical := node.accountCanonical
      logicalTime := node.logicalTime
      unixTime := node.unixTime
      success := node.success
      aborted := node.aborted
      inMessage := found.inbound
      outMessages := found.outMessages }] }

/-! ## The summary -/

/-- The messages of the nodes of a document. -/
def traceMessages (nodes : List TraceNode) : List TraceMessage :=
  nodes.flatMap fun node => node.inMessage.toList ++ node.outMessages

/-- The counters of the walk. -/
def traceSummary (nodes : List TraceNode) : TraceSummary where
  rootTransactionHash := (nodes.head?.map (·.transactionHash)).getD ""
  transactionCount := nodes.length
  maxDepth := (nodes.map (·.depth)).foldl max 0
  messageCount := (traceMessages nodes).length
  rootInboundMessageCount := (traceMessages nodes).countP (·.role = .rootInbound)
  childInternalMessageCount := (traceMessages nodes).countP (·.role = .childInbound)
  remainingOutMessageCount := (traceMessages nodes).countP (·.role = .remainingOutbound)
  internalMessageCount := (traceMessages nodes).countP (·.messageType = .intMsg)
  externalInMessageCount := (traceMessages nodes).countP (·.messageType = .extInMsg)
  externalOutMessageCount := (traceMessages nodes).countP (·.messageType = .extOutMsg)
  successfulTransactionCount := nodes.countP (·.success)
  failedTransactionCount := nodes.countP fun node => !node.success
  abortedTransactionCount := nodes.countP (·.aborted)
  uniqueAccountCount := (nodes.map (·.accountCanonical)).dedup.length

/-! ## A capture -/

/-- `_canonical_document`. -/
def canonicalDocument (summary : TraceSummary) (nodes : List TraceNode) (network : Option Network)
    (runId : Nat) (captureSlot : Int) (capturedVia : TraceTransaction) (capturedAt : Instant) :
    TraceDocument where
  network := network
  runId := runId
  captureSlot := captureSlot
  capturedViaTransactionId := capturedVia.id
  capturedAt := capturedAt
  capturedViaHash := capturedVia.identity.hashCanonical
  capturedViaLogicalTime := capturedVia.identity.logicalTimeCanonical
  capturedViaAccount := capturedVia.identity.accountCanonical
  summary := summary
  nodes := nodes

/-- The nodes with the hash of a transaction row. -/
def nodesOf (nodes : List TraceNodeRow) (transaction : TraceTransaction) : List TraceNodeRow :=
  nodes.filter fun node => some node.transactionHash = transaction.identity.hashCanonical

/-- A node has the coordinates of a transaction row. -/
def anchoredAt (transaction : TraceTransaction) (node : TraceNodeRow) : Bool :=
  some node.logicalTime = transaction.identity.logicalTimeCanonical &&
    some node.accountCanonical = transaction.identity.accountCanonical

/-- `_revalidate_capture`; `digest` is `_digest_document`.  Hashes of nodes
are distinct, so each anchor is the last node with its hash. -/
def revalidateCapture (derive : DeriveIdentity) (digest : TraceDocument → String)
    (transactions : List TraceTransaction) (capture : TraceCapture) (run : TraceRun)
    (selected : TraceTransaction) : Except TraceRaised PersistedTrace := do
  check (capture.runId = run.id ∧ capture.provider = "tonapi" ∧
      capture.contractVersion = persistedTraceContractVersion ∧
      capture.network = run.walletNetwork ∧ capture.finalized = true ∧
      0 ≤ capture.captureSlot ∧ capture.captureSlot < maxPersistedTracesPerRun ∧
      isHexHash capture.summary.rootTransactionHash ∧ isHexHash capture.evidenceDigest)
    (.evidenceConflict "Stored trace evidence metadata failed local revalidation.")
  let captured ← present ((transactions.find? (·.id = capture.capturedViaTransactionId)).filter
      fun row => row.runId = run.id)
    (.evidenceConflict "Stored trace evidence capture anchor is missing.")
  requireEligibleStoredIdentity derive run captured (captured.identity.hashCanonical.getD "")
  let nodes := capture.sortedNodes
  check (1 ≤ nodes.length ∧ nodes.length ≤ 256)
    (.evidenceConflict "Stored trace evidence has an invalid node count.")
  let walk ← nodes.foldlM (revalidateNode capture) { seen := [], openPath := [], nodes := [] }
  let anchor ← present (nodesOf nodes selected).getLast?
    (.evidenceConflict "Stored trace evidence did not preserve its transaction anchors.")
  check ((nodesOf nodes captured).getLast?.any (anchoredAt captured))
    (.evidenceConflict "Stored trace evidence did not preserve its transaction anchors.")
  check (anchoredAt selected anchor)
    (.evidenceConflict "Stored trace evidence selected anchor changed identity.")
  let summary := traceSummary walk.nodes
  check (capture.summary.rootTransactionHash = summary.rootTransactionHash)
    (.evidenceConflict "Stored trace evidence root hash is incoherent.")
  check (summary.messageCount ≤ 2304 ∧ summary.remainingOutMessageCount ≤ 2048)
    (.evidenceConflict "Stored trace evidence exceeds its message limits.")
  check (∀ node ∈ nodes, ∀ message ∈ node.messages,
      message.role = .remainingOutbound → message.messageType ≠ .intMsg)
    (.evidenceConflict "A finalized stored trace cannot retain an internal outgoing message.")
  check (capture.summary = summary)
    (.evidenceConflict "Stored trace evidence summary failed local revalidation.")
  check (digest (canonicalDocument summary walk.nodes capture.network capture.runId
      capture.captureSlot captured capture.capturedAt) = capture.evidenceDigest)
    (.evidenceConflict "Stored trace evidence digest failed local revalidation.")
  return {
    captureId := capture.id
    runId := run.id
    network := capture.network
    capturedAt := capture.capturedAt
    anchor := {
      transactionHash := anchor.transactionHash
      logicalTime := anchor.logicalTime
      accountCanonical := anchor.accountCanonical }
    summary := summary
    evidenceDigest := capture.evidenceDigest }

/-- `_find_capture_for_transaction`. -/
def findCaptureForTransaction (captures : List TraceCapture) (runId : Nat)
    (transactionHash : String) : Except TraceRaised (Option TraceCapture) :=
  match captures.filter fun capture => capture.runId = runId ∧
      ∃ node ∈ capture.nodes, node.transactionHash = transactionHash with
  | [] => .ok none
  | [capture] => .ok (some capture)
  | _ => .error (.evidenceConflict "Stored trace evidence anchor is ambiguous.")

end TonTracker
