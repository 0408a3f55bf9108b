/-
# `Adapters.TonapiTraces` — the traces of the provider, normalised

`adapters/tonapi.py`, the two passes over a low-level trace: the preview
(`normalize_transaction_trace_evidence_response`), which checks every node
and counts, and the pass after it that keeps the nodes and the messages
(`normalize_transaction_trace_persisted_evidence_response`).  Both walk the
trace with a stack of their own.
-/
import TonTracker.Services.TonAddressIdentity
import TonTracker.Services.WalletPersistedTraceEvidence
import TonTracker.Lib.Preorder

namespace TonTracker

open ExceptFold (check)

/-- A JSON object. -/
abbrev JsonFields := List (String × Json)

namespace TonapiTraces

def maxTransactionNodes : Nat := 256
def maxDepth : Nat := 32
def maxOutMessages : Nat := 2048
def maxPersistedMessages : Nat := maxTransactionNodes + maxOutMessages
def maxInterfacesPerNode : Nat := 128
def maxInterfaceLength : Nat := 128

/-! ## Readers -/

/-- `isinstance(value, dict)`. -/
def asObject : Json → Option JsonFields
  | .obj fields => some fields
  | _ => none

/-- `isinstance(value, list)`. -/
def asList : Json → Option (List Json)
  | .arr values => some values
  | _ => none

/-- `dict.get(key, default)`. -/
def getDefault (fields : JsonFields) (key : String) (default : Json) : Json :=
  (fields.lookup key).getD default

/-- A hash of 64 hexadecimal digits, in lower case. -/
def canonicalHash (value : Json) : Option Text := (hex256 value).map lower

/-- `_canonical_raw_account_address`. -/
def canonicalRawAccountAddress (value : Json) : Option Text :=
  match value with
  | .obj fields =>
      match Json.get fields "address" with
      | .str address =>
          if isStripped address then (parseRaw address).bind (·.canonicalAddress) else none
      | _ => none
  | _ => none

/-- An integer from 0 to the greatest signed one of 64 bits. -/
def unixTime : Json → Option Int
  | .int i => if 0 ≤ i ∧ i ≤ 2 ^ 63 - 1 then some i else none
  | _ => none

/-- `"int_msg"`, `"ext_in_msg"` or `"ext_out_msg"`. -/
def messageType : Json → Option TraceMessageType
  | .str s =>
      if s = "int_msg".toList then some .intMsg
      else if s = "ext_in_msg".toList then some .extInMsg
      else if s = "ext_out_msg".toList then some .extOutMsg
      else none
  | _ => none

/-- A text of an interface list. -/
def isInterface : Json → Bool
  | .str s => s ≠ [] && isStripped s && s.length ≤ maxInterfaceLength
  | _ => false

/-- The children of a node, where they are a list of objects. -/
def childrenOf (node : JsonFields) : Option (List JsonFields) :=
  (asList (getDefault node "children" (.arr []))).bind fun values => values.mapM asObject

/-! ## The preview -/

structure Anchor where
  transactionHash : Text
  logicalTime : LogicalTime
  accountCanonical : Text
deriving DecidableEq

/-- The variables of the loop over the nodes. -/
structure Preview where
  seenHashes : List Text
  seenCoordinates : List ((Text × LogicalTime) × Text)
  anchor : Option Anchor
  rootTransactionHash : Option Text
  transactionCount : Nat
  maxDepth : Nat
  outMessageCount : Nat
  pendingInternalMessageCount : Nat
  successfulTransactionCount : Nat
  failedTransactionCount : Nat
  abortedTransactionCount : Nat
  accounts : List Text

def Preview.start : Preview where
  seenHashes := []
  seenCoordinates := []
  anchor := none
  rootTransactionHash := none
  transactionCount := 0
  maxDepth := 0
  outMessageCount := 0
  pendingInternalMessageCount := 0
  successfulTransactionCount := 0
  failedTransactionCount := 0
  abortedTransactionCount := 0
  accounts := []

def tooManyNodes : String := "trace exceeds the maximum transaction-node count"

/-- The loop over the outgoing messages, which counts the internal ones. -/
def countInternalMessages (messages : List Json) : Except String Nat :=
  messages.foldlM (fun count message => do
    let fields ← require (asObject message) "trace outgoing message must be an object"
    let type ← require (messageType (Json.get fields "msg_type"))
      "trace outgoing message has invalid message type"
    return if type = .intMsg then count + 1 else count) 0

/-- The children that are pushed, the first of them on top. -/
def pushedChildren (values : List Json) : Except String (List JsonFields) :=
  require (values.mapM asObject) "trace child must be an object"

/-- The body of the loop of the preview; `left` entries are on the stack. -/
def previewNode (requested : Text) (left : Nat) (s : Preview) (entry : JsonFields × Nat) :
    Except String (Preview × List (JsonFields × Nat)) := do
  let (node, depth) := entry
  check (depth ≤ maxDepth) "trace exceeds the maximum transaction-tree depth"
  let transactionCount := s.transactionCount + 1
  check (transactionCount ≤ maxTransactionNodes) tooManyNodes
  let emulated ← require (boolean (getDefault node "emulated" (.bool false)))
    "trace emulated state must be boolean"
  check (emulated = false) "emulated trace nodes are not accepted"
  let interfaces ← require (asList (Json.get node "interfaces"))
    "trace interfaces must be a bounded string list"
  check (interfaces.length ≤ maxInterfacesPerNode ∧ interfaces.all isInterface)
    "trace interfaces must be a bounded string list"
  let transaction ← require (asObject (Json.get node "transaction"))
    "trace node transaction must be an object"
  let transactionHash ← require (canonicalHash (Json.get transaction "hash"))
    "trace transaction hash must be canonical 32-byte hex"
  check (transactionHash ∉ s.seenHashes) "trace reuses a transaction hash"
  let logicalTime ← require (strictLogicalTime (Json.get transaction "lt"))
    "trace transaction has invalid logical time"
  let account ← require (canonicalRawAccountAddress (Json.get transaction "account"))
    "trace transaction has invalid account"
  check ((s.seenCoordinates.lookup (account, logicalTime)).all (· = transactionHash))
    "trace transaction coordinate changed hash"
  let _ ← require (unixTime (Json.get transaction "utime")) "trace transaction has invalid utime"
  let success ← require (boolean (Json.get transaction "success"))
    "trace transaction success must be boolean"
  let aborted ← require (boolean (Json.get transaction "aborted"))
    "trace transaction aborted must be boolean"
  let outMessages ← require (asList (Json.get transaction "out_msgs"))
    "trace transaction out_msgs must be a list"
  let outMessageCount := s.outMessageCount + outMessages.length
  check (outMessageCount ≤ maxOutMessages) "trace exceeds the maximum outgoing-message count"
  let internal ← countInternalMessages outMessages
  let rawChildren ← require (asList (getDefault node "children" (.arr [])))
    "trace children must be a list"
  check (transactionCount + left + rawChildren.length ≤ maxTransactionNodes) tooManyNodes
  let children ← pushedChildren rawChildren
  return ({
    seenHashes := transactionHash :: s.seenHashes
    seenCoordinates := ((account, logicalTime), transactionHash) :: s.seenCoordinates
    anchor := if transactionHash = requested then some ⟨transactionHash, logicalTime, account⟩
      else s.anchor
    rootTransactionHash := s.rootTransactionHash.or (some transactionHash)
    transactionCount := transactionCount
    maxDepth := max s.maxDepth depth
    outMessageCount := outMessageCount
    pendingInternalMessageCount := s.pendingInternalMessageCount + internal
    successfulTransactionCount := s.successfulTransactionCount + if success then 1 else 0
    failedTransactionCount := s.failedTransactionCount + if success then 0 else 1
    abortedTransactionCount := s.abortedTransactionCount + if aborted then 1 else 0
    accounts := if account ∈ s.accounts then s.accounts else account :: s.accounts },
    children.map fun child => (child, depth + 1))

structure PreviewSummary where
  rootTransactionHash : Text
  transactionCount : Nat
  maxDepth : Nat
  outMessageCount : Nat
  pendingInternalMessageCount : Nat
  successfulTransactionCount : Nat
  failedTransactionCount : Nat
  abortedTransactionCount : Nat
  uniqueAccountCount : Nat
deriving DecidableEq

/-- What the preview returns; a trace is pending or finalized. -/
structure PreviewResponse where
  pending : Bool
  anchor : Anchor
  summary : PreviewSummary
deriving DecidableEq

/-- `normalize_transaction_trace_evidence_response`.  The check of the number
of nodes keeps the stack within the rounds that are left. -/
def normalizeTransactionTraceEvidenceResponse (payload : Json) (requested : Text) :
    Except String PreviewResponse := do
  check (isHex256 requested ∧ lower requested = requested)
    "requested transaction hash must be canonical lowercase hex"
  let root ← require (asObject payload) "trace response must be an object"
  let s ← Preorder.stackWalk (previewNode requested) tooManyNodes maxTransactionNodes [(root, 0)]
    Preview.start
  let anchor ← require s.anchor "trace does not contain the requested transaction hash"
  return {
    pending := s.pendingInternalMessageCount ≠ 0
    anchor := anchor
    summary := {
      rootTransactionHash := s.rootTransactionHash.getD []
      transactionCount := s.transactionCount
      maxDepth := s.maxDepth
      outMessageCount := s.outMessageCount
      pendingInternalMessageCount := s.pendingInternalMessageCount
      successfulTransactionCount := s.successfulTransactionCount
      failedTransactionCount := s.failedTransactionCount
      abortedTransactionCount := s.abortedTransactionCount
      uniqueAccountCount := s.accounts.length } }

/-! ## Messages -/

def TraceRole.text : TraceRole → Text
  | .rootInbound => "root_inbound".toList
  | .childInbound => "child_inbound".toList
  | .remainingOutbound => "remaining_outbound".toList

/-- A normalised message. -/
structure Message where
  role : TraceRole
  ordinal : Nat
  messageHash : Text
  messageType : TraceMessageType
  sourceAccountCanonical : Option Text
  destinationAccountCanonical : Option Text
  createdLogicalTime : Nat
  unixTime : Int
  valueNanoton : Nat
  forwardFeeNanoton : Nat
  ihrFeeNanoton : Nat
  importFeeNanoton : Nat
  ihrDisabled : Bool
  bounce : Bool
  bounced : Bool
  observationIdentityKey : Text
deriving DecidableEq

/-- `observation_identity_key`. -/
def observationIdentityKey (network rootTransactionHash : Text) (preorderIndex : Nat)
    (role : TraceRole) (ordinal : Nat) (messageHash : Text) : Text :=
  ['|'].intercalate [traceMessageObservationVersion.toList, network, rootTransactionHash,
    Nat.toDigits 10 preorderIndex, TraceRole.text role, Nat.toDigits 10 ordinal, messageHash]

/-- An account of a message, which may be absent. -/
def messageAccount (message : JsonFields) (field : String) : Except String (Option Text) :=
  match Json.get message field with
  | .null => return none
  | value => do
      let account ← require (canonicalRawAccountAddress value)
        s!"trace message has invalid {field} account"
      return some account

/-- An amount of a message. -/
def messageAmount (message : JsonFields) (field : String) : Except String Nat :=
  require (strictNonnegativeInteger (Json.get message field)) s!"trace message has invalid {field}"

/-- A flag of a message. -/
def messageFlag (message : JsonFields) (field : String) : Except String Bool :=
  require (boolean (Json.get message field)) s!"trace message {field} must be boolean"

/-- `_normalize_persisted_trace_message`. -/
def normalizePersistedTraceMessage (value : Json) (network rootTransactionHash : Text)
    (preorderIndex : Nat) (role : TraceRole) (ordinal : Nat) : Except String Message := do
  let message ← require (asObject value) "trace message must be an object"
  let messageHash ← require (canonicalHash (Json.get message "hash"))
    "trace message has invalid hash"
  let type ← require (messageType (Json.get message "msg_type")) "trace message has invalid type"
  let source ← messageAccount message "source"
  let destination ← messageAccount message "destination"
  check (type = .intMsg → source ≠ none ∧ destination ≠ none)
    "trace internal message requires source and destination accounts"
  check (type = .extInMsg → source = none ∧ destination ≠ none)
    "trace external inbound message endpoints are incoherent"
  check (type = .extOutMsg → source ≠ none ∧ destination = none)
    "trace external outbound message endpoints are incoherent"
  let createdLogicalTime ← require (strictNonnegativeInteger (Json.get message "created_lt"))
    "trace message has invalid created logical time"
  let createdAt ← require (unixTime (Json.get message "created_at"))
    "trace message has invalid unix time"
  let value ← messageAmount message "value"
  let forwardFee ← messageAmount message "fwd_fee"
  let ihrFee ← messageAmount message "ihr_fee"
  let importFee ← messageAmount message "import_fee"
  let ihrDisabled ← messageFlag message "ihr_disabled"
  let bounce ← messageFlag message "bounce"
  let bounced ← messageFlag message "bounced"
  return {
    role := role
    ordinal := ordinal
    messageHash := messageHash
    messageType := type
    sourceAccountCanonical := source
    destinationAccountCanonical := destination
    createdLogicalTime := createdLogicalTime
    unixTime := createdAt
    valueNanoton := value
    forwardFeeNanoton := forwardFee
    ihrFeeNanoton := ihrFee
    importFeeNanoton := importFee
    ihrDisabled := ihrDisabled
    bounce := bounce
    bounced := bounced
    observationIdentityKey :=
      observationIdentityKey network rootTransactionHash preorderIndex role ordinal messageHash }

/-! ## The graph -/

/-- A node of the graph. -/
structure Node where
  preorderIndex : Nat
  parentPreorderIndex : Option Nat
  depth : Nat
  transactionHash : Text
  accountCanonical : Text
  logicalTime : LogicalTime
  unixTime : Int
  success : Bool
  aborted : Bool
  inMessage : Option Message
  outMessages : List Message
deriving DecidableEq

/-- The variables of the second loop over the nodes. -/
structure Graph where
  nodes : List Node
  observationKeys : List Text
  rootInboundMessageCount : Nat
  childInternalMessageCount : Nat
  remainingOutMessageCount : Nat
  intMsgCount : Nat
  extInMsgCount : Nat
  extOutMsgCount : Nat

def Graph.start : Graph where
  nodes := []
  observationKeys := []
  rootInboundMessageCount := 0
  childInternalMessageCount := 0
  remainingOutMessageCount := 0
  intMsgCount := 0
  extInMsgCount := 0
  extOutMsgCount := 0

/-- A message is counted under its type, and its key is taken. -/
def Graph.observe (s : Graph) (message : Message) : Except String Graph := do
  check (message.observationIdentityKey ∉ s.observationKeys)
    "trace reuses a message observation identity"
  let observationKeys := message.observationIdentityKey :: s.observationKeys
  return match message.messageType with
    | .intMsg => { s with observationKeys := observationKeys, intMsgCount := s.intMsgCount + 1 }
    | .extInMsg =>
        { s with observationKeys := observationKeys, extInMsgCount := s.extInMsgCount + 1 }
    | .extOutMsg =>
        { s with observationKeys := observationKeys, extOutMsgCount := s.extOutMsgCount + 1 }

/-- The parent of an entry of the stack and its account, and the depth. -/
structure EntryContext where
  parentPreorderIndex : Option Nat
  parentAccount : Option Text
  depth : Nat

/-- The incoming message of a node. -/
def normalizeInMessage (network rootTransactionHash : Text) (s : Graph)
    (transaction : JsonFields) (account : Text) (context : EntryContext) :
    Except String (Graph × Option Message) :=
  match Json.get transaction "in_msg" with
  | .null => do
      check (context.parentPreorderIndex = none)
        "trace child transaction is missing its internal incoming message"
      return (s, none)
  | value => do
      let _ ← require (asObject value) "trace transaction in_msg must be an object or null"
      let role :=
        if context.parentPreorderIndex = none then TraceRole.rootInbound else .childInbound
      let message ← normalizePersistedTraceMessage value network rootTransactionHash s.nodes.length
        role 0
      if context.parentPreorderIndex = none then
        check (message.messageType ≠ .extOutMsg) "trace root incoming message has invalid type"
      else
        check (message.messageType = .intMsg ∧
          message.sourceAccountCanonical = context.parentAccount ∧
          message.destinationAccountCanonical = some account)
          "trace child incoming message does not match its parent/account edge"
      let s := if context.parentPreorderIndex = none then
          { s with rootInboundMessageCount := s.rootInboundMessageCount + 1 }
        else { s with childInternalMessageCount := s.childInternalMessageCount + 1 }
      let s ← s.observe message
      return (s, some message)

/-- The outgoing messages of a node. -/
def normalizeOutMessages (network rootTransactionHash : Text) (s : Graph) (values : List Json) :
    Except String (Graph × List Message) :=
  values.zipIdx.foldlM (fun (found : Graph × List Message) (item : Json × Nat) => do
    let message ← normalizePersistedTraceMessage item.1 network rootTransactionHash
      found.1.nodes.length .remainingOutbound item.2
    check (message.messageType = .intMsg ∨ message.messageType = .extOutMsg)
      "trace has an invalid remaining outgoing message type"
    let s ← found.1.observe message
    return ({ s with remainingOutMessageCount := s.remainingOutMessageCount + 1 },
      found.2 ++ [message])) (s, [])

/-- The body of the second loop, as far as the children; what the preview
has checked is read again. -/
def persistedNode (network rootTransactionHash : Text) (s : Graph) (node : JsonFields)
    (context : EntryContext) : Except String (Graph × EntryContext) := do
  let changed := "trace transaction identity changed during normalization"
  let transaction ← require (asObject (Json.get node "transaction")) changed
  let transactionHash ← require (canonicalHash (Json.get transaction "hash")) changed
  let account ← require (canonicalRawAccountAddress (Json.get transaction "account")) changed
  let logicalTime ← require (strictLogicalTime (Json.get transaction "lt")) changed
  let (found, inMessage) ← normalizeInMessage network rootTransactionHash s transaction account
    context
  let values ← require (asList (Json.get transaction "out_msgs")) changed
  let (found, outMessages) ← normalizeOutMessages network rootTransactionHash found values
  let time ← require (unixTime (Json.get transaction "utime")) changed
  let success ← require (boolean (Json.get transaction "success")) changed
  let aborted ← require (boolean (Json.get transaction "aborted")) changed
  return ({ found with
    nodes := s.nodes ++ [{
      preorderIndex := s.nodes.length
      parentPreorderIndex := context.parentPreorderIndex
      depth := context.depth
      transactionHash := transactionHash
      accountCanonical := account
      logicalTime := logicalTime
      unixTime := time
      success := success
      aborted := aborted
      inMessage := inMessage
      outMessages := outMessages }] },
    ⟨some s.nodes.length, some account, context.depth + 1⟩)

/-- The body of the second loop. -/
def persistedRound (network rootTransactionHash : Text) (s : Graph)
    (entry : JsonFields × EntryContext) :
    Except String (Graph × List (JsonFields × EntryContext)) := do
  let (s, below) ← persistedNode network rootTransactionHash s entry.1 entry.2
  let children ← require (childrenOf entry.1) "trace children must be a list"
  return (s, children.map fun child => (child, below))

structure GraphSummary where
  rootTransactionHash : Text
  transactionCount : Nat
  maxDepth : Nat
  messageCount : Nat
  rootInboundMessageCount : Nat
  childInternalMessageCount : Nat
  remainingOutMessageCount : Nat
  internalMessageCount : Nat
  externalInMessageCount : Nat
  externalOutMessageCount : Nat
  successfulTransactionCount : Nat
  failedTransactionCount : Nat
  abortedTransactionCount : Nat
  uniqueAccountCount : Nat
deriving DecidableEq

structure GraphResponse where
  pending : Bool
  anchor : Anchor
  summary : GraphSummary
  nodes : List Node
deriving DecidableEq

/-- The second loop over the nodes of a trace, of which the preview has
counted no more than there are rounds. -/
def persistedWalk (network rootTransactionHash : Text) (root : JsonFields) : Except String Graph :=
  Preorder.stackWalk (fun _ => persistedRound network rootTransactionHash) tooManyNodes
    maxTransactionNodes [(root, ⟨none, none, 0⟩)] Graph.start

/-- The checks behind the loops, and the response. -/
def graphResponse (preview : PreviewResponse) (s : Graph) : Except String GraphResponse := do
  let messageCount :=
    s.rootInboundMessageCount + s.childInternalMessageCount + s.remainingOutMessageCount
  check (messageCount ≤ maxPersistedMessages) "trace exceeds the maximum persisted-message count"
  check (s.childInternalMessageCount + 1 = s.nodes.length)
    "trace child-message count does not cover every child node"
  check (s.intMsgCount + s.extInMsgCount + s.extOutMsgCount = messageCount)
    "trace message type counts are incoherent"
  return {
    pending := preview.pending
    anchor := preview.anchor
    summary := {
      rootTransactionHash := preview.summary.rootTransactionHash
      transactionCount := preview.summary.transactionCount
      maxDepth := preview.summary.maxDepth
      messageCount := messageCount
      rootInboundMessageCount := s.rootInboundMessageCount
      childInternalMessageCount := s.childInternalMessageCount
      remainingOutMessageCount := s.remainingOutMessageCount
      internalMessageCount := s.intMsgCount
      externalInMessageCount := s.extInMsgCount
      externalOutMessageCount := s.extOutMsgCount
      successfulTransactionCount := preview.summary.successfulTransactionCount
      failedTransactionCount := preview.summary.failedTransactionCount
      abortedTransactionCount := preview.summary.abortedTransactionCount
      uniqueAccountCount := preview.summary.uniqueAccountCount }
    nodes := s.nodes }

/-- `normalize_transaction_trace_persisted_evidence_response`. -/
def normalizeTransactionTracePersistedEvidenceResponse (payload : Json) (requested network : Text) :
    Except String GraphResponse := do
  let preview ← normalizeTransactionTraceEvidenceResponse payload requested
  check (network = "ton-mainnet".toList ∨ network = "ton-testnet".toList)
    "persisted trace network is not supported"
  let root ← require (asObject payload) "trace response must be an object"
  let s ← persistedWalk network preview.summary.rootTransactionHash root
  graphResponse preview s

end TonapiTraces

end TonTracker
