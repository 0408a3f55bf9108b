/-
# `Services.WalletTraceBocVerification` — the transactions of a trace, parsed

`_derive_boc_evidence` (`services/wallet_trace_boc_verification.py`) parses
the bag of cells of every transaction of a stored trace and compares it
with the rows: its header with the node, its inbound message with the
node's, its outgoing messages with the inbound messages of the children and
with the outgoing rows that no child took.  The parser is third-party code
(`BocLibrary`), and so is SHA-256.
-/
import TonTracker.Services.WalletPersistedTraceEvidence

namespace TonTracker

open ByteMessages (Bytes)
open ExceptFold (check present)

/-! ## Parsed cells -/

/-- `message.info`. -/
inductive BocMessageInfo (address : Type) where
  | internal (src dest : address) (createdLt : Nat) (createdAt : Int) (grams fwdFee ihrFee : Nat)
      (ihrDisabled bounce bounced : Bool) (extraCurrencies : Nat)
  | externalIn (dest : address) (importFee : Nat)
  | externalOut (src : address) (createdLt : Nat) (createdAt : Int)

/-- A deserialized transaction. -/
structure ParsedTransaction (message : Type) where
  accountAddr : Bytes
  lt : Int
  now : Int
  outmsgCnt : Nat
  inMsg : Option message
  outMsgs : List message
  aborted : Bool

/-- `_verify_message` and `_message_hashes`: the header of a message. -/
structure MessageHeader where
  messageHash : String
  messageType : TraceMessageType
  sourceAccount : Option TonAddress
  destinationAccount : Option TonAddress
  createdLogicalTime : Nat
  unixTime : Int
  valueNanoton : Nat
  forwardFeeNanoton : Nat
  ihrFeeNanoton : Nat
  importFeeNanoton : Nat
  ihrDisabled : Bool
  bounce : Bool
  bounced : Bool
deriving DecidableEq

/-- What `_verify_message` returns. -/
structure MessageEvidence where
  role : TraceRole
  ordinal : Int
  header : MessageHeader
  rawMessageCellHash : String
  normalizedExternalIn : Bool
  extraCurrencyCount : Nat
  bodyHash : String
  bodyBitLength : Nat
  bodyRefCount : Nat
  opcode : Option Nat
deriving DecidableEq

/-- What `_derive_transaction_evidence` returns. -/
structure TransactionEvidence where
  preorderIndex : Int
  transactionHash : String
  transactionBocHex : String
  transactionBocBytes : Int
  transactionCellHash : String
  accountHash : Bytes
  logicalTime : Int
  unixTime : Int
  aborted : Bool
  rawOutMessageCount : Nat
  messages : List MessageEvidence
  outgoingEdgeChecks : List MessageEvidence
deriving DecidableEq

/-- The counters of a verification. -/
structure BocSummary where
  transactionCount : Nat
  messageCount : Nat
  totalBocBytes : Int
  normalizedExternalInHashCount : Nat
  directCellHashMessageCount : Nat
  bodyHashCount : Nat
  opcodeCount : Nat
deriving DecidableEq

/-- The document under the digest of a verification. -/
structure VerificationDocument where
  captureId : Nat
  captureDigest : String
  network : Option Network
  verifiedAt : Instant
  transactions : List TransactionEvidence

/-- A message of `get_wallet_transaction_boc_message_evidence`. -/
structure LocatedMessage where
  transactionPreorderIndex : Int
  transactionHash : String
  message : MessageEvidence
deriving DecidableEq

/-- What the verification uses of third-party code; `none` is an exception. -/
structure BocLibrary where
  Cell : Type
  Message : Type
  Address : Type
  /-- `package_version`. -/
  installedVersion : Option String
  /-- `Cell.from_boc(bytes.fromhex(value))`. -/
  fromBoc : String → Option (List Cell)
  /-- `cell.hash.hex()`. -/
  cellHash : Cell → String
  /-- `Transaction.deserialize(cell.begin_parse())`, and how many bits and
  references it leaves. -/
  deserialize : Cell → Option (ParsedTransaction Message × Nat × Nat)
  /-- `message.serialize().hash.hex()`. -/
  messageHash : Message → String
  /-- `message.info`, where it is of a known class. -/
  info : Message → Option (BocMessageInfo Address)
  /-- `message.body`. -/
  body : Message → Cell
  /-- `len(cell.bits)`. -/
  bitLength : Cell → Nat
  /-- `len(cell.refs)`. -/
  refCount : Cell → Nat
  /-- `cell.begin_parse().preload_uint(32)`. -/
  preloadUint32 : Cell → Nat
  /-- The hash of the normalized inbound message to an address with a body. -/
  normalizedHash : Address → Cell → String
  /-- `address.to_str(is_user_friendly=False)`, where it holds a colon. -/
  rawAddress : Address → Option TonAddress
  digestTrace : TraceDocument → String
  digestTransaction : TransactionEvidence → String
  digestVerification : VerificationDocument → String
  digestMessages : String → List LocatedMessage → String
  derive : DeriveIdentity

def bocVerificationContractVersion : String := "ton_boc_trace_verification_v1"

def bocVerifierName : String := "pytoniq-core"

def bocVerifierVersion : String := "0.1.46"

def maxTransactionBocBytes : Int := 1024 * 1024

def maxTotalBocBytes : Int := 8 * 1024 * 1024

/-! ## Rows -/

/-- `WalletTraceBocTransaction`. -/
structure BocTransactionRow where
  nodeId : Nat
  preorderIndex : Int
  transactionHash : String
  transactionBocHex : String
  transactionBocBytes : Int
  transactionCellHash : String
  messageCount : Nat
  messageEvidenceDigest : String

/-- `WalletTraceBocVerification`, with its rows. -/
structure BocVerification where
  id : Nat
  captureId : Nat
  contractVersion : String
  verifierName : String
  verifierVersion : String
  network : Option Network
  summary : BocSummary
  evidenceDigest : String
  verifiedAt : Instant
  transactions : List BocTransactionRow

/-- The rows of the stored traces. -/
structure TraceStore where
  runs : List TraceRun
  transactions : List TraceTransaction
  captures : List TraceCapture
  verifications : List BocVerification

variable (lib : BocLibrary)

/-! ## Messages -/

/-- `_raw_address`. -/
def rawAddress (address : lib.Address) : Except TraceRaised TonAddress :=
  present (lib.rawAddress address)
    (.bocConflict "Transaction BOC message account is not a standard TON address.")

/-- `_message_hashes`: the provider's hash, the hash of the cell, and whether
the first is a normalized one. -/
def messageHashes (message : lib.Message) : String × String × Bool :=
  match lib.info message with
  | some (.externalIn dest _) =>
      (lib.normalizedHash dest (lib.body message), lib.messageHash message, true)
  | _ => (lib.messageHash message, lib.messageHash message, false)

/-- The header of a parsed message. -/
def messageHeader (message : lib.Message) : Except TraceRaised MessageHeader := do
  let info ← present (lib.info message)
    (.bocConflict "Transaction BOC contains an unsupported message type.")
  match info with
  | .internal src dest createdLt createdAt grams fwdFee ihrFee ihrDisabled bounce bounced _ =>
      let source ← rawAddress lib src
      let destination ← rawAddress lib dest
      return {
        messageHash := (messageHashes lib message).1
        messageType := .intMsg
        sourceAccount := some source
        destinationAccount := some destination
        createdLogicalTime := createdLt
        unixTime := createdAt
        valueNanoton := grams
        forwardFeeNanoton := fwdFee
        ihrFeeNanoton := ihrFee
        importFeeNanoton := 0
        ihrDisabled := ihrDisabled
        bounce := bounce
        bounced := bounced }
  | .externalIn dest importFee =>
      let destination ← rawAddress lib dest
      return {
        messageHash := (messageHashes lib message).1
        messageType := .extInMsg
        sourceAccount := none
        destinationAccount := some destination
        createdLogicalTime := 0
        unixTime := 0
        valueNanoton := 0
        forwardFeeNanoton := 0
        ihrFeeNanoton := 0
        importFeeNanoton := importFee
        ihrDisabled := false
        bounce := false
        bounced := false }
  | .externalOut src createdLt createdAt =>
      let source ← rawAddress lib src
      return {
        messageHash := (messageHashes lib message).1
        messageType := .extOutMsg
        sourceAccount := some source
        destinationAccount := none
        createdLogicalTime := createdLt
        unixTime := createdAt
        valueNanoton := 0
        forwardFeeNanoton := 0
        ihrFeeNanoton := 0
        importFeeNanoton := 0
        ihrDisabled := false
        bounce := false
        bounced := false }

/-- The header of a stored message. -/
def TraceMessage.header (message : TraceMessage) : MessageHeader where
  messageHash := message.messageHash
  messageType := message.messageType
  sourceAccount := message.sourceAccount
  destinationAccount := message.destinationAccount
  createdLogicalTime := message.createdLogicalTime
  unixTime := message.unixTime
  valueNanoton := message.valueNanoton
  forwardFeeNanoton := message.forwardFeeNanoton
  ihrFeeNanoton := message.ihrFeeNanoton
  importFeeNanoton := message.importFeeNanoton
  ihrDisabled := message.ihrDisabled
  bounce := message.bounce
  bounced := message.bounced

/-- `len(info.value.other.dict)`. -/
def extraCurrencyCount (message : lib.Message) : Nat :=
  match lib.info message with
  | some (.internal _ _ _ _ _ _ _ _ _ _ extraCurrencies) => extraCurrencies
  | _ => 0

/-- The opcode of a body of at least 32 bits. -/
def bodyOpcode (body : lib.Cell) : Option Nat :=
  if 32 ≤ lib.bitLength body then some (lib.preloadUint32 body) else none

/-- `_verify_message`. -/
def verifyMessage (message : lib.Message) (stored : TraceMessage) :
    Except TraceRaised MessageEvidence := do
  let header ← messageHeader lib message
  check (header = stored.header)
    (.bocConflict "Transaction BOC message header does not match persisted evidence.")
  return {
    role := stored.role
    ordinal := stored.ordinal
    header := header
    rawMessageCellHash := (messageHashes lib message).2.1
    normalizedExternalIn := (messageHashes lib message).2.2
    extraCurrencyCount := extraCurrencyCount lib message
    bodyHash := lib.cellHash (lib.body message)
    bodyBitLength := lib.bitLength (lib.body message)
    bodyRefCount := lib.refCount (lib.body message)
    opcode := bodyOpcode lib (lib.body message) }

/-! ## A transaction -/

/-- The messages of a node in the order of `(_message_role_rank, ordinal)`. -/
def TraceNodeRow.rankedMessages (node : TraceNodeRow) : List TraceMessageRow :=
  node.messages.insertionSort fun a b => a.role.sortKey < b.role.sortKey ∨
    (a.role.sortKey = b.role.sortKey ∧ a.ordinal ≤ b.ordinal)

def TraceNodeRow.inboundRows (node : TraceNodeRow) : List TraceMessageRow :=
  node.rankedMessages.filter (·.role ≠ .remainingOutbound)

def TraceNodeRow.remainingRows (node : TraceNodeRow) : List TraceMessageRow :=
  node.rankedMessages.filter (·.role = .remainingOutbound)

/-- The inbound message a child took from its parent. -/
def childInboundRow (child : TraceNodeRow) : Except TraceRaised TraceMessageRow :=
  match child.messages.filter (·.role = .childInbound) with
  | [row] => .ok row
  | _ => .error (.bocConflict "Persisted child edge is missing its inbound message.")

/-- The children of a node, in order. -/
def childrenOf (nodes : List TraceNodeRow) (node : TraceNodeRow) : List TraceNodeRow :=
  nodes.filter (·.parentNodeId = some node.id)

/-- `candidates.pop(0)`, the candidates being the raw messages with a hash. -/
def popCandidate (hash : String) : List lib.Message → Option (lib.Message × List lib.Message)
  | [] => none
  | message :: rest =>
      if (messageHashes lib message).1 = hash then some (message, rest)
      else (popCandidate hash rest).map fun (found, left) => (found, message :: left)

/-- The outgoing messages so far: the raw ones left, the checks and the owned
ones. -/
structure OutgoingLoop where
  left : List lib.Message
  checks : List MessageEvidence
  owned : List MessageEvidence

/-- One round of the loop over the expected outgoing messages.  The hashes
were compared as multisets, so there is a candidate. -/
def verifyOutgoing (loop : OutgoingLoop lib) (expected : TraceMessageRow) :
    Except TraceRaised (OutgoingLoop lib) := do
  let (message, left) ← present (popCandidate lib expected.messageHash loop.left)
    (.bocConflict "Transaction BOC outgoing messages do not match trace edges.")
  let evidence ← verifyMessage lib message expected.toTraceMessage
  return {
    left := left
    checks := loop.checks ++ [evidence]
    owned := if expected.role = .remainingOutbound then loop.owned ++ [evidence] else loop.owned }

/-- The root cell of a transaction, parsed. -/
def parseTransaction (bocHex : String) :
    Except TraceRaised (lib.Cell × ParsedTransaction lib.Message) := do
  let invalid := TraceRaised.bocConflict "Transaction BOC could not be deserialized locally."
  let roots ← present (lib.fromBoc bocHex) invalid
  match roots with
  | [root] => do
      let (parsed, bits, refs) ← present (lib.deserialize root) invalid
      check (bits = 0 ∧ refs = 0) (.bocConflict "Transaction BOC has unconsumed root data.")
      return (root, parsed)
  | _ => throw invalid

/-- The inbound message of a transaction, against the rows. -/
def verifyInbound (inMsg : Option lib.Message) (rows : List TraceMessageRow) :
    Except TraceRaised (List MessageEvidence) :=
  match inMsg, rows with
  | none, [] => .ok []
  | some message, [row] => do return [← verifyMessage lib message row.toTraceMessage]
  | _, _ => .error (.bocConflict
      "Transaction BOC inbound message does not match persisted evidence.")

/-- `_derive_transaction_evidence`. -/
def deriveTransactionEvidence (node : TraceNodeRow) (nodes : List TraceNodeRow) (bocHex : String)
    (bocSize : Int) : Except TraceRaised TransactionEvidence := do
  let (root, parsed) ← parseTransaction lib bocHex
  check (lib.cellHash root = node.transactionHash ∧
      parsed.accountAddr = node.accountCanonical.hashPart ∧
      parsed.lt = node.logicalTime ∧ parsed.now = node.unixTime ∧
      parsed.outmsgCnt = parsed.outMsgs.length ∧ parsed.aborted = node.aborted)
    (.bocConflict "Transaction BOC header does not match persisted trace evidence.")
  let inbound ← verifyInbound lib parsed.inMsg node.inboundRows
  let childRows ← (childrenOf nodes node).mapM childInboundRow
  let expected := childRows ++ node.remainingRows
  check ((parsed.outMsgs.map fun message => (messageHashes lib message).1).Perm
      (expected.map (·.messageHash)))
    (.bocConflict "Transaction BOC outgoing messages do not match trace edges.")
  let loop ← expected.foldlM (verifyOutgoing lib)
    { left := parsed.outMsgs, checks := [], owned := [] }
  return {
    preorderIndex := node.preorderIndex
    transactionHash := node.transactionHash
    transactionBocHex := bocHex
    transactionBocBytes := bocSize
    transactionCellHash := lib.cellHash root
    accountHash := parsed.accountAddr
    logicalTime := parsed.lt
    unixTime := parsed.now
    aborted := parsed.aborted
    rawOutMessageCount := parsed.outmsgCnt
    messages := inbound ++ loop.owned
    outgoingEdgeChecks := loop.checks }

/-! ## A trace -/

/-- `_valid_boc_hex`. -/
def validBocHex (value : String) : Bool :=
  value ≠ "" && value.length % 2 = 0 &&
    (value.toList.all fun c => c.isDigit || ('a' ≤ c && c ≤ 'f')) &&
    decide ((value.length / 2 : Int) ≤ maxTransactionBocBytes)

/-- A raw row. -/
structure RawBocRow where
  preorderIndex : Int
  transactionHash : String
  transactionBocHex : String
  transactionBocBytes : Int

/-- The loop over the nodes of a trace: the bytes and evidence so far. -/
structure BocLoop where
  totalBocBytes : Int
  transactions : List TransactionEvidence

/-- One round of the loop over nodes and raw rows. -/
def deriveBocRound (nodes : List TraceNodeRow) (loop : BocLoop)
    (pair : TraceNodeRow × RawBocRow) : Except TraceRaised BocLoop := do
  let (node, row) := pair
  check (row.preorderIndex = loop.transactions.length ∧ row.transactionHash = node.transactionHash)
    (.bocConflict "Transaction BOC order or identity is incoherent.")
  check (validBocHex row.transactionBocHex ∧
      row.transactionBocBytes = row.transactionBocHex.length / 2 ∧
      0 < row.transactionBocBytes ∧ row.transactionBocBytes ≤ maxTransactionBocBytes)
    (.bocConflict "Transaction BOC encoding or size is invalid.")
  let total := loop.totalBocBytes + row.transactionBocBytes
  check (total ≤ maxTotalBocBytes)
    (.bocConflict "Transaction BOCs exceed the aggregate storage limit.")
  let evidence ← deriveTransactionEvidence lib node nodes row.transactionBocHex
    row.transactionBocBytes
  return { totalBocBytes := total, transactions := loop.transactions ++ [evidence] }

/-- `_require_pinned_verifier`. -/
def requirePinnedVerifier : Except TraceRaised Unit := do
  let installed ← present lib.installedVersion
    (.bocFailure "The pinned local BOC verifier is not installed.")
  check (installed = bocVerifierVersion)
    (.bocFailure "The installed local BOC verifier does not match the pinned version.")

/-- `_derive_boc_evidence`; the counters are `bocSummary` of what it returns. -/
def deriveBocEvidence (capture : TraceCapture) (rows : List RawBocRow) :
    Except TraceRaised BocLoop := do
  requirePinnedVerifier lib
  let nodes := capture.sortedNodes
  check (rows.length = nodes.length ∧ 1 ≤ nodes.length ∧ nodes.length ≤ 256)
    (.bocConflict "Transaction BOC count does not match the persisted trace.")
  (nodes.zip rows).foldlM (deriveBocRound lib nodes) { totalBocBytes := 0, transactions := [] }

/-- The owned messages of the transactions. -/
def ownedMessages (transactions : List TransactionEvidence) : List MessageEvidence :=
  transactions.flatMap (·.messages)

/-- The counters of `_derive_boc_evidence`. -/
def bocSummary (loop : BocLoop) : BocSummary where
  transactionCount := loop.transactions.length
  messageCount := (ownedMessages loop.transactions).length
  totalBocBytes := loop.totalBocBytes
  normalizedExternalInHashCount :=
    (ownedMessages loop.transactions).countP (·.normalizedExternalIn)
  directCellHashMessageCount :=
    (ownedMessages loop.transactions).countP fun value => !value.normalizedExternalIn
  bodyHashCount := (ownedMessages loop.transactions).length
  opcodeCount := (ownedMessages loop.transactions).countP (·.opcode.isSome)

/-! ## A stored verification -/

/-- The rows of a verification, in order. -/
def BocVerification.sortedRows (verification : BocVerification) : List BocTransactionRow :=
  verification.transactions.insertionSort fun a b => a.preorderIndex ≤ b.preorderIndex

def BocVerification.rawRows (verification : BocVerification) : List RawBocRow :=
  verification.sortedRows.map fun row =>
    { preorderIndex := row.preorderIndex
      transactionHash := row.transactionHash
      transactionBocHex := row.transactionBocHex
      transactionBocBytes := row.transactionBocBytes }

/-- The node of a row. -/
def TraceStore.node? (store : TraceStore) (id : Nat) : Option TraceNodeRow :=
  (store.captures.flatMap (·.nodes)).find? (·.id = id)

/-- A row, on its own, and against its node. -/
def bocRowCoherent (store : TraceStore) (capture : TraceCapture) (index : Nat)
    (row : BocTransactionRow) : Bool :=
  row.preorderIndex = index &&
    (store.node? row.nodeId).any (fun node => node.captureId = capture.id &&
      node.preorderIndex = (index : Int) && row.transactionHash = node.transactionHash) &&
    row.transactionCellHash = row.transactionHash && isHexHash row.messageEvidenceDigest &&
    validBocHex row.transactionBocHex &&
    row.transactionBocBytes = row.transactionBocHex.length / 2 &&
    0 < row.transactionBocBytes && row.transactionBocBytes ≤ maxTransactionBocBytes

/-- What `_revalidate_verification` returns. -/
structure VerifiedTrace where
  verificationId : Nat
  captureId : Nat
  runId : Nat
  network : Option Network
  verifiedAt : Instant
  anchor : TraceAnchor
  captureDigest : String
  evidenceDigest : String
  summary : BocSummary

/-- `_verification_digest`. -/
def verificationDigest (capture : TraceCapture) (verifiedAt : Instant)
    (transactions : List TransactionEvidence) : String :=
  lib.digestVerification {
    captureId := capture.id
    captureDigest := capture.evidenceDigest
    network := capture.network
    verifiedAt := verifiedAt
    transactions := transactions }

/-- `_revalidate_verification`. -/
def revalidateVerification (store : TraceStore) (verification : BocVerification)
    (capture : TraceCapture) (persisted : PersistedTrace) (run : TraceRun)
    (transaction : TraceTransaction) : Except TraceRaised VerifiedTrace := do
  requirePinnedVerifier lib
  check (verification.captureId = capture.id ∧
      verification.contractVersion = bocVerificationContractVersion ∧
      verification.verifierName = bocVerifierName ∧
      verification.verifierVersion = bocVerifierVersion ∧
      verification.network = capture.network ∧ isHexHash verification.evidenceDigest)
    (.bocConflict "Stored BOC verification metadata failed local revalidation.")
  check (∀ pair ∈ verification.sortedRows.zipIdx,
      bocRowCoherent store capture pair.2 pair.1 = true)
    (.bocConflict "Stored transaction BOC row failed local revalidation.")
  let derived ← deriveBocEvidence lib capture verification.rawRows
  check (verification.sortedRows.length = derived.transactions.length)
    (.bocConflict "Stored transaction BOC count failed local revalidation.")
  check (∀ pair ∈ verification.sortedRows.zip derived.transactions,
      pair.1.messageCount = pair.2.messages.length ∧
        pair.1.messageEvidenceDigest = lib.digestTransaction pair.2)
    (.bocConflict "Stored transaction message evidence digest changed.")
  check (verification.summary = bocSummary derived)
    (.bocConflict "Stored BOC verification summary failed local revalidation.")
  check (verificationDigest lib capture verification.verifiedAt derived.transactions =
      verification.evidenceDigest)
    (.bocConflict "Stored BOC verification digest failed local revalidation.")
  check (some persisted.anchor.transactionHash = transaction.identity.hashCanonical)
    (.bocConflict "Stored BOC verification selected anchor changed.")
  return {
    verificationId := verification.id
    captureId := capture.id
    runId := run.id
    network := verification.network
    verifiedAt := verification.verifiedAt
    anchor := persisted.anchor
    captureDigest := capture.evidenceDigest
    evidenceDigest := verification.evidenceDigest
    summary := bocSummary derived }

/-- `_find_verification`. -/
def findVerification (store : TraceStore) (captureId : Nat) :
    Except TraceRaised (Option BocVerification) :=
  match store.verifications.filter fun row => row.captureId = captureId ∧
      row.contractVersion = bocVerificationContractVersion with
  | [] => .ok none
  | [verification] => .ok (some verification)
  | _ => .error (.bocConflict "Stored BOC verification identity is ambiguous.")

/-- What `get_wallet_transaction_boc_message_evidence` returns. -/
structure BocMessageEvidence where
  verificationId : Nat
  captureId : Nat
  runId : Nat
  network : Option Network
  anchor : TraceAnchor
  verificationDigest : String
  messageDigest : String
  messages : List LocatedMessage

/-- The messages of the transactions, with their coordinates. -/
def locatedMessages (transactions : List TransactionEvidence) : List LocatedMessage :=
  transactions.flatMap fun item => item.messages.map fun message =>
    { transactionPreorderIndex := item.preorderIndex
      transactionHash := item.transactionHash
      message := message }

/-- The body of the readers behind the anchor: a capture, where it is there
and verified, with its messages. -/
def captureMessageEvidence (store : TraceStore) (run : TraceRun) (transaction : TraceTransaction)
    (capture : TraceCapture) : Except TraceRaised (Option BocMessageEvidence) := do
  let persisted ← revalidateCapture lib.derive lib.digestTrace store.transactions capture run
    transaction
  match ← findVerification store capture.id with
  | none => return none
  | some verification => do
      let verified ← revalidateVerification lib store verification capture persisted run transaction
      let derived ← deriveBocEvidence lib capture verification.rawRows
      let messages := locatedMessages derived.transactions
      return some {
        verificationId := verified.verificationId
        captureId := verified.captureId
        runId := verified.runId
        network := verified.network
        anchor := verified.anchor
        verificationDigest := verified.evidenceDigest
        messageDigest := lib.digestMessages verified.evidenceDigest messages
        messages := messages }

/-- `get_wallet_transaction_boc_message_evidence`. -/
def getWalletTransactionBocMessageEvidence (store : TraceStore) (runId : Nat)
    (transactionHash : String) : Except TraceRaised (Option BocMessageEvidence) := do
  let (run, transaction) ← resolveTraceAnchor store.runs store.transactions runId transactionHash
  requireEligibleStoredIdentity lib.derive run transaction transactionHash
  match ← findCaptureForTransaction store.captures runId transactionHash with
  | none => return none
  | some capture => captureMessageEvidence lib store run transaction capture

end TonTracker
