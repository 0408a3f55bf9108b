/-
# `Trace.CountedOnce` — every message of a verified trace, once

A message consumed inside a trace is stored with its consumer, and one that
is not with its sender.  Each out message of a parsed transaction has the
key of a stored row (`outgoing_keys`): a child's inbound row, or a remaining
one; and each node but the root is the child of one node (`TraceShape`).
So the owned messages are those of the root and of the transactions, once
each, and the totals of a wallet are sums over them.
-/
import Mathlib.Algebra.BigOperators.Group.Finset.Basic
import TonTracker.Services.WalletNativeTonFlowObservations
import TonTracker.Trace.Shape
import TonTracker.Lib.Fibers

namespace TonTracker

open ByteMessages (Bytes)
open ExceptFold (check present check_eq_ok present_eq_ok bind_eq_ok foldlM_inv mapM_eq_ok)

/-! ## Keys -/

/-- What identifies a message: the hash of its cell, with its header. -/
abbrev MessageKey : Type := String × Option MessageHeader

variable {lib : BocLibrary}

/-- The key of a parsed message. -/
def messageKey (lib : BocLibrary) (message : lib.Message) : MessageKey :=
  (lib.messageHash message, (messageHeader lib message).toOption)

/-- The key of an owned message. -/
def evidenceKey (evidence : MessageEvidence) : MessageKey :=
  (evidence.rawMessageCellHash, some evidence.header)

/-- The key of a row whose hash is that of a cell. -/
def rowKey (row : TraceMessageRow) : MessageKey := (row.messageHash, some row.header)

theorem messageHashes_raw (message : lib.Message) :
    (messageHashes lib message).2.1 = lib.messageHash message := by
  unfold messageHashes
  split <;> rfl

/-- But for external inbound messages, a header has the hash of the cell. -/
theorem messageHeader_hash {message : lib.Message} {header : MessageHeader}
    (h : messageHeader lib message = .ok header) (htype : header.messageType ≠ .extInMsg) :
    header.messageHash = lib.messageHash message := by
  obtain ⟨info, hinfo, h⟩ := bind_eq_ok.mp h
  have hinfo := present_eq_ok.mp hinfo
  cases info with
  | internal src dest createdLt createdAt grams fwdFee ihrFee ihrDisabled bounce bounced extra =>
      obtain ⟨_, -, h⟩ := bind_eq_ok.mp h
      obtain ⟨_, -, h⟩ := bind_eq_ok.mp h
      cases h
      show (messageHashes lib message).1 = _
      unfold messageHashes
      rw [hinfo]
  | externalIn dest importFee =>
      obtain ⟨_, -, h⟩ := bind_eq_ok.mp h
      cases h
      exact absurd rfl htype
  | externalOut src createdLt createdAt =>
      obtain ⟨_, -, h⟩ := bind_eq_ok.mp h
      cases h
      show (messageHashes lib message).1 = _
      unfold messageHashes
      rw [hinfo]

theorem verifyMessage_ok {message : lib.Message} {stored : TraceMessage}
    {evidence : MessageEvidence} (h : verifyMessage lib message stored = .ok evidence) :
    messageHeader lib message = .ok stored.header ∧ evidence.header = stored.header ∧
      evidence.rawMessageCellHash = lib.messageHash message := by
  obtain ⟨header, hheader, h⟩ := bind_eq_ok.mp h
  obtain ⟨_, hstored, h⟩ := bind_eq_ok.mp h
  cases h
  have hstored := check_eq_ok.mp hstored
  exact ⟨hstored ▸ hheader, hstored, messageHashes_raw message⟩

theorem verifyMessage_evidenceKey {message : lib.Message} {stored : TraceMessage}
    {evidence : MessageEvidence} (h : verifyMessage lib message stored = .ok evidence) :
    evidenceKey evidence = messageKey lib message := by
  obtain ⟨hheader, hstored, hraw⟩ := verifyMessage_ok h
  unfold evidenceKey messageKey
  rw [hheader, hstored, hraw]
  rfl

/-- A message that passed against a row has the key of the row. -/
theorem verifyMessage_rowKey {message : lib.Message} {row : TraceMessageRow}
    {evidence : MessageEvidence} (h : verifyMessage lib message row.toTraceMessage = .ok evidence)
    (htype : row.messageType ≠ .extInMsg) : messageKey lib message = rowKey row := by
  obtain ⟨hheader, -, -⟩ := verifyMessage_ok h
  have hhash : row.messageHash = lib.messageHash message := messageHeader_hash hheader htype
  unfold messageKey rowKey
  rw [hheader, hhash]
  rfl

/-! ## The outgoing messages of a transaction -/

theorem popCandidate_perm {hash : String} {l left : List lib.Message} {message : lib.Message}
    (h : popCandidate lib hash l = some (message, left)) : l.Perm (message :: left) := by
  induction l generalizing left with
  | nil => cases h
  | cons a l ih =>
      unfold popCandidate at h
      split at h
      · cases h
        exact .refl _
      · obtain ⟨⟨found, rest⟩, hpop, heq⟩ := Option.map_eq_some_iff.mp h
        cases heq
        exact ((ih hpop).cons a).trans (.swap message a rest)

/-- The raw messages left and the rows met make up the out messages; the owned
ones are the remaining rows among those met. -/
structure OutgoingKept (out : List lib.Message) (met : List TraceMessageRow)
    (loop : OutgoingLoop lib) : Prop where
  keys : (loop.left.map (messageKey lib) ++ met.map rowKey).Perm (out.map (messageKey lib))
  owned : loop.owned.map evidenceKey =
    (met.filter (·.role = .remainingOutbound)).map rowKey

theorem verifyOutgoing_kept {out : List lib.Message} (met : List TraceMessageRow)
    (row : TraceMessageRow) (loop loop' : OutgoingLoop lib)
    (h : verifyOutgoing lib loop row = .ok loop')
    (kept : (∀ m ∈ met, m.messageType ≠ .extInMsg) → OutgoingKept out met loop)
    (types : ∀ m ∈ met ++ [row], m.messageType ≠ .extInMsg) :
    OutgoingKept out (met ++ [row]) loop' := by
  obtain ⟨⟨message, left⟩, hpop, h⟩ := bind_eq_ok.mp h
  obtain ⟨evidence, hverify, h⟩ := bind_eq_ok.mp h
  cases h
  have kept := kept fun m hm => types m (List.mem_append_left _ hm)
  have hrow : messageKey lib message = rowKey row :=
    verifyMessage_rowKey hverify (types row (List.mem_append_right _ List.mem_cons_self))
  have hperm : (loop.left.map (messageKey lib)).Perm (rowKey row :: left.map (messageKey lib)) :=
    hrow ▸ (popCandidate_perm (present_eq_ok.mp hpop)).map (messageKey lib)
  refine ⟨?_, ?_⟩
  · rw [List.map_append, ← List.append_assoc]
    calc (left.map (messageKey lib) ++ met.map rowKey ++ [rowKey row]).Perm
          (rowKey row :: (left.map (messageKey lib) ++ met.map rowKey)) :=
            List.perm_append_singleton _ _
      _ |>.Perm (loop.left.map (messageKey lib) ++ met.map rowKey) :=
            (hperm.append_right (met.map rowKey)).symm
      _ |>.Perm (out.map (messageKey lib)) := kept.keys
  · dsimp only
    rw [List.filter_append, List.map_append, ← kept.owned]
    by_cases hrole : row.role = .remainingOutbound
    · have hfilter : [row].filter (·.role = .remainingOutbound) = [row] := by simp [hrole]
      rw [if_pos hrole, List.map_append, hfilter, List.map_singleton, List.map_singleton,
        verifyMessage_evidenceKey hverify, hrow]
    · have hfilter : [row].filter (·.role = .remainingOutbound) = [] := by simp [hrole]
      rw [if_neg hrole, hfilter]
      exact (List.append_nil _).symm

/-- Where there are as many of both, no raw message is left. -/
theorem outgoing_keys {out : List lib.Message} {expected : List TraceMessageRow}
    {loop : OutgoingLoop lib} (hlength : out.length = expected.length)
    (h : expected.foldlM (verifyOutgoing lib) { left := out, checks := [], owned := [] } = .ok loop)
    (types : ∀ row ∈ expected, row.messageType ≠ .extInMsg) :
    (expected.map rowKey).Perm (out.map (messageKey lib)) ∧
      loop.owned.map evidenceKey =
        (expected.filter (·.role = .remainingOutbound)).map rowKey := by
  have kept : OutgoingKept out ([] ++ expected) loop := by
    refine foldlM_inv (fun met loop => (∀ m : TraceMessageRow, m ∈ met →
      m.messageType ≠ .extInMsg) → OutgoingKept out met loop) ?_ h ?_ ?_
    · intro met row loop loop' hround hkept
      exact verifyOutgoing_kept met row loop loop' hround hkept
    · intro _
      exact ⟨.of_eq (List.append_nil _), rfl⟩
    · exact types
  rw [List.nil_append] at kept
  have hcard := kept.keys.length_eq
  rw [List.length_append, List.length_map, List.length_map, List.length_map] at hcard
  have hnil : loop.left = [] := List.eq_nil_of_length_eq_zero (by omega)
  have hkeys := kept.keys
  rw [hnil] at hkeys
  exact ⟨hkeys, kept.owned⟩

/-! ## A transaction against its node -/

theorem mem_rankedMessages {node : TraceNodeRow} {row : TraceMessageRow} :
    row ∈ node.rankedMessages ↔ row ∈ node.messages :=
  (List.perm_insertionSort _ _).mem_iff

theorem childInboundRow_ok {child : TraceNodeRow} {row : TraceMessageRow}
    (h : childInboundRow child = .ok row) :
    row ∈ child.messages ∧ row.role = .childInbound := by
  unfold childInboundRow at h
  split at h
  · next found hfound =>
      cases h
      obtain ⟨hmem, hrole⟩ := List.mem_filter.mp (hfound ▸ List.mem_singleton_self _ :
        _ ∈ child.messages.filter (·.role = .childInbound))
      exact ⟨hmem, of_decide_eq_true hrole⟩
  · cases h

/-- A transaction has an inbound message where its node has an inbound row, and
it passed against it. -/
theorem verifyInbound_ok {inMsg : Option lib.Message} {rows : List TraceMessageRow}
    {evidence : List MessageEvidence} (h : verifyInbound lib inMsg rows = .ok evidence) :
    (inMsg = none ∧ rows = [] ∧ evidence = []) ∨
      ∃ message row checked, inMsg = some message ∧ rows = [row] ∧ evidence = [checked] ∧
        verifyMessage lib message row.toTraceMessage = .ok checked := by
  unfold verifyInbound at h
  split at h
  · cases h
    exact .inl ⟨rfl, rfl, rfl⟩
  · next message row =>
      obtain ⟨checked, hchecked, h⟩ := bind_eq_ok.mp h
      cases h
      exact .inr ⟨message, row, checked, rfl, rfl, rfl, hchecked⟩
  · cases h

/-- What passed of a transaction. -/
theorem deriveTransactionEvidence_ok {node : TraceNodeRow} {nodes : List TraceNodeRow}
    {bocHex : String} {bocSize : Int} {evidence : TransactionEvidence}
    (h : deriveTransactionEvidence lib node nodes bocHex bocSize = .ok evidence) :
    ∃ root parsed inbound childRows loop, parseTransaction lib bocHex = .ok (root, parsed) ∧
      verifyInbound lib parsed.inMsg node.inboundRows = .ok inbound ∧
      (childrenOf nodes node).mapM childInboundRow = .ok childRows ∧
      parsed.outMsgs.length = (childRows ++ node.remainingRows).length ∧
      (childRows ++ node.remainingRows).foldlM (verifyOutgoing lib)
        { left := parsed.outMsgs, checks := [], owned := [] } = .ok loop ∧
      evidence.messages = inbound ++ loop.owned := by
  obtain ⟨⟨root, parsed⟩, hparsed, h⟩ := bind_eq_ok.mp h
  obtain ⟨_, -, h⟩ := bind_eq_ok.mp h
  obtain ⟨inbound, hinbound, h⟩ := bind_eq_ok.mp h
  obtain ⟨childRows, hchildren, h⟩ := bind_eq_ok.mp h
  obtain ⟨_, hperm, h⟩ := bind_eq_ok.mp h
  obtain ⟨loop, hloop, h⟩ := bind_eq_ok.mp h
  cases h
  have hlength := (check_eq_ok.mp hperm).length_eq
  rw [List.length_map, List.length_map] at hlength
  exact ⟨root, parsed, inbound, childRows, loop, hparsed, hinbound, hchildren, hlength, hloop, rfl⟩

/-- The keys of rows, as a multiset. -/
def keysOf (rows : List TraceMessageRow) : Multiset MessageKey := (rows.map rowKey : List MessageKey)

/-- The keys of parsed messages, as a multiset. -/
def messageKeys (lib : BocLibrary) (messages : List lib.Message) : Multiset MessageKey :=
  (messages.map (messageKey lib) : List MessageKey)

/-- The keys of owned messages, as a multiset. -/
def evidenceKeys (messages : List MessageEvidence) : Multiset MessageKey :=
  (messages.map evidenceKey : List MessageKey)

theorem evidenceKeys_inbound {inMsg : Option lib.Message} {rows : List TraceMessageRow}
    {evidence : List MessageEvidence} (h : verifyInbound lib inMsg rows = .ok evidence) :
    evidenceKeys evidence = messageKeys lib inMsg.toList := by
  rcases verifyInbound_ok h with ⟨rfl, -, rfl⟩ | ⟨message, row, checked, rfl, -, rfl, hchecked⟩
  · rfl
  · exact congrArg (fun key : MessageKey => (([key] : List MessageKey) : Multiset MessageKey))
      (verifyMessage_evidenceKey hchecked)

/-- A node a parent counts among its children has one inbound row. -/
theorem inboundRows_child {inMsg : Option lib.Message} {child : TraceNodeRow}
    {row : TraceMessageRow} {evidence : List MessageEvidence}
    (hrow : childInboundRow child = .ok row)
    (h : verifyInbound lib inMsg child.inboundRows = .ok evidence) : child.inboundRows = [row] := by
  obtain ⟨hmem, hrole⟩ := childInboundRow_ok hrow
  have hinbound : row ∈ child.inboundRows :=
    List.mem_filter.mpr ⟨mem_rankedMessages.mpr hmem, by rw [hrole]; rfl⟩
  rcases verifyInbound_ok h with ⟨-, hnil, -⟩ | ⟨_, found, _, -, hone, -, -⟩
  · rw [hnil] at hinbound
    cases hinbound
  · rw [hone] at hinbound
    rw [hone, List.mem_singleton.mp hinbound]

/-- The consumed message of a node is the one of its row. -/
theorem messageKeys_child {inMsg : Option lib.Message} {child : TraceNodeRow}
    {row : TraceMessageRow} {evidence : List MessageEvidence}
    (hrow : childInboundRow child = .ok row) (htype : row.messageType ≠ .extInMsg)
    (h : verifyInbound lib inMsg child.inboundRows = .ok evidence) :
    messageKeys lib inMsg.toList = keysOf child.inboundRows := by
  have hone := inboundRows_child hrow h
  rcases verifyInbound_ok h with ⟨-, hnil, -⟩ | ⟨message, found, checked, rfl, hfound, -, hchecked⟩
  · rw [hone] at hnil
    cases hnil
  · cases hone.symm.trans hfound
    rw [hone]
    exact congrArg (fun key : MessageKey => (([key] : List MessageKey) : Multiset MessageKey))
      (verifyMessage_rowKey hchecked htype)

/-- The parsed transaction of a stored bag of cells. -/
def parsed? (lib : BocLibrary) (bocHex : String) : Option (ParsedTransaction lib.Message) :=
  (parseTransaction lib bocHex).toOption.map (·.2)

/-- The keys of the messages consumed by the children of a node. -/
def childKeys (nodes : List TraceNodeRow) (node : TraceNodeRow) : Multiset MessageKey :=
  ((childrenOf nodes node).map fun child => keysOf child.inboundRows).sum

theorem childKeys_eq {nodes : List TraceNodeRow} {node : TraceNodeRow}
    {childRows : List TraceMessageRow}
    (hchildren : (childrenOf nodes node).mapM childInboundRow = .ok childRows)
    (hone : ∀ child ∈ childrenOf nodes node, ∀ row, childInboundRow child = .ok row →
      child.inboundRows = [row]) :
    childKeys nodes node = keysOf childRows := by
  have hsum : childKeys nodes node = (childRows.map fun row => keysOf [row]).sum :=
    Fibers.sum_eq_of_forall₂ (mapM_eq_ok.mp hchildren) fun child hchild row hrow =>
      congrArg keysOf (hone child hchild row hrow)
  have hrows : childRows.map rowKey = childRows.flatMap fun row => [rowKey row] :=
    List.map_eq_flatMap
  unfold keysOf at hsum ⊢
  rw [hsum, hrows, Fibers.coe_flatMap]
  rfl

/-- A verified transaction: what it owns, and what it sends, by its rows. -/
structure TransactionKeys (lib : BocLibrary) (nodes : List TraceNodeRow) (node : TraceNodeRow)
    (parsed : ParsedTransaction lib.Message) (evidence : TransactionEvidence) : Prop where
  owned : evidenceKeys evidence.messages =
    messageKeys lib parsed.inMsg.toList + keysOf node.remainingRows
  sent : messageKeys lib parsed.outMsgs = childKeys nodes node + keysOf node.remainingRows
  consumed : ∀ row, childInboundRow node = .ok row →
    messageKeys lib parsed.inMsg.toList = keysOf node.inboundRows

theorem mem_remainingRows {node : TraceNodeRow} {row : TraceMessageRow} :
    row ∈ node.remainingRows ↔ row ∈ node.messages ∧ row.role = .remainingOutbound := by
  unfold TraceNodeRow.remainingRows
  rw [List.mem_filter, mem_rankedMessages, decide_eq_true_iff]

theorem transactionKeys {nodes : List TraceNodeRow} (shape : TraceShape nodes)
    {node : TraceNodeRow} (hnode : node ∈ nodes) {bocHex : String} {bocSize : Int}
    {evidence : TransactionEvidence}
    (h : deriveTransactionEvidence lib node nodes bocHex bocSize = .ok evidence)
    (inbound : ∀ node ∈ nodes, ∃ inMsg evidence,
      verifyInbound lib inMsg node.inboundRows = .ok evidence) :
    ∃ parsed, parsed? lib bocHex = some parsed ∧ TransactionKeys lib nodes node parsed evidence := by
  obtain ⟨root, parsed, checked, childRows, loop, hparsed, hinbound, hchildren, hlength, hloop,
    hmessages⟩ := deriveTransactionEvidence_ok h
  have hchild : ∀ row ∈ childRows, ∃ child ∈ childrenOf nodes node,
      childInboundRow child = .ok row :=
    (Fibers.mem_of_forall₂ (mapM_eq_ok.mp hchildren)).1
  have htypes : ∀ row ∈ childRows ++ node.remainingRows, row.messageType ≠ .extInMsg := by
    intro row hrow
    rcases List.mem_append.mp hrow with hrow | hrow
    · obtain ⟨child, hmem, hfound⟩ := hchild row hrow
      obtain ⟨hmessage, hrole⟩ := childInboundRow_ok hfound
      have hint := shape.consumed child (List.mem_filter.mp hmem).1 row hmessage hrole
      exact fun hext => nomatch hint.symm.trans hext
    · obtain ⟨hmessage, hrole⟩ := mem_remainingRows.mp hrow
      exact shape.remaining node hnode row hmessage hrole
  obtain ⟨hsent, howned⟩ := outgoing_keys hlength hloop htypes
  have hfilter : (childRows ++ node.remainingRows).filter (·.role = .remainingOutbound) =
      node.remainingRows := by
    rw [List.filter_append, List.filter_eq_nil_iff.mpr, List.filter_eq_self.mpr, List.nil_append]
    · exact fun row hrow => decide_eq_true (mem_remainingRows.mp hrow).2
    · intro row hrow hrole
      obtain ⟨child, -, hfound⟩ := hchild row hrow
      cases (childInboundRow_ok hfound).2.symm.trans (of_decide_eq_true hrole)
  refine ⟨parsed, by unfold parsed?; rw [hparsed]; rfl, ?_, ?_, ?_⟩
  · rw [hmessages, ← evidenceKeys_inbound hinbound]
    unfold evidenceKeys keysOf
    rw [List.map_append, howned, hfilter, Multiset.coe_add]
  · have hkeys : childKeys nodes node = keysOf childRows := by
      refine childKeys_eq hchildren fun child hmem row hrow => ?_
      obtain ⟨inMsg, evidence, hverified⟩ := inbound child (List.mem_filter.mp hmem).1
      exact inboundRows_child hrow hverified
    rw [hkeys]
    unfold messageKeys keysOf
    rw [Multiset.coe_add, ← List.map_append]
    exact (Multiset.coe_eq_coe.mpr hsent).symm
  · intro row hrow
    obtain ⟨hmessage, hrole⟩ := childInboundRow_ok hrow
    have hint := shape.consumed node hnode row hmessage hrole
    exact messageKeys_child hrow (fun hext => nomatch hint.symm.trans hext) hinbound

/-! ## A trace -/

@[simp] theorem messageKeys_append (l m : List lib.Message) :
    messageKeys lib (l ++ m) = messageKeys lib l + messageKeys lib m := by
  unfold messageKeys
  rw [List.map_append, Multiset.coe_add]

@[simp] theorem evidenceKeys_append (l m : List MessageEvidence) :
    evidenceKeys (l ++ m) = evidenceKeys l + evidenceKeys m := by
  unfold evidenceKeys
  rw [List.map_append, Multiset.coe_add]

/-- The transactions of the stored bags of cells. -/
def Parses (lib : BocLibrary) (rows : List RawBocRow)
    (transactions : List (ParsedTransaction lib.Message)) : Prop :=
  List.Forall₂ (fun row parsed => parsed? lib row.transactionBocHex = some parsed) rows transactions

/-- The messages of a trace: the one that came in at the root, and every one
that a transaction sent. -/
def chainMessages (transactions : List (ParsedTransaction lib.Message)) : List lib.Message :=
  (transactions.head?.bind (·.inMsg)).toList ++ transactions.flatMap (·.outMsgs)

/-- The evidence of a node and its raw row. -/
def Derives (lib : BocLibrary) (nodes : List TraceNodeRow) (pair : TraceNodeRow × RawBocRow)
    (evidence : TransactionEvidence) : Prop :=
  deriveTransactionEvidence lib pair.1 nodes pair.2.transactionBocHex pair.2.transactionBocBytes =
    .ok evidence

theorem deriveBocEvidence_ok {capture : TraceCapture} {rows : List RawBocRow} {loop : BocLoop}
    (h : deriveBocEvidence lib capture rows = .ok loop) :
    rows.length = capture.sortedNodes.length ∧ capture.sortedNodes ≠ [] ∧
      List.Forall₂ (Derives lib capture.sortedNodes) (capture.sortedNodes.zip rows)
        loop.transactions := by
  obtain ⟨_, -, h⟩ := bind_eq_ok.mp h
  obtain ⟨_, hcount, h⟩ := bind_eq_ok.mp h
  obtain ⟨hlength, hone, -⟩ := check_eq_ok.mp hcount
  refine ⟨hlength, List.ne_nil_of_length_pos hone, ?_⟩
  have hkept : List.Forall₂ (Derives lib capture.sortedNodes)
      ([] ++ capture.sortedNodes.zip rows) loop.transactions := by
    refine foldlM_inv (fun met (loop : BocLoop) =>
      List.Forall₂ (Derives lib capture.sortedNodes) met loop.transactions) ?_ h .nil
    rintro met ⟨node, row⟩ loop loop' hround hmet
    obtain ⟨_, -, hround⟩ := bind_eq_ok.mp hround
    obtain ⟨_, -, hround⟩ := bind_eq_ok.mp hround
    obtain ⟨_, -, hround⟩ := bind_eq_ok.mp hround
    obtain ⟨evidence, hevidence, hround⟩ := bind_eq_ok.mp hround
    cases hround
    exact List.rel_append hmet (.cons hevidence .nil)
  exact hkept

/-- Transactions below the root: each owns what its rows say. -/
theorem traceKeys {nodes : List TraceNodeRow} (shape : TraceShape nodes)
    (inbound : ∀ node ∈ nodes, ∃ inMsg evidence,
      verifyInbound lib inMsg node.inboundRows = .ok evidence)
    {pairs : List (TraceNodeRow × RawBocRow)} {evidence : List TransactionEvidence}
    (h : List.Forall₂ (Derives lib nodes) pairs evidence)
    (hmem : ∀ pair ∈ pairs, pair.1 ∈ nodes)
    (hchild : ∀ pair ∈ pairs, ∃ row, childInboundRow pair.1 = .ok row) :
    ∃ transactions, Parses lib (pairs.map (·.2)) transactions ∧
      evidenceKeys (ownedMessages evidence) =
        (pairs.map fun pair => keysOf pair.1.inboundRows).sum +
          (pairs.map fun pair => keysOf pair.1.remainingRows).sum ∧
      messageKeys lib (transactions.flatMap (·.outMsgs)) =
        (pairs.map fun pair => childKeys nodes pair.1).sum +
          (pairs.map fun pair => keysOf pair.1.remainingRows).sum := by
  induction h with
  | nil => exact ⟨[], .nil, rfl, rfl⟩
  | @cons pair item pairs evidence hpair _ ih =>
      obtain ⟨transactions, hparses, howned, hsent⟩ :=
        ih (fun p hp => hmem p (List.mem_cons_of_mem pair hp))
          fun p hp => hchild p (List.mem_cons_of_mem pair hp)
      obtain ⟨parsed, hparsed, keys⟩ :=
        transactionKeys shape (hmem pair List.mem_cons_self) hpair inbound
      obtain ⟨row, hrow⟩ := hchild pair List.mem_cons_self
      refine ⟨parsed :: transactions, .cons hparsed hparses, ?_, ?_⟩
      · have hcons : ownedMessages (item :: evidence) = item.messages ++ ownedMessages evidence :=
          rfl
        rw [hcons, evidenceKeys_append, howned, keys.owned, keys.consumed row hrow, List.map_cons,
          List.map_cons, List.sum_cons, List.sum_cons, add_add_add_comm]
      · rw [List.flatMap_cons, messageKeys_append, hsent, keys.sent, List.map_cons, List.map_cons,
          List.sum_cons, List.sum_cons, add_add_add_comm]

/-- Every node but the root is counted among the children of one node. -/
theorem sum_childKeys {root : TraceNodeRow} {rest : List TraceNodeRow}
    (shape : TraceShape (root :: rest)) :
    ((root :: rest).map (childKeys (root :: rest))).sum =
      (rest.map fun node => keysOf node.inboundRows).sum := by
  have hfibers := Fibers.sum_fibers (fun node : TraceNodeRow => node.parentNodeId)
    (fun node => keysOf node.inboundRows) (root :: rest) shape.ids
  rw [List.map_map] at hfibers
  have hroot := shape.root root rfl
  have hrest : (root :: rest).filter (fun node => node.parentNodeId.any fun k =>
      k ∈ (root :: rest).map (·.id)) = rest := by
    rw [List.filter_cons_of_neg (by rw [hroot]; exact Bool.false_ne_true)]
    refine List.filter_eq_self.mpr fun node hnode => ?_
    obtain ⟨parent, hparent, hid⟩ := shape.children node hnode
    rw [hid]
    exact decide_eq_true (List.mem_map_of_mem hparent)
  rw [hrest] at hfibers
  exact hfibers

/-- Every node of a verified trace passed with its inbound message, and every
node below the root has a row that its parent counts. -/
theorem derives_rows {nodes : List TraceNodeRow} {rows : List RawBocRow}
    {evidence : List TransactionEvidence} (shape : TraceShape nodes)
    (hlength : rows.length = nodes.length)
    (h : List.Forall₂ (Derives lib nodes) (nodes.zip rows) evidence) :
    (∀ node ∈ nodes, ∃ inMsg evidence, verifyInbound lib inMsg node.inboundRows = .ok evidence) ∧
      ∀ node ∈ nodes.tail, ∃ row, childInboundRow node = .ok row := by
  have hpair : ∀ node ∈ nodes, ∃ pair ∈ nodes.zip rows, pair.1 = node := by
    intro node hnode
    have hfst : (nodes.zip rows).map Prod.fst = nodes := List.map_fst_zip (Nat.le_of_eq hlength.symm)
    rw [← hfst] at hnode
    exact List.mem_map.mp hnode
  constructor
  · intro node hnode
    obtain ⟨pair, hmem, rfl⟩ := hpair node hnode
    obtain ⟨item, -, hitem⟩ := (Fibers.mem_of_forall₂ h).2 pair hmem
    obtain ⟨_, parsed, checked, _, _, -, hinbound, -⟩ := deriveTransactionEvidence_ok hitem
    exact ⟨parsed.inMsg, checked, hinbound⟩
  · intro node hnode
    obtain ⟨parent, hparent, hid⟩ := shape.children node hnode
    obtain ⟨pair, hmem, rfl⟩ := hpair parent hparent
    obtain ⟨item, -, hitem⟩ := (Fibers.mem_of_forall₂ h).2 pair hmem
    obtain ⟨_, _, _, _, _, -, -, hchildren, -⟩ := deriveTransactionEvidence_ok hitem
    have hchild : node ∈ childrenOf nodes pair.1 :=
      List.mem_filter.mpr ⟨List.mem_of_mem_tail hnode, decide_eq_true hid⟩
    obtain ⟨row, -, hrow⟩ := (Fibers.mem_of_forall₂ (mapM_eq_ok.mp hchildren)).2 node hchild
    exact ⟨row, hrow⟩

/-- The owned messages of a trace are those of the chain. -/
theorem ownedMessages_keys {capture : TraceCapture} {rows : List RawBocRow} {loop : BocLoop}
    (shape : TraceShape capture.sortedNodes)
    (h : deriveBocEvidence lib capture rows = .ok loop) :
    ∃ transactions, Parses lib rows transactions ∧
      evidenceKeys (ownedMessages loop.transactions) =
        messageKeys lib (chainMessages transactions) := by
  obtain ⟨hlength, hne, hall⟩ := deriveBocEvidence_ok h
  revert shape hlength hne hall
  generalize capture.sortedNodes = nodes
  generalize loop.transactions = evidence
  intro shape hlength hne hall
  obtain ⟨hinbound, hchild⟩ := derives_rows shape hlength hall
  obtain ⟨root, rest, rfl⟩ := List.exists_cons_of_ne_nil hne
  obtain ⟨row, rows, rfl⟩ := List.exists_cons_of_length_eq_add_one hlength
  have hlength : rows.length = rest.length := Nat.succ.inj hlength
  rw [List.zip_cons_cons] at hall
  cases hall with
  | @cons _ item _ items hroot hrest =>
      have hfst : (rest.zip rows).map (·.1) = rest := List.map_fst_zip (Nat.le_of_eq hlength.symm)
      have hsnd : (rest.zip rows).map (·.2) = rows := List.map_snd_zip (Nat.le_of_eq hlength)
      have hin : ∀ pair ∈ rest.zip rows, pair.1 ∈ rest := fun pair hpair =>
        hfst ▸ List.mem_map_of_mem hpair
      obtain ⟨parsed, hparsed, keys⟩ := transactionKeys shape List.mem_cons_self hroot hinbound
      obtain ⟨transactions, hparses, howned, hsent⟩ := traceKeys shape hinbound hrest
        (fun pair hpair => List.mem_cons_of_mem root (hin pair hpair))
        fun pair hpair => hchild pair.1 (hin pair hpair)
      rw [hsnd] at hparses
      refine ⟨parsed :: transactions, .cons hparsed hparses, ?_⟩
      have hover : ∀ f : TraceNodeRow → Multiset MessageKey,
          ((rest.zip rows).map fun pair => f pair.1) = rest.map f := fun f =>
        List.map_map.symm.trans (congrArg (List.map f) hfst)
      rw [hover fun node => keysOf node.inboundRows, hover fun node => keysOf node.remainingRows]
        at howned
      rw [hover (childKeys (root :: rest)), hover fun node => keysOf node.remainingRows] at hsent
      have hchildren := sum_childKeys shape
      rw [List.map_cons, List.sum_cons] at hchildren
      have hcons : ownedMessages (item :: items) = item.messages ++ ownedMessages items := rfl
      have hchain : chainMessages (parsed :: transactions) =
          parsed.inMsg.toList ++ (parsed.outMsgs ++ transactions.flatMap (·.outMsgs)) := rfl
      rw [hcons, hchain, evidenceKeys_append, messageKeys_append, messageKeys_append, howned, hsent,
        keys.owned, keys.sent, add_assoc, ← hchildren]
      congr 1
      rw [add_add_add_comm, add_left_comm]

/-! ## Totals -/

/-- What a message moves for a wallet in a direction: the value of an internal
message whose ends are such. -/
def movedNanoton (lib : BocLibrary) (wallet : TonAddress) (direction : FlowDirection)
    (message : lib.Message) : Nat :=
  match lib.info message with
  | some (.internal src dest _ _ grams _ _ _ _ _ _) =>
      let sent := decide (lib.rawAddress src = some wallet)
      let received := decide (lib.rawAddress dest = some wallet)
      match direction with
      | .incoming => if received && !sent then grams else 0
      | .outgoing => if sent && !received then grams else 0
      | .self => if sent && received then grams else 0
  | _ => 0

/-- A total of the flow loop. -/
def FlowLoop.total (loop : FlowLoop) : FlowDirection → Nat
  | .incoming => loop.incoming
  | .outgoing => loop.outgoing
  | .self => loop.selfAmount

/-- What a header adds to a total. -/
def headerAmount (wallet : TonAddress) (direction : FlowDirection) (header : MessageHeader) : Nat :=
  if flowDirection wallet header = some direction then header.valueNanoton else 0

theorem observeFlow_total (wallet : TonAddress) (loop : FlowLoop) (located : LocatedMessage)
    (direction : FlowDirection) :
    (observeFlow wallet loop located).total direction =
      loop.total direction + headerAmount wallet direction located.message.header := by
  unfold observeFlow headerAmount
  cases flowDirection wallet located.message.header with
  | none => simp
  | some found => cases found <;> cases direction <;> simp [FlowLoop.total]

/-- The totals are sums over the messages. -/
theorem observeFlows_total (wallet : TonAddress) (messages : List LocatedMessage)
    (direction : FlowDirection) :
    (observeFlows wallet messages).total direction =
      (messages.map fun located => headerAmount wallet direction located.message.header).sum := by
  have hfold : ∀ (loop : FlowLoop), (messages.foldl (observeFlow wallet) loop).total direction =
      loop.total direction +
        (messages.map fun located => headerAmount wallet direction located.message.header).sum := by
    induction messages with
    | nil => exact fun loop => (add_zero _).symm
    | cons located messages ih =>
        intro loop
        rw [List.foldl_cons, ih, observeFlow_total, List.map_cons, List.sum_cons, add_assoc]
  refine (hfold _).trans ?_
  cases direction <;> exact zero_add _

/-- The header of a parsed message tells what it moves. -/
theorem movedNanoton_eq {wallet : TonAddress} {direction : FlowDirection} {message : lib.Message}
    {header : MessageHeader} (h : messageHeader lib message = .ok header) :
    movedNanoton lib wallet direction message = headerAmount wallet direction header := by
  obtain ⟨info, hinfo, h⟩ := bind_eq_ok.mp h
  have hinfo := present_eq_ok.mp hinfo
  unfold movedNanoton headerAmount flowDirection
  rw [hinfo]
  cases info with
  | internal src dest createdLt createdAt grams fwdFee ihrFee ihrDisabled bounce bounced extra =>
      obtain ⟨source, hsource, h⟩ := bind_eq_ok.mp h
      obtain ⟨destination, hdestination, h⟩ := bind_eq_ok.mp h
      cases h
      dsimp only
      rw [present_eq_ok.mp hsource, present_eq_ok.mp hdestination]
      by_cases hsrc : source = wallet <;> by_cases hdest : destination = wallet <;>
        cases direction <;> simp [hsrc, hdest]
  | externalIn dest importFee =>
      obtain ⟨_, -, h⟩ := bind_eq_ok.mp h
      cases h
      simp
  | externalOut src createdLt createdAt =>
      obtain ⟨_, -, h⟩ := bind_eq_ok.mp h
      cases h
      simp

/-- What a key adds to a total. -/
def keyAmount (wallet : TonAddress) (direction : FlowDirection) (key : MessageKey) : Nat :=
  (key.2.map (headerAmount wallet direction)).getD 0

/-- Owned messages with the keys of parsed ones move what these do. -/
theorem headerAmounts_eq {messages : List LocatedMessage} {parsed : List lib.Message}
    (h : evidenceKeys (messages.map (·.message)) = messageKeys lib parsed) (wallet : TonAddress)
    (direction : FlowDirection) :
    (messages.map fun located => headerAmount wallet direction located.message.header).sum =
      (parsed.map (movedNanoton lib wallet direction)).sum := by
  have hperm : ((messages.map (·.message)).map evidenceKey).Perm (parsed.map (messageKey lib)) :=
    Multiset.coe_eq_coe.mp h
  have hparsed : parsed.map (movedNanoton lib wallet direction) =
      (parsed.map (messageKey lib)).map (keyAmount wallet direction) := by
    rw [List.map_map]
    refine List.map_congr_left fun message hmessage => ?_
    obtain ⟨located, -, hlocated⟩ := List.mem_map.mp
      (hperm.mem_iff.mpr (List.mem_map_of_mem hmessage))
    have hheader : (messageHeader lib message).toOption = some located.header :=
      (congrArg Prod.snd hlocated).symm
    have hok : messageHeader lib message = .ok located.header := by
      cases hresult : messageHeader lib message with
      | error raised => rw [hresult] at hheader; cases hheader
      | ok header => rw [hresult] at hheader; cases hheader; rfl
    show _ = ((messageHeader lib message).toOption.map (headerAmount wallet direction)).getD 0
    rw [hheader]
    exact movedNanoton_eq hok
  have howned : (messages.map fun located => headerAmount wallet direction located.message.header) =
      ((messages.map (·.message)).map evidenceKey).map (keyAmount wallet direction) := by
    rw [List.map_map, List.map_map]
    rfl
  rw [howned, hparsed]
  exact (hperm.map (keyAmount wallet direction)).sum_eq

/-- The messages of a verification, without their places. -/
theorem locatedMessages_messages (transactions : List TransactionEvidence) :
    (locatedMessages transactions).map (·.message) = ownedMessages transactions := by
  unfold locatedMessages ownedMessages
  rw [List.map_flatMap]
  refine congrArg (fun f => transactions.flatMap f) (funext fun item => ?_)
  rw [List.map_map]
  exact List.map_id _

/-- What a read that returns messages went through. -/
theorem captureMessageEvidence_ok {store : TraceStore} {run : TraceRun}
    {transaction : TraceTransaction} {capture : TraceCapture} {evidence : BocMessageEvidence}
    (h : captureMessageEvidence lib store run transaction capture = .ok (some evidence)) :
    ∃ persisted verification derived,
      revalidateCapture lib.derive lib.digestTrace store.transactions capture run transaction =
        .ok persisted ∧
      findVerification store capture.id = .ok (some verification) ∧
      deriveBocEvidence lib capture verification.rawRows = .ok derived ∧
      evidence.messages = locatedMessages derived.transactions := by
  obtain ⟨persisted, hpersisted, h⟩ := bind_eq_ok.mp h
  obtain ⟨found, hfound, h⟩ := bind_eq_ok.mp h
  cases found with
  | none => cases h
  | some verification =>
      obtain ⟨verified, -, h⟩ := bind_eq_ok.mp h
      obtain ⟨derived, hderived, h⟩ := bind_eq_ok.mp h
      cases h
      exact ⟨persisted, verification, derived, hpersisted, hfound, hderived, rfl⟩

/-- A total of the observations. -/
def NativeFlowObservations.total (observed : NativeFlowObservations) : FlowDirection → Nat
  | .incoming => observed.incomingNanoton
  | .outgoing => observed.outgoingNanoton
  | .self => observed.selfNanoton

/-- The totals of the observations are those of the messages that were read. -/
theorem observations_total {store : TraceStore} {runId : Nat} {transactionHash : String}
    {evidence : BocMessageEvidence} {observed : NativeFlowObservations}
    (h : getWalletTransactionBocMessageEvidence lib store runId transactionHash =
      .ok (some evidence))
    (hobserved : getWalletNativeTonFlowObservations lib store runId transactionHash =
      .ok (some observed)) (direction : FlowDirection) :
    observed.total direction =
      (observeFlows observed.walletAccount evidence.messages).total direction := by
  obtain ⟨⟨run, transaction⟩, -, hobserved⟩ := bind_eq_ok.mp hobserved
  obtain ⟨_, -, hobserved⟩ := bind_eq_ok.mp hobserved
  obtain ⟨found, hfound, hobserved⟩ := bind_eq_ok.mp hobserved
  cases h.symm.trans hfound
  cases hwallet : run.walletAddressCanonical with
  | none => rw [hwallet] at hobserved; cases hobserved
  | some wallet =>
      rw [hwallet] at hobserved
      cases hobserved
      cases direction <;> rfl

/-- A read that returns messages goes through a stored capture. -/
theorem getMessageEvidence_ok {store : TraceStore} {runId : Nat} {transactionHash : String}
    {evidence : BocMessageEvidence}
    (h : getWalletTransactionBocMessageEvidence lib store runId transactionHash =
      .ok (some evidence)) :
    ∃ run transaction, ∃ capture ∈ store.captures,
      captureMessageEvidence lib store run transaction capture = .ok (some evidence) := by
  obtain ⟨⟨run, transaction⟩, -, h⟩ := bind_eq_ok.mp h
  obtain ⟨_, -, h⟩ := bind_eq_ok.mp h
  obtain ⟨found, hfound, h⟩ := bind_eq_ok.mp h
  cases found with
  | none => cases h
  | some capture =>
      refine ⟨run, transaction, capture, ?_, h⟩
      unfold findCaptureForTransaction at hfound
      split at hfound
      · cases hfound
      · next only honly =>
          cases hfound
          exact (List.mem_filter.mp (honly ▸ List.mem_singleton_self _ : capture ∈
            store.captures.filter fun capture => capture.runId = runId ∧
              ∃ node ∈ capture.nodes, node.transactionHash = transactionHash)).1
      · cases hfound

/-- What one capture that verifies owns. -/
theorem captureMessages_keys {store : TraceStore} {run : TraceRun}
    {transaction : TraceTransaction} {capture : TraceCapture} {evidence : BocMessageEvidence}
    (h : captureMessageEvidence lib store run transaction capture = .ok (some evidence)) :
    ∃ verification transactions, findVerification store capture.id = .ok (some verification) ∧
      Parses lib verification.rawRows transactions ∧
      evidenceKeys (evidence.messages.map (·.message)) =
        messageKeys lib (chainMessages transactions) := by
  obtain ⟨persisted, verification, derived, hpersisted, hfound, hderived, hmessages⟩ :=
    captureMessageEvidence_ok h
  obtain ⟨transactions, hparses, hkeys⟩ :=
    ownedMessages_keys (revalidateCapture_shape hpersisted) hderived
  rw [← locatedMessages_messages, ← hmessages] at hkeys
  exact ⟨verification, transactions, hfound, hparses, hkeys⟩

open Classical in
/-- The owned messages of a verified trace are, as a multiset, the one that
came in at its root with every one that its transactions sent; so the totals
of the wallet are what those move, each once. -/
theorem messages_counted_once {store : TraceStore} {runId : Nat} {transactionHash : String}
    {evidence : BocMessageEvidence}
    (h : getWalletTransactionBocMessageEvidence lib store runId transactionHash =
      .ok (some evidence)) :
    ∃ capture ∈ store.captures, ∃ verification transactions,
      findVerification store capture.id = .ok (some verification) ∧
      Parses lib verification.rawRows transactions ∧
      evidenceKeys (evidence.messages.map (·.message)) =
        messageKeys lib (chainMessages transactions) ∧
      ∀ observed, getWalletNativeTonFlowObservations lib store runId transactionHash =
          .ok (some observed) → ∀ direction,
        observed.total direction = ((chainMessages transactions).map
          (movedNanoton lib observed.walletAccount direction)).sum ∧
        ((chainMessages transactions).Nodup → observed.total direction =
          ∑ message ∈ (chainMessages transactions).toFinset,
            movedNanoton lib observed.walletAccount direction message) := by
  obtain ⟨run, transaction, capture, hcapture, hread⟩ := getMessageEvidence_ok h
  obtain ⟨verification, transactions, hfound, hparses, hkeys⟩ := captureMessages_keys hread
  refine ⟨capture, hcapture, verification, transactions, hfound, hparses, hkeys, ?_⟩
  intro observed hobserved direction
  have htotal : observed.total direction = ((chainMessages transactions).map
      (movedNanoton lib observed.walletAccount direction)).sum := by
    rw [observations_total h hobserved, observeFlows_total]
    exact headerAmounts_eq hkeys observed.walletAccount direction
  refine ⟨htotal, fun hdistinct => ?_⟩
  rw [htotal, List.sum_toFinset _ hdistinct]

/-! ## A small trace -/

/-- A hash by its last digit. -/
def smallHash (digit : Char) : String :=
  "000000000000000000000000000000000000000000000000000000000000000".push digit

/-- An account by its last byte. -/
def smallAccount (byte : UInt8) : TonAddress where
  wc := 0
  hashPart := List.replicate 31 0 ++ [byte]

/-- Cells and messages as numbers.  Transaction 1, of account 7, takes the
external message 3 and sends 4; transaction 2, of account 8, takes 4, which
moves 100 nanoton, and sends the external message 5.  Transaction 6, of
account 8, takes the external message 7. -/
def smallLibrary : BocLibrary where
  Cell := Nat
  Message := Nat
  Address := TonAddress
  installedVersion := some "0.1.46"
  fromBoc value := if value = "01" then some [1] else if value = "02" then some [2] else
    if value = "06" then some [6] else none
  cellHash cell := if cell = 1 then smallHash '1' else if cell = 2 then smallHash '2' else
    if cell = 6 then smallHash 'd' else smallHash '0'
  deserialize cell :=
    if cell = 1 then some ({
      accountAddr := (smallAccount 7).hashPart
      lt := 1
      now := 10
      outmsgCnt := 1
      inMsg := some 3
      outMsgs := [4]
      aborted := false }, 0, 0)
    else if cell = 2 then some ({
      accountAddr := (smallAccount 8).hashPart
      lt := 2
      now := 11
      outmsgCnt := 1
      inMsg := some 4
      outMsgs := [5]
      aborted := false }, 0, 0)
    else if cell = 6 then some ({
      accountAddr := (smallAccount 8).hashPart
      lt := 5
      now := 20
      outmsgCnt := 0
      inMsg := some 7
      outMsgs := []
      aborted := false }, 0, 0)
    else none
  messageHash message :=
    if message = 3 then smallHash '3' else if message = 4 then smallHash '4' else
    if message = 7 then smallHash 'e' else smallHash '5'
  info message :=
    if message = 3 then some (.externalIn (smallAccount 7) 0)
    else if message = 4 then
      some (.internal (smallAccount 7) (smallAccount 8) 1 10 100 0 0 true false false 0)
    else if message = 7 then some (.externalIn (smallAccount 8) 0)
    else some (.externalOut (smallAccount 8) 2 11)
  body _ := 0
  bitLength _ := 0
  refCount _ := 0
  preloadUint32 _ := 0
  normalizedHash _ _ := smallHash '6'
  rawAddress address := some address
  digestTrace _ := smallHash '7'
  digestTransaction _ := smallHash '8'
  digestVerification _ := smallHash '9'
  digestMessages _ _ := smallHash 'a'
  derive _ transaction := (transaction.identity, true)

/-- A message of the node at `index` of a trace with root `root`. -/
def smallMessage (root : Char) (index : Nat) (role : TraceRole) (hash : Char) (type : TraceMessageType)
    (source destination : Option TonAddress) (createdLt : Nat) (unixTime : Int) (value : Nat)
    (ihrDisabled : Bool) : TraceMessageRow where
  id := index
  role := role
  ordinal := 0
  messageHash := smallHash hash
  messageType := type
  sourceAccount := source
  destinationAccount := destination
  createdLogicalTime := createdLt
  unixTime := unixTime
  valueNanoton := value
  forwardFeeNanoton := 0
  ihrFeeNanoton := 0
  importFeeNanoton := 0
  ihrDisabled := ihrDisabled
  bounce := false
  bounced := false
  observationIdentityKey := messageObservationIdentity (some .mainnet) (smallHash root) index role 0
    (smallHash hash)

/-- The stored trace of transactions 1 and 2, captured through the second; ids
are those of a run. -/
def smallCapture (run : Nat) : TraceCapture where
  id := 10 * run
  runId := run
  capturedViaTransactionId := 10 * run + 1
  captureSlot := 0
  provider := "tonapi"
  contractVersion := persistedTraceContractVersion
  network := some .mainnet
  finalized := true
  summary := {
    rootTransactionHash := smallHash '1'
    transactionCount := 2
    maxDepth := 1
    messageCount := 3
    rootInboundMessageCount := 1
    childInternalMessageCount := 1
    remainingOutMessageCount := 1
    internalMessageCount := 1
    externalInMessageCount := 1
    externalOutMessageCount := 1
    successfulTransactionCount := 2
    failedTransactionCount := 0
    abortedTransactionCount := 0
    uniqueAccountCount := 2 }
  evidenceDigest := smallHash '7'
  capturedAt := ⟨0, zero_lt_maxMicros⟩
  nodes := [{
    id := 10 * run + 2
    captureId := 10 * run
    preorderIndex := 0
    parentNodeId := none
    depth := 0
    transactionHash := smallHash '1'
    accountCanonical := smallAccount 7
    logicalTime := 1
    unixTime := 10
    success := true
    aborted := false
    messages := [smallMessage '1' 0 .rootInbound '6' .extInMsg none (some (smallAccount 7)) 0 0 0
      false] }, {
    id := 10 * run + 3
    captureId := 10 * run
    preorderIndex := 1
    parentNodeId := some (10 * run + 2)
    depth := 1
    transactionHash := smallHash '2'
    accountCanonical := smallAccount 8
    logicalTime := 2
    unixTime := 11
    success := true
    aborted := false
    messages := [smallMessage '1' 1 .childInbound '4' .intMsg (some (smallAccount 7))
        (some (smallAccount 8)) 1 10 100 true,
      smallMessage '1' 1 .remainingOutbound '5' .extOutMsg (some (smallAccount 8)) none 2 11 0
        false] }]

/-- The verification of the trace. -/
def smallVerification (run : Nat) : BocVerification where
  id := 10 * run + 4
  captureId := 10 * run
  contractVersion := bocVerificationContractVersion
  verifierName := bocVerifierName
  verifierVersion := bocVerifierVersion
  network := some .mainnet
  summary := {
    transactionCount := 2
    messageCount := 3
    totalBocBytes := 2
    normalizedExternalInHashCount := 1
    directCellHashMessageCount := 2
    bodyHashCount := 3
    opcodeCount := 0 }
  evidenceDigest := smallHash '9'
  verifiedAt := ⟨0, zero_lt_maxMicros⟩
  transactions := [{
    nodeId := 10 * run + 2
    preorderIndex := 0
    transactionHash := smallHash '1'
    transactionBocHex := "01"
    transactionBocBytes := 1
    transactionCellHash := smallHash '1'
    messageCount := 1
    messageEvidenceDigest := smallHash '8' }, {
    nodeId := 10 * run + 3
    preorderIndex := 1
    transactionHash := smallHash '2'
    transactionBocHex := "02"
    transactionBocBytes := 1
    transactionCellHash := smallHash '2'
    messageCount := 2
    messageEvidenceDigest := smallHash '8' }]

/-- A run of account 8. -/
def smallRun (run : Nat) : TraceRun where
  id := run
  dataMode := .real
  walletNetwork := some .mainnet
  walletAddressCanonical := some (smallAccount 8)
  walletIdentityStatus := "network_scoped"
  walletIdentityVersion := "ton_raw_address_v1"
  walletWorkchainId := some 0
  walletAccountIdHex := some (smallHash '8')

/-- A transaction row of account 8. -/
def smallTransaction (run : Nat) (hash : Char) (logicalTime : Nat) (text : String) :
    TraceTransaction where
  id := 10 * run + 1
  runId := run
  txHash := smallHash hash
  logicalTime := some text
  provider := "tonapi"
  sourceStatus := .live
  feeTon := none
  rawJson := none
  identity := {
    networkScoped := true
    version := "ton_account_tx_v1"
    network := some .mainnet
    accountCanonical := some (smallAccount 8)
    logicalTimeCanonical := some logicalTime
    hashCanonical := some (smallHash hash)
    key := none }

/-- A run of account 8 with transaction 2, its trace and the verification. -/
def smallStore : TraceStore where
  runs := [smallRun 1]
  transactions := [smallTransaction 1 '2' 2 "2"]
  captures := [smallCapture 1]
  verifications := [smallVerification 1]

/-- Whether a read returned something. -/
def isRead {α : Type} (result : Except TraceRaised (Option α)) : Bool :=
  match result with
  | .ok (some _) => true
  | _ => false

theorem isRead_iff {α : Type} {result : Except TraceRaised (Option α)} :
    isRead result = true ↔ ∃ value, result = .ok (some value) := by
  unfold isRead
  split
  · next value => exact iff_of_true rfl ⟨value, rfl⟩
  · next hnone => exact iff_of_false Bool.false_ne_true fun ⟨value, h⟩ => hnone value h

/-- The three messages of the trace are owned once each. -/
theorem messages_counted_once_small :
    ∃ evidence, getWalletTransactionBocMessageEvidence smallLibrary smallStore 1 (smallHash '2') =
        .ok (some evidence) ∧
      ∃ capture ∈ smallStore.captures, ∃ verification transactions,
        findVerification smallStore capture.id = .ok (some verification) ∧
        Parses smallLibrary verification.rawRows transactions ∧
        evidenceKeys (evidence.messages.map (·.message)) =
          messageKeys smallLibrary (chainMessages transactions) := by
  have hread : isRead (getWalletTransactionBocMessageEvidence smallLibrary smallStore 1
      (smallHash '2')) = true := by decide +kernel
  obtain ⟨evidence, h⟩ := isRead_iff.mp hread
  obtain ⟨capture, hcapture, verification, transactions, hfound, hparses, hkeys, -⟩ :=
    messages_counted_once h
  exact ⟨evidence, h, capture, hcapture, verification, transactions, hfound, hparses, hkeys⟩

example : (getWalletNativeTonFlowObservations smallLibrary smallStore 1 (smallHash '2')).toOption.bind
    (·.map (·.incomingNanoton)) = some 100 := by decide +kernel

end TonTracker
