/-
# `Trace.Shape` — what a stored trace looks like once it passed

The walk of `_revalidate_capture` meets the nodes in preorder; by induction
over it the ids are distinct, every node but the first is the child of one
met before, and the types of the messages fit their roles
(`revalidateCapture_shape`).
-/
import TonTracker.Services.WalletPersistedTraceEvidence

namespace TonTracker

open ExceptFold (check present check_eq_ok present_eq_ok bind_eq_ok foldlM_inv)

/-! ## The shape of a stored trace -/

/-- What the walk over the rows of a capture leaves: ids and hashes are
distinct, every node but the first is the child of one met before, and
consumed messages are internal. -/
structure TraceShape (nodes : List TraceNodeRow) : Prop where
  ids : (nodes.map (·.id)).Nodup
  hashes : (nodes.map (·.transactionHash)).Nodup
  root : ∀ node, nodes.head? = some node → node.parentNodeId = none
  children : ∀ node ∈ nodes.tail, ∃ parent ∈ nodes, node.parentNodeId = some parent.id
  consumed : ∀ node ∈ nodes, ∀ row ∈ node.messages, row.role = .childInbound →
    row.messageType = .intMsg
  remaining : ∀ node ∈ nodes, ∀ row ∈ node.messages, row.role = .remainingOutbound →
    row.messageType ≠ .extInMsg

theorem mem_sortedMessages {node : TraceNodeRow} {row : TraceMessageRow} :
    row ∈ node.sortedMessages ↔ row ∈ node.messages :=
  (List.perm_insertionSort _ _).mem_iff

/-- The type of a message that passed, by its role. -/
def RoleType (row : TraceMessageRow) : Prop :=
  (row.role = .childInbound → row.messageType = .intMsg) ∧
    (row.role = .remainingOutbound → row.messageType ≠ .extInMsg)

theorem revalidateNodeMessage_roleType {capture : TraceCapture} {index : Nat} {node : TraceNodeRow}
    {parent : Option TraceNodeRow} {found found' : NodeMessages} {row : TraceMessageRow}
    (h : revalidateNodeMessage capture index node parent found row = .ok found') :
    RoleType row := by
  obtain ⟨message, -, h⟩ := bind_eq_ok.mp h
  refine ⟨fun hrole => ?_, fun hrole hext => ?_⟩
  · rw [hrole] at h
    obtain ⟨_, -, h⟩ := bind_eq_ok.mp h
    obtain ⟨_, hlink, -⟩ := bind_eq_ok.mp h
    exact (check_eq_ok.mp hlink).1
  · rw [hrole] at h
    obtain ⟨_, htype, -⟩ := bind_eq_ok.mp h
    rcases check_eq_ok.mp htype with hint | hout
    · cases hint.symm.trans hext
    · cases hout.symm.trans hext

theorem revalidateNodeMessages_roleType {capture : TraceCapture} {index : Nat}
    {node : TraceNodeRow} {parent : Option TraceNodeRow} {found : NodeMessages}
    (h : revalidateNodeMessages capture index node parent = .ok found) :
    ∀ row ∈ node.messages, RoleType row := by
  obtain ⟨_, hloop, -⟩ := bind_eq_ok.mp h
  have hall : ∀ row ∈ [] ++ node.sortedMessages, RoleType row := by
    refine foldlM_inv (fun met _ => ∀ row ∈ met, RoleType row) ?_ hloop (fun _ h => nomatch h)
    intro met row found found' hround hmet m hm
    rcases List.mem_append.mp hm with hm | hm
    · exact hmet m hm
    · cases List.mem_singleton.mp hm
      exact revalidateNodeMessage_roleType hround
  intro row hrow
  exact hall row (mem_sortedMessages.mpr hrow)

/-- The place of a node among those walked. -/
theorem linkNode_ok {walk : TraceWalk} {node : TraceNodeRow}
    {link : Option Nat × List TraceNodeRow} (h : linkNode walk node = .ok link) :
    (walk.seen = [] ∧ node.parentNodeId = none) ∨
      (walk.seen ≠ [] ∧ ∃ parent ∈ walk.seen, node.parentNodeId = some parent.id) := by
  unfold linkNode at h
  split at h
  · next hseen =>
      obtain ⟨_, hroot, -⟩ := bind_eq_ok.mp h
      exact .inl ⟨hseen, (check_eq_ok.mp hroot).1⟩
  · next hseen =>
      obtain ⟨index, hindex, -⟩ := bind_eq_ok.mp h
      have hindex := present_eq_ok.mp hindex
      unfold parentIndex at hindex
      split at hindex
      · next id hid =>
          obtain ⟨hlt, hfound, -⟩ := List.findIdx?_eq_some_iff_getElem.mp hindex
          refine .inr ⟨hseen, walk.seen[index], List.getElem_mem hlt, ?_⟩
          rw [of_decide_eq_true hfound, hid]
      · cases hindex

theorem revalidateNode_ok {capture : TraceCapture} {walk walk' : TraceWalk} {node : TraceNodeRow}
    (h : revalidateNode capture walk node = .ok walk') :
    walk'.seen = walk.seen ++ [node] ∧
      walk'.nodes.map (·.transactionHash) =
        walk.nodes.map (·.transactionHash) ++ [node.transactionHash] ∧
      node.id ∉ walk.seen.map (·.id) ∧
      node.transactionHash ∉ walk.seen.map (·.transactionHash) ∧
      ((walk.seen = [] ∧ node.parentNodeId = none) ∨
        (walk.seen ≠ [] ∧ ∃ parent ∈ walk.seen, node.parentNodeId = some parent.id)) ∧
      ∀ row ∈ node.messages, RoleType row := by
  obtain ⟨_, horder, h⟩ := bind_eq_ok.mp h
  obtain ⟨_, -, h⟩ := bind_eq_ok.mp h
  obtain ⟨_, hhash, h⟩ := bind_eq_ok.mp h
  obtain ⟨_, -, h⟩ := bind_eq_ok.mp h
  obtain ⟨_, -, h⟩ := bind_eq_ok.mp h
  obtain ⟨link, hlink, h⟩ := bind_eq_ok.mp h
  obtain ⟨found, hfound, h⟩ := bind_eq_ok.mp h
  cases h
  exact ⟨rfl, List.map_append, (check_eq_ok.mp horder).2, check_eq_ok.mp hhash, linkNode_ok hlink,
    revalidateNodeMessages_roleType hfound⟩

/-- One more node keeps the shape. -/
theorem traceShape_snoc {seen : List TraceNodeRow} {node : TraceNodeRow} (shape : TraceShape seen)
    (fresh : node.id ∉ seen.map (·.id))
    (fresh' : node.transactionHash ∉ seen.map (·.transactionHash))
    (link : (seen = [] ∧ node.parentNodeId = none) ∨
      (seen ≠ [] ∧ ∃ parent ∈ seen, node.parentNodeId = some parent.id))
    (types : ∀ row ∈ node.messages, RoleType row) : TraceShape (seen ++ [node]) := by
  have hof : ∀ {Q : TraceNodeRow → Prop}, (∀ m ∈ seen, Q m) → Q node →
      ∀ m ∈ seen ++ [node], Q m := by
    intro Q hseen hnode m hm
    rcases List.mem_append.mp hm with hm | hm
    · exact hseen m hm
    · cases List.mem_singleton.mp hm
      exact hnode
  refine ⟨?_, ?_, ?_, ?_, hof shape.consumed fun row hrow => (types row hrow).1,
    hof shape.remaining fun row hrow => (types row hrow).2⟩
  · rw [List.map_append, List.map_singleton, List.nodup_append_comm]
    exact List.nodup_cons.mpr ⟨fresh, shape.ids⟩
  · rw [List.map_append, List.map_singleton, List.nodup_append_comm]
    exact List.nodup_cons.mpr ⟨fresh', shape.hashes⟩
  · rcases link with ⟨rfl, hroot⟩ | ⟨hne, -⟩
    · intro m hm
      cases hm
      exact hroot
    · intro m hm
      rw [List.head?_append_of_ne_nil _ hne] at hm
      exact shape.root m hm
  · rcases link with ⟨rfl, -⟩ | ⟨hne, parent, hparent, hid⟩
    · intro m hm
      cases hm
    · intro m hm
      rw [List.tail_append_of_ne_nil hne] at hm
      rcases List.mem_append.mp hm with hm | hm
      · obtain ⟨p, hp, hpid⟩ := shape.children m hm
        exact ⟨p, List.mem_append_left _ hp, hpid⟩
      · cases List.mem_singleton.mp hm
        exact ⟨parent, List.mem_append_left _ hparent, hid⟩

/-- The walk over the rows of a capture, once it returned. -/
theorem walk_shape {capture : TraceCapture} {nodes : List TraceNodeRow} {walk : TraceWalk}
    (h : nodes.foldlM (revalidateNode capture) { seen := [], openPath := [], nodes := [] } =
      .ok walk) :
    TraceShape nodes ∧
      walk.nodes.map (·.transactionHash) = nodes.map (·.transactionHash) := by
  have hempty : TraceShape [] := ⟨.nil, .nil, (fun _ h => nomatch h), (fun _ h => nomatch h),
    (fun _ h => nomatch h), fun _ h => nomatch h⟩
  have hkept : walk.seen = [] ++ nodes ∧ TraceShape ([] ++ nodes) ∧
      walk.nodes.map (·.transactionHash) =
        ([] ++ nodes : List TraceNodeRow).map (·.transactionHash) := by
    refine foldlM_inv (fun (met : List TraceNodeRow) (walk : TraceWalk) => walk.seen = met ∧
      TraceShape met ∧ walk.nodes.map (·.transactionHash) = met.map (·.transactionHash)) ?_ h
      ⟨rfl, hempty, rfl⟩
    intro met node walk walk' hround hmet
    obtain ⟨rfl, shape, hhashes⟩ := hmet
    obtain ⟨hseen, hnodes, fresh, fresh', link, types⟩ := revalidateNode_ok hround
    refine ⟨hseen, traceShape_snoc shape fresh fresh' link types, ?_⟩
    rw [hnodes, hhashes, List.map_append, List.map_singleton]
  exact hkept.2

theorem revalidateCapture_walk {derive : DeriveIdentity} {digest : TraceDocument → String}
    {transactions : List TraceTransaction} {capture : TraceCapture} {run : TraceRun}
    {selected : TraceTransaction} {persisted : PersistedTrace}
    (h : revalidateCapture derive digest transactions capture run selected = .ok persisted) :
    ∃ walk : TraceWalk, capture.sortedNodes.foldlM (revalidateNode capture)
        { seen := [], openPath := [], nodes := [] } = .ok walk ∧
      isHexHash capture.summary.rootTransactionHash = true ∧ 1 ≤ capture.sortedNodes.length ∧
      capture.summary.rootTransactionHash = (traceSummary walk.nodes).rootTransactionHash ∧
      ∃ node ∈ nodesOf capture.sortedNodes selected, anchoredAt selected node = true := by
  obtain ⟨_, hmeta, h⟩ := bind_eq_ok.mp h
  obtain ⟨_, -, h⟩ := bind_eq_ok.mp h
  obtain ⟨_, -, h⟩ := bind_eq_ok.mp h
  obtain ⟨_, hcount, h⟩ := bind_eq_ok.mp h
  obtain ⟨walk, hwalk, h⟩ := bind_eq_ok.mp h
  obtain ⟨anchor, hanchor, h⟩ := bind_eq_ok.mp h
  obtain ⟨_, -, h⟩ := bind_eq_ok.mp h
  obtain ⟨_, hanchored, h⟩ := bind_eq_ok.mp h
  obtain ⟨_, hroot, h⟩ := bind_eq_ok.mp h
  exact ⟨walk, hwalk, (check_eq_ok.mp hmeta).2.2.2.2.2.2.2.1, (check_eq_ok.mp hcount).1,
    check_eq_ok.mp hroot, anchor, List.mem_of_getLast? (present_eq_ok.mp hanchor),
    check_eq_ok.mp hanchored⟩

theorem revalidateCapture_shape {derive : DeriveIdentity} {digest : TraceDocument → String}
    {transactions : List TraceTransaction} {capture : TraceCapture} {run : TraceRun}
    {selected : TraceTransaction} {persisted : PersistedTrace}
    (h : revalidateCapture derive digest transactions capture run selected = .ok persisted) :
    TraceShape capture.sortedNodes := by
  obtain ⟨walk, hwalk, -⟩ := revalidateCapture_walk h
  exact (walk_shape hwalk).1

/-- The root transaction of a trace is that of one of its nodes. -/
theorem revalidateCapture_root {derive : DeriveIdentity} {digest : TraceDocument → String}
    {transactions : List TraceTransaction} {capture : TraceCapture} {run : TraceRun}
    {selected : TraceTransaction} {persisted : PersistedTrace}
    (h : revalidateCapture derive digest transactions capture run selected = .ok persisted) :
    isHexHash capture.summary.rootTransactionHash = true ∧
      ∃ node ∈ capture.nodes, node.transactionHash = capture.summary.rootTransactionHash := by
  obtain ⟨walk, hwalk, hhash, hcount, hroot, -⟩ := revalidateCapture_walk h
  refine ⟨hhash, ?_⟩
  have hhashes := (walk_shape hwalk).2
  obtain ⟨node, rest, hnodes⟩ :=
    List.exists_cons_of_length_pos (l := capture.sortedNodes) hcount
  have hmem : node ∈ capture.nodes :=
    (List.perm_insertionSort _ capture.nodes).mem_iff.mp (hnodes ▸ List.mem_cons_self)
  refine ⟨node, hmem, ?_⟩
  rw [hroot]
  rw [hnodes, List.map_cons] at hhashes
  cases hwalked : walk.nodes with
  | nil => rw [hwalked] at hhashes; cases hhashes
  | cons first others =>
      rw [hwalked, List.map_cons] at hhashes
      exact (List.cons.inj hhashes).1.symm

end TonTracker
